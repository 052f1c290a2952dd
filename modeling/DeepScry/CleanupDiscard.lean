/-
The discards of the cleanup step.  The number of the chosen cards is checked
before the first of them moves, that a card is in hand only when its turn
comes: a bad choice is noticed when some cards have left the hand for good.
-/
import DeepScry.CleanupUndo
import DeepScry.FailedCast

namespace DeepScry

/-- The game goes on, and the controller returns these cards. -/
def CleanupLoop.answering (loop : CleanupLoop) (cards : List CardId) :
    CleanupLoop :=
  { loop with
    checkStopConditions := fun _ _ => none
    chooseDiscard := fun _ _ _ _ => .ok cards }

namespace Zones

variable (zones : Zones) (player : PlayerId) (replaced : CardId → Bool)

def handOf : List CardId :=
  ((zones.getPlayerZones player).map fun own => own.hand).getD []

/-- The cards leave the hand for the graveyard; those whose move is replaced
join the command zone. -/
def afterDiscards (cards : List CardId) : Zones :=
  zones.modifyPlayerZones player fun own =>
    { own with
      hand := own.hand.diff cards
      graveyard := own.graveyard ++ cards.filter fun id => !replaced id
      command := own.command ++ cards.filter replaced }

theorem afterDiscards_nil : zones.afterDiscards player replaced [] = zones := by
  have hself : (fun own : PlayerZones =>
      { own with
        hand := own.hand.diff []
        graveyard := own.graveyard ++ [].filter fun id => !replaced id
        command := own.command ++ [].filter replaced }) = id := by
    funext own
    simp
  rw [afterDiscards, hself]
  exact zones.modify_id .hand player

theorem afterDiscards_cons (id : CardId) (rest : List CardId) :
    (zones.afterDiscards player replaced [id]).afterDiscards player replaced
        rest =
      zones.afterDiscards player replaced (id :: rest) := by
  rw [afterDiscards, afterDiscards, afterDiscards,
    modifyPlayerZones_modifyPlayerZones]
  apply modifyPlayerZones_congr
  intro own _
  cases hreplaced : replaced id <;> simp [hreplaced]

/-- One discard. -/
theorem afterMove_discard (id : CardId) :
    zones.afterMove id .hand (if replaced id then .command else .graveyard)
        player =
      zones.afterDiscards player replaced [id] := by
  cases hreplaced : replaced id
  · simp only [afterMove, modify, Bool.false_eq_true, ↓reduceIte]
    rw [modifyPlayerZones_modifyPlayerZones, afterDiscards]
    apply modifyPlayerZones_congr
    intro own _
    simp [PlayerZones.modifyZone, hreplaced]
  · simp only [afterMove, modify, ↓reduceIte]
    rw [modifyPlayerZones_modifyPlayerZones, afterDiscards]
    apply modifyPlayerZones_congr
    intro own _
    simp [PlayerZones.modifyZone, hreplaced]

theorem handOf_afterDiscards (cards : List CardId) :
    (zones.afterDiscards player replaced cards).handOf player =
      (zones.handOf player).diff cards := by
  rw [handOf, handOf, afterDiscards, getPlayerZones_modifyPlayerZones]
  cases zones.getPlayerZones player
  · simp
  · rfl

variable {zones player}

/-- Discards from the hand make it smaller by their number. -/
theorem length_handOf_afterDiscards {cards : List CardId}
    (hcards : cards.Subperm (zones.handOf player)) :
    ((zones.afterDiscards player replaced cards).handOf player).length +
        cards.length =
      (zones.handOf player).length := by
  have hperm := List.subperm_append_diff_self_of_count_le
    fun id _ => hcards.count_le id
  rw [handOf_afterDiscards, ← hperm.length_eq, List.length_append]
  omega

end Zones

namespace GameState

variable {game : GameState} {player : PlayerId}

/-- No delayed trigger waits for one of the cards to be discarded. -/
def Undisturbed (game : GameState) (cards : List CardId) : Prop :=
  ∀ id ∈ cards, game.delayedTriggers.findZoneChangeTriggers id .hand
    (game.moveDestination id .graveyard) = []

/-- The cleanup step discards exactly the chosen cards, if it has to, or not at
all. -/
def CleanupExact (game : GameState) (cards : List CardId) :
    Outcome (Option GameResult) → Prop
  | none => False
  | some (after, .error _) => after.zones = game.zones
  | some (after, .ok _) =>
      let player := game.turn.activePlayer
      let hand := game.zones.handOf player
      ∀ p, game.getPlayer player = some p →
        if hand.length ≤ p.maxHandSize then after.zones = game.zones
        else
          cards.Nodup ∧ cards ⊆ hand ∧
            (after.zones.handOf player).length = p.maxHandSize ∧
            after.zones = game.zones.afterDiscards player
              (fun id => game.commanderReplaces id .graveyard) cards

/-- A choice with the right number of cards, the first of them in hand, names
different cards in hand. -/
def SoundChoice (game : GameState) (cards : List CardId) : Prop :=
  let hand := game.zones.handOf game.turn.activePlayer
  ∀ p, game.getPlayer game.turn.activePlayer = some p →
    p.maxHandSize < hand.length →
    cards.length = hand.length - p.maxHandSize →
    (∀ id ∈ cards.head?, id ∈ hand) → cards.Nodup ∧ cards ⊆ hand

/-- A move of a card in hand to the graveyard. -/
theorem moveCard_discards (executor : EffectExecutor) (depth : Nat)
    {id : CardId} (hundisturbed : game.Undisturbed [id])
    (hid : id ∈ game.zones.handOf player) :
    ∃ moved, moveCard executor (depth + 1) game id .hand .graveyard player =
        .ok moved () ∧
      OnlyMoved game moved ∧ SameView Card.steady moved.cards game.cards ∧
      moved.zones = game.zones.afterDiscards player
        (fun id => game.commanderReplaces id .graveyard) [id] := by
  have hheld : game.zones.holds .hand player id = true := by
    rw [Zones.handOf] at hid
    rw [Zones.holds, Zones.cardsIn]
    · cases hown : game.zones.getPlayerZones player with
      | none => simp [hown] at hid
      | some own => simpa [hown, PlayerZones.getZone] using hid
    · decide
    · decide
  obtain ⟨honly, hview, hzones⟩ := game.moveUntilTriggers_off_battlefield id
    (by decide : Zone.hand ≠ .battlefield)
    (by decide : Zone.graveyard ≠ .battlefield) player
  rw [if_pos hheld] at hzones
  refine ⟨_, ?_, honly, hview, ?_⟩
  · have htriggers : (game.moveUntilTriggers id .hand .graveyard
        player).1.delayedTriggers = game.delayedTriggers := by
      obtain ⟨_, _, _, _, _, hmoved⟩ := honly
      rw [hmoved]
    exact moveCard_of_untriggered executor depth htriggers
      (hundisturbed id (List.mem_singleton.mpr rfl))
  · rw [hzones, ← Zones.afterMove_discard]
    rfl

/-- A discard disturbs no other. -/
theorem Undisturbed.later {moved : GameState} {cards : List CardId}
    (hundisturbed : game.Undisturbed cards) (honly : OnlyMoved game moved)
    (hview : SameView Card.steady moved.cards game.cards) :
    moved.Undisturbed cards := by
  intro id hid
  have htriggers : moved.delayedTriggers = game.delayedTriggers := by
    obtain ⟨_, _, _, _, _, rfl⟩ := honly
    rfl
  rw [htriggers, moveDestination, commanderReplaces_of_steady honly hview]
  exact hundisturbed id hid

/-- The discards stop at the first card that is not in hand any more. -/
theorem discardChosen_cases (executor : EffectExecutor) (depth : Nat)
    {cards : List CardId} (hundisturbed : game.Undisturbed cards)
    (hplayer : (game.zones.getPlayerZones player).isSome = true) :
    ∃ after result, discardChosen executor (depth + 1) player game cards =
        some (after, result) ∧
      ∃ moved rest, cards = moved ++ rest ∧
        moved.Subperm (game.zones.handOf player) ∧
        after.zones = game.zones.afterDiscards player
          (fun id => game.commanderReplaces id .graveyard) moved ∧
        ((rest = [] ∧ result = .ok ()) ∨
          ∃ id ∈ rest.head?, id ∉ (game.zones.handOf player).diff moved ∧
            ∃ error, result = .error error) := by
  induction cards generalizing game with
  | nil =>
      refine ⟨game, .ok (), rfl, [], [], rfl, List.nil_subperm, ?_,
        .inl ⟨rfl, rfl⟩⟩
      rw [Zones.afterDiscards_nil]
  | cons id rest ih =>
      obtain ⟨own, hown⟩ := Option.isSome_iff_exists.mp hplayer
      have hhand : game.zones.handOf player = own.hand := by
        rw [Zones.handOf, hown]
        rfl
      obtain ⟨hfirst, hothers⟩ := List.forall_mem_cons.mp hundisturbed
      rw [discardChosen, hown, Option.any_some]
      by_cases hid : id ∈ own.hand
      · have hmember : id ∈ game.zones.handOf player := hhand ▸ hid
        obtain ⟨moved, hmove, honly, hview, hzones⟩ :=
          moveCard_discards executor depth
            (List.forall_mem_singleton.mpr hfirst) hmember
        have hlater : moved.Undisturbed rest :=
          Undisturbed.later hothers honly hview
        have hsame : (fun id => moved.commanderReplaces id .graveyard) =
            fun id => game.commanderReplaces id .graveyard := by
          funext id
          exact commanderReplaces_of_steady honly hview id .graveyard
        have hsome : (moved.zones.getPlayerZones player).isSome = true := by
          rw [hzones, Zones.afterDiscards,
            Zones.getPlayerZones_modifyPlayerZones, hown]
          rfl
        obtain ⟨after, result, hrest, gone, kept, rfl, hgone, hafter, hend⟩ :=
          ih hlater hsome
        rw [hsame, hzones, Zones.afterDiscards_cons] at hafter
        rw [hzones, Zones.handOf_afterDiscards, List.diff_cons,
          List.diff_nil] at hgone hend
        refine ⟨after, result, ?_, id :: gone, kept, rfl, ?_, hafter, ?_⟩
        · rw [if_neg (by simpa using hid), hmove]
          exact hrest
        · exact ((List.subperm_cons id).mpr hgone).trans
            (List.perm_cons_erase hmember).symm.subperm
        · rw [List.diff_cons]
          exact hend
      · refine ⟨game, _, if_pos (by simpa using hid), [], id :: rest, rfl,
          List.nil_subperm, ?_, .inr ⟨id, rfl, ?_, _, rfl⟩⟩
        · rw [Zones.afterDiscards_nil]
        · rw [hhand]
          exact hid

/-- The end of the turn moves no card. -/
theorem finishTurn_zones (game : GameState) (players : List PlayerId) :
    (game.finishTurn players).zones = game.zones := by
  have hpools (players : List PlayerId) (game : GameState) :
      (game.emptyManaPools players).zones = game.zones := by
    rw [emptyManaPools]
    induction players generalizing game with
    | nil => rfl
    | cons id rest ih => exact ih (game.modifyPlayer id Player.emptyManaPool)
  rw [finishTurn, clearPermanents_frame]
  exact hpools players game

/-- A card that is no more in hand when its turn comes was chosen twice, or
was never there. -/
theorem not_nodup_subset {hand moved rest : List CardId} {id : CardId}
    (hid : id ∉ hand.diff moved) :
    ¬((moved ++ id :: rest).Nodup ∧ moved ++ id :: rest ⊆ hand) := by
  rintro ⟨hnodup, hsubset⟩
  have hfresh : id ∉ moved := fun hmoved =>
    (List.nodup_append.mp hnodup).2.2 id hmoved id List.mem_cons_self rfl
  have hheld : id ∈ hand :=
    hsubset (List.mem_append_right moved List.mem_cons_self)
  exact hid (List.mem_diff_of_mem hheld hfresh)

section Step

variable {cards : List CardId} (executor : EffectExecutor) (depth : Nat)
  (loop : CleanupLoop)

/-- The step in a game with a second player. -/
theorem cleanupStep_of_other {other : PlayerId}
    (hother : game.getOtherPlayerId game.turn.activePlayer = some other) :
    cleanupStep executor depth loop game =
      (discardToHandSize executor depth loop game
        game.turn.activePlayer).andThen fun discarded early =>
          match early with
          | some result => .ok discarded result
          | none => .ok (discarded.finishTurn [game.turn.activePlayer, other])
              none := by
  rw [cleanupStep, hother] <;> rfl

/-- The choice is logged before it is looked at. -/
def choiceLogged (game : GameState) (cards : List CardId) : GameState :=
  game.logAction (.choicePoint game.turn.activePlayer (loop.choiceCounter + 1)
    (some (loop.replayDiscard cards))) game.logger.logCount

/-- The discards when the controller returns these cards. -/
theorem discardToHandSize_answering {p : Player}
    (hplayer : game.getPlayer game.turn.activePlayer = some p) :
    discardToHandSize executor depth (loop.answering cards) game
        game.turn.activePlayer =
      if (game.zones.handOf game.turn.activePlayer).length ≤ p.maxHandSize then
        .ok game none
      else if cards.length ≠
          (game.zones.handOf game.turn.activePlayer).length -
            p.maxHandSize then
        .error (choiceLogged loop game cards) (.invalidAction
          ("Must discard exactly " ++ toString
            ((game.zones.handOf game.turn.activePlayer).length -
              p.maxHandSize) ++ " cards, got " ++ toString cards.length))
      else
        (discardChosen executor depth game.turn.activePlayer
          (choiceLogged loop game cards) cards).andThen fun discarded _ =>
            .ok discarded none := by
  rw [discardToHandSize, hplayer]
  rfl

end Step

section Discards

variable {p : Player} {cards : List CardId} (executor : EffectExecutor)
  (depth : Nat) (loop : CleanupLoop)

/-- Discards of the right number are exact just when the first card is not in
hand, or they all are and differ. -/
theorem discards_exact_iff (hundisturbed : game.Undisturbed cards)
    (other : PlayerId)
    (hplayer : game.getPlayer game.turn.activePlayer = some p)
    (hlarge : ¬(game.zones.handOf game.turn.activePlayer).length ≤
      p.maxHandSize)
    (hlength : cards.length =
      (game.zones.handOf game.turn.activePlayer).length - p.maxHandSize) :
    game.CleanupExact cards
        (((discardChosen executor (depth + 1) game.turn.activePlayer
          (choiceLogged loop game cards) cards).andThen fun discarded _ =>
            Outcome.ok discarded none).andThen fun discarded early =>
              match early with
              | some result => .ok discarded result
              | none => .ok (discarded.finishTurn [game.turn.activePlayer,
                  other]) none) ↔
      ((∀ id ∈ cards.head?, id ∈ game.zones.handOf game.turn.activePlayer) →
        cards.Nodup ∧ cards ⊆ game.zones.handOf game.turn.activePlayer) := by
  have hlogged : (choiceLogged loop game cards).zones = game.zones := rfl
  have hlater : (choiceLogged loop game cards).Undisturbed cards := hundisturbed
  have hsome : ((choiceLogged loop game cards).zones.getPlayerZones
      game.turn.activePlayer).isSome = true := by
    rw [hlogged]
    cases hown : game.zones.getPlayerZones game.turn.activePlayer with
    | none => simp [Zones.handOf, hown] at hlarge
    | some own => rfl
  obtain ⟨after, result, hrun, gone, rest, rfl, hgone, hzones, hend⟩ :=
    discardChosen_cases executor depth hlater hsome
  rw [hlogged] at hgone hzones hend
  change after.zones = game.zones.afterDiscards game.turn.activePlayer
    (fun id => game.commanderReplaces id .graveyard) gone at hzones
  have hcount := Zones.length_handOf_afterDiscards
    (fun id => game.commanderReplaces id .graveyard) hgone
  rw [hrun]
  rcases hend with ⟨rfl, rfl⟩ | ⟨id, hid, hmissing, error, rfl⟩
  · rw [List.append_nil] at hlength ⊢
    simp only [Outcome.andThen, Outcome.ok, CleanupExact, hplayer,
      Option.some.injEq, forall_eq', if_neg hlarge, finishTurn_zones, hzones,
      and_true]
    constructor
    · rintro ⟨hnodup, hsubset, -⟩ -
      exact ⟨hnodup, hsubset⟩
    · intro hsound
      obtain ⟨hnodup, hsubset⟩ := hsound fun id hid =>
        hgone.subset (List.mem_of_mem_head? hid)
      exact ⟨hnodup, hsubset, by omega⟩
  · obtain ⟨tail, rfl⟩ := List.head?_eq_some_iff.mp hid
    change after.zones = game.zones ↔ _
    rw [hzones]
    cases gone with
    | nil =>
        rw [Zones.afterDiscards_nil]
        simp only [List.nil_append, List.head?_cons, Option.mem_some,
          forall_eq', true_iff]
        exact fun hheld => absurd hheld hmissing
    | cons first gone =>
        constructor
        · intro hsame
          rw [hsame, List.length_cons] at hcount
          omega
        · intro hsound
          exact absurd (hsound fun id hfirst => hgone.subset
            (Option.some.inj hfirst ▸ List.mem_cons_self))
            (not_nodup_subset hmissing)

end Discards

/-- The whole step discards exactly or not at all just when the choice is
sound, and there is a player to go on with. -/
theorem cleanupStep_exact_iff (executor : EffectExecutor) (depth : Nat)
    (loop : CleanupLoop) {cards : List CardId}
    (hundisturbed : game.Undisturbed cards) :
    game.CleanupExact cards (cleanupStep executor (depth + 1)
        (loop.answering cards) game) ↔
      (game.getOtherPlayerId game.turn.activePlayer).isSome = true ∧
        game.SoundChoice cards := by
  cases hother : game.getOtherPlayerId game.turn.activePlayer with
  | none => simp [cleanupStep, hother, CleanupExact]
  | some other =>
      rw [cleanupStep_of_other _ _ _ hother, Option.isSome_some, SoundChoice]
      cases hplayer : game.getPlayer game.turn.activePlayer with
      | none =>
          simp [discardToHandSize, hplayer, CleanupExact, Outcome.andThen,
            Outcome.error]
      | some p =>
          simp only [Option.some.injEq, forall_eq', true_and]
          rw [discardToHandSize_answering _ _ _ hplayer]
          split
          · next hsmall =>
            simp only [Outcome.andThen, Outcome.ok, CleanupExact, hplayer,
              Option.some.injEq, forall_eq', if_pos hsmall, finishTurn_zones,
              true_iff]
            exact fun hlarge => absurd hsmall (Nat.not_le.mpr hlarge)
          · next hlarge =>
            have hmore := Nat.lt_of_not_le hlarge
            split
            · next hlength =>
              simp only [Outcome.andThen, Outcome.error, CleanupExact,
                choiceLogged, hmore, hlength, false_implies, implies_true,
                iff_true]
              rfl
            · next hlength =>
              rw [not_not] at hlength
              rw [discards_exact_iff executor depth loop hundisturbed other
                hplayer hlarge hlength]
              exact ⟨fun hsound _ _ => hsound,
                fun hsound => hsound hmore hlength⟩

theorem cleanupStep_exact_first :
    (fullHand {}).CleanupExact [⟨0⟩] (cleanupStep idleExecutor 1
      (discardFirst.answering [⟨0⟩]) (fullHand {})) := by
  apply (cleanupStep_exact_iff idleExecutor 0 discardFirst
    (List.forall_mem_singleton.mpr rfl)).mpr
  refine ⟨rfl, ?_⟩
  intro p hplayer _ _ _
  decide

/-- Nine cards in hand, two more than allowed. -/
def ninthCard : GameState :=
  { fullHand {} with
    zones := { playerZones :=
      [(⟨0⟩, { hand := (List.range 9).map CardId.mk }), (⟨1⟩, {})] } }

/-- The first card chosen twice: it is gone when the error comes. -/
theorem not_cleanupStep_exact :
    ninthCard.Undisturbed [⟨0⟩, ⟨0⟩] ∧
      ¬ninthCard.CleanupExact [⟨0⟩, ⟨0⟩] (cleanupStep idleExecutor 1
        (discardFirst.answering [⟨0⟩, ⟨0⟩]) ninthCard) := by
  constructor
  · intro id _
    rfl
  · change ¬(_ : Zones) = _
    decide

end GameState

end DeepScry
