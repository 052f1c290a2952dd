/-
The undo of a cleanup step.  The discards log what they do; what ends with the
turn does not, so the undo is exact only where nothing ends.
-/
import DeepScry.MoveUndo
import DeepScry.TurnActions

namespace DeepScry

namespace GameState

/-- The same game but for the zones and the masks of cards, as far as the end
of a turn looks. -/
structure SameTurnEnd (game other : GameState) : Prop where
  players : game.players = other.players
  cards : SameView unmasked game.cards other.cards
  persistentEffects : game.persistentEffects = other.persistentEffects
  delayedTriggers : game.delayedTriggers = other.delayedTriggers
  isCommanderGame : game.isCommanderGame = other.isCommanderGame

namespace SameTurnEnd

variable {first second third : GameState}

theorem refl (game : GameState) : SameTurnEnd game game :=
  ⟨rfl, .refl _, rfl, rfl, rfl⟩

theorem trans (hfirst : SameTurnEnd first second)
    (hsecond : SameTurnEnd second third) : SameTurnEnd first third :=
  ⟨hfirst.players.trans hsecond.players, hfirst.cards.trans hsecond.cards,
    hfirst.persistentEffects.trans hsecond.persistentEffects,
    hfirst.delayedTriggers.trans hsecond.delayedTriggers,
    hfirst.isCommanderGame.trans hsecond.isCommanderGame⟩

end SameTurnEnd

/-- A discard, or a part of one: it changes nothing that the end of the turn
looks at, and neither does its undo in a game with instances of the same
cards. -/
structure Discarding (before after : GameState) : Prop where
  same : SameTurnEnd after before
  battlefield : after.zones.battlefield = before.zones.battlefield
  undone : ∃ actions, Logs before after actions ∧ ∀ other : GameState,
    (∀ i, (other.cards.tryGet i).isSome = (before.cards.tryGet i).isSome) →
      SameTurnEnd (undoAll actions other) other

namespace Discarding

variable {before middle after : GameState}

theorem refl {game : GameState} (henabled : game.undoLog.enabled = true) :
    Discarding game game :=
  ⟨.refl game, rfl, [], .refl henabled, fun other _ => .refl other⟩

theorem enabled (hdiscard : Discarding before after) :
    after.undoLog.enabled = true := by
  obtain ⟨_, hlogs, -⟩ := hdiscard.undone
  exact hlogs.enabled

theorem trans (hfirst : Discarding before middle)
    (hsecond : Discarding middle after) : Discarding before after where
  same := hsecond.same.trans hfirst.same
  battlefield := hsecond.battlefield.trans hfirst.battlefield
  undone := by
    obtain ⟨older, holder, hundoOlder⟩ := hfirst.undone
    obtain ⟨newer, hnewer, hundoNewer⟩ := hsecond.undone
    refine ⟨older ++ newer, holder.trans hnewer, fun other hsome => ?_⟩
    rw [undoAll_append]
    have hsomeMiddle (i : Nat) : (other.cards.tryGet i).isSome =
        (middle.cards.tryGet i).isSome :=
      (hsome i).trans (hfirst.same.cards.isSome i).symm
    have hundone := hundoNewer other hsomeMiddle
    have hsomeUndone (i : Nat) :
        ((undoAll newer other).cards.tryGet i).isSome =
          (before.cards.tryGet i).isSome :=
      (hundone.cards.isSome i).trans (hsome i)
    exact (hundoOlder _ hsomeUndone).trans hundone

/-- A step that logs nothing. -/
theorem aside (hdiscard : Discarding before middle)
    (hlog : after.undoLog = middle.undoLog)
    (hsame : SameTurnEnd after middle)
    (hbattlefield : after.zones.battlefield = middle.zones.battlefield) :
    Discarding before after := by
  have henabled : after.undoLog.enabled = true := hlog ▸ hdiscard.enabled
  apply hdiscard.trans
  refine ⟨hsame, hbattlefield, [], ⟨henabled, ?_⟩, fun other _ => .refl other⟩
  rw [hlog, List.append_nil]

/-- One action whose undo the end of a turn does not see. -/
theorem logAction (henabled : before.undoLog.enabled = true)
    {action : GameAction}
    (hundo : ∀ other : GameState,
      (∀ i, (other.cards.tryGet i).isSome =
        (before.cards.tryGet i).isSome) →
      SameTurnEnd (action.undo other).1 other)
    (hlog : middle.undoLog = before.undoLog)
    (hsame : SameTurnEnd middle before)
    (hbattlefield : middle.zones.battlefield = before.zones.battlefield)
    (priorLogSize : Nat) :
    Discarding before (middle.logAction action priorLogSize) where
  same := ⟨hsame.players, hsame.cards, hsame.persistentEffects,
    hsame.delayedTriggers, hsame.isCommanderGame⟩
  battlefield := hbattlefield
  undone := by
    refine ⟨[action], ?_, fun other hsome => ?_⟩
    · apply Logs.single
      exact .of_undoLog (.refl henabled) hlog
    · rw [undoAll_cons, undoAll_nil]
      exact hundo other hsome

end Discarding

section Discards

variable {game : GameState} (henabled : game.undoLog.enabled = true)
  (id : CardId)
include henabled

theorem maybeReveal_discarding (target : RevealTarget) (shown : Card → Bool)
    {mark : Card → Card} (hmark : ∀ c, unmasked (mark c) = unmasked c)
    (priorLogSize : Nat) :
    Discarding game (game.maybeReveal id target shown mark priorLogSize) := by
  rw [maybeReveal]
  split
  · exact .refl henabled
  · cases hcard : game.card? id with
    | none =>
        apply Discarding.logAction henabled
        · intro other hsome
          have hother : other.card? id = none := by
            have hsame := hsome id.raw
            rw [show game.cards.tryGet id.raw = none from hcard,
              Option.isSome_none, Option.isSome_eq_false_iff,
              Option.isNone_iff_eq_none] at hsame
            exact hsame
          rw [undo_revealCard_none hother]
          exact .refl other
        · rfl
        · exact .refl game
        · rfl
    | some card =>
        dsimp only
        split
        · exact .refl henabled
        · apply Discarding.logAction henabled
          · intro other hsome
            have hsame := hsome id.raw
            rw [show game.cards.tryGet id.raw = some card from hcard,
              Option.isSome_some, Option.isSome_iff_exists] at hsame
            obtain ⟨found, hfound⟩ := hsame
            have hundo : ((GameAction.revealCard id (some card.name) target
                card.revealedToMask).undo other).1 =
                other.modifyCard id fun c =>
                  { c with revealedToMask := card.revealedToMask } := by
              simp only [GameAction.undo, undoReveal, card?, hfound]
              rfl
            rw [hundo]
            exact ⟨rfl, sameView_mask _ _ _, rfl, rfl, rfl⟩
          · rfl
          · exact ⟨rfl, sameView_modify hmark _ _, rfl, rfl, rfl⟩
          · rfl

omit henabled in
/-- The undo of a move moves cards, nothing else. -/
theorem undo_moveCard_sameTurnEnd (fromZone toZone : Zone) (owner : PlayerId)
    (position : Option UInt32) :
    SameTurnEnd ((GameAction.moveCard id fromZone toZone owner position).undo
      game).1 game := by
  simp only [GameAction.undo, undoMove]
  split
  · exact ⟨rfl, .refl _, rfl, rfl, rfl⟩
  · exact .refl game

/-- A move from the hand to a graveyard, or to the command zone in its place,
that ends no persistent effect. -/
theorem relocate_discarding {toZone : Zone} {owner : PlayerId}
    (hto : toZone = .graveyard ∨ toZone = .command)
    (hunwatched : game.persistentEffects.findEffectsToCleanupOnZoneChange id
      .hand = []) :
    Discarding game (game.relocate id .hand toZone owner) := by
  have heffects : game.persistentEffects.removeMany
      (game.persistentEffects.findEffectsToCleanupOnZoneChange id .hand) =
        game.persistentEffects :=
    (game.persistentEffects.removeMany_cleanup_eq_self_iff id .hand).mpr
      hunwatched
  have hchanged : Discarding game ((game.changeZone id .hand toZone
      owner).logAction (.moveCard id .hand toZone owner
        ((game.zones.positionOf .hand owner id).map UInt32.ofNat))
        (game.changeZone id .hand toZone owner).logger.logCount) := by
    apply Discarding.logAction henabled
    · intro other _
      exact undo_moveCard_sameTurnEnd id .hand toZone owner _
    · rfl
    · exact ⟨rfl, .refl _, rfl, rfl, rfl⟩
    · rcases hto with rfl | rfl <;> rfl
  have hcaches (middle : GameState) :
      middle.updateManaCaches id .hand toZone = middle := by
    rw [updateManaCaches]
    rcases hto with rfl | rfl <;> cases middle.card? id <;> rfl
  rw [relocate, if_neg (by rcases hto with rfl | rfl <;> decide), hcaches,
    resetIfLeft, if_neg (by decide)]
  apply hchanged.aside
  · rcases hto with rfl | rfl <;> rfl
  · refine ⟨?_, ?_, ?_, ?_, ?_⟩
    · rcases hto with rfl | rfl <;> rfl
    · rcases hto with rfl | rfl <;> exact .refl _
    · rcases hto with rfl | rfl <;> exact heffects
    · rcases hto with rfl | rfl <;> rfl
    · rcases hto with rfl | rfl <;> rfl
  · rcases hto with rfl | rfl <;> rfl

/-- The discarded card is one that neither a delayed trigger nor a persistent
effect waits for. -/
structure Unwatched (game : GameState) (id : CardId) : Prop where
  triggers : game.delayedTriggers.findZoneChangeTriggers id .hand
    (game.moveDestination id .graveyard) = []
  effects : game.persistentEffects.findEffectsToCleanupOnZoneChange id
    .hand = []

theorem prepareMove_discarding {toZone : Zone} {owner : PlayerId}
    (hto : toZone = .graveyard ∨ toZone = .command) :
    Discarding game (game.prepareMove id .hand toZone owner) := by
  have hreveal : Discarding game
      (game.maybeRevealToAll id game.logger.logCount) := by
    apply maybeReveal_discarding henabled
    intro c
    rfl
  rw [prepareMove, detachEquipment, if_neg (by simp)]
  rcases hto with rfl | rfl <;> exact hreveal

theorem moveUntilTriggers_discarding (owner : PlayerId)
    (hunwatched : game.persistentEffects.findEffectsToCleanupOnZoneChange id
      .hand = []) :
    Discarding game
      (game.moveUntilTriggers id .hand .graveyard owner).1 := by
  have hto : game.moveDestination id .graveyard = .graveyard ∨
      game.moveDestination id .graveyard = .command := by
    rw [moveDestination]
    split
    · exact .inr rfl
    · exact .inl rfl
  have hreported : Discarding game (if game.commanderReplaces id .graveyard
      then game.message else game) := by
    split
    · apply (Discarding.refl henabled).aside
      · rfl
      · exact ⟨rfl, .refl _, rfl, rfl, rfl⟩
      · rfl
    · exact .refl henabled
  have hprepared : Discarding game (GameState.prepareMove _ id .hand _ owner) :=
    hreported.trans (prepareMove_discarding hreported.enabled id hto)
  rw [moveUntilTriggers]
  generalize (if game.commanderReplaces id .graveyard = true then game.message
    else game).prepareMove id .hand (game.moveDestination id .graveyard)
      owner = prepared at hprepared ⊢
  rw [finishMove]
  split
  · apply hprepared.trans
    apply relocate_discarding hprepared.enabled id hto
    rw [hprepared.same.persistentEffects]
    exact hunwatched
  · exact hprepared

theorem moveCard_discarding (executor : EffectExecutor) (depth : Nat)
    (owner : PlayerId) (hunwatched : game.Unwatched id) :
    (moveCard executor depth game id .hand .graveyard owner).Ensures
      (Discarding game) := by
  have hmoved := moveUntilTriggers_discarding henabled id owner
    hunwatched.effects
  cases depth with
  | zero => rintro after result ⟨⟩
  | succ depth =>
      rw [moveCard]
      generalize game.moveUntilTriggers id .hand .graveyard owner = moved
        at hmoved ⊢
      obtain ⟨moved, found⟩ := moved
      cases found with
      | false => exact Outcome.Ensures.ok hmoved _
      | true =>
          dsimp only
          rw [checkDelayedTriggersOnZoneChange,
            hmoved.same.delayedTriggers, hunwatched.triggers]
          exact Outcome.Ensures.ok hmoved _

omit henabled in
theorem moveDestination_same {later : GameState}
    (hsame : SameTurnEnd later game) (toZone : Zone) :
    later.moveDestination id toZone = game.moveDestination id toZone := by
  have hcommander : (later.card? id).any (fun card => card.isCommander) =
      (game.card? id).any fun card => card.isCommander :=
    any_of_map_eq (hsame.cards id.raw) fun _ => rfl
  rw [moveDestination, moveDestination, commanderReplaces, commanderReplaces,
    hcommander, hsame.isCommanderGame]

omit henabled in
/-- What waits for a card still does after other discards. -/
theorem Unwatched.later {later : GameState} {id : CardId}
    (hunwatched : game.Unwatched id) (hsame : SameTurnEnd later game) :
    later.Unwatched id where
  triggers := by
    rw [hsame.delayedTriggers, moveDestination_same id hsame]
    exact hunwatched.triggers
  effects := by
    rw [hsame.persistentEffects]
    exact hunwatched.effects

end Discards

section Step

variable (executor : EffectExecutor) (depth : Nat)

theorem discardChosen_discarding (player : PlayerId) (cards : List CardId)
    {game : GameState} (henabled : game.undoLog.enabled = true)
    (hunwatched : ∀ id ∈ cards, game.Unwatched id) :
    (discardChosen executor depth player game cards).Ensures
      (Discarding game) := by
  induction cards generalizing game with
  | nil => exact .ok (.refl henabled) _
  | cons id rest ih =>
      obtain ⟨hid, hrest⟩ := List.forall_mem_cons.mp hunwatched
      rw [discardChosen]
      split
      · exact .error (.refl henabled) _
      · apply Outcome.Ensures.andThen
        · exact moveCard_discarding henabled id executor depth player hid
        · intro moved _ hmoved
          have hlater := ih hmoved.enabled fun other hother =>
            (hrest other hother).later hmoved.same
          exact hlater.mono fun _ hdiscarded => hmoved.trans hdiscarded

/-- The cards that the controller discards in the cleanup step, none when the
hand is small enough. -/
def cleanupDiscards (game : GameState) (loop : CleanupLoop) : List CardId :=
  let player := game.turn.activePlayer
  let hand := ((game.zones.getPlayerZones player).map fun own =>
    own.hand).getD []
  match game.getPlayer player with
  | none => []
  | some p =>
      if hand.length ≤ p.maxHandSize then []
      else
        match loop.chooseDiscard game player hand
            (hand.length - p.maxHandSize) with
        | .ok cards => cards
        | _ => []

/-- One undo leaves a shorter log, if there is something to undo. -/
theorem undo_eq_or_shorter (game : GameState) :
    game.undo = (none, game) ∨
      game.undo.2.undoLog.actions.length < game.undoLog.actions.length := by
  cases hpop : game.undoLog.pop with
  | none =>
      left
      rw [undo, hpop]
  | some popped =>
      obtain ⟨⟨action, size⟩, rest⟩ := popped
      obtain ⟨manaCaches, spellTargets, hundo⟩ := undo_of_pop hpop
      right
      rw [hundo]
      change (action.undo _).1.undoLog.actions.length < _
      rw [action.undo_undoLog]
      exact UndoLog.pop_length hpop

/-- The search for a choice point takes the newest action off in any case. -/
theorem undoUntilChoice_length (player : PlayerId) (fuel actionsUndone : Nat)
    (game : GameState) :
    (undoUntilChoice player fuel actionsUndone game = (none, game) ∧
        (fuel = 0 ∨ game.undoLog.actions = [])) ∨
      (undoUntilChoice player fuel actionsUndone
        game).2.undoLog.actions.length < game.undoLog.actions.length := by
  induction fuel generalizing actionsUndone game with
  | zero => exact .inl ⟨rfl, .inl rfl⟩
  | succ fuel ih =>
      rw [undoUntilChoice.eq_def]
      dsimp only
      have hrest {rest : UndoLog}
          (hlt : rest.actions.length < game.undoLog.actions.length)
          {later : GameState} (hlater : later.undoLog = rest) (n : Nat) :
          (undoUntilChoice player fuel n later).2.undoLog.actions.length <
            game.undoLog.actions.length := by
        rcases ih n later with ⟨hstop, -⟩ | hshorter
        · rw [hstop, hlater]
          exact hlt
        · rw [hlater] at hshorter
          exact hshorter.trans hlt
      split
      · next hpop => exact .inl ⟨rfl, .inr (UndoLog.pop_eq_none hpop)⟩
      · next hpop =>
        right
        split
        · exact UndoLog.pop_length hpop
        · exact hrest (UndoLog.pop_length hpop) rfl actionsUndone
      · next hpop =>
        right
        apply hrest (UndoLog.pop_length hpop)
        exact GameAction.undo_undoLog _ _

theorem undoLog_truncateLogger (result : Option Nat × GameState) :
    (truncateLogger result).undoLog = result.2.undoLog := by
  rcases result with ⟨- | size, game⟩ <;> rfl

theorem repeat_undo_eq_or_shorter (game : GameState) (n : Nat) :
    n.repeat (fun game => truncateLogger game.undo) game = game ∨
      (n.repeat (fun game => truncateLogger game.undo)
        game).undoLog.actions.length < game.undoLog.actions.length := by
  induction n with
  | zero => exact .inl rfl
  | succ n ih =>
      rw [Nat.repeat]
      generalize n.repeat (fun game => truncateLogger game.undo) game =
        undone at ih ⊢
      rcases ih with rfl | hshorter
      · rcases undo_eq_or_shorter undone with hstop | hundo
        · rw [hstop]
          exact .inl rfl
        · rw [undoLog_truncateLogger]
          exact .inr hundo
      · rw [undoLog_truncateLogger]
        rcases undo_eq_or_shorter undone with hstop | hundo
        · rw [hstop]
          exact .inr hshorter
        · exact .inr (hundo.trans hshorter)

/-- A request to undo takes actions off the log, or changes nothing. -/
theorem handleUndoRequest_eq_or_shorter (game : GameState)
    (player : PlayerId) (n : Nat) :
    game.handleUndoRequest player n = game ∨
      (game.handleUndoRequest player n).undoLog.actions.length <
        game.undoLog.actions.length := by
  rw [handleUndoRequest]
  split
  · rw [undoToPreviousChoicePoint]
    dsimp only
    split
    · next hany =>
      right
      rw [undoLog_truncateLogger]
      change (undoUntilChoice player _ 0 game).2.undoLog.actions.length < _
      rcases undoUntilChoice_length player game.undoLog.actions.length 0 game
        with ⟨-, hempty⟩ | hshorter
      · have hnil : game.undoLog.actions = [] :=
          hempty.elim List.eq_nil_of_length_eq_zero id
        rw [hnil] at hany
        cases hany
      · exact hshorter
    · exact .inl rfl
  · exact repeat_undo_eq_or_shorter game n

/-- Where the discards of a cleanup step leave the game; only a request to undo
takes actions off the log. -/
theorem discardToHandSize_cases {loop : CleanupLoop} {game after : GameState}
    (henabled : game.undoLog.enabled = true)
    (hunwatched : ∀ id ∈ game.cleanupDiscards loop, game.Unwatched id)
    {result : Except MtgError (Option (Option GameResult))}
    (hdone : discardToHandSize executor depth loop game
      game.turn.activePlayer = some (after, result)) :
    Discarding game after ∨ (result = .ok (some none) ∧
      after.undoLog.actions.length < game.undoLog.actions.length) := by
  have hself := Discarding.refl henabled
  rw [cleanupDiscards] at hunwatched
  rw [discardToHandSize] at hdone
  dsimp only at hunwatched hdone
  split at hdone
  · cases hdone
    exact .inl hself
  · next p hplayer =>
    rw [hplayer] at hunwatched
    dsimp only at hunwatched
    split at hdone
    · cases hdone
      exact .inl hself
    · next hlarge =>
      rw [if_neg hlarge] at hunwatched
      split at hdone
      · cases hdone
        exact .inl hself
      · split at hdone
        · next n _ =>
          cases hdone
          rcases handleUndoRequest_eq_or_shorter game game.turn.activePlayer n
            with hsame | hshorter
          · rw [hsame]
            exact .inl hself
          · exact .inr ⟨rfl, hshorter⟩
        · cases hdone
          exact .inl hself
        · cases hdone
          exact .inl hself
        · cases hdone
          exact .inl hself
        · next cards hchoice =>
          rw [hchoice] at hunwatched
          left
          have hlogged : Discarding game (game.logAction
              (.choicePoint game.turn.activePlayer (loop.choiceCounter + 1)
                (some (loop.replayDiscard cards))) game.logger.logCount) := by
            apply Discarding.logAction henabled
            · intro other _
              exact .refl other
            · rfl
            · exact .refl game
            · rfl
          split at hdone
          · cases hdone
            exact hlogged
          · have hcards := discardChosen_discarding executor depth
              game.turn.activePlayer cards hlogged.enabled fun id hid =>
                (hunwatched id hid).later hlogged.same
            exact hlogged.trans (hcards.andThen
              (fun _ _ hdiscarded => Outcome.Ensures.ok hdiscarded _)
              after result hdone)

end Step

end GameState

/-- The damage, regeneration and prevention fields of a permanent. -/
def Card.cleanupMarks (card : Card) :
    Int32 × List CardId × UInt8 × Int32 × Bool :=
  (card.damage, card.damagedByThisTurn, card.regenerationShields,
    card.damagePrevention, card.preventAllCombatDamageThisTurn)

/-- A permanent that the cleanup step leaves alone. -/
structure Card.Clean (card : Card) : Prop where
  creature : card.isCreature = true →
    card.damage = 0 ∧ card.regenerationShields = 0
  prevention : card.damagePrevention = 0
  combat : card.preventAllCombatDamageThisTurn = false
  damagedBy : card.damagedByThisTurn = []

theorem Card.cleanupMarks_clearAtCleanup_eq_iff (card : Card) :
    card.clearAtCleanup.cleanupMarks = card.cleanupMarks ↔ card.Clean := by
  rw [clearAtCleanup, cleanupMarks, cleanupMarks]
  constructor
  · intro heq
    simp only [Prod.mk.injEq] at heq
    obtain ⟨hdamage, hdamagedBy, hshields, hprevention, hcombat⟩ := heq
    refine ⟨fun hcreature => ?_, hprevention.symm, hcombat.symm,
      hdamagedBy.symm⟩
    rw [if_pos hcreature] at hdamage hshields
    exact ⟨hdamage.symm, hshields.symm⟩
  · rintro ⟨hcreature, hprevention, hcombat, hdamagedBy⟩
    simp only [Prod.mk.injEq]
    refine ⟨?_, hdamagedBy.symm, ?_, hprevention.symm, hcombat.symm⟩
    · split
      · next h => exact (hcreature h).1.symm
      · rfl
    · split
      · next h => exact (hcreature h).2.symm
      · rfl

theorem Player.emptyManaPool_eq_self {player : Player}
    (hpool : player.manaPool = {}) : player.emptyManaPool = player := by
  rw [emptyManaPool, ← hpool]

/-- A player that the cleanup step leaves alone, the mana pool aside. -/
structure Player.Clean (player : Player) : Prop where
  prevention : player.damagePrevention = 0
  shields : player.sourcePreventionShields = []
  sanctuary : player.islandSanctuaryProtected = false
  countered : player.hadCreatureCounteredThisTurn = false

namespace GameState

/-- What the undo of a cleanup step has to bring back. -/
structure CleanupRestored (undone before : GameState) : Prop where
  pools : undone.players.map (fun p => (p.id, p.manaPool)) =
    before.players.map fun p => (p.id, p.manaPool)
  shields : undone.players.map
      (fun p => (p.damagePrevention, p.sourcePreventionShields)) =
    before.players.map
      fun p => (p.damagePrevention, p.sourcePreventionShields)
  flags : undone.players.map
      (fun p => (p.islandSanctuaryProtected, p.hadCreatureCounteredThisTurn)) =
    before.players.map
      fun p => (p.islandSanctuaryProtected, p.hadCreatureCounteredThisTurn)
  permanents : ∀ id ∈ before.zones.battlefield,
    (undone.card? id).map Card.cleanupMarks =
      (before.card? id).map Card.cleanupMarks
  persistentEffects : undone.persistentEffects = before.persistentEffects
  delayedTriggers : undone.delayedTriggers = before.delayedTriggers

/-- Nothing ends with the turn. -/
structure NothingEnds (game : GameState) : Prop where
  pools : ∀ id, id = game.turn.activePlayer ∨
      game.getOtherPlayerId game.turn.activePlayer = some id →
    ∀ p, game.getPlayer id = some p → p.manaPool = {}
  players : ∀ p ∈ game.players, p.Clean
  permanents : ∀ id ∈ game.zones.battlefield, ∀ card,
    game.card? id = some card → card.Clean
  persistentEffects : game.persistentEffects.findEffectsToCleanupAtEot = []
  delayedTriggers : ∀ trigger ∈ game.delayedTriggers.triggers,
    trigger.expiry ≠ some .endOfTurn

section Finish

theorem clearPermanents_frame (game : GameState) :
    game.clearPermanents =
      { game with cards := game.clearPermanents.cards } := by
  have hfold (ids : List CardId) (state : GameState) :
      ids.foldl (fun game id => game.modifyCard id Card.clearAtCleanup)
          state =
        { state with
          cards := (ids.foldl (fun game id =>
            game.modifyCard id Card.clearAtCleanup) state).cards } := by
    induction ids generalizing state with
    | nil => rfl
    | cons id rest ih => exact ih (state.modifyCard id Card.clearAtCleanup)
  exact hfold _ game

theorem clearAtCleanup_idem (card : Card) :
    card.clearAtCleanup.clearAtCleanup = card.clearAtCleanup := by
  have hcreature : card.clearAtCleanup.isCreature = card.isCreature := by
    rw [Card.clearAtCleanup]
    split <;> rfl
  rw [Card.clearAtCleanup, hcreature]
  cases h : card.isCreature <;> simp [Card.clearAtCleanup, h]

theorem clearPermanents_tryGet (game : GameState) (i : Nat) :
    game.clearPermanents.cards.tryGet i =
      (game.cards.tryGet i).map fun card =>
        if ∃ id ∈ game.zones.battlefield, id.raw = i then card.clearAtCleanup
        else card := by
  have hfold (ids : List CardId) (state : GameState) :
      (ids.foldl (fun game id => game.modifyCard id Card.clearAtCleanup)
          state).cards.tryGet i =
        (state.cards.tryGet i).map fun card =>
          if ∃ id ∈ ids, id.raw = i then card.clearAtCleanup else card := by
    induction ids generalizing state with
    | nil => simp
    | cons id rest ih =>
        rw [List.foldl_cons, ih, modifyCard, EntityStore.tryGet_modify]
        by_cases hid : id.raw = i
        · rw [if_pos hid, Option.map_map]
          refine Option.map_congr fun card _ => ?_
          simp only [Function.comp_apply, List.exists_mem_cons_iff, hid,
            true_or, ↓reduceIte]
          split
          · exact clearAtCleanup_idem card
          · rfl
        · simp only [List.exists_mem_cons_iff, hid, false_or, ↓reduceIte]
  exact hfold _ game

/-- The permanents are cleared, the other cards are not. -/
theorem clearPermanents_marks_iff (game : GameState) :
    (∀ id ∈ game.zones.battlefield,
      (game.clearPermanents.card? id).map Card.cleanupMarks =
        (game.card? id).map Card.cleanupMarks) ↔
      ∀ id ∈ game.zones.battlefield, ∀ card, game.card? id = some card →
        card.Clean := by
  have hcleared {id : CardId} (hid : id ∈ game.zones.battlefield) :
      game.clearPermanents.card? id =
        (game.card? id).map Card.clearAtCleanup := by
    rw [card?, clearPermanents_tryGet]
    simp only [show ∃ other ∈ game.zones.battlefield, other.raw = id.raw from
      ⟨id, hid, rfl⟩, ↓reduceIte]
    rfl
  constructor
  · intro hmarks id hid card hcard
    have heq := hmarks id hid
    rw [hcleared hid, hcard] at heq
    exact (Card.cleanupMarks_clearAtCleanup_eq_iff card).mp
      (Option.some.inj heq)
  · intro hclean id hid
    rw [hcleared hid, Option.map_map]
    exact Option.map_congr fun card hcard =>
      (Card.cleanupMarks_clearAtCleanup_eq_iff card).mpr
        (hclean id hid card hcard)

/-- Emptying the pools of two players shows in the pools unless both are
empty. -/
theorem emptyManaPools_pools_iff (game : GameState) {first second : PlayerId}
    (hne : second ≠ first) :
    (game.emptyManaPools [first, second]).players.map
        (fun p => (p.id, p.manaPool)) =
      game.players.map (fun p => (p.id, p.manaPool)) ↔
      ∀ id, id = first ∨ id = second → ∀ p, game.getPlayer id = some p →
        p.manaPool = {} := by
  have hplayers : (game.emptyManaPools [first, second]).players =
      FirstMatch.modifyFirst (fun p => p.id == second) Player.emptyManaPool
        (FirstMatch.modifyFirst (fun p => p.id == first) Player.emptyManaPool
          game.players) := rfl
  rw [hplayers]
  constructor
  · intro heq id hid p hp
    have hfind : ((FirstMatch.modifyFirst (fun p => p.id == second)
        Player.emptyManaPool (FirstMatch.modifyFirst (fun p => p.id == first)
          Player.emptyManaPool game.players)).find? fun p => p.id == id).map
            (fun p => (p.id, p.manaPool)) =
        (game.getPlayer id).map fun p => (p.id, p.manaPool) := by
      have hlookup := congrArg (List.find? fun entry => entry.1 == id) heq
      rw [List.find?_map, List.find?_map] at hlookup
      exact hlookup
    have hemptied : (FirstMatch.modifyFirst (fun p => p.id == second)
        Player.emptyManaPool (FirstMatch.modifyFirst (fun p => p.id == first)
          Player.emptyManaPool game.players)).find? (fun p => p.id == id) =
        (game.getPlayer id).map Player.emptyManaPool := by
      rcases hid with rfl | rfl
      · rw [FirstMatch.find?_modifyFirst_of_disjoint,
          FirstMatch.find?_modifyFirst]
        · rfl
        · exact fun _ => rfl
        · intro a ha
          rw [← beq_iff_eq.mp ha] at hne
          exact ⟨beq_eq_false_iff_ne.mpr hne, beq_eq_false_iff_ne.mpr hne⟩
      · rw [FirstMatch.find?_modifyFirst,
          FirstMatch.find?_modifyFirst_of_disjoint]
        · rfl
        · intro a ha
          rw [← beq_iff_eq.mp ha] at hne
          exact ⟨beq_eq_false_iff_ne.mpr hne.symm,
            beq_eq_false_iff_ne.mpr hne.symm⟩
        · exact fun _ => rfl
    rw [hemptied, hp] at hfind
    exact (congrArg Prod.snd (Option.some.inj hfind)).symm
  · intro hempty
    have hfirst : FirstMatch.modifyFirst (fun p => p.id == first)
        Player.emptyManaPool game.players = game.players :=
      FirstMatch.modifyFirst_eq_self fun p hp =>
        Player.emptyManaPool_eq_self (hempty first (.inl rfl) p hp)
    rw [hfirst, FirstMatch.modifyFirst_eq_self fun p hp =>
      Player.emptyManaPool_eq_self (hempty second (.inr rfl) p hp)]

theorem finishTurn_frame (game : GameState) (ids : List PlayerId) :
    (game.finishTurn ids).players =
        (game.emptyManaPools ids).players.map Player.clearAtCleanup ∧
      (game.finishTurn ids).undoLog =
        (game.emptyManaPools ids).undoLog ∧
      (game.finishTurn ids).persistentEffects =
        (game.emptyManaPools ids).cleanupEndOfTurn.persistentEffects ∧
      (game.finishTurn ids).delayedTriggers =
        (game.emptyManaPools ids).cleanupEndOfTurn.delayedTriggers := by
  rw [finishTurn, clearPermanents_frame]
  exact ⟨rfl, rfl, rfl, rfl⟩

/-- A view of the players that the end of the turn clears. -/
theorem finishTurn_view_iff {α : Type} (game : GameState)
    (first second : PlayerId) (view : Player → α) (cleared : α)
    (hview : ∀ p : Player, view p.clearAtCleanup = cleared) :
    (game.finishTurn [first, second]).players.map view =
        game.players.map view ↔
      ∀ p ∈ game.players, view p = cleared := by
  have hkeep (players : List Player) (id : PlayerId) :
      (FirstMatch.modifyFirst (fun p : Player => p.id == id)
        Player.emptyManaPool players).map (fun _ => cleared) =
        players.map fun _ => cleared := by
    apply FirstMatch.map_modifyFirst
    intro p
    rfl
  have hplayers : (game.finishTurn [first, second]).players.map view =
      game.players.map fun _ => cleared := by
    rw [(finishTurn_frame game _).1, List.map_map]
    calc (game.emptyManaPools [first, second]).players.map
          (view ∘ Player.clearAtCleanup)
        = (game.emptyManaPools [first, second]).players.map
            fun _ => cleared := List.map_congr_left fun p _ => hview p
      _ = game.players.map fun _ => cleared :=
        (hkeep _ second).trans (hkeep _ first)
  rw [hplayers, List.map_inj_left]
  exact forall₂_congr fun _ _ => eq_comm

theorem cleanupEndOfTurn_eq_self_iff (store : DelayedTriggerStore) :
    store.cleanupEndOfTurn = store ↔
      ∀ trigger ∈ store.triggers, trigger.expiry ≠ some .endOfTurn := by
  have hfilter : store.cleanupEndOfTurn = store ↔
      (store.triggers.filter fun trigger =>
        trigger.expiry != some .endOfTurn) = store.triggers := by
    constructor
    · intro heq
      exact congrArg DelayedTriggerStore.triggers heq
    · intro heq
      rw [DelayedTriggerStore.cleanupEndOfTurn, heq]
  rw [hfilter, List.filter_eq_self]
  exact forall₂_congr fun trigger _ => bne_iff_ne

variable {game discarded undone : GameState}

/-- The masks do not matter for what is taken off a permanent. -/
theorem clean_of_unmasked {card other : Card}
    (hsame : unmasked card = unmasked other) (hclean : card.Clean) :
    other.Clean := by
  have hmasked : (unmasked other).Clean := by
    rw [← hsame]
    exact ⟨hclean.1, hclean.2, hclean.3, hclean.4⟩
  exact ⟨hmasked.1, hmasked.2, hmasked.3, hmasked.4⟩

theorem clean_permanents_of_sameView {game other : GameState}
    {ids : List CardId} (hsame : SameView unmasked game.cards other.cards)
    (hclean : ∀ id ∈ ids, ∀ card, game.card? id = some card → card.Clean) :
    ∀ id ∈ ids, ∀ card, other.card? id = some card → card.Clean := by
  intro id hid card hcard
  have hview := hsame id.raw
  rw [show other.cards.tryGet id.raw = some card from hcard] at hview
  obtain ⟨found, hfound, heq⟩ := Option.map_eq_some_iff.mp hview
  exact clean_of_unmasked heq (hclean id hid found hfound)

/-- The end of the turn after the discards, undone but for the masks. -/
theorem finishTurn_restored_iff {other : PlayerId}
    (hother : game.getOtherPlayerId game.turn.activePlayer = some other)
    (hdiscarded : Discarding game discarded)
    (hundone : SameTurnEnd undone
      (discarded.finishTurn [game.turn.activePlayer, other])) :
    undone.CleanupRestored game ↔ game.NothingEnds := by
  have hne : other ≠ game.turn.activePlayer := by
    rw [getOtherPlayerId] at hother
    split at hother
    · obtain ⟨p, hp, rfl⟩ := Option.map_eq_some_iff.mp hother
      simpa using List.find?_some hp
    · cases hother
  obtain ⟨hplayers, -, heffects, htriggers⟩ :=
    finishTurn_frame discarded [game.turn.activePlayer, other]
  have hpools : (discarded.finishTurn [game.turn.activePlayer,
        other]).players.map (fun p => (p.id, p.manaPool)) =
      (discarded.emptyManaPools [game.turn.activePlayer,
        other]).players.map fun p => (p.id, p.manaPool) := by
    rw [hplayers, List.map_map]
    rfl
  have hshields := finishTurn_view_iff discarded game.turn.activePlayer other
    (fun p => (p.damagePrevention, p.sourcePreventionShields)) (0, [])
    fun _ => rfl
  have hflags := finishTurn_view_iff discarded game.turn.activePlayer other
    (fun p => (p.islandSanctuaryProtected, p.hadCreatureCounteredThisTurn))
    (false, false) fun _ => rfl
  have hemptied := emptyManaPools_pools_iff discarded hne
  have hmarks := clearPermanents_marks_iff
    (discarded.emptyManaPools [game.turn.activePlayer, other]).cleanupEndOfTurn
  have hmasks (id : CardId) : (discarded.card? id).map Card.cleanupMarks =
      (game.card? id).map Card.cleanupMarks :=
    SameView.of_unmasked (fun _ => rfl) hdiscarded.same.cards id.raw
  have hundoneMarks (id : CardId) : (undone.card? id).map Card.cleanupMarks =
      ((discarded.emptyManaPools [game.turn.activePlayer,
        other]).cleanupEndOfTurn.clearPermanents.card? id).map
          Card.cleanupMarks :=
    SameView.of_unmasked (fun _ => rfl) hundone.cards id.raw
  have hsamePlayers := hdiscarded.same.players
  have hgetPlayer (id : PlayerId) :
      discarded.getPlayer id = game.getPlayer id := by
    rw [getPlayer, getPlayer, hsamePlayers]
  have hback : (∀ id ∈ discarded.zones.battlefield, ∀ card,
        discarded.card? id = some card → card.Clean) ↔
      ∀ id ∈ game.zones.battlefield, ∀ card,
        game.card? id = some card → card.Clean := by
    rw [← hdiscarded.battlefield]
    exact ⟨clean_permanents_of_sameView hdiscarded.same.cards,
      clean_permanents_of_sameView hdiscarded.same.cards.symm⟩
  have heffectsIff : undone.persistentEffects = game.persistentEffects ↔
      game.persistentEffects.findEffectsToCleanupAtEot = [] := by
    rw [hundone.persistentEffects, heffects,
      ← hdiscarded.same.persistentEffects]
    exact discarded.persistentEffects.removeMany_filter_eq_self_iff _
  have htriggersIff : undone.delayedTriggers = game.delayedTriggers ↔
      ∀ trigger ∈ game.delayedTriggers.triggers,
        trigger.expiry ≠ some .endOfTurn := by
    rw [hundone.delayedTriggers, htriggers,
      ← hdiscarded.same.delayedTriggers]
    exact cleanupEndOfTurn_eq_self_iff discarded.delayedTriggers
  rw [hsamePlayers] at hshields hflags hemptied
  constructor
  · intro hrestored
    have hpoolsBack := hrestored.pools
    have hshieldsBack := hrestored.shields
    have hflagsBack := hrestored.flags
    rw [hundone.players] at hpoolsBack hshieldsBack hflagsBack
    rw [hpools] at hpoolsBack
    constructor
    · intro id hid p hp
      apply hemptied.mp hpoolsBack id
      · rcases hid with rfl | hid
        · exact .inl rfl
        · rw [hother] at hid
          exact .inr (Option.some.inj hid).symm
      · rw [hgetPlayer]
        exact hp
    · intro p hp
      have hshield := hshields.mp hshieldsBack p hp
      have hflag := hflags.mp hflagsBack p hp
      simp only [Prod.mk.injEq] at hshield hflag
      exact ⟨hshield.1, hshield.2, hflag.1, hflag.2⟩
    · have hclean := hmarks.mp fun id hid => by
        rw [← hundoneMarks, hrestored.permanents id
          (hdiscarded.battlefield ▸ hid)]
        exact (hmasks id).symm
      exact hback.mp hclean
    · exact heffectsIff.mp hrestored.persistentEffects
    · exact htriggersIff.mp hrestored.delayedTriggers
  · intro hnothing
    constructor
    · rw [hundone.players, hpools, hemptied]
      intro id hid p hp
      rw [hgetPlayer] at hp
      apply hnothing.pools id _ p hp
      rcases hid with rfl | rfl
      · exact .inl rfl
      · exact .inr hother
    · rw [hundone.players, hshields]
      intro p hp
      have hclean := hnothing.players p hp
      rw [hclean.prevention, hclean.shields]
    · rw [hundone.players, hflags]
      intro p hp
      have hclean := hnothing.players p hp
      rw [hclean.sanctuary, hclean.countered]
    · intro id hid
      rw [hundoneMarks, ← hmasks]
      apply hmarks.mpr
      · exact hback.mpr hnothing.permanents
      · rw [← hdiscarded.battlefield] at hid
        exact hid
    · exact heffectsIff.mpr hnothing.persistentEffects
    · exact htriggersIff.mpr hnothing.delayedTriggers

/-- The end of the turn logs nothing. -/
theorem finishTurn_undoLog (game : GameState) (first second : PlayerId) :
    (game.finishTurn [first, second]).undoLog = game.undoLog := by
  obtain ⟨-, hlog, -⟩ := finishTurn_frame game [first, second]
  exact hlog

theorem finishTurn_isSome (game : GameState) (first second : PlayerId)
    (i : Nat) :
    ((game.finishTurn [first, second]).cards.tryGet i).isSome =
      (game.cards.tryGet i).isSome := by
  have hcards : (game.finishTurn [first, second]).cards =
      ((game.emptyManaPools [first,
        second]).cleanupEndOfTurn).clearPermanents.cards := by
    rw [finishTurn]
    rfl
  rw [hcards, clearPermanents_tryGet, Option.isSome_map]
  rfl

/-- Discards that end the step early leave nothing for their undo to miss. -/
theorem Discarding.restored {after : GameState} {actions : List GameAction}
    (hdiscarded : Discarding game after) (hlogs : Logs game after actions) :
    (undoAll actions after).CleanupRestored game := by
  obtain ⟨logged, hlogged, hundo⟩ := hdiscarded.undone
  rw [hlogs.unique hlogged]
  have hback := (hundo after hdiscarded.same.cards.isSome).trans
    hdiscarded.same
  constructor
  · rw [hback.players]
  · rw [hback.players]
  · rw [hback.players]
  · intro id _
    exact SameView.of_unmasked (fun _ => rfl) hback.cards id.raw
  · exact hback.persistentEffects
  · exact hback.delayedTriggers

end Finish

/-- The undo of a cleanup step brings everything back just when nothing ends
with the turn, or when the step does not get to the end of the turn. -/
theorem cleanupStep_restores_iff (executor : EffectExecutor) (depth : Nat)
    (loop : CleanupLoop) {game after : GameState}
    {actions : List GameAction}
    {result : Except MtgError (Option GameResult)}
    (henabled : game.undoLog.enabled = true)
    (hunwatched : ∀ id ∈ game.cleanupDiscards loop, game.Unwatched id)
    (hstep : cleanupStep executor depth loop game = some (after, result))
    (hlogs : Logs game after actions) :
    (undoAll actions after).CleanupRestored game ↔
      ((∃ discarded, discardToHandSize executor depth loop game
          game.turn.activePlayer = some (discarded, .ok none)) →
        game.NothingEnds) := by
  rw [cleanupStep] at hstep
  cases hother : game.getOtherPlayerId game.turn.activePlayer with
  | none =>
      rw [hother] at hstep
      cases hstep
  | some other =>
      rw [hother] at hstep
      dsimp only at hstep
      cases hdiscards : discardToHandSize executor depth loop game
          game.turn.activePlayer with
      | none =>
          rw [hdiscards] at hstep
          cases hstep
      | some discards =>
          obtain ⟨discarded, early⟩ := discards
          have hcases := discardToHandSize_cases executor depth henabled
            hunwatched hdiscards
          rw [hdiscards] at hstep
          have hstay (heq : after = discarded)
              (hearly : early ≠ .ok none) :
              (undoAll actions after).CleanupRestored game ↔
                ((∃ ended, some (discarded, early) =
                  some (ended, .ok none)) → game.NothingEnds) := by
            subst heq
            constructor
            · rintro - ⟨_, hended⟩
              cases hended
              exact absurd rfl hearly
            · intro _
              rcases hcases with hdiscarding | ⟨-, hshorter⟩
              · exact hdiscarding.restored hlogs
              · rw [hlogs.actions, List.length_append] at hshorter
                omega
          rcases early with error | early | stopped
          · cases hstep
            exact hstay rfl nofun
          · cases hstep
            rcases hcases with hdiscarding | ⟨hnone, -⟩
            · obtain ⟨logged, hlogged, hundo⟩ := hdiscarding.undone
              have hended : Logs game (discarded.finishTurn
                  [game.turn.activePlayer, other]) logged :=
                hlogged.of_undoLog (finishTurn_undoLog _ _ _)
              rw [hlogs.unique hended,
                finishTurn_restored_iff hother hdiscarding
                  (hundo _ fun i => (finishTurn_isSome _ _ _ i).trans
                    (hdiscarding.same.cards.isSome i))]
              exact ⟨fun hnothing _ => hnothing,
                fun hnothing => hnothing ⟨_, rfl⟩⟩
            · cases hnone
          · cases hstep
            exact hstay rfl nofun

/-- Eight cards in hand, and mana that was not spent. -/
def fullHand (floating : ManaPool) : GameState where
  cards := ⟨(List.range 8).map fun i => some
    { id := ⟨i⟩, owner := ⟨0⟩, controller := ⟨0⟩ }⟩
  players := [{ id := ⟨0⟩, manaPool := floating }, { id := ⟨1⟩ }]
  zones := { playerZones :=
    [(⟨0⟩, { hand := (List.range 8).map CardId.mk }), (⟨1⟩, {})] }
  turn := { activePlayer := ⟨0⟩ }

/-- Discard from the front of the hand. -/
def discardFirst : CleanupLoop where
  checkStopConditions _ _ := none
  choiceCounter := 0
  replayDiscard cards := ⟨cards.length⟩
  chooseDiscard _ _ hand n := .ok (hand.take n)

theorem cleanupStep_restores_discard :
    ∃ after actions, cleanupStep idleExecutor 1 discardFirst (fullHand {}) =
        some (after, .ok none) ∧ Logs (fullHand {}) after actions ∧
      (undoAll actions after).CleanupRestored (fullHand {}) := by
  refine ⟨_, _, rfl, ⟨rfl, rfl⟩, ?_⟩
  apply (cleanupStep_restores_iff idleExecutor 1 discardFirst rfl _ rfl
    ⟨rfl, rfl⟩).mpr
  · intro _
    constructor
    · rintro id (rfl | hid) p hp
      · cases hp
        rfl
      · cases hid
        cases hp
        rfl
    · intro p hp
      rcases List.mem_pair.mp hp with rfl | rfl
      · exact ⟨rfl, rfl, rfl, rfl⟩
      · exact ⟨rfl, rfl, rfl, rfl⟩
    · intro id hid
      cases hid
    · rfl
    · intro trigger htrigger
      cases htrigger
  · intro id hid
    rw [show (fullHand {}).cleanupDiscards discardFirst = [⟨0⟩] from rfl]
      at hid
    rw [List.mem_singleton.mp hid]
    exact ⟨rfl, rfl⟩

/-- The mana is gone for good. -/
theorem cleanupStep_loses_mana :
    ∃ after actions,
      cleanupStep idleExecutor 1 discardFirst (fullHand { red := 1 }) =
        some (after, .ok none) ∧
      Logs (fullHand { red := 1 }) after actions ∧
      (fullHand { red := 1 }).undoLog.enabled = true ∧
      ¬(undoAll actions after).CleanupRestored (fullHand { red := 1 }) := by
  refine ⟨_, _, rfl, ⟨rfl, rfl⟩, rfl, ?_⟩
  intro hrestored
  have hpools := hrestored.pools
  revert hpools
  decide

end GameState

end DeepScry
