/-
The invariant that no card is lost or doubled.  It looks at the zones, at the
log as a trail back, at the owners of the cards and at the delayed triggers;
each stage of a move keeps it.
-/
import DeepScry.NeutralSteps

namespace DeepScry

/-- What a run starts with: the cards, the players with zones, the log so far,
and the delayed triggers that may be around. -/
structure Deal where
  ids : List CardId
  owners : List PlayerId
  base : List GameAction
  fine : DelayedTrigger → Prop

/-- Every card in the store has an owner in the list. -/
def OwnersWithin (owners : List PlayerId) (cards : EntityStore Card) : Prop :=
  ∀ i card, cards.tryGet i = some card → card.owner ∈ owners

namespace OwnersWithin

variable {owners : List PlayerId} {cards : EntityStore Card}

theorem sameView (hwithin : OwnersWithin owners cards)
    {other : EntityStore Card}
    (hsame : GameState.SameView GameState.ownerView other cards) :
    OwnersWithin owners other := by
  intro i card hcard
  have hview := hsame i
  rw [hcard, Option.map_some] at hview
  obtain ⟨before, hbefore, howner⟩ := Option.map_eq_some_iff.mp hview.symm
  have hmem := hwithin i before hbefore
  rwa [show before.owner = card.owner from howner] at hmem

theorem modify (hwithin : OwnersWithin owners cards) (id : Nat)
    {f : Card → Card}
    (hf : ∀ c, GameState.ownerView (f c) = GameState.ownerView c) :
    OwnersWithin owners (cards.modify id f) :=
  hwithin.sameView (GameState.sameView_modify hf cards id)

theorem clear (hwithin : OwnersWithin owners cards) (id : Nat) :
    OwnersWithin owners (cards.clear id) := by
  intro i card hcard
  rw [EntityStore.tryGet, EntityStore.clear, List.getElem?_modify] at hcard
  apply hwithin i card
  rw [EntityStore.tryGet]
  split at hcard
  · cases hslot : cards.entities[i]? <;> simp [hslot] at hcard
  · simpa using hcard

theorem clearAndTruncate (hwithin : OwnersWithin owners cards) (id : Nat) :
    OwnersWithin owners (cards.clearAndTruncate id) := by
  intro i card hcard
  apply hwithin.clear id i card
  rw [EntityStore.tryGet, Option.join_eq_some_iff] at hcard ⊢
  obtain ⟨dropped, hdropped⟩ := List.rdropWhile_prefix Option.isNone
    (cards.clear id).entities
  rw [← hdropped]
  have hlt := (List.getElem?_eq_some_iff.mp hcard).1
  exact (List.getElem?_append_left hlt).trans hcard

end OwnersWithin

namespace GameState

/-- The log since the start is a trail back from these zones, the players have
their zones, and the cards and triggers are as they may be. -/
structure Kept (deal : Deal) (zones : Zones) (game : GameState) : Prop where
  owners : zones.owners = deal.owners
  cardOwners : OwnersWithin deal.owners game.cards
  triggers : ∀ trigger ∈ game.delayedTriggers.triggers, deal.fine trigger
  logged : ∃ actions, game.undoLog.actions = deal.base ++ actions ∧
    (game.undoLog.enabled = false → actions = []) ∧
    (∀ trigger, .fireDelayedTrigger trigger ∈ actions → deal.fine trigger) ∧
    Trail deal.ids actions zones

/-- The invariant of a run. -/
def Conserved (deal : Deal) (game : GameState) : Prop :=
  Kept deal game.zones game

namespace Kept

variable {deal : Deal} {zones : Zones} {game : GameState}

theorem withZones (hkept : Kept deal zones game) (other : Zones) :
    Kept deal zones { game with zones := other } :=
  ⟨hkept.owners, hkept.cardOwners, hkept.triggers, hkept.logged⟩

/-- Cards in zones that are alike are as good. -/
theorem neutral (hkept : Kept deal zones game) {after : GameState}
    (hneutral : Neutral game after) : Kept deal zones after := by
  obtain ⟨actions, hactions, hidle, hfine, htrail⟩ := hkept.logged
  obtain ⟨henabled, newer, hnewer, hquiet, hidleNewer⟩ := hneutral.logged
  refine ⟨hkept.owners, hkept.cardOwners.sameView hneutral.owners, ?_,
    actions ++ newer, ?_, ?_, ?_, ?_⟩
  · rw [hneutral.triggers]
    exact hkept.triggers
  · rw [hnewer, hactions, List.append_assoc]
  · intro hdisabled
    rw [henabled] at hdisabled
    rw [hidle hdisabled, hidleNewer hdisabled]
    rfl
  · intro trigger hmem
    rcases List.mem_append.mp hmem with hold | hnew
    · exact hfine trigger hold
    · cases hquiet _ hnew
  · apply htrail.append_quiet
    intro action haction
    exact GameAction.undoZones_of_isQuiet (hquiet action haction)

/-- Logging a change of the zones whose undo leads back. -/
theorem log (hkept : Kept deal zones game) {action : GameAction}
    {changed : Zones} (hcards : changed.allCards.Perm zones.allCards)
    (howners : changed.owners = zones.owners)
    (hundo : (action.undoZones changed).Alike zones)
    (hfine : ∀ trigger, action = .fireDelayedTrigger trigger →
      deal.fine trigger) (priorLogSize : Nat) :
    Kept deal changed (game.logAction action priorLogSize) := by
  obtain ⟨actions, hactions, hidle, hfineOld, htrail⟩ := hkept.logged
  have hids : changed.allCards.Perm deal.ids := hcards.trans htrail.allCards
  refine ⟨howners.trans hkept.owners, hkept.cardOwners, hkept.triggers, ?_⟩
  rw [logAction, UndoLog.log]
  dsimp only
  split
  · next henabled =>
    refine ⟨actions ++ [action], ?_, ?_, ?_, .snoc hids (htrail.alike hundo)⟩
    · change game.undoLog.actions ++ [action] = _
      rw [hactions, List.append_assoc]
    · intro hdisabled
      rw [henabled] at hdisabled
      cases hdisabled
    · intro trigger hmem
      rcases List.mem_append.mp hmem with hold | hnew
      · exact hfineOld trigger hold
      · exact hfine trigger (List.mem_singleton.mp hnew).symm
  · next hdisabled =>
    obtain rfl := hidle (Bool.not_eq_true _ ▸ hdisabled)
    exact ⟨[], hactions, fun _ => rfl, hfineOld, .nil hids⟩

end Kept

namespace Conserved

variable {deal : Deal} {game : GameState}

theorem neutral (hconserved : Conserved deal game) {after : GameState}
    (hneutral : Neutral game after) : Conserved deal after := by
  have hkept := Kept.neutral hconserved hneutral
  rwa [← hneutral.zones] at hkept

theorem mem_owners (hconserved : Conserved deal game) {id : CardId}
    {card : Card} (hcard : game.card? id = some card) :
    card.owner ∈ deal.owners :=
  hconserved.cardOwners id.raw card hcard

theorem ownerOr_mem (hconserved : Conserved deal game) (id : CardId)
    {player : PlayerId} (hplayer : player ∈ deal.owners) :
    game.ownerOr id player ∈ deal.owners := by
  rw [ownerOr]
  cases hcard : game.card? id with
  | none => exact hplayer
  | some card => exact hconserved.mem_owners hcard

/-- One more delayed trigger that may be around. -/
theorem addTrigger (hconserved : Conserved deal game)
    {trigger : DelayedTrigger}
    (hfine : ∀ id, deal.fine { trigger with id := id }) :
    Conserved deal
      { game with delayedTriggers := (game.delayedTriggers.add trigger).2 } := by
  refine ⟨hconserved.owners, hconserved.cardOwners, ?_, hconserved.logged⟩
  intro other hother
  rcases List.mem_append.mp hother with hold | hnew
  · exact hconserved.triggers other hold
  · rw [List.mem_singleton.mp hnew]
    exact hfine _

/-- A trigger taken out of the store and logged. -/
theorem takeTrigger (hconserved : Conserved deal game)
    {id : DelayedTriggerId} {trigger : DelayedTrigger}
    (htaken : (game.delayedTriggers.remove id).1 = some trigger)
    (priorLogSize : Nat) :
    deal.fine trigger ∧
      Conserved deal ({ game with
        delayedTriggers := (game.delayedTriggers.remove id).2
        : GameState }.logAction (.fireDelayedTrigger trigger)
          priorLogSize) := by
  have hfine : deal.fine trigger :=
    hconserved.triggers trigger (List.mem_of_find?_eq_some htaken)
  refine ⟨hfine, ?_⟩
  have htrimmed : Kept deal game.zones
      { game with delayedTriggers := (game.delayedTriggers.remove id).2 } := by
    refine ⟨hconserved.owners, hconserved.cardOwners, ?_, hconserved.logged⟩
    intro other hother
    exact hconserved.triggers other (List.mem_of_mem_eraseP hother)
  apply htrimmed.log (.refl _) rfl (Zones.Alike.refl _)
  rintro other ⟨⟩
  exact hfine

/-- A card that is found leaves its zone and joins another, with the action
logged after steps that move nothing. -/
theorem passCard (hconserved : Conserved deal game) {id : CardId}
    {fromZone : Zone} {owner : PlayerId}
    (hheld : game.zones.holds fromZone owner id = true)
    (howner : owner ∈ deal.owners) {toZone : Zone} {changed : Zones}
    (hchanged : changed.Alike
      (game.zones.afterMove id fromZone toZone owner))
    (howners : changed.owners = game.zones.owners) {entered : GameState}
    (hentered : Neutral { game with zones := changed } entered)
    (position : Option UInt32) (priorLogSize : Nat) :
    Conserved deal (entered.logAction
      (.moveCard id fromZone toZone owner position) priorLogSize) := by
  have hzones : owner ∈ game.zones.owners := by
    rwa [hconserved.owners]
  have hsome := Zones.mem_owners_iff.mp hzones
  have hkept := (hconserved.withZones changed).neutral hentered
  have hback : ((GameAction.moveCard id fromZone toZone owner
      position).undoZones changed).Alike game.zones := by
    apply (GameAction.undoZones_alike _ hchanged).trans
    rw [GameAction.undoZones, if_pos (Zones.holds_afterMove hsome _ _ _)]
    exact Zones.putBack_afterMove_alike hheld toZone position
  have hlogged := hkept.log
    (hchanged.allCards.trans (Zones.allCards_afterMove hheld hzones toZone))
    howners hback (fun _ heq => by cases heq) priorLogSize
  rw [Conserved]
  have hlast : (entered.logAction (.moveCard id fromZone toZone owner position)
      priorLogSize).zones = changed := hentered.zones
  rwa [hlast]

theorem relocate (hconserved : Conserved deal game) {id : CardId}
    {fromZone : Zone} {owner : PlayerId}
    (hheld : game.zones.holds fromZone owner id = true)
    (howner : owner ∈ deal.owners) (toZone : Zone) :
    Conserved deal (game.relocate id fromZone toZone owner) := by
  have hentered : Neutral (game.changeZone id fromZone toZone owner)
      (if toZone = .battlefield then
        (game.changeZone id fromZone toZone owner).entersBattlefield id owner
      else game.changeZone id fromZone toZone owner) := by
    split
    · exact entersBattlefield_neutral _ id owner
    · exact .refl _
  rw [GameState.relocate]
  apply Conserved.neutral _ (cleanupPersistentEffects_neutral _ id fromZone)
  apply Conserved.neutral _ (resetIfLeft_neutral _ id fromZone)
  apply Conserved.neutral _ (updateManaCaches_neutral _ id fromZone toZone)
  apply Conserved.neutral _ (reportMove_neutral _ id fromZone toZone)
  apply hconserved.passCard hheld howner (Zones.Alike.refl _) _ hentered
  rw [Zones.afterMove, Zones.owners_modify, Zones.owners_modify]

theorem finishMove (hconserved : Conserved deal game) {owner : PlayerId}
    (howner : owner ∈ deal.owners) (id : CardId) (fromZone toZone : Zone) :
    Conserved deal (game.finishMove id fromZone toZone owner).1 := by
  rw [GameState.finishMove]
  split
  · next hheld => exact hconserved.relocate hheld howner toZone
  · exact hconserved

theorem moveUntilTriggers (hconserved : Conserved deal game)
    {owner : PlayerId} (howner : owner ∈ deal.owners) (id : CardId)
    (fromZone toZone : Zone) :
    Conserved deal (game.moveUntilTriggers id fromZone toZone owner).1 := by
  have hreported : Neutral game
      (if game.commanderReplaces id toZone then game.message else game) := by
    split
    · exact (Neutral.refl game).message
    · exact .refl game
  have hprepared := hconserved.neutral (hreported.trans
    (prepareMove_neutral _ id fromZone (game.moveDestination id toZone)
      owner))
  exact hprepared.finishMove howner id fromZone _

end Conserved

namespace Conserved

variable {deal : Deal} {game : GameState} {player : PlayerId}
  {own : PlayerZones}

/-- Cards change places within the zones of a player, and the log says where
they were. -/
theorem reorder (hconserved : Conserved deal game)
    (hown : game.zones.getPlayerZones player = some own)
    {f : PlayerZones → PlayerZones}
    (hcards : (f own).allCards.Perm own.allCards) {action : GameAction}
    (hundo : action.undoZones (game.zones.modifyPlayerZones player f) =
      game.zones)
    (hfire : ∀ trigger, action ≠ .fireDelayedTrigger trigger)
    (priorLogSize : Nat) :
    Conserved deal { game.logAction action priorLogSize with
      zones := game.zones.modifyPlayerZones player f } := by
  have hback := Zones.Alike.refl game.zones
  nth_rewrite 1 [← hundo] at hback
  have hkept := Kept.log hconserved
    (Zones.allCards_modifyPlayerZones hown hcards)
    (Zones.owners_modifyPlayerZones _ _ _) hback
    (fun trigger heq => absurd heq (hfire trigger)) priorLogSize
  exact hkept.withZones _

/-- What taking a part of the snapshot out of the library leaves. -/
theorem count_erase_snapshot {library taken : List CardId} {count : Nat}
    (htaken : taken.Perm (library.reverse.take count)) (id : CardId) :
    (taken.foldl List.erase library).count id + taken.count id =
      library.count id := by
  have hsub : taken.Subperm library :=
    htaken.subperm.trans ((List.take_sublist count _).subperm.trans
      (List.reverse_perm library).subperm)
  rw [← List.diff_eq_foldl]
  have hrest := (List.subperm_append_diff_self_of_count_le
    (fun id _ => hsub.count_le id)).count_eq id
  rw [List.count_append] at hrest
  omega

theorem logLibraryReorder_of_some
    (hown : game.zones.getPlayerZones player = some own)
    (includeGraveyard : Bool) :
    game.logLibraryReorder player includeGraveyard =
      game.logAction (.reorderLibrary player own.library
        (if includeGraveyard then some own.graveyard else none))
        game.logger.logCount := by
  rw [logLibraryReorder, hown]

theorem queueLibraryReorder (hconserved : Conserved deal game)
    (player : PlayerId) (changed : Bool) :
    Conserved deal (game.queueLibraryReorder player changed) := by
  obtain ⟨pending, hqueue⟩ := game.queueLibraryReorder_eq player changed
  rw [hqueue]
  exact hconserved.neutral ⟨rfl, .refl _, rfl, .refl _⟩

theorem scryApplyDecision (hconserved : Conserved deal game)
    (player : PlayerId) (count : UInt8) {decision : ScryDecision}
    (hparts : (decision.top ++ decision.bottom).Perm
      (game.scrySnapshotTopN player count)) :
    Conserved deal (game.scryApplyDecision player
      (game.scrySnapshotTopN player count) decision) := by
  rw [GameState.scryApplyDecision]
  split
  · exact hconserved
  · next hrevealed =>
    cases hown : game.zones.getPlayerZones player with
    | none =>
        rw [scrySnapshotTopN, hown] at hrevealed
        exact absurd rfl hrevealed
    | some own =>
        rw [scrySnapshotTopN, hown] at hparts
        have hmessage := hconserved.neutral (Neutral.refl game).message
        have hlog := @logLibraryReorder_of_some game.message _ _ hown false
        rw [hlog, scrySnapshotTopN, hown]
        apply Conserved.queueLibraryReorder
        apply hmessage.reorder hown
        · rw [List.perm_iff_count]
          intro id
          have hrest := count_erase_snapshot
            (List.Perm.refl (own.library.reverse.take count.toNat)) id
          have hcount := hparts.count_eq id
          simp only [PlayerZones.applyScry, PlayerZones.allCards,
            List.count_append] at hcount ⊢
          omega
        · rw [GameAction.undoZones, Zones.modifyPlayerZones_modifyPlayerZones]
          apply Zones.modifyPlayerZones_eq_self
          intro other hother
          cases hown.symm.trans hother
          rfl
        · simp

theorem surveilApplyDecision (hconserved : Conserved deal game)
    (player : PlayerId) (count : UInt8) {decision : SurveilDecision}
    (hparts : (decision.top ++ decision.graveyard).Perm
      (game.surveilSnapshotTopN player count)) :
    Conserved deal (game.surveilApplyDecision player
      (game.surveilSnapshotTopN player count) decision) := by
  rw [GameState.surveilApplyDecision]
  split
  · exact hconserved
  · next hrevealed =>
    rw [surveilSnapshotTopN, scrySnapshotTopN] at hrevealed hparts
    cases hown : game.zones.getPlayerZones player with
    | none =>
        rw [hown] at hrevealed
        exact absurd rfl hrevealed
    | some own =>
        rw [hown] at hparts
        have hmessage := hconserved.neutral (Neutral.refl game).message
        have hlog := @logLibraryReorder_of_some game.message _ _ hown true
        rw [hlog]
        apply Conserved.queueLibraryReorder
        apply hmessage.reorder hown
        · rw [List.perm_iff_count]
          intro id
          have hrest := count_erase_snapshot
            (List.perm_append_comm.trans hparts) id
          rw [List.foldl_append, List.count_append] at hrest
          simp only [PlayerZones.applySurveil, PlayerZones.allCards,
            List.count_append]
          omega
        · rw [GameAction.undoZones, Zones.modifyPlayerZones_modifyPlayerZones]
          apply Zones.modifyPlayerZones_eq_self
          intro other hother
          cases hown.symm.trans hother
          rfl
        · simp

end Conserved

end GameState

end DeepScry
