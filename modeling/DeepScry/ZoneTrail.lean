/-
What undoing does to the zones alone.  The actions of a log are a trail for
some cards when undoing them one by one leaves just these cards each time.
-/
import DeepScry.PutBack
import DeepScry.UndoFrame
import DeepScry.ZoneCount

namespace DeepScry

namespace Zones

/-- A change that keeps the cards of the zone gives zones that are alike. -/
theorem modify_alike {zones : Zones} {zone : Zone} {owner : PlayerId}
    {f : List CardId → List CardId}
    (hf : ∀ cards, zones.cardsIn zone owner = some cards →
      (f cards).Perm cards) : (zones.modify zone owner f).Alike zones := by
  classical
  let g (cards : List CardId) : List CardId :=
    if (f cards).Perm cards then f cards else cards
  have hg : ∀ cards, (g cards).Perm cards := by
    intro cards
    by_cases hperm : (f cards).Perm cards
    · simpa only [g, if_pos hperm] using hperm
    · simp only [g, if_neg hperm, List.Perm.refl]
  have hfg : zones.modify zone owner f = zones.modify zone owner g := by
    apply modify_congr
    intro cards hcards
    simp only [g, if_pos (hf cards hcards)]
  have halike := (Alike.refl zones).modify (f := g) (g := id)
    (fun l _ hperm => (hg l).trans hperm) zone owner
  rwa [modify_id, ← hfg] at halike

/-- Two ways to write the entry of a player. -/
theorem modifyPlayerZones_alike {zones : Zones} {player : PlayerId}
    {f g : PlayerZones → PlayerZones}
    (hfg : ∀ own, zones.getPlayerZones player = some own →
      (f own).Alike (g own)) :
    (zones.modifyPlayerZones player f).Alike
      (zones.modifyPlayerZones player g) := by
  refine ⟨.refl _, .refl _, ?_⟩
  simp only [modifyPlayerZones]
  have hentry : ∀ own, (zones.playerZones.find?
      fun entry => entry.1 == player).map Prod.snd = some own →
        (f own).Alike (g own) := hfg
  generalize zones.playerZones = entries at hentry ⊢
  induction entries with
  | nil => exact .nil
  | cons entry rest ih =>
      rw [FirstMatch.modifyFirst, FirstMatch.modifyFirst]
      rw [List.find?_cons] at hentry
      cases hplayer : entry.1 == player with
      | true =>
          rw [hplayer] at hentry
          exact .cons ⟨rfl, hentry entry.2 rfl⟩
            (List.forall₂_same.mpr fun entry _ => ⟨rfl, .refl entry.2⟩)
      | false =>
          rw [hplayer] at hentry
          exact .cons ⟨rfl, .refl entry.2⟩ (ih hentry)

/-- Writing what is there. -/
theorem modifyPlayerZones_eq_self {zones : Zones} {player : PlayerId}
    {f : PlayerZones → PlayerZones}
    (hf : ∀ own, zones.getPlayerZones player = some own → f own = own) :
    zones.modifyPlayerZones player f = zones := by
  have hid : zones.modifyPlayerZones player f =
      zones.modifyPlayerZones player id := modifyPlayerZones_congr hf
  rw [hid, modifyPlayerZones]
  exact congrArg (fun entries => { zones with playerZones := entries })
    (FirstMatch.modifyFirst_id _ _)

/-- Cards that change places within the zones of a player. -/
theorem allCards_modifyPlayerZones {zones : Zones} {player : PlayerId}
    {own : PlayerZones} (hown : zones.getPlayerZones player = some own)
    {f : PlayerZones → PlayerZones}
    (hf : (f own).allCards.Perm own.allCards) :
    (zones.modifyPlayerZones player f).allCards.Perm zones.allCards := by
  rw [List.perm_iff_count]
  intro id
  have hcount := count_allCards_modifyPlayerZones hown f id
  have hsame := hf.count_eq id
  omega

/-- A card that moves between zones of a player that has them is neither lost
nor doubled. -/
theorem allCards_afterMove {zones : Zones} {id : CardId}
    {fromZone : Zone} {owner : PlayerId}
    (hheld : zones.holds fromZone owner id = true)
    (howner : owner ∈ zones.owners) (toZone : Zone) :
    (zones.afterMove id fromZone toZone owner).allCards.Perm
      zones.allCards := by
  obtain ⟨before, behind, -, hcards, -⟩ := split_of_holds hheld
  rw [← owners_modify zones fromZone owner fun cards => cards.erase id,
    mem_owners_iff] at howner
  obtain ⟨joined, hjoined⟩ := cardsIn_isSome howner toZone
  rw [List.perm_iff_count]
  intro other
  have hleft := count_allCards_modify hcards (fun cards => cards.erase id)
    other
  have hentered := count_allCards_modify hjoined (fun cards => cards ++ [id])
    other
  have herased := (List.perm_cons_erase
    (List.mem_append_cons_self : id ∈ before ++ id :: behind)).count_eq other
  rw [List.count_cons] at herased
  simp only [List.count_append, List.count_singleton] at hentered
  rw [afterMove]
  omega

/-- Where a card is put back. -/
def reinsert (id : CardId) (position : Option UInt32) (cards : List CardId) :
    List CardId :=
  match position with
  | some position => addAt cards id position.toNat
  | none => cards ++ [id]

theorem reinsert_perm (id : CardId) (position : Option UInt32)
    (cards : List CardId) : (reinsert id position cards).Perm (id :: cards) := by
  rcases position with - | position
  · exact List.perm_append_singleton id cards
  · exact List.perm_insertIdx _ _ (Nat.min_le_right _ _)

theorem reinsert_respects (id : CardId) (position : Option UInt32)
    (cards cards' : List CardId) (hperm : cards.Perm cards') :
    (reinsert id position cards).Perm (reinsert id position cards') :=
  ((reinsert_perm id position cards).trans (hperm.cons id)).trans
    (reinsert_perm id position cards').symm

theorem putBack_eq (zones : Zones) (id : CardId) (fromZone toZone : Zone)
    (owner : PlayerId) (position : Option UInt32) :
    zones.putBack id fromZone toZone owner position =
      (zones.modify toZone owner fun cards => cards.erase id).modify fromZone
        owner (reinsert id position) := rfl

/-- A card that moved, taken out of its new zone again. -/
theorem erase_afterMove_alike (zones : Zones) (id : CardId)
    (fromZone toZone : Zone) (owner : PlayerId) :
    ((zones.afterMove id fromZone toZone owner).modify toZone owner
      fun cards => cards.erase id).Alike
        (zones.modify fromZone owner fun cards => cards.erase id) := by
  rw [afterMove, modify_modify]
  apply modify_alike
  intro cards _
  have hback := (List.perm_append_singleton id cards).erase id
  rwa [List.erase_cons_head] at hback

/-- Putting a card back that just moved gives zones alike to those before. -/
theorem putBack_afterMove_alike {zones : Zones} {id : CardId}
    {fromZone : Zone} {owner : PlayerId}
    (hheld : zones.holds fromZone owner id = true) (toZone : Zone)
    (position : Option UInt32) :
    ((zones.afterMove id fromZone toZone owner).putBack id fromZone toZone
      owner position).Alike zones := by
  have hback := (erase_afterMove_alike zones id fromZone toZone
    owner).modify (reinsert_respects id position) fromZone owner
  rw [putBack_eq]
  refine hback.trans ?_
  rw [modify_modify]
  apply modify_alike
  intro cards hcards
  obtain ⟨before, behind, -, hheldCards, -⟩ := split_of_holds hheld
  rw [hcards] at hheldCards
  cases hheldCards
  exact (reinsert_perm id position _).trans
    (List.perm_cons_erase List.mem_append_cons_self).symm

/-- Moves of a card one after the other are one move. -/
theorem afterMove_afterMove_alike (zones : Zones) (id : CardId)
    (first second third : Zone) (owner : PlayerId) :
    ((zones.afterMove id first second owner).afterMove id second third
      owner).Alike (zones.afterMove id first third owner) :=
  (erase_afterMove_alike zones id first second owner).modify
    (fun _ _ hperm => hperm.append (.refl [id])) third owner

/-- A card that leaves its zone and comes back. -/
theorem afterMove_self_alike {zones : Zones} {id : CardId} {zone : Zone}
    {owner : PlayerId} (hheld : zones.holds zone owner id = true) :
    (zones.afterMove id zone zone owner).Alike zones := by
  rw [afterMove, modify_modify]
  apply modify_alike
  intro cards hcards
  obtain ⟨before, behind, -, hheldCards, -⟩ := split_of_holds hheld
  rw [hcards] at hheldCards
  cases hheldCards
  exact (List.perm_append_singleton id _).trans
    (List.perm_cons_erase List.mem_append_cons_self).symm

/-- A card that really moved is missing in its zone. -/
theorem not_afterMove_alike {zones : Zones} {id : CardId}
    {fromZone toZone : Zone} {owner : PlayerId}
    (hheld : zones.holds fromZone owner id = true) (hne : fromZone ≠ toZone) :
    ¬ (zones.afterMove id fromZone toZone owner).Alike zones := by
  intro halike
  have hcards := halike.cardsIn fromZone owner
  obtain ⟨before, behind, -, hheldCards, -⟩ := split_of_holds hheld
  rw [afterMove, cardsIn_modify_ne _ hne.symm, cardsIn_modify, hheldCards]
    at hcards
  cases hcards with
  | some hperm =>
      have hlength := hperm.length_eq
      rw [List.length_erase_of_mem List.mem_append_cons_self,
        List.length_append, List.length_cons] at hlength
      omega

end Zones

/-- What the undo of an action does to the zones. -/
def GameAction.undoZones (action : GameAction) (zones : Zones) : Zones :=
  match action with
  | moveCard card fromZone toZone owner fromPosition =>
      if zones.holds toZone owner card then
        zones.putBack card fromZone toZone owner fromPosition
      else zones
  | shuffleLibrary player previousOrder _ =>
      zones.modifyPlayerZones player fun own =>
        { own with library := previousOrder }
  | createEntity card =>
      { zones with battlefield := zones.battlefield.erase card }
  | reorderLibrary player previousOrder previousGraveyard =>
      zones.modifyPlayerZones player fun own =>
        { own with
          library := previousOrder
          graveyard := previousGraveyard.getD own.graveyard }
  | _ => zones

namespace GameAction

open Zones

theorem zones_undoRng (game : GameState) (message : String)
    (saved : Option SavedRng) :
    (game.undoRng message saved).1.zones = game.zones := by
  rcases saved with - | saved
  · rfl
  · simp only [GameState.undoRng]
    split <;> rfl

theorem zones_undo (action : GameAction) (game : GameState) :
    (action.undo game).1.zones = action.undoZones game.zones := by
  cases action with
  | shuffleLibrary player previousOrder rngState =>
      simp only [undo, undoZones]
      split
      · rw [zones_undoRng]
      · next hnone => exact (modifyPlayerZones_of_none hnone _).symm
  | _ =>
      simp only [undo, undoZones, GameState.undoCard, GameState.undoPlayer,
        GameState.undoMove, GameState.undoReveal, zones_undoRng] <;>
      repeat' (first | rfl | split)

theorem owners_undoZones (action : GameAction) (zones : Zones) :
    (action.undoZones zones).owners = zones.owners := by
  cases action <;>
    first
    | rfl
    | exact owners_modifyPlayerZones zones _ _
    | rw [undoZones]
      split
      · rw [putBack_eq, owners_modify, owners_modify]
      · rfl

theorem undoZones_alike (action : GameAction) {zones other : Zones}
    (halike : zones.Alike other) :
    (action.undoZones zones).Alike (action.undoZones other) := by
  cases action with
  | moveCard card fromZone toZone owner fromPosition =>
      rw [undoZones, undoZones, halike.holds]
      split
      · rw [putBack_eq, putBack_eq]
        apply Alike.modify
        · apply halike.modify
          intro l l' hperm
          exact hperm.erase card
        · exact reinsert_respects card fromPosition
      · exact halike
  | shuffleLibrary player previousOrder rngState =>
      rw [undoZones, undoZones]
      apply halike.modifyPlayerZones
      intro own own' hown
      exact ⟨.refl _, hown.hand, hown.graveyard, hown.exile, hown.command⟩
  | createEntity card =>
      exact ⟨halike.battlefield.erase card, halike.stack, halike.playerZones⟩
  | reorderLibrary player previousOrder previousGraveyard =>
      rw [undoZones, undoZones]
      apply halike.modifyPlayerZones
      intro own own' hown
      refine ⟨.refl _, hown.hand, ?_, hown.exile, hown.command⟩
      rcases previousGraveyard with - | previous
      · exact hown.graveyard
      · exact .refl _
  | _ => exact halike

/-- Undo a stretch of the log, the newest action last in it, on zones. -/
def undoZonesAll (actions : List GameAction) (zones : Zones) : Zones :=
  actions.foldr GameAction.undoZones zones

theorem undoZonesAll_append (older newer : List GameAction) (zones : Zones) :
    undoZonesAll (older ++ newer) zones =
      undoZonesAll older (undoZonesAll newer zones) := List.foldr_append

theorem undoZonesAll_alike (actions : List GameAction) {zones other : Zones}
    (halike : zones.Alike other) :
    (undoZonesAll actions zones).Alike (undoZonesAll actions other) := by
  induction actions with
  | nil => exact halike
  | cons action rest ih => exact action.undoZones_alike ih

end GameAction

open GameAction

/-- Undoing any number of the actions leaves just these cards. -/
def Trail (ids : List CardId) (actions : List GameAction) (zones : Zones) :
    Prop :=
  ∀ older newer, actions = older ++ newer →
    (undoZonesAll newer zones).allCards.Perm ids

namespace Trail

variable {ids : List CardId} {actions : List GameAction} {zones : Zones}

theorem allCards (htrail : Trail ids actions zones) :
    zones.allCards.Perm ids :=
  htrail actions [] (List.append_nil _).symm

theorem nil (hcards : zones.allCards.Perm ids) : Trail ids [] zones := by
  intro older newer heq
  obtain ⟨-, rfl⟩ := List.append_eq_nil_iff.mp heq.symm
  exact hcards

theorem alike (htrail : Trail ids actions zones) {other : Zones}
    (halike : other.Alike zones) : Trail ids actions other := by
  intro older newer heq
  exact (undoZonesAll_alike newer halike).allCards.trans
    (htrail older newer heq)

/-- One more action: its undo leads back to the trail so far. -/
theorem snoc {action : GameAction} (hcards : zones.allCards.Perm ids)
    (htrail : Trail ids actions (action.undoZones zones)) :
    Trail ids (actions ++ [action]) zones := by
  intro older newer heq
  induction newer using List.reverseRecOn with
  | nil => exact hcards
  | append_singleton newer last _ =>
      rw [← List.append_assoc, List.append_singleton_inj] at heq
      obtain ⟨hactions, rfl⟩ := heq
      rw [undoZonesAll_append]
      exact htrail older newer hactions

theorem undo {action : GameAction}
    (htrail : Trail ids (actions ++ [action]) zones) :
    Trail ids actions (action.undoZones zones) := by
  intro older newer heq
  have hundone := htrail older (newer ++ [action])
    (by rw [heq, List.append_assoc])
  rwa [undoZonesAll_append] at hundone

/-- Actions whose undo leaves the zones alone extend the trail. -/
theorem append_quiet (htrail : Trail ids actions zones)
    {quiet : List GameAction}
    (hquiet : ∀ action ∈ quiet, ∀ zones, action.undoZones zones = zones) :
    Trail ids (actions ++ quiet) zones := by
  induction quiet using List.reverseRecOn with
  | nil => rwa [List.append_nil]
  | append_singleton quiet last ih =>
      rw [← List.append_assoc]
      apply snoc htrail.allCards
      rw [hquiet last (by simp)]
      exact ih fun action haction => hquiet action (by simp [haction])

end Trail

end DeepScry
