/-
Counters over a whole run: the list of a card stays well formed, and when the
undo of the last change restores it with its order.
-/
import DeepScry.AbilityCost
import DeepScry.Counters
import DeepScry.UndoFrame

namespace DeepScry

/-- One entry a kind, and no entry of zero. -/
structure TidyCounters (counters : List (CounterType × UInt8)) : Prop where
  nodup : (counters.map Prod.fst).Nodup
  positive : ∀ entry ∈ counters, 0 < entry.2

/-- A tidy list without a pair that cancels. -/
structure WellFormedCounters (counters : List (CounterType × UInt8)) : Prop
    extends TidyCounters counters where
  apart : counterCount counters .p1p1 = 0 ∨ counterCount counters .m1m1 = 0

theorem wellFormedCounters_nil : WellFormedCounters [] :=
  ⟨⟨List.nodup_nil, by simp⟩, .inl rfl⟩

theorem min8_eq_left {a b : UInt8} (hle : a ≤ b) : min a b = a := by
  rw [UInt8.le_iff_toNat_le] at hle
  rw [← UInt8.toNat_inj, Saturating.min8_toNat, Nat.min_eq_left hle]

theorem min8_eq_right {a b : UInt8} (hle : b ≤ a) : min a b = b := by
  rw [UInt8.le_iff_toNat_le] at hle
  rw [← UInt8.toNat_inj, Saturating.min8_toNat, Nat.min_eq_right hle]

theorem ne_zero_of_pos8 {count : UInt8} (hpos : 0 < count) : count ≠ 0 := by
  rintro rfl
  exact absurd hpos (by decide)

theorem eq_zero_or_pos8 (count : UInt8) : count = 0 ∨ 0 < count := by
  rw [or_comm, UInt8.lt_iff_toNat_lt, ← UInt8.toNat_inj, UInt8.toNat_zero]
  omega

section Lists

variable {counters : List (CounterType × UInt8)} {kind : CounterType}

theorem any_kind_iff :
    (counters.any fun entry => entry.1 == kind) = true ↔
      kind ∈ counters.map Prod.fst := by
  simp

theorem find?_of_kind_mem (hmem : kind ∈ counters.map Prod.fst) :
    ∃ count, counters.find? (fun entry => entry.1 == kind) =
      some (kind, count) := by
  obtain ⟨⟨found, count⟩, hentry, hkind⟩ := List.mem_map.mp hmem
  have hsome : (counters.find? fun entry => entry.1 == kind).isSome := by
    rw [List.find?_isSome]
    exact ⟨_, hentry, by simpa using hkind⟩
  obtain ⟨⟨first, count⟩, hfind⟩ := Option.isSome_iff_exists.mp hsome
  have hfirst := List.find?_some hfind
  rw [beq_iff_eq] at hfirst
  dsimp only at hfirst
  subst hfirst
  exact ⟨count, hfind⟩

theorem mem_of_counterCount_pos (hpos : 0 < counterCount counters kind) :
    (kind, counterCount counters kind) ∈ counters := by
  have hmem := any_kind_iff.mp (any_of_counterCount_pos hpos)
  obtain ⟨count, hfind⟩ := find?_of_kind_mem hmem
  rw [counterCount_eq, hfind]
  exact List.mem_of_find?_eq_some hfind

namespace TidyCounters

/-- In a tidy list a kind without a count has no entry. -/
theorem counterCount_pos_iff (htidy : TidyCounters counters) :
    0 < counterCount counters kind ↔ kind ∈ counters.map Prod.fst := by
  constructor
  · intro hpos
    exact any_kind_iff.mp (any_of_counterCount_pos hpos)
  · intro hmem
    obtain ⟨count, hfind⟩ := find?_of_kind_mem hmem
    rw [counterCount_eq, hfind]
    exact htidy.positive _ (List.mem_of_find?_eq_some hfind)

theorem setCount (htidy : TidyCounters counters) (kind : CounterType)
    (count : UInt8) : TidyCounters (setCount kind count counters) := by
  rw [DeepScry.setCount]
  split
  · constructor
    · exact htidy.nodup.sublist (List.filter_sublist.map Prod.fst)
    · intro entry hmem
      exact htidy.positive entry (List.mem_of_mem_filter hmem)
  · next hcount =>
    constructor
    · rw [FirstMatch.map_modifyFirst]
      · exact htidy.nodup
      · intro entry
        rfl
    · apply FirstMatch.forall_mem_modifyFirst
        (P := fun entry : CounterType × UInt8 => 0 < entry.2)
      · intro entry _ _
        exact (eq_zero_or_pos8 count).resolve_left hcount
      · exact htidy.positive

theorem addEntry (htidy : TidyCounters counters) (kind : CounterType)
    {amount : UInt8} (hamount : amount ≠ 0) :
    TidyCounters (addEntry kind amount counters) := by
  rw [DeepScry.addEntry]
  split
  · exact htidy.setCount kind _
  · next hnone =>
    rw [any_kind_iff] at hnone
    constructor
    · rw [List.map_append]
      apply htidy.nodup.append (List.nodup_singleton kind)
      simpa using hnone
    · intro entry hmem
      simp only [List.mem_append, List.mem_singleton] at hmem
      rcases hmem with hmem | rfl
      · exact htidy.positive entry hmem
      · exact (eq_zero_or_pos8 amount).resolve_left hamount

/-- After pairs are cancelled one of the two kinds is gone. -/
theorem annihilate (htidy : TidyCounters counters) :
    WellFormedCounters (annihilate counters) := by
  have hcancelled : TidyCounters (DeepScry.annihilate counters) := by
    rw [DeepScry.annihilate]
    split
    · exact (htidy.setCount _ _).setCount _ _
    · exact htidy
  refine ⟨hcancelled, ?_⟩
  rw [counterCount_annihilate, counterCount_annihilate,
    if_pos (.inl rfl), if_pos (.inr rfl)]
  rcases Nat.le_total (counterCount counters .p1p1).toNat
    (counterCount counters .m1m1).toNat with hplus | hminus
  · left
    rw [min8_eq_left hplus, UInt8.sub_self]
  · right
    rw [min8_eq_right hminus, UInt8.sub_self]

end TidyCounters

theorem annihilate_of_apart
    (hapart : counterCount counters .p1p1 = 0 ∨
      counterCount counters .m1m1 = 0) :
    annihilate counters = counters := by
  rw [annihilate, if_neg]
  rw [Bool.and_eq_true, decide_eq_true_eq, decide_eq_true_eq]
  rintro ⟨hplus, hminus⟩
  rcases hapart with hzero | hzero
  · rw [hzero] at hplus
    exact absurd hplus (by decide)
  · rw [hzero] at hminus
    exact absurd hminus (by decide)

theorem WellFormedCounters.setCount_sub
    (hwell : WellFormedCounters counters) (kind : CounterType)
    (amount : UInt8) :
    WellFormedCounters
      (setCount kind (counterCount counters kind - min
        (counterCount counters kind) amount) counters) := by
  refine ⟨hwell.toTidyCounters.setCount kind _, ?_⟩
  have hzero (other : CounterType)
      (hother : counterCount counters other = 0) :
      counterCount (setCount kind (counterCount counters kind - min
        (counterCount counters kind) amount) counters) other = 0 := by
    rw [counterCount_setCount]
    split
    · next heq =>
      subst heq
      rw [hother, sub_min8_of_zero (.inl rfl), ite_self]
    · exact hother
  rcases hwell.apart with hplus | hminus
  · exact .inl (hzero _ hplus)
  · exact .inr (hzero _ hminus)

/-- Setting the count twice is setting it once, if the entry stays. -/
theorem setCount_setCount {count count' : UInt8} (hcount : count ≠ 0)
    (hcount' : count' ≠ 0) :
    setCount kind count' (setCount kind count counters) =
      setCount kind count' counters := by
  rw [setCount, setCount, setCount, if_neg hcount, if_neg hcount',
    if_neg hcount', FirstMatch.modifyFirst_modifyFirst]
  · rfl
  · intro entry
    rfl

/-- Without its entry the list is as before up to the place of the entry. -/
theorem append_setCount_zero_iff (htidy : TidyCounters counters)
    {count : UInt8} (hmem : (kind, count) ∈ counters) :
    setCount kind 0 counters ++ [(kind, count)] = counters ↔
      counters.getLast? = some (kind, count) := by
  constructor
  · intro heq
    rw [← heq, List.getLast?_concat]
  · intro hlast
    obtain ⟨init, rfl⟩ := List.getLast?_eq_some_iff.mp hlast
    have hnodup := htidy.nodup
    rw [List.map_append, List.nodup_append'] at hnodup
    have hinit : ∀ entry ∈ init, (entry.1 != kind) = true := by
      intro entry hentry
      rw [bne_iff_ne]
      rintro rfl
      exact hnodup.2.2 (List.mem_map_of_mem hentry) (by simp)
    rw [setCount, if_pos rfl, List.filter_append,
      List.filter_eq_self.mpr hinit]
    simp

/-- A removal that leaves the order alone: some counters stay, there were none,
or theirs is the last entry. -/
def RemovalKeepsOrder (counters : List (CounterType × UInt8))
    (kind : CounterType) (amount : UInt8) : Prop :=
  amount < counterCount counters kind ∨ counterCount counters kind = 0 ∨
    counters.getLast? = some (kind, counterCount counters kind)

/-- The list after counters were removed and added back. -/
def putBackCounters (kind : CounterType) (removed : UInt8)
    (counters : List (CounterType × UInt8)) : List (CounterType × UInt8) :=
  addEntry kind removed
    (setCount kind (counterCount counters kind - removed) counters)

theorem add8_sub_cancel {count removed : UInt8} (hle : removed ≤ count) :
    Saturating.add8 (count - removed) removed = count := by
  have hsub := UInt8.toNat_sub_of_le count removed hle
  have hlt := count.toNat_lt
  rw [UInt8.le_iff_toNat_le] at hle
  rw [← UInt8.toNat_inj, Saturating.add8_toNat, hsub]
  omega

/-- Every count is back, whatever the order. -/
theorem counterCount_putBackCounters {removed : UInt8}
    (hle : removed ≤ counterCount counters kind) (other : CounterType) :
    counterCount (putBackCounters kind removed counters) other =
      counterCount counters other := by
  rw [putBackCounters, counterCount_addEntry]
  split
  · next heq =>
    subst heq
    rw [counterCount_setCount, if_pos rfl]
    split
    · exact add8_sub_cancel hle
    · next hnone =>
      rw [Bool.not_eq_true] at hnone
      rw [counterCount_of_none hnone, UInt8.le_zero_iff] at hle
      rw [hle, zero_add8, counterCount_of_none hnone]
  · next hne => rw [counterCount_setCount, if_neg hne]

/-- Some of the counters stayed: their entry did too. -/
theorem putBackCounters_of_lt {removed : UInt8}
    (hlt : removed < counterCount counters kind) :
    putBackCounters kind removed counters = counters := by
  have hleft : counterCount counters kind - removed ≠ 0 := by
    rw [ne_eq, ← UInt8.toNat_inj, UInt8.toNat_sub_of_le _ _ (UInt8.le_of_lt hlt),
      UInt8.toNat_zero]
    rw [UInt8.lt_iff_toNat_lt] at hlt
    omega
  have hpos : 0 < counterCount counters kind := by
    rw [UInt8.lt_iff_toNat_lt, UInt8.toNat_zero] at *
    omega
  have hany := any_of_counterCount_pos hpos
  have hset : counterCount (setCount kind
      (counterCount counters kind - removed) counters) kind =
        counterCount counters kind - removed := by
    rw [counterCount_setCount, if_pos rfl, if_pos hany]
  have hstays := any_of_counterCount_pos
    ((eq_zero_or_pos8 _).resolve_left (hset ▸ hleft))
  rw [putBackCounters, addEntry, if_pos hstays, hset,
    add8_sub_cancel (UInt8.le_of_lt hlt),
    setCount_setCount hleft (ne_zero_of_pos8 hpos),
    setCount_counterCount hpos]

/-- All of the counters went: their new entry is the last. -/
theorem putBackCounters_all_iff (htidy : TidyCounters counters)
    (hpos : 0 < counterCount counters kind) :
    putBackCounters kind (counterCount counters kind) counters = counters ↔
      counters.getLast? = some (kind, counterCount counters kind) := by
  have hnone : ¬((setCount kind 0 counters).any fun entry =>
      entry.1 == kind) = true := by
    simp [setCount]
  rw [putBackCounters, UInt8.sub_self, addEntry, if_neg hnone,
    append_setCount_zero_iff htidy (mem_of_counterCount_pos hpos)]

end Lists

namespace Card

variable {card : Card}

theorem addCounter_wellFormed (hwell : WellFormedCounters card.counters)
    (kind : CounterType) (amount : UInt8) :
    WellFormedCounters (card.addCounter kind amount).counters := by
  rw [addCounter_eq]
  split
  · exact hwell
  · next hamount =>
    exact (hwell.toTidyCounters.addEntry kind hamount).annihilate

theorem removeCounter_wellFormed (hwell : WellFormedCounters card.counters)
    (kind : CounterType) (amount : UInt8) :
    WellFormedCounters (card.removeCounter kind amount).counters := by
  rw [removeCounter]
  split
  · exact hwell
  · split
    · exact hwell.setCount_sub kind amount
    · exact hwell

/-- When adding the removed counters back restores the list. -/
theorem addCounter_removeCounter_iff
    (hwell : WellFormedCounters card.counters) (kind : CounterType)
    (amount : UInt8) :
    ((card.removeCounter kind amount).addCounter kind
        (card.removedCounters kind amount)).counters = card.counters ↔
      RemovalKeepsOrder card.counters kind amount := by
  have htidy := hwell.toTidyCounters
  rcases eq_zero_or_pos8 (counterCount card.counters kind) with
    hzero | hpos
  · have hnone : ¬(card.counters.any fun entry => entry.1 == kind) =
        true := by
      rw [any_kind_iff, ← htidy.counterCount_pos_iff, hzero]
      decide
    apply iff_of_true
    · simp [removeCounter, removedCounters, hnone, addCounter_eq]
    · exact .inr (.inl hzero)
  have hany := any_of_counterCount_pos hpos
  rcases eq_zero_or_pos8 amount with rfl | hamount
  · apply iff_of_true
    · simp [removeCounter, removedCounters, addCounter_eq]
    · exact .inl hpos
  have hamount' := ne_zero_of_pos8 hamount
  have hcount := ne_zero_of_pos8 hpos
  have hremoved : card.removedCounters kind amount =
      min (counterCount card.counters kind) amount := by
    rw [removedCounters, if_neg hamount', if_pos hany]
    rfl
  have hmin : min (counterCount card.counters kind) amount ≠ 0 ∧
      min (counterCount card.counters kind) amount ≤
        counterCount card.counters kind := by
    rw [ne_eq, ← UInt8.toNat_inj, UInt8.le_iff_toNat_le,
      Saturating.min8_toNat, UInt8.toNat_zero]
    rw [UInt8.lt_iff_toNat_lt, UInt8.toNat_zero] at hpos hamount
    omega
  have hback : ((card.removeCounter kind amount).addCounter kind
      (card.removedCounters kind amount)).counters =
        putBackCounters kind (min (counterCount card.counters kind) amount)
          card.counters := by
    rw [hremoved, removeCounter, if_neg hamount', if_pos hany,
      addCounter_eq, if_neg hmin.1]
    apply annihilate_of_apart
    change counterCount (putBackCounters kind _ card.counters) .p1p1 = 0 ∨
      counterCount (putBackCounters kind _ card.counters) .m1m1 = 0
    rw [counterCount_putBackCounters hmin.2,
      counterCount_putBackCounters hmin.2]
    exact hwell.apart
  rw [hback, RemovalKeepsOrder]
  by_cases hlt : amount < counterCount card.counters kind
  · rw [min8_eq_right (UInt8.le_of_lt hlt), putBackCounters_of_lt hlt]
    simp [hlt]
  · rw [min8_eq_left (UInt8.not_lt.mp hlt),
      putBackCounters_all_iff htidy hpos]
    simp [hlt, hcount]

end Card

/-- A change of the counters of one card. -/
inductive CounterChange where
  | add (kind : CounterType) (amount : UInt8)
  | remove (kind : CounterType) (amount : UInt8)

namespace CounterChange

def perform (change : CounterChange) (game : GameState) (id : CardId) :
    Outcome Unit :=
  match change with
  | add kind amount => game.addCounters id kind amount
  | remove kind amount =>
      (game.removeCounters id kind amount).andThen fun game _ => .ok game ()

/-- What is logged for the change of a card. -/
def logged (change : CounterChange) (id : CardId) (card : Card) :
    GameAction :=
  match change with
  | add _ _ => .setCardCounters id card.counters
  | remove kind amount =>
      .removeCounter id kind (card.removedCounters kind amount)

def onCard (change : CounterChange) (card : Card) : Card :=
  match change with
  | add kind amount => card.addCounter kind amount
  | remove kind amount => card.removeCounter kind amount

/-- Adding is undone by a snapshot, removing by adding. -/
def KeepsOrder (change : CounterChange) (card : Card) : Prop :=
  match change with
  | add _ _ => True
  | remove kind amount => RemovalKeepsOrder card.counters kind amount

variable {game after : GameState} {id : CardId} {card : Card}

theorem perform_of_card (hcard : game.card? id = some card)
    (change : CounterChange) :
    change.perform game id = .ok
      ((game.modifyCard id change.onCard).logAction (change.logged id card)
        game.logger.logCount) () := by
  cases change with
  | add kind amount =>
      simp only [perform, GameState.addCounters, hcard]
      rfl
  | remove kind amount =>
      simp only [perform, GameState.removeCounters, hcard]
      rfl

theorem onCard_wellFormed (hwell : WellFormedCounters card.counters)
    (change : CounterChange) :
    WellFormedCounters (change.onCard card).counters := by
  cases change with
  | add kind amount => exact Card.addCounter_wellFormed hwell kind amount
  | remove kind amount => exact Card.removeCounter_wellFormed hwell kind amount

/-- The counters of the card after the undo of the logged action. -/
theorem undo_logged_counters
    (hwell : WellFormedCounters card.counters) (change : CounterChange)
    (hafter : after.card? id = some (change.onCard card)) :
    (((change.logged id card).undo after).1.card? id).map (·.counters) =
        some card.counters ↔ change.KeepsOrder card := by
  cases change with
  | add kind amount =>
      apply iff_of_true _ trivial
      simp only [logged, GameAction.undo, GameState.card?,
        GameState.modifyCard, EntityStore.tryGet_modify_self] at hafter ⊢
      rw [hafter]
      rfl
  | remove kind amount =>
      rw [KeepsOrder, ← Card.addCounter_removeCounter_iff hwell]
      simp only [logged, GameAction.undo, GameState.undoCard, hafter]
      simp only [GameState.card?, GameState.modifyCard,
        EntityStore.tryGet_modify_self] at hafter ⊢
      rw [hafter]
      simp [onCard]

end CounterChange

/-- The states reached by changes of a card that had no counters. -/
inductive CountersReached (id : CardId) : GameState → Prop where
  | start {game : GameState} {card : Card}
      (hcard : game.card? id = some card) (hnone : card.counters = []) :
      CountersReached id game
  | change {game after : GameState} (hreached : CountersReached id game)
      (change : CounterChange)
      (hdone : change.perform game id = some (after, .ok ())) :
      CountersReached id after

theorem card?_modifyCard_self (game : GameState) (id : CardId)
    (f : Card → Card) :
    (game.modifyCard id f).card? id = (game.card? id).map f :=
  EntityStore.tryGet_modify_self game.cards id.raw f

/-- A card keeps its counters well formed over a run of changes. -/
theorem CountersReached.wellFormed {id : CardId} {game : GameState}
    (hreached : CountersReached id game) :
    ∃ card, game.card? id = some card ∧ WellFormedCounters card.counters := by
  induction hreached with
  | start hcard hnone =>
      exact ⟨_, hcard, hnone ▸ wellFormedCounters_nil⟩
  | change _ change hdone ih =>
      obtain ⟨card, hcard, hwell⟩ := ih
      rw [change.perform_of_card hcard] at hdone
      cases hdone
      refine ⟨change.onCard card, ?_, change.onCard_wellFormed hwell⟩
      change (GameState.modifyCard _ id _).card? id = _
      rw [card?_modifyCard_self, hcard, Option.map_some]

/-- In every state of a run the counters are well formed, and the undo of the
next change restores them with their order just when the change is no removal
of all counters of a kind that is not listed last. -/
theorem CountersReached.undo_restores_iff {id : CardId} {game : GameState}
    (hreached : CountersReached id game) :
    ∃ card, game.card? id = some card ∧ WellFormedCounters card.counters ∧
      ∀ change : CounterChange, ∃ after,
        change.perform game id = some (after, .ok ()) ∧
        after.undoLog = game.undoLog.log (change.logged id card)
          game.logger.logCount ∧
        ((((change.logged id card).undo after).1.card? id).map (·.counters) =
            some card.counters ↔ change.KeepsOrder card) := by
  obtain ⟨card, hcard, hwell⟩ := hreached.wellFormed
  refine ⟨card, hcard, hwell, fun change => ?_⟩
  refine ⟨_, change.perform_of_card hcard, rfl, ?_⟩
  apply change.undo_logged_counters hwell
  change (GameState.modifyCard _ id _).card? id = _
  rw [card?_modifyCard_self, hcard, Option.map_some]

/-- A game with one card, which has no counters. -/
def uncountedGame : GameState where
  cards := ⟨[some { id := ⟨0⟩, owner := ⟨0⟩, controller := ⟨0⟩ }]⟩
  turn := { activePlayer := ⟨0⟩ }

theorem uncountedGame_undo_restores_iff :
    ∃ card, uncountedGame.card? ⟨0⟩ = some card ∧
      WellFormedCounters card.counters ∧
      ∀ change : CounterChange, ∃ after,
        change.perform uncountedGame ⟨0⟩ = some (after, .ok ()) ∧
        after.undoLog = uncountedGame.undoLog.log (change.logged ⟨0⟩ card)
          uncountedGame.logger.logCount ∧
        ((((change.logged ⟨0⟩ card).undo after).1.card? ⟨0⟩).map
          (·.counters) = some card.counters ↔ change.KeepsOrder card) :=
  CountersReached.undo_restores_iff (.start rfl rfl)

/-- Two kinds of counters; the undo of the removal of the first kind lists it
second. -/
theorem undo_removeCounters_reorders :
    ∃ game, CountersReached ⟨0⟩ game ∧
      (game.card? ⟨0⟩).map (·.counters) = some [(.p1p1, 1), (.other 0, 1)] ∧
      ∃ after, (CounterChange.remove .p1p1 1).perform game ⟨0⟩ =
          some (after, .ok ()) ∧
        (after.undo.2.card? ⟨0⟩).map (·.counters) =
          some [(.other 0, 1), (.p1p1, 1)] := by
  have hstart : CountersReached ⟨0⟩ uncountedGame := .start rfl rfl
  have hplus := hstart.change (.add .p1p1 1) rfl
  have hother := hplus.change (.add (.other 0) 1) rfl
  exact ⟨_, hother, rfl, _, rfl, rfl⟩

end DeepScry
