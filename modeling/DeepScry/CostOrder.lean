/-
The order in which permanents change a cost: reductions and increases are
applied one by one, and each is cut off where it stands.
-/
import DeepScry.AnnouncedCharge
import DeepScry.CappedShifts
import DeepScry.CountExpressions
import DeepScry.OptionalCosts

namespace DeepScry

/-- The cost with another generic part. -/
def ManaCost.withGeneric (cost : ManaCost) (generic : Nat) : ManaCost :=
  { cost with generic := UInt8.ofNat generic }

def StaticAbility.isRaise : StaticAbility → Bool
  | raiseCost _ _ => true
  | _ => false

/-- The increases of a permanent after its other abilities. -/
def Card.raisesLast (card : Card) : Card :=
  { card with
    staticAbilities :=
      (card.staticAbilities.filter fun ability => !ability.isRaise) ++
        card.staticAbilities.filter StaticAbility.isRaise }

namespace CostQueries

/-- The counts of the game; a dynamic amount is an expression of the table. -/
def counting (table : Nat → CountExpression) : CostQueries where
  countCardsMatchingFilter game player filter zone :=
    game.countCardsMatchingFilter player zone filter
  evaluateCountExpression game expression player :=
    some (game.evaluateCountExpression player (table expression))

variable (queries : CostQueries) (game : GameState) (player : PlayerId)
  (spell : Card)

/-- What an ability of the spell takes off, as a shift. -/
def selfShift : StaticAbility → Option Shift
  | .reduceCost .selfCard amount condition =>
      if queries.conditionMet game player condition then
        some (.lower (queries.reduceBy game player amount).toNat)
      else none
  | _ => none

/-- What an ability of a permanent changes, as a shift. -/
def changeShift (source : Card) : StaticAbility → Option Shift
  | .reduceCost validCard amount condition =>
      if source.controller == player && spell.matchesCostFilter validCard &&
          queries.conditionMet game player condition then
        some (.lower (queries.reduceBy game player amount).toNat)
      else none
  | .raiseCost validCard (.mana amount) =>
      if spell.matchesCostFilter validCard then some (.raise amount.toNat)
      else none
  | _ => none

/-- The changes by one permanent. -/
def changesBy (id : CardId) : List Shift :=
  ((game.card? id).map fun source =>
    source.staticAbilities.filterMap
      (queries.changeShift game player spell source)).getD []

/-- Permanents that Affinity counts, as the `u8` that is taken off. -/
def affinityCount : Nat :=
  match spell.keywords.getArgs .affinity with
  | some (.affinity cardType) => (UInt8.ofNat (game.zones.battlefield.countP
      fun id => (game.card? id).any fun card =>
        card.controller == player && card.subtypes.contains cardType)).toNat
  | _ => 0

/-- What the spell takes off its own cost. -/
def selfReduction : Nat :=
  affinityCount game player spell +
    Shift.lowered (spell.staticAbilities.filterMap
      (queries.selfShift game player))

/-- The generic part with all increases before any reduction. -/
def raisesFirst : Nat :=
  Shift.raisesFirst (queries.changesBy game player spell)
    game.zones.battlefield 255 spell.manaCost.generic.toNat
    (queries.selfReduction game player spell)

/-- In every order of the board the spell costs what it costs with all
increases before any reduction. -/
def OrderFree (card : CardId) : Prop :=
  ∀ after, game.Permutes after →
    queries.calculateEffectiveCost after player card =
      price spell (spell.manaCost.withGeneric
        (queries.raisesFirst game player spell))

/-- The announced extras bring the generic part to the cap anyway, or nothing
is ever cut off. -/
def OrderHarmless : Prop :=
  255 ≤ queries.raisesFirst game player spell +
      spell.wrappedExtras spell.manaCost none ∨
    Shift.Harmless (queries.changesBy game player spell)
      game.zones.battlefield 255 spell.manaCost.generic.toNat
      (queries.selfReduction game player spell)

end CostQueries

namespace ManaCost

variable (cost : ManaCost) {n : Nat}

@[simp] theorem withGeneric_withGeneric (m : Nat) :
    (cost.withGeneric n).withGeneric m = cost.withGeneric m := rfl

@[simp] theorem withGeneric_self :
    cost.withGeneric cost.generic.toNat = cost := by
  simp [withGeneric]

theorem withGeneric_generic (hn : n ≤ 255) :
    (cost.withGeneric n).generic.toNat = n := by
  rw [withGeneric, UInt8.toNat_ofNat']
  omega

theorem reduce_withGeneric (hn : n ≤ 255) (amount : UInt8) :
    (cost.withGeneric n).reduce amount =
      cost.withGeneric (n - amount.toNat) := by
  have hgeneric : Saturating.sub8 (cost.withGeneric n).generic amount =
      UInt8.ofNat (n - amount.toNat) := by
    rw [← UInt8.toNat_inj, Saturating.sub8_toNat,
      cost.withGeneric_generic hn, UInt8.toNat_ofNat']
    omega
  rw [reduce, hgeneric]
  rfl

theorem raise_withGeneric (hn : n ≤ 255) (amount : UInt8) :
    (cost.withGeneric n).raise amount =
      cost.withGeneric (min 255 (n + amount.toNat)) := by
  have hgeneric : Saturating.add8 (cost.withGeneric n).generic amount =
      UInt8.ofNat (min 255 (n + amount.toNat)) := by
    rw [← UInt8.toNat_inj, Saturating.add8_toNat,
      cost.withGeneric_generic hn, UInt8.toNat_ofNat']
    omega
  rw [raise, hgeneric]
  rfl

end ManaCost

namespace CostQueries

variable {queries : CostQueries} {game : GameState} {player : PlayerId}
  {spell : Card}

theorem changeCost_withGeneric (source : Card) (cost : ManaCost) {n : Nat}
    (hn : n ≤ 255) (ability : StaticAbility) :
    queries.changeCost game player spell source (cost.withGeneric n) ability =
      cost.withGeneric (Shift.run 255
        (queries.changeShift game player spell source ability).toList n) := by
  rcases ability with ⟨validCard, amount, condition⟩ | ⟨validCard, raised⟩ |
    _ | _ | _ | _ | _ | _ | _ | _ | _ | _ <;> try rfl
  · simp only [changeCost, changeShift]
    split
    · rw [cost.reduce_withGeneric hn]
      rfl
    · rfl
  · cases raised with
    | mana amount =>
        simp only [changeCost, changeShift]
        split
        · rw [cost.raise_withGeneric hn]
          rfl
        · rfl
    | sacrifice => rfl

theorem foldl_changeCost (source : Card) (cost : ManaCost)
    (abilities : List StaticAbility) {n : Nat} (hn : n ≤ 255) :
    abilities.foldl (queries.changeCost game player spell source)
        (cost.withGeneric n) =
      cost.withGeneric (Shift.run 255 (abilities.filterMap
        (queries.changeShift game player spell source)) n) := by
  induction abilities generalizing n with
  | nil => rfl
  | cons ability rest ih =>
      have hle := Shift.run_le
        (queries.changeShift game player spell source ability).toList hn
      rw [List.foldl_cons, changeCost_withGeneric source cost hn, ih hle,
        List.filterMap_cons]
      cases queries.changeShift game player spell source ability <;> rfl

theorem foldl_battlefield (cost : ManaCost) (ids : List CardId) {n : Nat}
    (hn : n ≤ 255) :
    ids.foldl (fun cost id =>
        match game.card? id with
        | none => cost
        | some source => source.staticAbilities.foldl
            (queries.changeCost game player spell source) cost)
        (cost.withGeneric n) =
      cost.withGeneric (Shift.run 255
        (ids.flatMap (queries.changesBy game player spell)) n) := by
  induction ids generalizing n with
  | nil => rfl
  | cons id rest ih =>
      have hle := Shift.run_le (queries.changesBy game player spell id) hn
      rw [List.foldl_cons, List.flatMap_cons, Shift.run_append, ← ih hle]
      congr 1
      cases hcard : game.card? id with
      | none => simp [changesBy, hcard]
      | some source =>
          simp only [changesBy, hcard, Option.map_some, Option.getD_some]
          exact foldl_changeCost source cost source.staticAbilities hn

theorem reduceSelf_withGeneric (cost : ManaCost) {n : Nat} (hn : n ≤ 255)
    (ability : StaticAbility) :
    queries.reduceSelf game player (cost.withGeneric n) ability =
      cost.withGeneric (n - Shift.lowered
        (queries.selfShift game player ability).toList) := by
  rcases ability with ⟨validCard, amount, condition⟩ | _ | _ | _ | _ | _ | _ |
    _ | _ | _ | _ | _ <;> try rfl
  cases validCard <;> try rfl
  simp only [reduceSelf, selfShift]
  split
  · rw [cost.reduce_withGeneric hn]
    rfl
  · rfl

theorem foldl_reduceSelf (cost : ManaCost) (abilities : List StaticAbility)
    {n : Nat} (hn : n ≤ 255) :
    abilities.foldl (queries.reduceSelf game player) (cost.withGeneric n) =
      cost.withGeneric (n - Shift.lowered
        (abilities.filterMap (queries.selfShift game player))) := by
  induction abilities generalizing n with
  | nil => rfl
  | cons ability rest ih =>
      rw [List.foldl_cons, reduceSelf_withGeneric cost hn, ih (by omega),
        List.filterMap_cons]
      cases queries.selfShift game player ability with
      | none => rfl
      | some shift =>
          rw [Option.toList_some, Shift.lowered_cons, Shift.lowered_cons,
            Shift.lowered_nil]
          congr 1
          omega

theorem affinityCost_eq :
    affinityCost game player spell =
      spell.manaCost.withGeneric
        (spell.manaCost.generic.toNat - affinityCount game player spell) := by
  have hle := spell.manaCost.generic.toNat_lt
  have hreduce := spell.manaCost.reduce_withGeneric
    (by omega : spell.manaCost.generic.toNat ≤ 255)
  rw [ManaCost.withGeneric_self] at hreduce
  unfold affinityCost affinityCount
  rcases spell.keywords.getArgs .affinity with _ | args
  · exact spell.manaCost.withGeneric_self.symm
  · cases args with
    | affinity => exact hreduce _
    | _ => exact spell.manaCost.withGeneric_self.symm

/-- What is left of the generic part after all changes. -/
theorem changedCost_eq :
    queries.changedCost game player spell =
      spell.manaCost.withGeneric (Shift.run 255
        (game.zones.battlefield.flatMap
          (queries.changesBy game player spell))
        (spell.manaCost.generic.toNat -
          queries.selfReduction game player spell)) := by
  have hle := spell.manaCost.generic.toNat_lt
  rw [changedCost, affinityCost_eq, foldl_reduceSelf _ _ (by omega),
    selfReduction, ← Nat.sub_sub]
  exact foldl_battlefield _ _ (by omega)

/-! ## Rearranging the board -/

section Rearranged

variable {after : GameState} {table : Nat → CountExpression}
  (hsame : game.Permutes after)
include hsame

theorem conditionMet_rearranged (condition : Option CostReductionCondition) :
    (counting table).conditionMet after player condition =
      (counting table).conditionMet game player condition := by
  cases condition with
  | none => rfl
  | some condition =>
      exact congrArg (fun count => decide (condition.minCount.toNat ≤ count))
        (hsame.countCardsMatchingFilter player condition.presentZone
          condition.isPresent)

theorem reduceBy_rearranged (amount : CostReductionAmount) :
    (counting table).reduceBy after player amount =
      (counting table).reduceBy game player amount := by
  cases amount <;>
    simp only [reduceBy, counting, hsame.evaluateCountExpression]

theorem changeShift_rearranged (source : Card)
    (abilities abilities' : List StaticAbility) :
    (counting table).changeShift after player
        { spell with staticAbilities := abilities }
        { source with staticAbilities := abilities' } =
      (counting table).changeShift game player spell source := by
  have hmatches (target : CostReductionTarget) :
      Card.matchesCostFilter { spell with staticAbilities := abilities }
        target = spell.matchesCostFilter target := by
    cases target <;> rfl
  funext ability
  rcases ability with ⟨validCard, amount, condition⟩ | ⟨validCard, raised⟩ |
    _ | _ | _ | _ | _ | _ | _ | _ | _ | _ <;> try rfl
  · simp only [changeShift, hmatches, conditionMet_rearranged hsame,
      reduceBy_rearranged hsame]
  · cases raised <;> simp only [changeShift, hmatches]

theorem selfShift_rearranged :
    (counting table).selfShift after player =
      (counting table).selfShift game player := by
  funext ability
  rcases ability with ⟨validCard, amount, condition⟩ | _ | _ | _ | _ | _ | _ |
    _ | _ | _ | _ | _ <;> try rfl
  cases validCard <;> try rfl
  simp only [selfShift, conditionMet_rearranged hsame,
    reduceBy_rearranged hsame]

/-- The changes by a permanent whose abilities were reordered. -/
theorem changesBy_reordered (abilities : List StaticAbility) {id : CardId}
    {source : Card} {reordered : List StaticAbility}
    (hafter : after.card? id =
      some { source with staticAbilities := reordered }) :
    (counting table).changesBy after player
        { spell with staticAbilities := abilities } id =
      reordered.filterMap
        ((counting table).changeShift game player spell source) := by
  rw [changesBy, hafter]
  exact congrArg (fun shift => reordered.filterMap shift)
    (changeShift_rearranged hsame source abilities reordered)

theorem changesBy_rearranged (abilities : List StaticAbility) (id : CardId) :
    ((counting table).changesBy after player
        { spell with staticAbilities := abilities } id).Perm
      ((counting table).changesBy game player spell id) := by
  cases hcard : game.card? id with
  | none => simp [changesBy, hcard, hsame.absent id hcard]
  | some source =>
      obtain ⟨reordered, hperm, hafter⟩ := hsame.reordered id source hcard
      rw [changesBy_reordered hsame abilities hafter]
      simp only [changesBy, hcard, Option.map_some, Option.getD_some]
      exact hperm.filterMap _

theorem selfReduction_rearranged {abilities : List StaticAbility}
    (hperm : abilities.Perm spell.staticAbilities) :
    (counting table).selfReduction after player
        { spell with staticAbilities := abilities } =
      (counting table).selfReduction game player spell := by
  have haffinity : affinityCount after player
      { spell with staticAbilities := abilities } =
        affinityCount game player spell := by
    have hcount (cardType : String) := hsame.countP_battlefield
      (p := fun card => card.controller == player &&
        card.subtypes.contains cardType) fun _ _ => rfl
    unfold affinityCount
    rcases spell.keywords.getArgs .affinity with _ | args
    · rfl
    · cases args <;> first | rfl | simp only [hcount]
  rw [selfReduction, selfReduction, haffinity, selfShift_rearranged hsame,
    Shift.lowered_perm (hperm.filterMap _)]

theorem getCard_rearranged {card : CardId}
    (hcard : game.getCard card = some spell) :
    ∃ abilities, abilities.Perm spell.staticAbilities ∧
      after.getCard card =
        some { spell with staticAbilities := abilities } := by
  obtain ⟨abilities, hperm, hafter⟩ :=
    hsame.reordered card spell (found_of_getCard hcard)
  refine ⟨abilities, hperm, ?_⟩
  rw [GameState.getCard, EntityStore.get] at hcard ⊢
  by_cases hsentinel : EntityStore.isSentinel card.raw
  · rw [if_pos hsentinel] at hcard
    cases hcard
  · rw [if_neg hsentinel]
    exact hafter

/-- The cost after rearranging, by the changes of the rearranged board. -/
theorem effectiveCost_rearranged (table : Nat → CountExpression)
    (player : PlayerId) {card : CardId}
    (hcard : game.getCard card = some spell) :
    ∃ abilities,
      (counting table).calculateEffectiveCost after player card =
        price spell (spell.manaCost.withGeneric (Shift.run 255
          (after.zones.battlefield.flatMap
            ((counting table).changesBy after player
              { spell with staticAbilities := abilities }))
          (spell.manaCost.generic.toNat -
            (counting table).selfReduction game player spell))) := by
  obtain ⟨abilities, hperm, hafter⟩ := getCard_rearranged hsame hcard
  refine ⟨abilities, ?_⟩
  rw [calculateEffectiveCost, hafter]
  dsimp only
  rw [changedCost_eq, selfReduction_rearranged hsame hperm]
  rfl

end Rearranged

/-! ## The extras on top -/

theorem generic_price (spell : Card) (cost : ManaCost) :
    (price spell cost).generic.toNat =
      min (cost.generic.toNat + spell.wrappedExtras cost none) 255 := by
  have hprice : (price spell cost).generic = (price spell cost).part none :=
    rfl
  have hnone : (none : Option Color) ≠ some .colorless := nofun
  rw [hprice, price, part_withModeCost, part_withKicker _ _ hnone,
    part_withMultikicker _ _ hnone, part_withX, Card.wrappedExtras]
  simp only [ManaCost.part, Saturating.min_add_min]
  omega

theorem plus_withGeneric (cost extra : ManaCost) (n : Nat) :
    (cost.withGeneric n).plus extra =
      (cost.plus extra).withGeneric
        ((cost.withGeneric n).plus extra).generic.toNat := by
  simp [ManaCost.plus, ManaCost.withGeneric]

/-- The extras on top of the generic part change it alone. -/
theorem price_withGeneric (spell : Card) (cost : ManaCost) (n : Nat) :
    ∃ m, price spell (cost.withGeneric n) =
      (price spell cost).withGeneric m := by
  have hx (cost : ManaCost) (n : Nat) : ∃ m,
      withX spell (cost.withGeneric n) =
        (withX spell cost).withGeneric m := by
    by_cases hhas : cost.hasX
    · have hhas' : (cost.withGeneric n).hasX := hhas
      refine ⟨((cost.withGeneric n).withXValue
        spell.xPaid).generic.toNat, ?_⟩
      rw [withX, withX, if_pos hhas, if_pos hhas']
      simp [ManaCost.withXValue, ManaCost.withGeneric]
    · have hhas' : ¬ (cost.withGeneric n).hasX := hhas
      exact ⟨n, by rw [withX, withX, if_neg hhas, if_neg hhas']⟩
  have hkicks (cost : ManaCost) (n : Nat) : ∃ m,
      withMultikicker spell (cost.withGeneric n) =
        (withMultikicker spell cost).withGeneric m := by
    unfold withMultikicker
    cases spell.multikickerCost <;> split
    all_goals first | exact ⟨n, rfl⟩ | exact ⟨_, plus_withGeneric _ _ _⟩
  have hkicker (cost : ManaCost) (n : Nat) : ∃ m,
      withKicker spell (cost.withGeneric n) =
        (withKicker spell cost).withGeneric m := by
    unfold withKicker
    cases spell.kickerCost <;> split
    all_goals first | exact ⟨n, rfl⟩ | exact ⟨_, plus_withGeneric _ _ _⟩
  have hmode (cost : ManaCost) (n : Nat) : ∃ m,
      withModeCost spell (cost.withGeneric n) =
        (withModeCost spell cost).withGeneric m := by
    unfold withModeCost
    split
    · exact ⟨((cost.withGeneric n).raise
        spell.modeCostPaid).generic.toNat,
        by simp [ManaCost.raise, ManaCost.withGeneric]⟩
    · exact ⟨n, rfl⟩
  obtain ⟨x, hx⟩ := hx cost n
  obtain ⟨kicks, hkicks⟩ := hkicks (withX spell cost) x
  obtain ⟨kicker, hkicker⟩ :=
    hkicker (withMultikicker spell (withX spell cost)) kicks
  rw [price, hx, hkicks, hkicker]
  exact hmode _ kicker

/-- Two generic parts make the same price when the cap hides the
difference. -/
theorem price_eq_iff (spell : Card) (cost : ManaCost) {m n : Nat}
    (hm : m ≤ 255) (hn : n ≤ 255) :
    price spell (cost.withGeneric m) = price spell (cost.withGeneric n) ↔
      min (m + spell.wrappedExtras cost none) 255 =
        min (n + spell.wrappedExtras cost none) 255 := by
  have hgeneric {k : Nat} (hk : k ≤ 255) :
      (price spell (cost.withGeneric k)).generic.toNat =
        min (k + spell.wrappedExtras cost none) 255 := by
    rw [generic_price, cost.withGeneric_generic hk]
    rfl
  constructor
  · intro heq
    rw [← hgeneric hm, ← hgeneric hn, heq]
  · intro heq
    obtain ⟨k, hk⟩ := price_withGeneric spell cost m
    obtain ⟨l, hl⟩ := price_withGeneric spell cost n
    have hsame : UInt8.ofNat k = UInt8.ofNat l := by
      have hgenerics := heq
      rw [← hgeneric hm, ← hgeneric hn, hk, hl] at hgenerics
      exact UInt8.toNat_inj.mp hgenerics
    rw [hk, hl, ManaCost.withGeneric, ManaCost.withGeneric, hsame]

end CostQueries

namespace GameState

/-- The battlefield in this order, the increases of each permanent last. -/
def arranged (game : GameState) (board : List CardId) : GameState :=
  { game with
    zones := { game.zones with battlefield := board }
    cards := ⟨game.cards.entities.mapIdx fun i slot =>
      if (⟨i⟩ : CardId) ∈ game.zones.battlefield then
        slot.map Card.raisesLast
      else slot⟩ }

variable {game : GameState} {board : List CardId}

theorem card?_arranged (game : GameState) (board : List CardId)
    (id : CardId) :
    (game.arranged board).card? id =
      if id ∈ game.zones.battlefield then
        (game.card? id).map Card.raisesLast
      else game.card? id := by
  rw [card?, arranged, EntityStore.tryGet, List.getElem?_mapIdx, card?,
    EntityStore.tryGet]
  cases game.cards.entities[id.raw]? with
  | none => simp
  | some slot => simp

theorem rearranges_arranged (hboard : board.Perm game.zones.battlefield) :
    game.Permutes (game.arranged board) where
  board := hboard
  rest := rfl
  absent id hcard := by simp [card?_arranged, hcard]
  reordered id card hcard := by
    by_cases hid : id ∈ game.zones.battlefield
    · refine ⟨card.raisesLast.staticAbilities, ?_, ?_⟩
      · have hsplit := List.filter_append_perm
          (fun ability => !StaticAbility.isRaise ability) card.staticAbilities
        simpa [Card.raisesLast] using hsplit
      · rw [card?_arranged, if_pos hid, hcard]
        rfl
    · refine ⟨card.staticAbilities, .refl _, ?_⟩
      rw [card?_arranged, if_neg hid, hcard]
  elsewhere id hid := by rw [card?_arranged, if_neg hid]

end GameState

namespace CostQueries

variable {queries : CostQueries} {game : GameState} {player : PlayerId}
  {spell : Card}

/-! ## All orders -/

section Orders

variable {table : Nat → CountExpression} {card : CardId}

theorem raisesFirst_le (queries : CostQueries) (game : GameState)
    (player : PlayerId) (spell : Card) :
    queries.raisesFirst game player spell ≤ 255 := by
  rw [raisesFirst, Shift.raisesFirst]
  omega

/-- Harmless changes cost the same in every order. -/
theorem orderFree_of_harmless (hcard : game.getCard card = some spell)
    (hharmless : (counting table).OrderHarmless game player spell) :
    (counting table).OrderFree game player spell card := by
  intro after hsame
  obtain ⟨abilities, hcost⟩ :=
    effectiveCost_rearranged hsame table player hcard
  have hblocks : ∀ id, ((counting table).changesBy after player
      { spell with staticAbilities := abilities } id).Perm
        ((counting table).changesBy game player spell id) :=
    changesBy_rearranged hsame abilities
  have hstart := spell.manaCost.generic.toNat_lt
  have hcap : spell.manaCost.generic.toNat ≤ 255 := by omega
  have hmin : (counting table).raisesFirst game player spell ≤ Shift.run 255
      (after.zones.battlefield.flatMap ((counting table).changesBy after
        player { spell with staticAbilities := abilities }))
      (spell.manaCost.generic.toNat -
        (counting table).selfReduction game player spell) := by
    rw [raisesFirst, ← Shift.raisesFirst_perm hsame.board hblocks]
    exact Shift.raisesFirst_le_run hcap
  rw [hcost, price_eq_iff _ _ (Shift.run_le _ (by omega)) (raisesFirst_le ..)]
  rcases hharmless with hextras | hharmless
  · omega
  · have hrun := (hharmless.perm hsame.board hblocks).run_eq hcap
    rw [Shift.raisesFirst_perm hsame.board hblocks, ← raisesFirst] at hrun
    rw [hrun]

theorem isRaise_of_changeShift (source : Card) (ability : StaticAbility)
    (shift : Shift) (hshift : queries.changeShift game player spell source
      ability = some shift) : shift.isRaise = ability.isRaise := by
  unfold changeShift at hshift
  split at hshift
  · split at hshift <;> simp_all
    subst hshift
    rfl
  · split at hshift <;> simp_all
    subst hshift
    rfl
  · cases hshift

/-- The changes by the abilities that raise, or do not, are those that raise,
or do not. -/
theorem filterMap_isRaise {shiftOf : StaticAbility → Option Shift}
    (hshiftOf : ∀ ability shift, shiftOf ability = some shift →
      shift.isRaise = ability.isRaise)
    (abilities : List StaticAbility) (which : Bool → Bool) :
    (abilities.filter fun ability => which ability.isRaise).filterMap
        shiftOf =
      (abilities.filterMap shiftOf).filter fun shift =>
        which shift.isRaise := by
  rw [List.filterMap_filter, List.filter_filterMap]
  congr 1
  funext ability
  cases hshift : shiftOf ability with
  | none => simp
  | some shift =>
      simp [Option.filter, hshiftOf ability shift hshift]

theorem changesBy_arranged {board : List CardId}
    (hboard : board.Perm game.zones.battlefield)
    (abilities : List StaticAbility) {id : CardId}
    (hid : id ∈ game.zones.battlefield) :
    (counting table).changesBy (game.arranged board) player
        { spell with staticAbilities := abilities } id =
      Shift.lowersFirst ((counting table).changesBy game player spell id) := by
  have hafter := GameState.card?_arranged game board id
  rw [if_pos hid] at hafter
  cases hcard : game.card? id with
  | none =>
      rw [hcard] at hafter
      simp [changesBy, hafter, hcard, Shift.lowersFirst]
  | some source =>
      rw [hcard] at hafter
      have hkind : ∀ ability shift,
          (counting table).changeShift game player spell source ability =
            some shift → shift.isRaise = ability.isRaise :=
        isRaise_of_changeShift source
      have hlowers := filterMap_isRaise hkind source.staticAbilities (!·)
      have hraises := filterMap_isRaise hkind source.staticAbilities (·)
      rw [changesBy_reordered (GameState.rearranges_arranged hboard) abilities
        hafter, changesBy, hcard, List.filterMap_append]
      exact congrArg₂ (· ++ ·) hlowers hraises

/-- Changes that cost the same in every order are harmless. -/
theorem harmless_of_orderFree (hcard : game.getCard card = some spell)
    (hfree : (counting table).OrderFree game player spell card) :
    (counting table).OrderHarmless game player spell := by
  by_cases hextras : 255 ≤ (counting table).raisesFirst game player spell +
      spell.wrappedExtras spell.manaCost none
  · exact Or.inl hextras
  have hstart := spell.manaCost.generic.toNat_lt
  refine Or.inr (Shift.harmless_of_run (by omega) (by omega) ?_)
  intro board hboard
  have hsame := GameState.rearranges_arranged hboard
  obtain ⟨abilities, hcost⟩ :=
    effectiveCost_rearranged hsame table player hcard
  have hchanges : (game.arranged board).zones.battlefield.flatMap
      ((counting table).changesBy (game.arranged board) player
        { spell with staticAbilities := abilities }) =
      board.flatMap fun id => Shift.lowersFirst
        ((counting table).changesBy game player spell id) := by
    change board.flatMap _ = _
    apply List.flatMap_congr
    intro id hid
    exact changesBy_arranged hboard abilities (hboard.mem_iff.mp hid)
  have hequal := hfree _ hsame
  rw [hcost, price_eq_iff _ _ (Shift.run_le _ (by omega))
    (raisesFirst_le ..), hchanges] at hequal
  rw [← raisesFirst]
  omega

/-- The cost does not depend on the order of the board, and is the one with
all increases before any reduction, exactly when nothing is cut off. -/
theorem orderFree_iff (hcard : game.getCard card = some spell) :
    (counting table).OrderFree game player spell card ↔
      (counting table).OrderHarmless game player spell :=
  ⟨harmless_of_orderFree hcard, orderFree_of_harmless hcard⟩

/-- A red spell in the hand; one permanent makes spells cheaper, the next one
dearer. -/
def discountAndTax (generic discount tax : UInt8) : GameState where
  cards := ⟨[
    some
      { id := ⟨0⟩
        owner := ⟨0⟩
        controller := ⟨0⟩
        types := [.instant]
        manaCost := { generic, red := 1 } },
    some
      { id := ⟨1⟩
        owner := ⟨0⟩
        controller := ⟨0⟩
        types := [.artifact]
        staticAbilities := [.reduceCost .allSpells (.fixed discount) none] },
    some
      { id := ⟨2⟩
        owner := ⟨1⟩
        controller := ⟨1⟩
        types := [.artifact]
        staticAbilities := [.raiseCost .allSpells (.mana tax)] }]⟩
  players := [{ id := ⟨0⟩ }, { id := ⟨1⟩ }]
  zones :=
    { battlefield := [⟨1⟩, ⟨2⟩]
      playerZones := [(⟨0⟩, { hand := [⟨0⟩] }), (⟨1⟩, {})] }
  turn := { activePlayer := ⟨0⟩ }

/-- The discount is smaller than the generic part. -/
theorem orderFree_discountAndTax :
    (counting fun _ => .fixed 0).OrderFree (discountAndTax 2 1 1) ⟨0⟩
      { id := ⟨0⟩
        owner := ⟨0⟩
        controller := ⟨0⟩
        types := [.instant]
        manaCost := { generic := 2, red := 1 } } ⟨0⟩ :=
  (orderFree_iff rfl).mpr (Or.inr (by
    unfold Shift.Harmless
    decide))

/-- A discount of two takes one off the spell before the tax is added. -/
theorem not_orderFree :
    ¬ (counting fun _ => .fixed 0).OrderFree (discountAndTax 1 2 1) ⟨0⟩
      { id := ⟨0⟩
        owner := ⟨0⟩
        controller := ⟨0⟩
        types := [.instant]
        manaCost := { generic := 1, red := 1 } } ⟨0⟩ := by
  intro hfree
  have hsame : (discountAndTax 1 2 1).Permutes (discountAndTax 1 2 1) :=
    { board := .refl _
      rest := rfl
      absent := fun _ hcard => hcard
      reordered := fun _ card hcard => ⟨card.staticAbilities, .refl _, hcard⟩
      elsewhere := fun _ _ => rfl }
  exact absurd (hfree _ hsame) (by decide)

end Orders

end CostQueries

end DeepScry
