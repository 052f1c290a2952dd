/-
A cost with several components: when the cost that is read from their texts,
with spaces between them, is made of these components.
-/
import DeepScry.CostMana

namespace DeepScry

open TextLines

/-- A tap apart from the mana that is paid with it. -/
def Cost.apart : Cost → List Cost
  | .tapAndMana manaCost => [.tap, .mana manaCost]
  | cost => [cost]

/-- The parts of a cost. -/
def Cost.parts : Cost → List Cost
  | .composite costs => costs.flatMap Cost.apart
  | cost => cost.apart

/-- The costs that are no mana. -/
def nonMana (costs : List Cost) : List Cost :=
  costs.filter fun cost => cost.manaPart?.isNone

theorem nonMana_append (costs more : List Cost) :
    nonMana (costs ++ more) = nonMana costs ++ nonMana more :=
  List.filter_append costs more

theorem sumOf_append (kind : ManaCost → UInt8) (costs more : List Cost) :
    sumOf kind (costs ++ more) = sumOf kind costs + sumOf kind more := by
  rw [sumOf, List.filterMap_append, List.map_append, List.sum_append]
  rfl

theorem sumOf_nonMana (kind : ManaCost → UInt8) {costs : List Cost}
    (hothers : ∀ cost ∈ costs, cost.manaPart? = none) :
    sumOf kind costs = 0 := by
  rw [sumOf, List.filterMap_eq_nil_iff.mpr hothers]
  rfl

namespace CostComponent

variable {parseCounter : List Char → Option CounterType}
  (components : List (CostComponent parseCounter))

/-- The same other costs in any order, and as much mana of each kind. -/
structure MadeOf (cost : Cost) : Prop where
  others : (nonMana cost.parts).Perm
    (nonMana (components.map CostComponent.cost))
  mana : ∀ kind ∈ ManaCost.kinds,
    sumOf kind cost.parts = sumOf kind (components.map CostComponent.cost)

/-- The text of the components means what they mean together. -/
def MeansSum : Prop :=
  ∃ cost, Cost.parse parseCounter (textOf components) = some cost ∧
    MadeOf components cost

/-- The mana fits, and its total is not lost in a byte. -/
structure ManaKept : Prop where
  fits : ManaFits components
  total : manaTotal components = 0 ∨ manaTotal components % 256 ≠ 0

/-- What is read as it is meant. With a sacrifice or a payment of life: where
the mana is kept and nothing is taken for a tap. Otherwise: one component, or
mana, or mana with a tap that does not come first. -/
def Readable : Prop :=
  if components.any splits then
    ManaKept components ∧
      ((∃ component ∈ components, component.isTap = true) ∨
        ∀ component ∈ components, ¬ [' ', 'T'] <:+: component.text)
  else
    components.length = 1 ∨
      (∀ component ∈ components, component.isMana = true) ∧
        ManaKept components ∨
      (∀ component ∈ components,
          component.isMana = true ∨ component.isTap = true) ∧
        (∃ component ∈ components.tail, component.isTap = true) ∧
        ManaFits components

section Costs

variable {component : CostComponent parseCounter}

theorem manaPart?_cost_isSome :
    component.cost.manaPart?.isSome = component.isMana := by
  cases component with
  | subCounter amount name counterType hname hplain =>
      rw [cost]
      split <;> rfl
  | _ => rfl

theorem apart_cost : component.cost.apart = [component.cost] := by
  cases component with
  | subCounter amount name counterType hname hplain =>
      rw [cost]
      split <;> rfl
  | _ => rfl

theorem parts_cost : component.cost.parts = [component.cost] := by
  cases component with
  | subCounter amount name counterType hname hplain =>
      rw [cost]
      split <;> rfl
  | _ => rfl

theorem isTap_iff : component.isTap = true ↔ component.cost = .tap := by
  cases component with
  | subCounter amount name counterType hname hplain =>
      rw [cost]
      split <;> simp [isTap]
  | _ => simp [isTap, cost]

end Costs

/-- The other costs are those of the other components. -/
theorem nonMana_map_cost :
    nonMana (components.map cost) =
      (components.filter fun component => !component.isMana).map cost := by
  rw [nonMana, List.filter_map]
  refine congrArg _ (List.filter_congr fun component _ => ?_)
  rw [Function.comp_apply, ← manaPart?_cost_isSome, Option.not_isSome]

/-- A component alone is what it is. -/
theorem madeOf_single (component : CostComponent parseCounter) :
    MadeOf [component] component.cost := by
  constructor
  · rw [parts_cost, List.map_singleton]
  · intro kind _
    rw [parts_cost, List.map_singleton]

section Split

theorem isTapText_text (component : CostComponent parseCounter) :
    Cost.isTapText component.text = component.isTap := by
  rw [Bool.eq_iff_iff, ← component.head?_text_iff, Cost.isTapText,
    Bool.or_eq_true, beq_iff_eq, beq_iff_eq]
  constructor
  · rintro (htext | htext) <;>
      · rw [htext]
        rfl
  · intro hhead
    exact .inl (text_tap (component.head?_text_iff.mp hhead))

/-- Each piece is taken for what it is. -/
theorem readPiece_text (component : CostComponent parseCounter)
    (read : List Cost × List (List Char)) :
    Cost.readPiece parseCounter read component.text =
      if component.isTap then read
      else if component.isMana then (read.1, read.2 ++ [component.text])
      else (read.1 ++ [component.cost], read.2) := by
  rw [Cost.readPiece, isTapText_text, parseSingle_text]
  cases component with
  | subCounter amount name counterType hname hplain =>
      rw [cost]
      cases contains name Cost.loyaltyName <;> rfl
  | _ => rfl

/-- The costs that are neither a tap nor mana. -/
def otherCosts : List Cost :=
  (components.filter fun component =>
    !component.isTap && !component.isMana).map cost

theorem foldl_readPiece (read : List Cost × List (List Char)) :
    (components.map text).foldl (Cost.readPiece parseCounter) read =
      (read.1 ++ otherCosts components, read.2 ++ manaTexts components) := by
  induction components generalizing read with
  | nil => simp [otherCosts, manaTexts]
  | cons component components ih =>
      rw [List.map_cons, List.foldl_cons, readPiece_text, ih]
      cases htap : component.isTap <;> cases hmana : component.isMana
      · simp [otherCosts, manaTexts, htap, hmana]
      · simp [otherCosts, manaTexts, htap, hmana]
      · simp [otherCosts, manaTexts, htap, hmana]
      · cases component <;> simp [isTap, isMana] at htap hmana

/-- Mana that is counted or lost as a whole. -/
def keptMana : List Cost :=
  if 0 < (readMana components).cmc then [.mana (readMana components)] else []

/-- The tap that is seen, and the mana that counts for something. -/
theorem manaAndTap_apart (hasTap : Bool) :
    (Cost.manaAndTap (manaTexts components) hasTap).flatMap Cost.apart =
      (if hasTap then [.tap] else []) ++ keptMana components := by
  have hmana : (if (manaTexts components).isEmpty then {}
      else ManaCost.fromString
        (String.ofList (join ' ' (manaTexts components)))) =
      readMana components := by
    split
    · next hempty =>
      rw [readMana, List.isEmpty_iff.mp hempty]
      rfl
    · rfl
  rw [Cost.manaAndTap, hmana, keptMana]
  by_cases hcmc : 0 < (readMana components).cmc
  · cases hasTap <;> simp [hcmc, Cost.apart]
  · cases hasTap <;> simp [hcmc, Cost.apart]

/-- Costs read one by one are the parts of the cost that they make. -/
theorem parts_of_costs {costs : List Cost} (hne : costs ≠ [])
    (hflat : ∀ cost ∈ costs, cost.parts = cost.apart)
    (single : Option Cost) :
    ∃ cost, (match costs with
        | [] => single
        | [cost] => some cost
        | costs => some (.composite costs)) = some cost ∧
      cost.parts = costs.flatMap Cost.apart := by
  match costs, hne with
  | [cost], _ =>
      refine ⟨cost, rfl, ?_⟩
      rw [hflat cost List.mem_cons_self, List.flatMap_singleton]
  | _ :: _ :: _, _ => exact ⟨_, rfl, rfl⟩

theorem any_isManaChar (hsplits : components.any splits = true) :
    (textOf components).any isManaChar = true := by
  obtain ⟨component, hmem, hsplit⟩ := List.any_eq_true.mp hsplits
  have hdigit : ∃ c ∈ component.text, c.isDigit = true := by
    cases component <;> try cases hsplit
    · next count cardType description htype =>
      refine ⟨_, ?_, mem_showU8 (List.head_mem (showU8_spec count).2.2)⟩
      simp [text, brackets?, inBrackets]
    · next amount hfits =>
      refine ⟨_, ?_, Nat.isDigit_of_mem_toDigits (by decide) (by decide)
        (List.head_mem (l := Nat.toDigits 10 amount) Nat.toDigits_ne_nil)⟩
      simp [text, brackets?, inBrackets]
  obtain ⟨c, hc, hdigit⟩ := hdigit
  have hspace : ' ' ∉ [c] := by
    rw [List.mem_singleton]
    rintro rfl
    exact absurd hdigit (by decide)
  have hoccurs := (infix_textOf_iff components hspace
    (List.cons_ne_nil c [])).mpr ⟨component, hmem,
      List.singleton_infix_iff _ _ |>.mpr hc⟩
  rw [List.any_eq_true]
  refine ⟨c, hoccurs.subset List.mem_cons_self, ?_⟩
  rw [isManaChar, hdigit]
  rfl

theorem otherCosts_ne_nil (hsplits : components.any splits = true) :
    otherCosts components ≠ [] := by
  obtain ⟨component, hmem, hsplit⟩ := List.any_eq_true.mp hsplits
  refine List.ne_nil_of_mem (List.mem_map_of_mem
    (List.mem_filter.mpr ⟨hmem, ?_⟩))
  cases component <;> first | rfl | cases hsplit

theorem flat_costs (manaParts : List (List Char)) (hasTap : Bool) :
    ∀ cost ∈ otherCosts components ++ Cost.manaAndTap manaParts hasTap,
      cost.parts = cost.apart := by
  intro part hpart
  rcases List.mem_append.mp hpart with hpart | hpart
  · obtain ⟨component, -, rfl⟩ := List.mem_map.mp hpart
    rw [parts_cost, apart_cost]
  · unfold Cost.manaAndTap at hpart
    generalize (if manaParts.isEmpty then ({} : ManaCost)
      else ManaCost.fromString (String.ofList (join ' ' manaParts))) = m
      at hpart
    by_cases hcmc : 0 < m.cmc <;> cases hasTap <;>
      simp [hcmc] at hpart <;> subst hpart <;> rfl

theorem otherCosts_apart :
    (otherCosts components).flatMap Cost.apart = otherCosts components := by
  rw [otherCosts, List.flatMap_map]
  simp only [apart_cost]
  exact List.map_eq_flatMap.symm

/-- A text that is taken apart gives the other costs, the tap that is seen and
the mana that counts for something. -/
theorem parse_split (hsplits : components.any splits = true)
    (hwhole : ∀ component ∈ components, component.Whole) :
    ∃ cost, Cost.parse parseCounter (textOf components) = some cost ∧
      cost.parts = otherCosts components ++
        ((if Cost.hasTap (textOf components) then [.tap] else []) ++
          keptMana components) := by
  have hpieces : Cost.parsePieces parseCounter (textOf components)
      (Cost.hasTap (textOf components)) =
      otherCosts components ++ Cost.manaAndTap (manaTexts components)
        (Cost.hasTap (textOf components)) := by
    rw [Cost.parsePieces, pieces_textOf hwhole, foldl_readPiece]
    rfl
  have hne := List.append_ne_nil_of_left_ne_nil
    (otherCosts_ne_nil components hsplits)
    (Cost.manaAndTap (manaTexts components)
      (Cost.hasTap (textOf components)))
  obtain ⟨cost, hcost, hparts⟩ := parts_of_costs hne (flat_costs _ _ _)
    (Cost.parseSingle parseCounter (textOf components))
  refine ⟨cost, ?_, ?_⟩
  · rw [Cost.parse, trim_textOf, isSplit_textOf, hsplits,
      any_isManaChar components hsplits, Bool.or_true, Bool.true_and,
      if_pos rfl, hpieces]
    exact hcost
  · rw [hparts, List.flatMap_append, otherCosts_apart, manaAndTap_apart]

end Split

section Made

theorem not_isMana_of_isTap {component : CostComponent parseCounter}
    (htap : component.isTap = true) : component.isMana = false := by
  cases component <;> first | rfl | cases htap

/-- The taps, however many, are taps. -/
theorem taps_eq :
    (components.filter isTap).map cost =
      List.replicate (components.countP isTap) .tap := by
  rw [List.eq_replicate_iff, List.length_map, List.countP_eq_length_filter]
  refine ⟨rfl, fun part hpart => ?_⟩
  obtain ⟨component, hmem, rfl⟩ := List.mem_map.mp hpart
  exact isTap_iff.mp (List.mem_filter.mp hmem).2

theorem nonMana_perm :
    (nonMana (components.map cost)).Perm
      (otherCosts components ++
        List.replicate (components.countP isTap) .tap) := by
  have htaps : (components.filter fun component => !component.isMana).filter
      isTap = components.filter isTap := by
    rw [List.filter_filter]
    refine List.filter_congr fun component _ => ?_
    cases htap : component.isTap
    · rfl
    · rw [not_isMana_of_isTap htap]
      rfl
  rw [nonMana_map_cost, otherCosts, ← taps_eq, ← List.map_append, ← htaps,
    ← List.filter_filter]
  exact ((List.filter_append_perm _ _).symm.trans List.perm_append_comm).map _

theorem nonMana_otherCosts :
    nonMana (otherCosts components) = otherCosts components := by
  refine List.filter_eq_self.mpr fun part hpart => ?_
  obtain ⟨component, hmem, rfl⟩ := List.mem_map.mp hpart
  have hother := (List.mem_filter.mp hmem).2
  rw [Bool.and_eq_true, Bool.not_eq_true', Bool.not_eq_true'] at hother
  rw [← Option.not_isSome, manaPart?_cost_isSome, hother.2]
  rfl

theorem nonMana_keptMana : nonMana (keptMana components) = [] := by
  rw [keptMana]
  split <;> rfl

theorem manaTotal_eq_zero_iff :
    manaTotal components = 0 ↔
      ∀ kind ∈ ManaCost.kinds, sumOf kind (components.map cost) = 0 := by
  have hkinds : manaTotal components =
      (ManaCost.kinds.map (sumOf · (components.map cost))).sum := by
    rw [sumOf_kinds, manaTotal_eq, length_eq_counts]
    simp only [List.sum_cons, List.sum_nil]
    omega
  rw [hkinds, List.sum_eq_zero_iff_forall_eq_nat]
  simp only [List.mem_map, forall_exists_index, and_imp,
    forall_apply_eq_imp_iff₂]

theorem manaFits_of_total (htotal : manaTotal components = 0) :
    ManaFits components := by
  rw [manaTotal_eq, Nat.add_eq_zero_iff, List.length_eq_zero_iff] at htotal
  obtain ⟨hnumbers, hcolors⟩ := htotal
  refine ⟨?_, fun color => by rw [hcolors, List.count_nil]; decide⟩
  cases hlist : components.filterMap number? with
  | nil => exact Nat.zero_le 1
  | cons n numbers =>
      have hpositive := numbers_positive components n
        (by rw [hlist]; exact List.mem_cons_self)
      have hvalue : 0 < n.toNat := UInt8.lt_iff_toNat_lt.mp hpositive
      rw [hlist, List.map_cons, List.sum_cons] at hnumbers
      omega

/-- The mana that is left is the mana of the components when it is kept. -/
theorem keptMana_iff :
    (∀ kind ∈ ManaCost.kinds,
        sumOf kind (keptMana components) =
          sumOf kind (components.map cost)) ↔
      ManaKept components := by
  rw [keptMana]
  by_cases hcmc : 0 < (readMana components).cmc
  · rw [if_pos hcmc]
    constructor
    · intro hkinds
      have hfits := (readMana_iff components).mp hkinds
      exact ⟨hfits, .inr ((cmc_readMana components hfits).mp hcmc)⟩
    · rintro ⟨hfits, -⟩
      exact (readMana_iff components).mpr hfits
  · rw [if_neg hcmc]
    have hzero : (∀ kind ∈ ManaCost.kinds, sumOf kind [] =
        sumOf kind (components.map cost)) ↔ manaTotal components = 0 := by
      rw [manaTotal_eq_zero_iff]
      exact forall₂_congr fun _ _ => eq_comm
    rw [hzero]
    constructor
    · intro htotal
      exact ⟨manaFits_of_total components htotal, .inl htotal⟩
    · rintro ⟨hfits, htotal | htotal⟩
      · exact htotal
      · exact absurd ((cmc_readMana components hfits).mpr htotal) hcmc

variable {components}

theorem meansSum_of_parse {cost : Cost}
    (hparse : Cost.parse parseCounter (textOf components) = some cost) :
    MeansSum components ↔ MadeOf components cost := by
  rw [MeansSum, hparse]
  constructor
  · rintro ⟨other, hother, hmade⟩
    rwa [Option.some.inj hother]
  · exact fun hmade => ⟨cost, rfl, hmade⟩

theorem any_isTap_eq :
    components.any isTap = decide (0 < components.countP isTap) := by
  rw [Bool.eq_iff_iff, decide_eq_true_iff, List.countP_pos_iff,
    List.any_eq_true]

/-- What is put together from the pieces is the sum of the components when the
mana is kept and a tap is seen just where there is one. -/
theorem madeOf_pieces_iff {part : Cost} {hasTap : Bool}
    (hparts : part.parts = otherCosts components ++
      ((if hasTap then [.tap] else []) ++ keptMana components))
    (hone : components.countP isTap ≤ 1) :
    MadeOf components part ↔
      hasTap = components.any isTap ∧ ManaKept components := by
  have htap : nonMana (if hasTap then [.tap] else []) =
      if hasTap then [.tap] else [] := by
    split <;> rfl
  have hothers : nonMana part.parts =
      otherCosts components ++ if hasTap then [.tap] else [] := by
    rw [hparts, nonMana_append, nonMana_append, nonMana_otherCosts,
      nonMana_keptMana, List.append_nil, htap]
  have hperm : (nonMana part.parts).Perm (nonMana (components.map cost)) ↔
      hasTap = components.any isTap := by
    rw [(nonMana_perm components).congr_right, hothers,
      List.perm_append_left_iff, List.perm_replicate, any_isTap_eq]
    obtain hnone | hsome : components.countP isTap = 0 ∨
        components.countP isTap = 1 := by omega
    · rw [hnone]
      cases hasTap <;> simp
    · rw [hsome]
      cases hasTap <;> simp
  have hsum (kind : ManaCost → UInt8) :
      sumOf kind part.parts = sumOf kind (keptMana components) := by
    have hzero : sumOf kind (if hasTap then [.tap] else []) = 0 := by
      split <;> rfl
    have hrest : sumOf kind (otherCosts components) = 0 := by
      refine sumOf_nonMana kind fun other hother => ?_
      rw [← nonMana_otherCosts] at hother
      exact Option.isNone_iff_eq_none.mp (List.mem_filter.mp hother).2
    rw [hparts, sumOf_append, sumOf_append, hzero, hrest, Nat.zero_add,
      Nat.zero_add]
  constructor
  · rintro ⟨hmade, hmana⟩
    refine ⟨hperm.mp hmade, (keptMana_iff components).mp ?_⟩
    intro kind hkind
    rw [← hsum, hmana kind hkind]
  · rintro ⟨hseen, hkept⟩
    refine ⟨hperm.mpr hseen, fun kind hkind => ?_⟩
    rw [hsum, (keptMana_iff components).mpr hkept kind hkind]

/-- With a sacrifice or a payment of life. -/
theorem meansSum_split_iff (hone : components.countP isTap ≤ 1)
    (hwhole : ∀ component ∈ components, component.Whole)
    (hsplits : components.any splits = true) :
    MeansSum components ↔
      ManaKept components ∧
        ((∃ component ∈ components, component.isTap = true) ∨
          ∀ component ∈ components, ¬ [' ', 'T'] <:+: component.text) := by
  obtain ⟨cost, hparse, hparts⟩ := parse_split components hsplits hwhole
  have hlong (htap : ∃ component ∈ components, component.isTap = true) :
      2 ≤ components.length := by
    obtain ⟨found, hmem, htap⟩ := htap
    obtain ⟨other, hother, hsplit⟩ := List.any_eq_true.mp hsplits
    by_contra hshort
    have hlength : components.length = 1 := by
      have := List.length_pos_of_mem hmem
      omega
    obtain ⟨only, rfl⟩ := List.length_eq_one_iff.mp hlength
    rw [List.mem_singleton] at hmem hother
    rw [hmem] at htap
    rw [hother] at hsplit
    cases only <;> simp [isTap, splits] at htap hsplit
  have hseen : Cost.hasTap (textOf components) = components.any isTap ↔
      (∃ component ∈ components, component.isTap = true) ∨
        ∀ component ∈ components, ¬ [' ', 'T'] <:+: component.text := by
    rw [Bool.eq_iff_iff, hasTap_textOf_iff, List.any_eq_true]
    constructor
    · intro hiff
      by_contra hnot
      obtain ⟨hnone, hinside⟩ := not_or.mp hnot
      simp only [not_forall, not_not] at hinside
      obtain ⟨component, hmem, hinside⟩ := hinside
      exact hnone (hiff.mp (.inr ⟨component, hmem, hinside⟩))
    · rintro (htap | hinside)
      · exact iff_of_true (.inl ⟨hlong htap, htap⟩) htap
      · constructor
        · rintro (⟨-, htap⟩ | ⟨component, hmem, htext⟩)
          · exact htap
          · exact absurd htext (hinside component hmem)
        · exact fun htap => .inl ⟨hlong htap, htap⟩
  rw [meansSum_of_parse hparse, madeOf_pieces_iff hparts hone, hseen,
    and_comm]

end Made

end CostComponent

end DeepScry
