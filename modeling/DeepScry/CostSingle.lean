/-
A cost without a sacrifice or a payment of life is read in one piece: which of
these are read as they are meant, and when a cost of any kind is.
-/
import DeepScry.CostSum

namespace DeepScry

open TextLines

namespace CostComponent

variable {parseCounter : List Char → Option CounterType}
  {components : List (CostComponent parseCounter)}

theorem parse_single (hsplits : components.any splits = false) :
    Cost.parse parseCounter (textOf components) =
      Cost.parseSingle parseCounter (textOf components) := by
  rw [Cost.parse, trim_textOf, isSplit_textOf, hsplits]
  rfl

/-- One component stands alone. -/
theorem meansSum_singleton {component : CostComponent parseCounter}
    (hsplits : component.splits = false) : MeansSum [component] := by
  refine ⟨component.cost, ?_, madeOf_single component⟩
  rw [parse_single (by simp [hsplits]), textOf, List.map_singleton,
    join_singleton, parseSingle_text]

theorem brackets?_of_mana {component : CostComponent parseCounter}
    (hplain : component.isMana = true ∨ component.isTap = true) :
    component.brackets? = none := by
  cases component <;> first | rfl | simp [isMana, isTap] at hplain

section Mana

theorem manaTotal_pos {component : CostComponent parseCounter}
    (hmem : component ∈ components) (hmana : component.isMana = true) :
    0 < manaTotal components := by
  have hamount : 0 < component.manaAmount := by
    cases component with
    | number n hpositive => exact UInt8.lt_iff_toNat_lt.mp hpositive
    | symbol color => exact Nat.one_pos
    | _ => cases hmana
  exact hamount.trans_le
    (List.le_sum_of_mem (List.mem_map_of_mem hmem))

/-- Nothing but mana is read at once. -/
theorem parseSingle_textOf_mana (hne : components ≠ [])
    (hmana : ∀ component ∈ components, component.isMana = true) :
    Cost.parseSingle parseCounter (textOf components) =
      if 0 < (readMana components).cmc
        then some (.mana (readMana components)) else none := by
  have hread : readMana components =
      ManaCost.fromString (String.ofList (textOf components)) := by
    rw [readMana, manaTexts, List.filter_eq_self.mpr hmana, textOf]
  have hchars (component : CostComponent parseCounter)
      (hmem : component ∈ components) :
      ∀ c ∈ component.text, isManaChar c = true := by
    rw [text_mana (hmana component hmem)]
    exact (isManaChar_word (hmana component hmem)).2
  rw [hread]
  refine parseSingle_mana parseCounter (fun c hc => ?_) ?_
  · rcases mem_join hc with hspace | ⟨text, htext, hc⟩
    · exact .inl hspace
    · obtain ⟨component, hmem, rfl⟩ := List.mem_map.mp htext
      exact .inr (hchars component hmem c hc)
  · obtain ⟨first, rest, rfl⟩ := List.exists_cons_of_ne_nil hne
    have hhead : (textOf (first :: rest)).head? =
        some (first.text.head first.text_ne_nil) := by
      rw [textOf, List.map_cons, head?_join first.text_ne_nil,
        List.head?_eq_some_head]
    exact List.any_eq_true.mpr ⟨_, List.mem_of_mem_head? hhead,
      hchars first List.mem_cons_self _ (List.head_mem _)⟩

theorem nonMana_eq_nil
    (hmana : ∀ component ∈ components, component.isMana = true) :
    nonMana (components.map cost) = [] := by
  rw [nonMana_map_cost, List.map_eq_nil_iff, List.filter_eq_nil_iff]
  intro component hmem
  rw [hmana component hmem]
  decide

theorem meansSum_mana_iff (hne : components ≠ [])
    (hsplits : components.any splits = false)
    (hmana : ∀ component ∈ components, component.isMana = true) :
    MeansSum components ↔ ManaKept components := by
  have hparse := (parse_single hsplits).trans
    (parseSingle_textOf_mana hne hmana)
  by_cases hcmc : 0 < (readMana components).cmc
  · rw [if_pos hcmc] at hparse
    have hparts : (Cost.mana (readMana components)).parts =
        keptMana components := by
      rw [keptMana, if_pos hcmc]
      rfl
    rw [meansSum_of_parse hparse, ← keptMana_iff, ← hparts]
    constructor
    · exact fun hmade => hmade.mana
    · intro hkinds
      refine ⟨?_, hkinds⟩
      rw [hparts, nonMana_keptMana, nonMana_eq_nil hmana]
  · rw [if_neg hcmc] at hparse
    constructor
    · rintro ⟨cost, hcost, -⟩
      rw [hparse] at hcost
      cases hcost
    · rintro ⟨hfits, htotal | htotal⟩
      · obtain ⟨first, rest, rfl⟩ := List.exists_cons_of_ne_nil hne
        have hpositive : 0 < manaTotal (first :: rest) :=
          manaTotal_pos List.mem_cons_self (hmana first List.mem_cons_self)
        rw [htotal] at hpositive
        cases hpositive
      · exact absurd ((cmc_readMana components hfits).mpr htotal) hcmc

end Mana

section Tap

theorem space_mem_textOf (hlength : 2 ≤ components.length) :
    ' ' ∈ textOf components := by
  match components, hlength with
  | first :: next :: rest, _ =>
      rw [textOf, List.map_cons, join_cons _ (by simp)]
      simp

/-- A text with a space is no word for a tap or for the reverse. -/
theorem no_word {text : List Char} (hspace : ' ' ∈ text) :
    Cost.isTapText text = false ∧
      (text == ['Q'] || text == ['U', 'n', 't', 'a', 'p']) = false := by
  have hother (word : List Char) (hword : ' ' ∉ word) :
      (text == word) = false := by
    rw [beq_eq_false_iff_ne]
    rintro rfl
    exact hword hspace
  rw [Cost.isTapText, hother _ (by decide), hother _ (by decide),
    hother _ (by decide), hother _ (by decide)]
  exact ⟨rfl, rfl⟩

variable (hplain : ∀ component ∈ components,
    component.isMana = true ∨ component.isTap = true)
  (hseen : ∃ component ∈ components.tail, component.isTap = true)
  (hone : components.countP isTap ≤ 1)

include hplain

theorem not_bracket_textOf : '<' ∉ textOf components := by
  intro hmem
  rcases mem_join hmem with hspace | ⟨text, htext, hmem⟩
  · cases hspace
  · obtain ⟨component, hcomponent, rfl⟩ := List.mem_map.mp htext
    have hnone := brackets?_of_mana (hplain component hcomponent)
    rw [text_word hnone] at hmem
    exact ((component.word_plain hnone).2 _ hmem).2.1 rfl

/-- Without the taps the texts are those of the mana. -/
theorem filter_words :
    (components.map text).filter (fun part => !Cost.isTapText part) =
      manaTexts components := by
  rw [List.filter_map, manaTexts]
  refine congrArg _ (List.filter_congr fun component hmem => ?_)
  rw [Function.comp_apply, isTapText_text]
  rcases hplain component hmem with hmana | htap
  · cases htap : component.isTap
    · exact hmana.symm
    · rw [not_isMana_of_isTap htap] at hmana
      cases hmana
  · rw [htap, not_isMana_of_isTap htap]
    rfl

theorem otherCosts_eq_nil : otherCosts components = [] := by
  rw [otherCosts, List.map_eq_nil_iff, List.filter_eq_nil_iff]
  intro component hmem
  rcases hplain component hmem with hmana | htap
  · simp [hmana]
  · simp [htap]

include hseen hone

/-- The component before the tap is mana. -/
theorem manaTexts_ne_nil : manaTexts components ≠ [] := by
  obtain ⟨found, hmem, htap⟩ := hseen
  cases components with
  | nil => cases hmem
  | cons first rest =>
      have hrest : 0 < rest.countP isTap :=
        List.countP_pos_iff.mpr ⟨found, hmem, htap⟩
      have hfirst : first.isTap ≠ true := by
        intro hfirst
        rw [List.countP_cons_of_pos hfirst] at hone
        omega
      have hmana : first.isMana = true :=
        (hplain first List.mem_cons_self).resolve_right hfirst
      rw [manaTexts, List.filter_cons_of_pos hmana, List.map_cons]
      exact List.cons_ne_nil _ _

theorem parseSingle_textOf_tap :
    Cost.parseSingle parseCounter (textOf components) =
      some (.tapAndMana (readMana components)) := by
  have hlength : 2 ≤ components.length := by
    obtain ⟨found, hmem, -⟩ := hseen
    have hpositive := List.length_pos_of_mem hmem
    rw [List.length_tail] at hpositive
    omega
  obtain ⟨htap, huntap⟩ := no_word (space_mem_textOf hlength)
  have hcontains : contains (textOf components) [' ', 'T'] = true :=
    (contains_textOf_iff components).mpr (.inr hseen)
  have hne := manaTexts_ne_nil hplain hseen hone
  rw [parseSingle_plain parseCounter (not_bracket_textOf hplain) htap huntap,
    Cost.parseTapMana, contains_tap, if_pos hcontains,
    splitWhitespace_textOf components fun component hmem =>
      brackets?_of_mana (hplain component hmem), filter_words hplain]
  simp only [List.isEmpty_iff, hne, if_false]
  rfl

theorem meansSum_tap_iff (hsplits : components.any splits = false) :
    MeansSum components ↔ ManaFits components := by
  have hparse := (parse_single hsplits).trans
    (parseSingle_textOf_tap hplain hseen hone)
  have htaps : components.countP isTap = 1 := by
    obtain ⟨found, hmem, htap⟩ := hseen
    have hpositive := List.countP_pos_iff.mpr
      ⟨found, List.mem_of_mem_tail hmem, htap⟩
    omega
  rw [meansSum_of_parse hparse, ← readMana_iff]
  constructor
  · exact fun hmade => hmade.mana
  · intro hkinds
    refine ⟨?_, hkinds⟩
    have hperm := nonMana_perm components
    rw [otherCosts_eq_nil hplain, htaps] at hperm
    exact hperm.symm

end Tap

section Bracket

/-- A cost that is read from brackets is one cost, and no mana. -/
structure FromBrackets (text : List Char) (cost : Cost) : Prop where
  bracket : ∃ name, ' ' ∉ name ∧ (bracketed name text).isSome = true
  alone : nonMana cost.parts = [cost]

theorem fromBrackets {name text : List Char} {cost : Cost}
    {read : List Char → Option Cost} (hname : ' ' ∉ name)
    (halone : ∀ spec, read spec = some cost → nonMana cost.parts = [cost])
    (hread : (bracketed name text).bind read = some cost) :
    FromBrackets text cost := by
  obtain ⟨spec, hspec, hread⟩ := Option.bind_eq_some_iff.mp hread
  exact ⟨⟨name, hname, Option.isSome_iff_exists.mpr ⟨spec, hspec⟩⟩,
    halone spec hread⟩

theorem fromBrackets_loyalty {name text : List Char} {cost : UInt8 → Cost}
    (hname : ' ' ∉ name)
    (halone : ∀ amount, nonMana (cost amount).parts = [cost amount])
    {read : Cost} (hread : Cost.parseLoyalty name cost text = some read) :
    FromBrackets text read := by
  refine fromBrackets hname (fun spec hspec => ?_) hread
  rw [Option.ite_none_right_eq_some] at hspec
  obtain ⟨-, hspec⟩ := hspec
  obtain ⟨_, _, hspec⟩ := Option.bind_eq_some_iff.mp hspec
  obtain ⟨amount, -, rfl⟩ := Option.map_eq_some_iff.mp hspec
  exact halone amount

/-- Where a text of several words can come from. -/
theorem parseSingle_cases {text : List Char} {cost : Cost}
    (hspace : ' ' ∈ text)
    (hparse : Cost.parseSingle parseCounter text = some cost) :
    FromBrackets text cost ∨
      (contains text [' ', 'T'] = true ∧
        ∃ manaCost, cost = .tapAndMana manaCost) ∨
      ∃ manaCost, cost = .mana manaCost := by
  obtain ⟨htap, huntap⟩ := no_word hspace
  rw [Cost.parseSingle, htap, huntap, if_neg Bool.false_ne_true,
    if_neg Bool.false_ne_true] at hparse
  obtain ⟨parser, hmem, hread⟩ := List.exists_of_findSome?_eq_some hparse
  simp only [List.mem_cons, List.not_mem_nil, or_false] at hmem
  rcases hmem with rfl | rfl | rfl | rfl | rfl | rfl | rfl | rfl | rfl
  · refine .inl (fromBrackets (by decide) (fun spec hspec => ?_) hread)
    split at hspec
    · obtain ⟨count, -, rfl⟩ := Option.map_eq_some_iff.mp hspec
      rfl
    · cases hspec
  · refine .inl (fromBrackets (by decide) (fun spec hspec => ?_) hread)
    obtain ⟨amount, -, rfl⟩ := Option.map_eq_some_iff.mp hspec
    rfl
  · refine .inl (fromBrackets (by decide) (fun spec hspec => ?_) hread)
    rw [Option.ite_none_right_eq_some] at hspec
    rw [← Option.some.inj hspec.2]
    rfl
  · exact .inl (fromBrackets_loyalty (by decide) (fun _ => rfl) hread)
  · exact .inl (fromBrackets_loyalty (by decide) (fun _ => rfl) hread)
  · refine .inl (fromBrackets (by decide) (fun spec hspec => ?_) hread)
    split at hspec
    · split at hspec
      · rw [← Option.some.inj hspec]
        rfl
      · cases hspec
    · cases hspec
  · refine .inl (fromBrackets (by decide) (fun spec hspec => ?_) hread)
    obtain ⟨amount, -, rfl⟩ := Option.map_eq_some_iff.mp hspec
    rfl
  · rw [Cost.parseTapMana, contains_tap,
      Option.ite_none_right_eq_some] at hread
    obtain ⟨hcontains, hread⟩ := hread
    refine .inr (.inl ⟨hcontains, ?_⟩)
    rw [Option.ite_none_left_eq_some] at hread
    exact ⟨_, (Option.some.inj hread.2).symm⟩
  · rw [Cost.parseMana, Option.ite_none_right_eq_some] at hread
    obtain ⟨-, hread⟩ := hread
    rw [Option.ite_none_right_eq_some] at hread
    exact .inr (.inr ⟨_, (Option.some.inj hread.2).symm⟩)

theorem not_isMana_of_bracket {component : CostComponent parseCounter}
    {c : Char} (hc : isManaChar c = false) (hmem : c ∈ component.text) :
    component.isMana = false := by
  by_contra hmana
  rw [Bool.not_eq_false] at hmana
  rw [text_mana hmana] at hmem
  exact absurd (hc.symm.trans ((isManaChar_word hmana).2 c hmem))
    Bool.false_ne_true

/-- A text that begins and ends as brackets do has two components with
brackets, so that it is not one of them. -/
theorem not_madeOf_fromBrackets (hlength : 2 ≤ components.length)
    {part : Cost} (hpart : FromBrackets (textOf components) part) :
    ¬ MadeOf components part := by
  obtain ⟨⟨name, hname, hbracket⟩, halone⟩ := hpart
  rw [bracketed, Option.isSome_ite] at hbracket
  obtain ⟨hstarts, hlast⟩ := hbracket
  obtain ⟨first, rest, rfl⟩ := List.exists_cons_of_length_pos
    (Nat.lt_of_lt_of_le Nat.zero_lt_two hlength)
  have hrest : rest ≠ [] := by
    rintro rfl
    exact absurd hlength (by simp)
  obtain ⟨between, last, rfl⟩ := List.eq_nil_or_concat' rest
    |>.resolve_left hrest
  have hfirst : first.isMana = false := by
    rw [textOf, List.map_cons, join_cons _ (by simp),
      prefix_append_cons_iff (by simp [hname])] at hstarts
    exact not_isMana_of_bracket (c := '<') (by decide)
      (hstarts.subset (by simp))
  have hend : last.isMana = false := by
    rw [textOf, ← List.cons_append, List.map_append, List.map_singleton,
      getLast?_join last.text_ne_nil] at hlast
    exact not_isMana_of_bracket (by decide) (List.mem_of_mem_getLast? hlast)
  intro hmade
  have hsame := hmade.others.length_eq
  rw [halone, nonMana_map_cost, List.length_map] at hsame
  simp [hfirst, hend] at hsame

end Bracket

section Readable

theorem isMana_of_nonMana (hothers : nonMana (components.map cost) = []) :
    ∀ component ∈ components, component.isMana = true := by
  rw [nonMana_map_cost, List.map_eq_nil_iff, List.filter_eq_nil_iff]
    at hothers
  intro component hmem
  simpa using hothers component hmem

/-- In one piece, several components are understood only where they are mana,
or mana with a tap that does not come first. -/
theorem plain_of_meansSum (hlength : 2 ≤ components.length)
    (hsplits : components.any splits = false)
    (hmeans : MeansSum components) :
    (∀ component ∈ components, component.isMana = true) ∨
      (∀ component ∈ components,
          component.isMana = true ∨ component.isTap = true) ∧
        ∃ component ∈ components.tail, component.isTap = true := by
  obtain ⟨part, hparse, hmade⟩ := hmeans
  rw [parse_single hsplits] at hparse
  rcases parseSingle_cases (space_mem_textOf hlength) hparse with
    hbracket | ⟨hcontains, manaCost, rfl⟩ | ⟨manaCost, rfl⟩
  · exact absurd hmade (not_madeOf_fromBrackets hlength hbracket)
  · have hothers : nonMana (components.map cost) = [.tap] :=
      List.perm_singleton.mp hmade.others.symm
    have hplain : ∀ component ∈ components,
        component.isMana = true ∨ component.isTap = true := by
      intro component hmem
      cases hmana : component.isMana
      · have hcost : component.cost ∈ nonMana (components.map cost) := by
          rw [nonMana_map_cost]
          exact List.mem_map_of_mem (List.mem_filter.mpr ⟨hmem, by
            rw [hmana]
            rfl⟩)
        rw [hothers, List.mem_singleton] at hcost
        exact .inr (isTap_iff.mpr hcost)
      · exact .inl rfl
    refine .inr ⟨hplain, ?_⟩
    rcases (contains_textOf_iff components).mp hcontains with
      ⟨component, hmem, hinside⟩ | htap
    · have hnone := brackets?_of_mana (hplain component hmem)
      have hspace := hinside.subset (List.mem_cons_self (a := ' '))
      rw [text_word hnone] at hspace
      exact absurd ((component.word_plain hnone).2 _ hspace).1 (by decide)
    · exact htap
  · exact .inl (isMana_of_nonMana (List.perm_nil.mp hmade.others.symm))

/-- Without a sacrifice or a payment of life. -/
theorem meansSum_single_iff (hne : components ≠ [])
    (hone : components.countP isTap ≤ 1)
    (hsplits : components.any splits = false) :
    MeansSum components ↔
      components.length = 1 ∨
        (∀ component ∈ components, component.isMana = true) ∧
          ManaKept components ∨
        (∀ component ∈ components,
            component.isMana = true ∨ component.isTap = true) ∧
          (∃ component ∈ components.tail, component.isTap = true) ∧
          ManaFits components := by
  constructor
  · intro hmeans
    refine or_iff_not_imp_left.mpr fun hlong => ?_
    have hpositive := List.length_pos_iff.mpr hne
    rcases plain_of_meansSum (by omega) hsplits hmeans with
      hmana | ⟨hplain, hseen⟩
    · exact .inl ⟨hmana, (meansSum_mana_iff hne hsplits hmana).mp hmeans⟩
    · exact .inr ⟨hplain, hseen,
        (meansSum_tap_iff hplain hseen hone hsplits).mp hmeans⟩
  · rintro (hlength | ⟨hmana, hkept⟩ | ⟨hplain, hseen, hfits⟩)
    · obtain ⟨component, rfl⟩ := List.length_eq_one_iff.mp hlength
      exact meansSum_singleton (by simpa using hsplits)
    · exact (meansSum_mana_iff hne hsplits hmana).mpr hkept
    · exact (meansSum_tap_iff hplain hseen hone hsplits).mpr hfits

/-- A cost means the sum of its components when it is readable. -/
theorem meansSum_iff (hne : components ≠ [])
    (hone : components.countP isTap ≤ 1)
    (hwhole : ∀ component ∈ components, component.Whole) :
    MeansSum components ↔ Readable components := by
  rw [Readable]
  split
  · next hsplits => exact meansSum_split_iff hone hwhole hsplits
  · next hsplits =>
    exact meansSum_single_iff hne hone (Bool.not_eq_true _ ▸ hsplits)

/-- The name of one kind of counter. -/
def readP1P1 (name : List Char) : Option CounterType :=
  if name = ['P', '1', 'P', '1'] then some .p1p1 else none

/-- `SubCounter<1/P1P1>`. -/
def removeP1P1 : CostComponent readP1P1 :=
  .subCounter 1 ['P', '1', 'P', '1'] .p1p1 rfl (by decide)

/-- A tap, a counter and a sacrifice are read together. -/
theorem meansSum_tap_sacrifice :
    MeansSum [.tap, removeP1P1, .sacrifice 1 ['L', 'a', 'n', 'd'] none
      (by decide)] := by
  refine (meansSum_iff (List.cons_ne_nil _ _) (by decide) ?_).mpr ?_
  · intro component hmem
    simp only [List.mem_cons, List.not_mem_nil, or_false] at hmem
    rcases hmem with rfl | rfl | rfl
    · trivial
    · trivial
    · rfl
  · exact ⟨⟨⟨by decide, by rintro ⟨⟩ <;> decide⟩, .inl rfl⟩,
      .inl ⟨.tap, List.mem_cons_self, rfl⟩⟩

/-- `T SubCounter<1/P1P1>` is read as 111 generic and one colorless mana. -/
theorem not_meansSum :
    Cost.parse readP1P1 (textOf [.tap, removeP1P1]) =
        some (.mana { generic := 111, colorless := 1 }) ∧
      ¬ ∀ components : List (CostComponent readP1P1), components ≠ [] →
        components.countP isTap ≤ 1 → MeansSum components := by
  have hparse : Cost.parse readP1P1 (textOf [.tap, removeP1P1]) =
      some (.mana { generic := 111, colorless := 1 }) := by
    rfl
  refine ⟨hparse, fun hall => ?_⟩
  have hmade := (meansSum_of_parse hparse).mp
    (hall _ (List.cons_ne_nil _ _) (by decide))
  have hlength := hmade.others.length_eq
  exact absurd hlength (by decide)

end Readable

end CostComponent

end DeepScry
