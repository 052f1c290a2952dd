/-
The texts of several components with spaces between them: the pieces are the
components again.
-/
import DeepScry.CostComponents

namespace DeepScry

open TextLines

namespace CostComponent

variable {parseCounter : List Char → Option CounterType}

section Texts

variable (component : CostComponent parseCounter)

theorem text_cases :
    (∃ name inner, component.brackets? = some (name, inner) ∧
        name ∈ names ∧ component.text = inBrackets name inner) ∨
      component.brackets? = none ∧ component.text = component.word := by
  cases hbrackets : component.brackets? with
  | none => exact .inr ⟨rfl, text_word hbrackets⟩
  | some both => exact .inl ⟨both.1, both.2, rfl, mem_names hbrackets,
      text_eq hbrackets⟩

/-- A component without brackets is a word of digits and letters. -/
theorem word_plain (hbrackets : component.brackets? = none) :
    component.word ≠ [] ∧ ∀ c ∈ component.word,
      isWhitespace c = false ∧ c ≠ '<' ∧ c ≠ '>' ∧
        (c = 'T' → component.isTap = true) := by
  cases component with
  | tap => simp [word, isWhitespace, isTap]
  | untap => simp [word, isWhitespace]
  | number n hpositive =>
      refine ⟨(showU8_spec n).2.2, fun c hc => ?_⟩
      have hdigit := mem_showU8 hc
      refine ⟨isWhitespace_of_isDigit hdigit, ?_, ?_, ?_⟩ <;>
        · rintro rfl
          exact absurd hdigit (by decide)
  | symbol color => cases color <;> simp [word, ManaColor.letter, isWhitespace]
  | _ => cases hbrackets

theorem text_ne_nil : component.text ≠ [] := by
  rcases component.text_cases with ⟨name, inner, -, -, htext⟩ | ⟨hnone, htext⟩
  · rw [htext, inBrackets]
    exact List.append_ne_nil_of_right_ne_nil _ (List.cons_ne_nil _ _)
  · rw [htext]
    exact (component.word_plain hnone).1

theorem names_head {name : List Char} (hname : name ∈ names)
    (rest : List Char) :
    ∃ c, (name ++ rest).head? = some c ∧ isWhitespace c = false ∧
      c ≠ 'T' := by
  have hheads : ∀ name ∈ names, ∃ c tail, name = c :: tail ∧
      isWhitespace c = false ∧ c ≠ 'T' := by
    intro name hname
    simp only [names, List.mem_cons, List.not_mem_nil, or_false] at hname
    rcases hname with rfl | rfl | rfl | rfl | rfl | rfl <;>
      exact ⟨_, _, rfl, by decide, by decide⟩
  obtain ⟨c, tail, rfl, hplain, hne⟩ := hheads name hname
  exact ⟨c, rfl, hplain, hne⟩

theorem trimmed_text : Trimmed component.text := by
  rcases component.text_cases with ⟨name, inner, -, hname, htext⟩ |
    ⟨hnone, htext⟩
  · rw [htext]
    constructor
    · intro c hc
      obtain ⟨d, hd, hplain, -⟩ := names_head hname ('<' :: (inner ++ ['>']))
      rw [inBrackets, hd] at hc
      rwa [← Option.some.inj hc]
    · intro c hc
      rw [inBrackets, List.append_cons, ← List.append_assoc,
        List.getLast?_concat] at hc
      rw [← Option.some.inj hc]
      decide
  · obtain ⟨-, hplain⟩ := component.word_plain hnone
    rw [htext]
    exact ⟨fun c hc => (hplain c (List.mem_of_mem_head? hc)).1,
      fun c hc => (hplain c (List.mem_of_mem_getLast? hc)).1⟩

/-- Only a tap begins with its letter. -/
theorem head?_text_iff :
    component.text.head? = some 'T' ↔ component.isTap = true := by
  constructor
  · intro hhead
    rcases component.text_cases with ⟨name, inner, -, hname, htext⟩ |
      ⟨hnone, htext⟩
    · obtain ⟨c, hc, -, hne⟩ := names_head hname ('<' :: (inner ++ ['>']))
      rw [htext, inBrackets, hc] at hhead
      exact absurd (Option.some.inj hhead) hne
    · rw [htext] at hhead
      exact ((component.word_plain hnone).2 _
        (List.mem_of_mem_head? hhead)).2.2.2 rfl
  · intro htap
    cases component <;> first | rfl | cases htap

end Texts

section Pieces

/-- A word goes on with the piece. -/
theorem pieces_word {word : List Char}
    (hplain : ∀ c ∈ word, isWhitespace c = false ∧ c ≠ '<' ∧ c ≠ '>')
    (rest current : List Char) (inAngleBrackets : Bool) :
    Cost.pieces (word ++ rest) current inAngleBrackets =
      Cost.pieces rest (current ++ word) inAngleBrackets := by
  induction word generalizing current with
  | nil => rw [List.nil_append, List.append_nil]
  | cons c word ih =>
      obtain ⟨hspace, hopen, hclose⟩ := hplain c List.mem_cons_self
      rw [List.cons_append, Cost.pieces, if_neg hopen, if_neg hclose, hspace,
        Bool.false_and, if_neg Bool.false_ne_true,
        ih (fun d hd => hplain d (List.mem_cons_of_mem _ hd)),
        List.append_assoc]
      rfl

theorem pieces_inside {inner : List Char} {inside : Bool}
    (hwhole : staysWhole inside inner = true) (rest current : List Char) :
    Cost.pieces (inner ++ '>' :: rest) current inside =
      Cost.pieces rest (current ++ (inner ++ ['>'])) false := by
  induction inner generalizing current inside with
  | nil => rw [List.nil_append, Cost.pieces, if_neg (by decide), if_pos rfl]; rfl
  | cons c inner ih =>
      rw [staysWhole] at hwhole
      rw [List.cons_append, Cost.pieces]
      split at hwhole
      · next hopen =>
        rw [if_pos hopen, ih hwhole, List.append_assoc]
        rfl
      · next hopen =>
        rw [if_neg hopen]
        split at hwhole
        · next hclose =>
          rw [if_pos hclose, ih hwhole, List.append_assoc]
          rfl
        · next hclose =>
          rw [if_neg hclose]
          obtain ⟨hspace, hwhole⟩ := Bool.and_eq_true_iff.mp hwhole
          have hinside : (isWhitespace c && !inside) = false := by
            cases inside
            · simpa using hspace
            · exact Bool.and_false _
          rw [hinside, if_neg Bool.false_ne_true, ih hwhole,
            List.append_assoc]
          rfl

theorem staysWhole_append {word rest : List Char}
    (hword : ∀ c ∈ word, c ≠ '<' ∧ c ≠ '>') :
    staysWhole true (word ++ rest) = staysWhole true rest := by
  induction word with
  | nil => rfl
  | cons c word ih =>
      obtain ⟨hopen, hclose⟩ := hword c List.mem_cons_self
      rw [List.cons_append, staysWhole, if_neg hopen, if_neg hclose,
        Bool.true_or, Bool.true_and]
      exact ih fun d hd => hword d (List.mem_cons_of_mem _ hd)

theorem staysWhole_of_plain {inner : List Char}
    (hplain : ∀ c ∈ inner, c ≠ '<' ∧ c ≠ '>') :
    staysWhole true inner = true := by
  rw [← List.append_nil inner, staysWhole_append hplain]
  rfl

theorem digit_ne {c : Char} (hdigit : c.isDigit = true) :
    c ≠ '<' ∧ c ≠ '>' := by
  constructor <;>
    · rintro rfl
      exact absurd hdigit (by decide)

theorem staysWhole_inner {component : CostComponent parseCounter}
    (hwhole : component.Whole) {name inner : List Char}
    (hbrackets : component.brackets? = some (name, inner)) :
    staysWhole true inner = true := by
  have hcount (n : UInt8) : ∀ c ∈ showU8 n, c ≠ '<' ∧ c ≠ '>' :=
    fun c hc => digit_ne (mem_showU8 hc)
  cases component with
  | sacrifice count cardType description htype =>
      cases hbrackets
      rw [staysWhole_append (hcount count), staysWhole]
      exact hwhole
  | payLife amount hfits =>
      cases hbrackets
      exact staysWhole_of_plain fun c hc =>
        digit_ne (Nat.isDigit_of_mem_toDigits (by decide) (by decide) hc)
  | discardHand count =>
      cases hbrackets
      rw [staysWhole_append (hcount count)]
      rfl
  | addLoyalty amount =>
      cases hbrackets
      rw [staysWhole_append (hcount amount)]
      rfl
  | subCounter amount name counterType hname hplain =>
      cases hbrackets
      rw [staysWhole_append (hcount amount), staysWhole]
      refine staysWhole_of_plain fun c hc => ⟨?_, ?_⟩
      · rintro rfl
        exact hplain.2.1 hc
      · rintro rfl
        exact hplain.2.2 hc
  | waterbend amount =>
      cases hbrackets
      exact staysWhole_of_plain (hcount amount)
  | _ => cases hbrackets

theorem pieces_text {component : CostComponent parseCounter}
    (hwhole : component.Whole) (rest current : List Char) :
    Cost.pieces (component.text ++ rest) current false =
      Cost.pieces rest (current ++ component.text) false := by
  rcases component.text_cases with ⟨name, inner, hbrackets, hname, htext⟩ |
    ⟨hnone, htext⟩
  · have hplain (c : Char) (hc : c ∈ name) :
        isWhitespace c = false ∧ c ≠ '<' ∧ c ≠ '>' :=
      ⟨(plain_of_mem_names hname c hc).1,
        (plain_of_mem_names hname c hc).2.1,
        (plain_of_mem_names hname c hc).2.2.1⟩
    rw [htext, inBrackets, List.append_assoc, List.cons_append,
      List.append_assoc, pieces_word hplain, Cost.pieces, if_pos rfl,
      List.singleton_append,
      pieces_inside (staysWhole_inner hwhole hbrackets)]
    simp
  · rw [htext]
    exact pieces_word (fun c hc =>
      ⟨((component.word_plain hnone).2 c hc).1,
        ((component.word_plain hnone).2 c hc).2.1,
        ((component.word_plain hnone).2 c hc).2.2.1⟩) rest current false

/-- The text of the components with spaces between them. -/
def textOf (components : List (CostComponent parseCounter)) : List Char :=
  join ' ' (components.map text)

/-- The pieces of the text are the components. -/
theorem pieces_textOf {components : List (CostComponent parseCounter)}
    (hwhole : ∀ component ∈ components, component.Whole) :
    Cost.pieces (textOf components) [] false = components.map text := by
  have hpiece (component : CostComponent parseCounter)
      (rest : List (List Char)) :
      (if component.text.isEmpty then [] else [component.text]) ++ rest =
        component.text :: rest := by
    rw [if_neg (by simp [component.text_ne_nil])]
    rfl
  induction components with
  | nil => rfl
  | cons component components ih =>
      have hfirst := hwhole component List.mem_cons_self
      cases components with
      | nil =>
          have htext := pieces_text hfirst [] []
          rw [List.append_nil, List.nil_append, Cost.pieces] at htext
          rw [textOf, List.map_singleton, join_singleton, htext,
            ← List.append_nil (ite _ _ _), hpiece]
      | cons next components =>
          rw [textOf, List.map_cons, join_cons _ (by simp), ← textOf,
            pieces_text hfirst, Cost.pieces, if_neg (by decide),
            if_neg (by decide), if_pos (by decide), List.nil_append, hpiece,
            ih fun other hother =>
              hwhole other (List.mem_cons_of_mem _ hother)]

end Pieces

section Parts

variable (components : List (CostComponent parseCounter))

/-- A part without a space occurs in the text of a component. -/
theorem infix_textOf_iff {part : List Char} (hspace : ' ' ∉ part)
    (hne : part ≠ []) :
    part <:+: textOf components ↔
      ∃ component ∈ components, part <:+: component.text := by
  rw [textOf, infix_join_iff hspace hne]
  simp only [List.mem_map, exists_exists_and_eq_and]

/-- Up to its one opening bracket a text has the end of the name. -/
theorem suffix_of_infix_inBrackets {part name inner : List Char}
    (hname : '<' ∉ name) (hinner : '<' ∉ inner)
    (hpart : part ++ ['<'] <:+: inBrackets name inner) : part <:+ name := by
  obtain ⟨first, last, heq⟩ := hpart
  rw [inBrackets, ← List.append_assoc, List.append_assoc,
    List.singleton_append] at heq
  rcases List.append_eq_append_iff.mp heq with
    ⟨between, hbefore, hafter⟩ | ⟨between, hbefore, hafter⟩
  · cases between with
    | nil => exact ⟨first, by rw [hbefore, List.append_nil]⟩
    | cons c between =>
        obtain ⟨rfl, -⟩ := List.cons_eq_cons.mp hafter
        rw [hbefore] at hname
        exact absurd (by simp) hname
  · cases between with
    | nil => exact ⟨first, by rw [← List.append_nil name, ← hbefore]⟩
    | cons c between =>
        obtain ⟨-, hafter⟩ := List.cons_eq_cons.mp hafter
        have hmem : '<' ∈ inner ++ ['>'] := by
          rw [hafter]
          simp
        rcases List.mem_append.mp hmem with hmem | hmem
        · exact absurd hmem hinner
        · exact absurd hmem (by decide)

theorem inner_of_not_splits {component : CostComponent parseCounter}
    (hsplits : component.splits = false) {name inner : List Char}
    (hbrackets : component.brackets? = some (name, inner)) :
    '<' ∉ inner ∧ ¬ ['S', 'a', 'c'] <:+ name ∧
      ¬ ['P', 'a', 'y', 'L', 'i', 'f', 'e'] <:+ name := by
  have hcount (n : UInt8) : '<' ∉ showU8 n :=
    fun hmem => absurd (mem_showU8 hmem) (by decide)
  cases component with
  | discardHand count =>
      cases hbrackets
      exact ⟨by simp [hcount], by decide, by decide⟩
  | addLoyalty amount =>
      cases hbrackets
      exact ⟨by simp [hcount, Cost.loyaltyName], by decide, by decide⟩
  | subCounter amount name counterType hname hplain =>
      cases hbrackets
      exact ⟨by simp [hcount, hplain], by decide, by decide⟩
  | waterbend amount =>
      cases hbrackets
      exact ⟨hcount amount, by decide, by decide⟩
  | sacrifice => cases hsplits
  | payLife => cases hsplits
  | _ => cases hbrackets

/-- A component is taken for one that splits only where it is one. -/
theorem splits_iff (component : CostComponent parseCounter) :
    (['S', 'a', 'c', '<'] <:+: component.text ∨
        ['P', 'a', 'y', 'L', 'i', 'f', 'e', '<'] <:+: component.text) ↔
      component.splits = true := by
  constructor
  · intro hoccurs
    by_contra hsplits
    rw [Bool.not_eq_true] at hsplits
    rcases component.text_cases with ⟨name, inner, hbrackets, hname, htext⟩ |
      ⟨hnone, htext⟩
    · obtain ⟨hinner, hsac, hpay⟩ := inner_of_not_splits hsplits hbrackets
      rw [htext] at hoccurs
      rcases hoccurs with hoccurs | hoccurs
      · exact hsac (suffix_of_infix_inBrackets (not_mem_name hname) hinner
          hoccurs)
      · exact hpay (suffix_of_infix_inBrackets (not_mem_name hname) hinner
          hoccurs)
    · have hplain : '<' ∉ component.word := fun hmem =>
        ((component.word_plain hnone).2 _ hmem).2.1 rfl
      rw [htext] at hoccurs
      rcases hoccurs with hoccurs | hoccurs <;>
        exact hplain (hoccurs.subset (by decide))
  · intro hsplits
    cases component <;> try cases hsplits
    · exact .inl (List.prefix_append _ _).isInfix
    · exact .inr (List.prefix_append _ _).isInfix

theorem isSplit_textOf :
    Cost.isSplit (textOf components) = components.any splits := by
  rw [Bool.eq_iff_iff, Cost.isSplit, Bool.or_eq_true, contains, contains,
    decide_eq_true_iff, decide_eq_true_iff,
    infix_textOf_iff components (by decide) (by decide),
    infix_textOf_iff components (by decide) (by decide), List.any_eq_true,
    ← exists_or]
  simp only [← and_or_left, splits_iff]

theorem trim_textOf : trim (textOf components) = textOf components := by
  refine Trimmed.trim_eq (trimmed_join fun text htext => ?_)
  obtain ⟨component, -, rfl⟩ := List.mem_map.mp htext
  exact ⟨component.text_ne_nil, component.trimmed_text⟩

theorem text_tap {component : CostComponent parseCounter}
    (htap : component.isTap = true) : component.text = ['T'] := by
  cases component <;> first | rfl | cases htap

theorem contains_textOf_iff :
    contains (textOf components) [' ', 'T'] = true ↔
      (∃ component ∈ components, [' ', 'T'] <:+: component.text) ∨
        ∃ component ∈ components.tail, component.isTap = true := by
  rw [contains, decide_eq_true_iff, textOf,
    pair_infix_join_iff (by decide), ← List.map_tail]
  · simp only [List.mem_map, exists_exists_and_eq_and, head?_text_iff]
  · intro text htext
    obtain ⟨component, -, rfl⟩ := List.mem_map.mp htext
    exact component.text_ne_nil

/-- The longer word for a tap is never looked for in vain. -/
theorem contains_tap (text : List Char) :
    (contains text [' ', 'T'] || contains text [' ', 'T', 'a', 'p']) =
      contains text [' ', 'T'] := by
  rw [Bool.or_eq_left_iff_imp, contains, contains, decide_eq_true_iff,
    decide_eq_true_iff]
  exact (List.prefix_append [' ', 'T'] ['a', 'p']).isInfix.trans

/-- A text that goes on after the letter of a tap. -/
theorem tap_of_start {rest : List Char} (hrest : rest ≠ [])
    (hstarts : 'T' :: rest <+: textOf components) :
    2 ≤ components.length ∧
      ∃ component ∈ components, component.isTap = true := by
  cases components with
  | nil => exact absurd (List.prefix_nil.mp hstarts) (List.cons_ne_nil _ _)
  | cons component components =>
      have hhead : component.text.head? = some 'T' := by
        obtain ⟨after, hafter⟩ := hstarts
        rw [← head?_join component.text_ne_nil (components.map text),
          ← List.map_cons, ← textOf, ← hafter]
        rfl
      have htap := component.head?_text_iff.mp hhead
      refine ⟨?_, component, List.mem_cons_self, htap⟩
      cases components with
      | nil =>
          rw [textOf, List.map_singleton, join_singleton, text_tap htap,
            List.cons_prefix_cons, List.prefix_nil] at hstarts
          exact absurd hstarts.2 hrest
      | cons next components => exact Nat.le_add_left 2 components.length

/-- A tap is seen where one of several components is a tap, and where a
component has one in its own text. -/
theorem hasTap_textOf_iff :
    Cost.hasTap (textOf components) = true ↔
      (2 ≤ components.length ∧
          ∃ component ∈ components, component.isTap = true) ∨
        ∃ component ∈ components, [' ', 'T'] <:+: component.text := by
  rw [Cost.hasTap, contains_tap, Bool.or_eq_true, Bool.or_eq_true,
    contains_textOf_iff, List.isPrefixOf_iff_prefix,
    List.isPrefixOf_iff_prefix]
  constructor
  · rintro (((hinside | ⟨component, hmem, htap⟩) | hstarts) | hstarts)
    · exact .inr hinside
    · refine .inl ⟨?_, component, List.mem_of_mem_tail hmem, htap⟩
      have hpositive := List.length_pos_of_mem hmem
      rw [List.length_tail] at hpositive
      omega
    · exact .inl (tap_of_start components (List.cons_ne_nil _ _) hstarts)
    · exact .inl (tap_of_start components (List.cons_ne_nil _ _) hstarts)
  · rintro (⟨hlength, component, hmem, htap⟩ | hinside)
    · cases components with
      | nil => cases hmem
      | cons first rest =>
          rcases List.mem_cons.mp hmem with rfl | hmem
          · refine .inl (.inr ?_)
            rw [textOf, List.map_cons, text_tap htap, join_cons]
            · exact List.prefix_append _ _
            · rintro hnil
              rw [List.map_eq_nil_iff.mp hnil] at hlength
              exact absurd hlength (by simp)
          · exact .inl (.inl (.inr ⟨component, hmem, htap⟩))
    · exact .inl (.inl (.inl hinside))

/-- The words between the spaces. -/
theorem splitWhitespace_textOf
    (hplain : ∀ component ∈ components, component.brackets? = none) :
    Cost.splitWhitespace (textOf components) = components.map text := by
  have hword (component : CostComponent parseCounter)
      (hnone : component.brackets? = none) :
      ∀ c ∈ component.text, isWhitespace c = false := by
    intro c hc
    rw [text_word hnone] at hc
    exact ((component.word_plain hnone).2 c hc).1
  have hkeep (component : CostComponent parseCounter)
      (rest : List (List Char)) :
      (component.text :: rest).filter (fun part => !part.isEmpty) =
        component.text :: rest.filter fun part => !part.isEmpty :=
    List.filter_cons_of_pos (by simp [component.text_ne_nil])
  induction components with
  | nil => rfl
  | cons component components ih =>
      have hfirst := hword component (hplain component List.mem_cons_self)
      rw [Cost.splitWhitespace]
      cases components with
      | nil =>
          rw [textOf, List.map_singleton, join_singleton,
            List.splitOnP_eq_singleton hfirst, hkeep, List.filter_nil]
      | cons next components =>
          rw [textOf, List.map_cons, join_cons _ (by simp), ← textOf,
            List.splitOnP_append_cons_of_forall_mem hfirst _ (by decide),
            hkeep]
          exact congrArg (List.cons _) (ih fun other hother =>
            hplain other (List.mem_cons_of_mem _ hother))

end Parts

end CostComponent

end DeepScry
