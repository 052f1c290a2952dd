/-
Where a short text occurs in a longer one that is put together with a
separator, and what is written between angle brackets.
-/
import DeepScry.TextLines
import Mathlib.Data.List.Infix

namespace TextLines

/-- Whether a text occurs in another one. -/
def contains (text part : List Char) : Bool := decide (part <:+: text)

/-- A text without the separator starts a text with it just when it starts
what stands before the separator. -/
theorem prefix_append_cons_iff {sep : Char} {part : List Char}
    (hpart : sep ∉ part) (first rest : List Char) :
    part <+: first ++ sep :: rest ↔ part <+: first := by
  induction first generalizing part with
  | nil =>
      cases part with
      | nil => simp
      | cons c part =>
          simp only [List.nil_append, List.cons_prefix_cons, List.prefix_nil,
            reduceCtorEq, iff_false]
          rintro ⟨rfl, -⟩
          exact hpart List.mem_cons_self
  | cons d first ih =>
      cases part with
      | nil => simp
      | cons c part =>
          rw [List.cons_append, List.cons_prefix_cons, List.cons_prefix_cons,
            ih fun hsep => hpart (List.mem_cons_of_mem _ hsep)]

theorem infix_append_cons_iff {sep : Char} {part : List Char}
    (hpart : sep ∉ part) (first rest : List Char) :
    part <:+: first ++ sep :: rest ↔
      part <:+: first ∨ part <:+: rest := by
  induction first with
  | nil =>
      rw [List.nil_append, List.infix_cons_iff, List.infix_nil]
      refine or_congr_left ?_
      rw [← List.prefix_nil, ← prefix_append_cons_iff hpart [] rest,
        List.nil_append]
  | cons c first ih =>
      rw [List.cons_append, List.infix_cons_iff, List.infix_cons_iff,
        ← List.cons_append, prefix_append_cons_iff hpart, ih, or_assoc]

/-- A separator and the character after it occur in one of the texts, or
where two of them meet. -/
theorem pair_infix_append_cons_iff {sep c : Char} (hc : c ≠ sep)
    (first rest : List Char) :
    [sep, c] <:+: first ++ sep :: rest ↔
      [sep, c] <:+: first ∨ rest.head? = some c ∨ [sep, c] <:+: rest := by
  induction first with
  | nil =>
      have hhead : [c] <+: rest ↔ rest.head? = some c := by
        cases rest <;> simp [eq_comm]
      rw [List.nil_append, List.infix_cons_iff, List.cons_prefix_cons, hhead]
      simp
  | cons d first ih =>
      rw [List.cons_append, List.infix_cons_iff, List.infix_cons_iff, ih,
        or_assoc]
      refine or_congr_left ?_
      cases first <;> simp [hc]

/-- The texts with a separator between them. -/
def join (sep : Char) (texts : List (List Char)) : List Char :=
  [sep].intercalate texts

theorem join_cons {sep : Char} (text : List Char)
    {texts : List (List Char)} (hne : texts ≠ []) :
    join sep (text :: texts) = text ++ sep :: join sep texts := by
  rw [join, List.intercalate_cons_of_ne_nil hne, join, List.append_assoc]
  rfl

theorem join_singleton (sep : Char) (text : List Char) :
    join sep [text] = text :=
  List.intercalate_singleton

theorem infix_join_iff {sep : Char} {part : List Char} (hpart : sep ∉ part)
    (hne : part ≠ []) (texts : List (List Char)) :
    part <:+: join sep texts ↔ ∃ text ∈ texts, part <:+: text := by
  induction texts with
  | nil => simp [join, hne]
  | cons text texts ih =>
      cases texts with
      | nil => simp [join_singleton]
      | cons next texts =>
          rw [join_cons text (List.cons_ne_nil next texts),
            infix_append_cons_iff hpart, ih]
          simp only [List.mem_cons, exists_eq_or_imp]

/-- A separator and the character after it. -/
theorem pair_infix_join_iff {sep c : Char} (hc : c ≠ sep)
    (texts : List (List Char)) (hne : ∀ text ∈ texts, text ≠ []) :
    [sep, c] <:+: join sep texts ↔
      (∃ text ∈ texts, [sep, c] <:+: text) ∨
        ∃ text ∈ texts.tail, text.head? = some c := by
  induction texts with
  | nil => simp [join]
  | cons text texts ih =>
      cases texts with
      | nil => simp [join_singleton]
      | cons next texts =>
          have hhead : (join sep (next :: texts)).head? = next.head? := by
            cases texts with
            | nil => rw [join_singleton]
            | cons other texts =>
                rw [join_cons next (List.cons_ne_nil other texts),
                  List.head?_append_of_ne_nil _ (hne next (by simp))]
          rw [join_cons text (List.cons_ne_nil next texts),
            pair_infix_append_cons_iff hc, hhead,
            ih fun other hother => hne other (List.mem_cons_of_mem _ hother)]
          simp only [List.mem_cons, exists_eq_or_imp, List.tail_cons]
          simp only [or_assoc, or_left_comm]

theorem head?_join {sep : Char} {text : List Char} (hne : text ≠ [])
    (texts : List (List Char)) :
    (join sep (text :: texts)).head? = text.head? := by
  cases texts with
  | nil => rw [join_singleton]
  | cons next texts =>
      rw [join_cons text (List.cons_ne_nil next texts),
        List.head?_append_of_ne_nil _ hne]

theorem getLast?_join {sep : Char} {text : List Char} (hne : text ≠ [])
    (texts : List (List Char)) :
    (join sep (texts ++ [text])).getLast? = text.getLast? := by
  induction texts with
  | nil => rw [List.nil_append, join_singleton]
  | cons first texts ih =>
      have hrest : join sep (texts ++ [text]) ≠ [] := by
        intro hnil
        rw [hnil, List.getLast?_nil, eq_comm, List.getLast?_eq_none_iff]
          at ih
        exact hne ih
      rw [List.cons_append, join_cons _ (List.append_ne_nil_of_right_ne_nil _
        (List.cons_ne_nil _ _)),
        List.getLast?_append_of_ne_nil _ (List.cons_ne_nil _ _),
        List.getLast?_cons_of_ne_nil hrest, ih]

theorem mem_join {sep c : Char} {texts : List (List Char)}
    (hc : c ∈ join sep texts) :
    c = sep ∨ ∃ text ∈ texts, c ∈ text := by
  induction texts with
  | nil => simp [join] at hc
  | cons text texts ih =>
      cases texts with
      | nil => exact .inr ⟨text, by simp, by rwa [join_singleton] at hc⟩
      | cons next texts =>
          rw [join_cons text (List.cons_ne_nil next texts)] at hc
          rcases List.mem_append.mp hc with hc | hc
          · exact .inr ⟨text, List.mem_cons_self, hc⟩
          · rcases List.mem_cons.mp hc with rfl | hc
            · exact .inl rfl
            · rcases ih hc with hsep | ⟨other, hother, hc⟩
              · exact .inl hsep
              · exact .inr ⟨other, List.mem_cons_of_mem _ hother, hc⟩

/-- Texts that start and end without whitespace, joined. -/
theorem trimmed_join {sep : Char} {texts : List (List Char)}
    (htexts : ∀ text ∈ texts, text ≠ [] ∧ Trimmed text) :
    Trimmed (join sep texts) := by
  induction texts with
  | nil => exact ⟨nofun, nofun⟩
  | cons text texts ih =>
      cases texts with
      | nil =>
          rw [join_singleton]
          exact (htexts text List.mem_cons_self).2
      | cons next texts =>
          have hrest := ih fun other hother =>
            htexts other (List.mem_cons_of_mem _ hother)
          obtain ⟨hne, htrimmed⟩ := htexts text List.mem_cons_self
          have hnext : join sep (next :: texts) ≠ [] := by
            intro hnil
            have hhead : (join sep (next :: texts)).head? = next.head? :=
              head?_join (htexts next (by simp)).1 texts
            rw [hnil, List.head?_nil, eq_comm, List.head?_eq_none_iff]
              at hhead
            exact (htexts next (by simp)).1 hhead
          constructor
          · rw [head?_join hne]
            exact htrimmed.head
          · rw [join_cons text (List.cons_ne_nil next texts),
              List.getLast?_append_of_ne_nil _ (List.cons_ne_nil _ _),
              List.getLast?_cons_of_ne_nil hnext]
            exact hrest.last

end TextLines
