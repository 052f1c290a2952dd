/-
Drawing from a ranked list until a need is met.  A stable sort ranks the
elements; `draw` takes the shortest prefix whose weights meet the need.
-/
import Mathlib

namespace Drawing

universe u v

variable {α : Type u} {β : Type v} [LinearOrder β]

/-- The elements by their key; those with equal keys stay in order. -/
def ranked (key : α → β) (l : List α) : List α :=
  l.insertionSort fun a b => key a ≤ key b

theorem ranked_perm (key : α → β) (l : List α) : (ranked key l).Perm l :=
  List.perm_insertionSort _ l

theorem mem_ranked {key : α → β} {l : List α} {a : α} :
    a ∈ ranked key l ↔ a ∈ l :=
  (ranked_perm key l).mem_iff

theorem ranked_sorted (key : α → β) (l : List α) :
    (ranked key l).Pairwise fun a b => key a ≤ key b := by
  have : IsTrans α fun a b => key a ≤ key b := ⟨fun _ _ _ => le_trans⟩
  have : Std.Total fun a b : α => key a ≤ key b := ⟨fun a b => le_total _ _⟩
  exact List.pairwise_insertionSort _ l

/-- What is in order stays as it is. -/
theorem ranked_eq_self {key : α → β} {l : List α}
    (hsorted : l.Pairwise fun a b => key a ≤ key b) : ranked key l = l :=
  hsorted.insertionSort_eq

/-- In front of everything with the same key or a larger one, an element is
simply put first. -/
theorem orderedInsert_first {key : α → β} {a : α} {l : List α}
    (hle : ∀ b ∈ l, key a ≤ key b) :
    l.orderedInsert (fun a b => key a ≤ key b) a = a :: l := by
  cases l with
  | nil => rfl
  | cons b rest =>
      exact List.orderedInsert_cons_of_le _ rest (hle b List.mem_cons_self)

/-- Elements in front that no other outranks stay in front, in order. -/
theorem ranked_append {key : α → β} {l rest : List α}
    (hleast : ∀ a ∈ l, ∀ b ∈ l ++ rest, key a ≤ key b) :
    ranked key (l ++ rest) = l ++ ranked key rest := by
  induction l with
  | nil => rfl
  | cons a more ih =>
      obtain ⟨hfirst, hmore⟩ := List.forall_mem_cons.mp hleast
      have htail := ih fun b hb c hc =>
        hmore b hb c (List.mem_cons_of_mem a hc)
      have hleft : ∀ b ∈ ranked key (more ++ rest), key a ≤ key b :=
        fun b hb => hfirst b (List.mem_cons_of_mem a (mem_ranked.mp hb))
      change (ranked key (more ++ rest)).orderedInsert _ a = _
      rw [orderedInsert_first hleft, htail]
      rfl

theorem filter_orderedInsert (key : α → β) (p : α → Bool) (a : α) {l : List α}
    (hsorted : l.Pairwise fun a b => key a ≤ key b) :
    (l.orderedInsert (fun a b => key a ≤ key b) a).filter p =
      if p a then (l.filter p).orderedInsert (fun a b => key a ≤ key b) a
      else l.filter p := by
  induction l with
  | nil => simp [List.filter_cons]
  | cons b rest ih =>
      obtain ⟨hfirst, hrest⟩ := List.pairwise_cons.mp hsorted
      by_cases hle : key a ≤ key b
      · rw [List.orderedInsert_cons_of_le _ rest hle, List.filter_cons]
        have hall : ∀ c ∈ (b :: rest).filter p, key a ≤ key c := by
          intro c hc
          rcases List.mem_cons.mp (List.mem_filter.mp hc).1 with rfl | hmem
          · exact hle
          · exact hle.trans (hfirst c hmem)
        rw [orderedInsert_first hall]
      · rw [List.orderedInsert_of_not_le _ rest hle, List.filter_cons,
          ih hrest, List.filter_cons]
        by_cases hb : p b
        · simp only [hb, ↓reduceIte]
          rw [List.orderedInsert_of_not_le
            (r := fun a b => key a ≤ key b) (rest.filter p) hle]
          split <;> rfl
        · simp [hb]

/-- What a filter keeps is ranked as it would be alone. -/
theorem filter_ranked (key : α → β) (p : α → Bool) (l : List α) :
    (ranked key l).filter p = ranked key (l.filter p) := by
  induction l with
  | nil => rfl
  | cons a rest ih =>
      have hcons : ranked key (a :: rest) =
          (ranked key rest).orderedInsert (fun a b => key a ≤ key b) a := rfl
      rw [hcons, filter_orderedInsert key p a (ranked_sorted key rest), ih,
        List.filter_cons]
      split <;> rfl

/-- A sorted list is its smaller part in front of its larger part. -/
theorem ranked_split (key : α → β) (p : α → Bool) {l : List α}
    (hless : ∀ a ∈ l, ∀ b ∈ l, p a = true → p b = false → key a < key b) :
    ranked key l =
      ranked key (l.filter p) ++ ranked key (l.filter fun a => !p a) := by
  rw [← filter_ranked, ← filter_ranked]
  have hless' : ∀ a ∈ ranked key l, ∀ b ∈ ranked key l,
      p a = true → p b = false → key a < key b := fun a ha b hb =>
    hless a (mem_ranked.mp ha) b (mem_ranked.mp hb)
  have hsorted := ranked_sorted key l
  generalize ranked key l = sorted at hless' hsorted ⊢
  induction sorted with
  | nil => rfl
  | cons a rest ih =>
      obtain ⟨hfirst, hrest⟩ := List.pairwise_cons.mp hsorted
      have htail := ih (fun b hb c hc => hless' b (List.mem_cons_of_mem a hb)
        c (List.mem_cons_of_mem a hc)) hrest
      cases ha : p a with
      | true => simpa [ha] using htail
      | false =>
          have hnone : rest.filter p = [] := by
            rw [List.filter_eq_nil_iff]
            intro b hb hp
            exact absurd (hfirst b hb) (not_le_of_gt (hless' b
              (List.mem_cons_of_mem a hb) a List.mem_cons_self hp ha))
          simpa [ha, hnone] using htail

section Draw

variable (w : α → Nat)

/-- The w of a list. -/
def load (l : List α) : Nat := (l.map w).sum

/-- The shortest prefix whose weights meet the need. -/
def draw (need : Nat) : List α → List α
  | [] => []
  | a :: rest => if need = 0 then [] else a :: draw (need - w a) rest

variable {w}

@[simp] theorem load_nil : load w [] = 0 := rfl

@[simp] theorem load_cons (a : α) (l : List α) :
    load w (a :: l) = w a + load w l := by
  simp [load]

@[simp] theorem load_append (l rest : List α) :
    load w (l ++ rest) = load w l + load w rest := by
  simp [load]

theorem load_perm {l rest : List α} (hperm : l.Perm rest) :
    load w l = load w rest :=
  (hperm.map w).sum_eq

theorem load_sublist {l rest : List α} (hsub : l.Sublist rest) :
    load w l ≤ load w rest := by
  induction hsub with
  | slnil => exact le_rfl
  | cons a _ ih => rw [load_cons]; omega
  | cons_cons a _ ih => rw [load_cons, load_cons]; omega

theorem load_subset {l r : List α} (hnodup : l.Nodup) (hsub : l ⊆ r) :
    load w l ≤ load w r := by
  obtain ⟨part, hperm, hpart⟩ := List.subperm_of_subset hnodup hsub
  rw [← load_perm hperm]
  exact load_sublist hpart

theorem load_congr {other : α → Nat} {l : List α}
    (hsame : ∀ a ∈ l, w a = other a) : load w l = load other l :=
  congrArg List.sum (List.map_congr_left hsame)

theorem load_units {l : List α} (hunits : ∀ a ∈ l, w a = 1) :
    load w l = l.length := by
  induction l with
  | nil => rfl
  | cons a rest ih =>
      obtain ⟨hone, hrest⟩ := List.forall_mem_cons.mp hunits
      rw [load_cons, ih hrest, hone, List.length_cons, Nat.add_comm]

theorem load_ite (p : α → Prop) [DecidablePred p] (l : List α) :
    load (fun a => if p a then w a else 0) l =
      load w (l.filter fun a => decide (p a)) := by
  induction l with
  | nil => rfl
  | cons a rest ih =>
      by_cases hp : p a
      · simp [hp, ih]
      · simp [hp, ih]

/-- A list is what a filter keeps and what it drops. -/
theorem load_filter (p : α → Bool) (l : List α) :
    load w (l.filter p) + load w (l.filter fun a => !p a) =
      load w l := by
  induction l with
  | nil => rfl
  | cons a rest ih =>
      cases hp : p a with
      | true => simp [hp]; omega
      | false => simp [hp]; omega

@[simp] theorem draw_zero (l : List α) : draw w 0 l = [] := by
  cases l <;> rfl

theorem draw_cons {need : Nat} (hpos : need ≠ 0) (a : α) (l : List α) :
    draw w need (a :: l) = a :: draw w (need - w a) l :=
  if_neg hpos

theorem draw_initial (need : Nat) (l : List α) : draw w need l <+: l := by
  induction l generalizing need with
  | nil => exact List.prefix_rfl
  | cons a rest ih =>
      by_cases hzero : need = 0
      · subst hzero
        rw [draw_zero]
        exact List.nil_prefix
      · rw [draw_cons hzero]
        exact List.prefix_cons_inj a |>.mpr (ih _)

/-- The need is met, or everything is drawn. -/
theorem draw_enough (need : Nat) (l : List α) :
    need ≤ load w (draw w need l) ∨ draw w need l = l := by
  induction l generalizing need with
  | nil => exact Or.inr rfl
  | cons a rest ih =>
      by_cases hzero : need = 0
      · exact Or.inl (hzero ▸ Nat.zero_le _)
      · rw [draw_cons hzero]
        rcases ih (need - w a) with hmet | hall
        · left
          rw [load_cons]
          omega
        · right
          rw [hall]

theorem le_load_draw {need : Nat} {l : List α} (hle : need ≤ load w l) :
    need ≤ load w (draw w need l) := by
  rcases draw_enough need l with hmet | hall
  · exact hmet
  · rwa [hall]

/-- The last element drawn was needed. -/
theorem load_draw_le {need bound : Nat} {l : List α}
    (hbound : ∀ a ∈ l, need + w a ≤ bound + 1) :
    load w (draw w need l) ≤ bound := by
  induction l generalizing need bound with
  | nil => exact Nat.zero_le bound
  | cons a rest ih =>
      by_cases hzero : need = 0
      · subst hzero
        rw [draw_zero]
        exact Nat.zero_le bound
      · rw [draw_cons hzero, load_cons]
        have ha := hbound a List.mem_cons_self
        by_cases hmet : need ≤ w a
        · rw [Nat.sub_eq_zero_of_le hmet, draw_zero, load_nil]
          omega
        · have hrest := @ih (need - w a) (bound - w a) fun b hb => by
            have := hbound b (List.mem_cons_of_mem a hb)
            omega
          omega

/-- Units can be drawn one by one. -/
theorem load_draw_units {need : Nat} {l : List α}
    (hunits : ∀ a ∈ l, w a = 1) :
    load w (draw w need l) = min need (load w l) := by
  induction l generalizing need with
  | nil => simp [draw]
  | cons a rest ih =>
      obtain ⟨hone, hrest⟩ := List.forall_mem_cons.mp hunits
      by_cases hzero : need = 0
      · subst hzero
        simp
      · rw [draw_cons hzero, load_cons, load_cons, ih hrest, hone]
        omega

theorem draw_append (need : Nat) (l rest : List α) :
    draw w need (l ++ rest) =
      draw w need l ++ draw w (need - load w l) rest := by
  induction l generalizing need with
  | nil => simp [draw]
  | cons a tail ih =>
      by_cases hzero : need = 0
      · subst hzero
        simp
      · rw [List.cons_append, draw_cons hzero, draw_cons hzero, ih,
          load_cons, Nat.sub_add_eq]
        rfl

/-- Among more elements, a smaller need draws fewer of the old ones. -/
theorem mem_draw_filter {p : α → Bool} {need need' : Nat} {l : List α} {a : α}
    (hneed : need' ≤ need) (hp : p a = true)
    (hmem : a ∈ draw w need' l) :
    a ∈ draw w need (l.filter p) := by
  induction l generalizing need need' with
  | nil => exact hmem
  | cons b rest ih =>
      by_cases hzero : need' = 0
      · subst hzero
        rw [draw_zero] at hmem
        exact nomatch hmem
      · rw [draw_cons hzero] at hmem
        have hpos : need ≠ 0 := by omega
        cases hb : p b with
        | true =>
            rw [List.filter_cons, hb, if_pos rfl, draw_cons hpos]
            rcases List.mem_cons.mp hmem with rfl | hrest
            · exact List.mem_cons_self
            · exact List.mem_cons_of_mem b
                (ih (Nat.sub_le_sub_right hneed _) hrest)
        | false =>
            rw [List.filter_cons, hb]
            rcases List.mem_cons.mp hmem with rfl | hrest
            · exact absurd hp (by simp [hb])
            · exact ih (by omega) hrest

/-- Nothing but kept elements is drawn exactly when those in front of the first
other one meet the need. -/
theorem draw_kept_iff {p : α → Bool} {need : Nat} {l : List α}
    (henough : need ≤ load w (l.filter p)) :
    (∀ a ∈ draw w need l, p a = true) ↔
      need ≤ load w (l.takeWhile p) := by
  induction l generalizing need with
  | nil => simpa [draw] using henough
  | cons b rest ih =>
      by_cases hzero : need = 0
      · subst hzero
        simp
      · rw [draw_cons hzero]
        cases hb : p b with
        | true =>
            rw [List.filter_cons, hb, if_pos rfl, load_cons] at henough
            rw [List.takeWhile_cons, hb, if_pos rfl, load_cons,
              List.forall_mem_cons, ih (by omega), Nat.sub_le_iff_le_add']
            exact and_iff_right hb
        | false =>
            rw [List.takeWhile_cons, hb, List.forall_mem_cons]
            constructor
            · rintro ⟨hkept, -⟩
              exact absurd hkept (by simp [hb])
            · intro hle
              exact absurd (Nat.le_zero.mp hle) hzero

/-- Then the others might as well not be there. -/
theorem draw_filter {p : α → Bool} {need : Nat} {l : List α}
    (hall : ∀ a ∈ draw w need l, p a = true) :
    draw w need (l.filter p) = draw w need l := by
  induction l generalizing need with
  | nil => rfl
  | cons b rest ih =>
      by_cases hzero : need = 0
      · subst hzero
        simp
      · rw [draw_cons hzero] at hall ⊢
        have hb := hall b List.mem_cons_self
        rw [List.filter_cons, hb, if_pos rfl, draw_cons hzero,
          ih fun a ha => hall a (List.mem_cons_of_mem b ha)]

end Draw

end Drawing
