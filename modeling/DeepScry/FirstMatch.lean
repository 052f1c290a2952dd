/-
Changing the first element of a list that satisfies a test: how the change
meets lookups, other changes and maps.
-/
import Mathlib.Data.List.Basic

namespace FirstMatch

variable {α β : Type}

/-- Apply `f` to the first element that satisfies `p`. -/
def modifyFirst (p : α → Bool) (f : α → α) : List α → List α
  | [] => []
  | a :: rest => if p a then f a :: rest else a :: modifyFirst p f rest

theorem modifyFirst_cons_of_pos {p : α → Bool} (f : α → α) {a : α}
    (ha : p a = true) (rest : List α) :
    modifyFirst p f (a :: rest) = f a :: rest := by
  rw [modifyFirst, if_pos ha]

theorem modifyFirst_cons_of_neg {p : α → Bool} (f : α → α) {a : α}
    (ha : p a = false) (rest : List α) :
    modifyFirst p f (a :: rest) = a :: modifyFirst p f rest := by
  rw [modifyFirst, if_neg (by simp [ha])]

/-- A change that keeps a positive test is seen by the lookup. -/
theorem find?_modifyFirst_of_pos {p : α → Bool} {f : α → α}
    (hf : ∀ a, p a = true → p (f a) = true) (l : List α) :
    (modifyFirst p f l).find? p = (l.find? p).map f := by
  induction l with
  | nil => rfl
  | cons a rest ih =>
      cases ha : p a with
      | true =>
          rw [modifyFirst_cons_of_pos f ha, List.find?_cons_of_pos ha,
            List.find?_cons_of_pos (hf a ha), Option.map_some]
      | false =>
          have hneg : ¬p a = true := by simp [ha]
          rw [modifyFirst_cons_of_neg f ha, List.find?_cons_of_neg hneg,
            List.find?_cons_of_neg hneg, ih]

/-- A change that keeps the test is seen by the lookup. -/
theorem find?_modifyFirst {p : α → Bool} {f : α → α}
    (hf : ∀ a, p (f a) = p a) (l : List α) :
    (modifyFirst p f l).find? p = (l.find? p).map f :=
  find?_modifyFirst_of_pos (fun a ha => (hf a).trans ha) l

/-- A lookup by a disjoint test does not see the change. -/
theorem find?_modifyFirst_of_disjoint {p q : α → Bool} {f : α → α}
    (hf : ∀ a, p a = true → q a = false ∧ q (f a) = false) (l : List α) :
    (modifyFirst p f l).find? q = l.find? q := by
  induction l with
  | nil => rfl
  | cons a rest ih =>
      cases ha : p a with
      | true =>
          obtain ⟨hold, hnew⟩ := hf a ha
          rw [modifyFirst_cons_of_pos f ha, List.find?_cons, List.find?_cons,
            hold, hnew]
      | false =>
          rw [modifyFirst_cons_of_neg f ha, List.find?_cons, List.find?_cons,
            ih]

/-- What holds of every element and is kept by the change. -/
theorem forall_mem_modifyFirst {P : α → Prop} {p : α → Bool} {f : α → α}
    (hf : ∀ a, p a = true → P a → P (f a)) {l : List α}
    (hl : ∀ a ∈ l, P a) : ∀ a ∈ modifyFirst p f l, P a := by
  induction l with
  | nil => exact hl
  | cons a rest ih =>
      obtain ⟨ha, hrest⟩ := List.forall_mem_cons.mp hl
      rw [modifyFirst]
      split
      · next hp => exact List.forall_mem_cons.mpr ⟨hf a hp ha, hrest⟩
      · exact List.forall_mem_cons.mpr ⟨ha, ih hrest⟩

/-- A filter that drops the match does not see the change. -/
theorem filter_modifyFirst_of_disjoint {p q : α → Bool} {f : α → α}
    (hf : ∀ a, p a = true → q a = false ∧ q (f a) = false) (l : List α) :
    (modifyFirst p f l).filter q = l.filter q := by
  induction l with
  | nil => rfl
  | cons a rest ih =>
      cases ha : p a with
      | true =>
          obtain ⟨hold, hnew⟩ := hf a ha
          rw [modifyFirst_cons_of_pos f ha,
            List.filter_cons_of_neg (by simp [hnew]),
            List.filter_cons_of_neg (by simp [hold])]
      | false =>
          rw [modifyFirst_cons_of_neg f ha, List.filter_cons,
            List.filter_cons, ih]

/-- Two changes of the first match compose. -/
theorem modifyFirst_modifyFirst {p : α → Bool} {f : α → α}
    (hf : ∀ a, p (f a) = p a) (g : α → α) (l : List α) :
    modifyFirst p g (modifyFirst p f l) = modifyFirst p (g ∘ f) l := by
  induction l with
  | nil => rfl
  | cons a rest ih =>
      cases ha : p a with
      | true =>
          rw [modifyFirst_cons_of_pos f ha,
            modifyFirst_cons_of_pos g ((hf a).trans ha),
            modifyFirst_cons_of_pos (g ∘ f) ha, Function.comp_apply]
      | false =>
          rw [modifyFirst_cons_of_neg f ha, modifyFirst_cons_of_neg g ha,
            modifyFirst_cons_of_neg (g ∘ f) ha, ih]

/-- Only the first match decides what the change does. -/
theorem modifyFirst_congr {p : α → Bool} {f g : α → α} {l : List α}
    (hfg : ∀ a, l.find? p = some a → f a = g a) :
    modifyFirst p f l = modifyFirst p g l := by
  induction l with
  | nil => rfl
  | cons a rest ih =>
      cases ha : p a with
      | true =>
          rw [modifyFirst_cons_of_pos f ha, modifyFirst_cons_of_pos g ha,
            hfg a (List.find?_cons_of_pos ha)]
      | false =>
          have hneg : ¬p a = true := by simp [ha]
          rw [modifyFirst_cons_of_neg f ha, modifyFirst_cons_of_neg g ha]
          congr 1
          apply ih
          intro b hb
          exact hfg b (by rw [List.find?_cons_of_neg hneg, hb])

theorem modifyFirst_id (p : α → Bool) (l : List α) :
    modifyFirst p id l = l := by
  induction l with
  | nil => rfl
  | cons a rest ih =>
      rw [modifyFirst, ih]
      split <;> rfl

/-- A change that the first match does not notice is none. -/
theorem modifyFirst_eq_self {p : α → Bool} {f : α → α} {l : List α}
    (hf : ∀ a, l.find? p = some a → f a = a) : modifyFirst p f l = l := by
  have hcongr : modifyFirst p f l = modifyFirst p id l :=
    modifyFirst_congr hf
  rw [hcongr, modifyFirst_id]

/-- What the change keeps of each element, it keeps of the list. -/
theorem map_modifyFirst {p : α → Bool} {f : α → α} {h : α → β}
    (hf : ∀ a, h (f a) = h a) (l : List α) :
    (modifyFirst p f l).map h = l.map h := by
  induction l with
  | nil => rfl
  | cons a rest ih =>
      rw [modifyFirst]
      split
      · rw [List.map_cons, List.map_cons, hf]
      · rw [List.map_cons, List.map_cons, ih]

/-- The map of the list sees the change exactly when it sees it on the first
match. -/
theorem map_modifyFirst_eq_iff {p : α → Bool} {f : α → α} {h : α → β}
    {l : List α} :
    (modifyFirst p f l).map h = l.map h ↔
      ∀ a, l.find? p = some a → h (f a) = h a := by
  induction l with
  | nil => simp [modifyFirst]
  | cons a rest ih =>
      cases ha : p a with
      | true =>
          rw [modifyFirst_cons_of_pos f ha, List.find?_cons_of_pos ha]
          simp
      | false =>
          rw [modifyFirst_cons_of_neg f ha,
            List.find?_cons_of_neg (by simp [ha]), List.map_cons,
            List.map_cons, List.cons.injEq, ih]
          simp

/-- Where the keys are distinct, just the element with the key changes. -/
theorem mem_modifyFirst_of_nodup {κ : Type*} [DecidableEq κ] {key : α → κ}
    {k : κ} {f : α → α} {l : List α} (hnodup : (l.map key).Nodup) {a : α}
    (ha : a ∈ modifyFirst (fun b => key b == k) f l) :
    (∃ b ∈ l, key b = k ∧ a = f b) ∨ (a ∈ l ∧ key a ≠ k) := by
  induction l with
  | nil => cases ha
  | cons b rest ih =>
      rw [List.map_cons, List.nodup_cons] at hnodup
      obtain ⟨hb, hrest⟩ := hnodup
      by_cases hkey : key b = k
      · rw [modifyFirst, if_pos (beq_iff_eq.mpr hkey)] at ha
        rcases List.mem_cons.mp ha with rfl | hmem
        · exact .inl ⟨b, List.mem_cons_self, hkey, rfl⟩
        · right
          refine ⟨List.mem_cons_of_mem b hmem, fun heq => hb ?_⟩
          rw [hkey, ← heq]
          exact List.mem_map_of_mem hmem
      · rw [modifyFirst, if_neg (mt beq_iff_eq.mp hkey)] at ha
        rcases List.mem_cons.mp ha with rfl | hmem
        · exact .inr ⟨List.mem_cons_self, hkey⟩
        · rcases ih hrest hmem with ⟨c, hc, hck, rfl⟩ | ⟨hmem, hne⟩
          · exact .inl ⟨c, List.mem_cons_of_mem b hc, hck, rfl⟩
          · exact .inr ⟨List.mem_cons_of_mem b hmem, hne⟩

/-- The elements under other keys stay. -/
theorem mem_modifyFirst_of_not {p : α → Bool} {f : α → α} {l : List α} {a : α}
    (ha : a ∈ l) (hnot : p a = false) : a ∈ modifyFirst p f l := by
  induction l with
  | nil => cases ha
  | cons b rest ih =>
      rw [modifyFirst]
      rcases List.mem_cons.mp ha with rfl | hmem
      · rw [if_neg (by simp [hnot])]
        exact List.mem_cons_self
      · split
        · exact List.mem_cons_of_mem _ hmem
        · exact List.mem_cons_of_mem _ (ih hmem)

/-- Where the keys are distinct, the element with the key is the first. -/
theorem apply_mem_modifyFirst_of_nodup {κ : Type*} [DecidableEq κ]
    {key : α → κ} {f : α → α} {l : List α} (hnodup : (l.map key).Nodup)
    {a : α} (ha : a ∈ l) :
    f a ∈ modifyFirst (fun b => key b == key a) f l := by
  induction l with
  | nil => cases ha
  | cons b rest ih =>
      rw [List.map_cons, List.nodup_cons] at hnodup
      rw [modifyFirst]
      rcases List.mem_cons.mp ha with rfl | hmem
      · rw [if_pos (beq_self_eq_true (key a))]
        exact List.mem_cons_self
      · have hne : key b ≠ key a := by
          intro heq
          exact hnodup.1 (heq ▸ List.mem_map_of_mem hmem)
        rw [if_neg (mt beq_iff_eq.mp hne)]
        exact List.mem_cons_of_mem b (ih hnodup.2 hmem)

end FirstMatch
