/-
Raising and lowering a number between zero and a cap.  The shifts come in
blocks; the raises may all come first, and this is what every order of the
blocks and inside the blocks gives as long as nothing is cut off on the way.
-/
import Mathlib

namespace DeepScry

inductive Shift where
  | raise (amount : Nat)
  | lower (amount : Nat)
deriving DecidableEq

namespace Shift

def up : Shift → Nat
  | raise amount => amount
  | lower _ => 0

def down : Shift → Nat
  | raise _ => 0
  | lower amount => amount

def isRaise : Shift → Bool
  | raise _ => true
  | lower _ => false

def apply (cap value : Nat) : Shift → Nat
  | raise amount => min cap (value + amount)
  | lower amount => value - amount

def run (cap : Nat) (shifts : List Shift) (value : Nat) : Nat :=
  shifts.foldl (apply cap) value

def raised (shifts : List Shift) : Nat := (shifts.map up).sum

def lowered (shifts : List Shift) : Nat := (shifts.map down).sum

/-- The same shifts, the lowering ones before the raises. -/
def lowersFirst (shifts : List Shift) : List Shift :=
  (shifts.filter fun s => !s.isRaise) ++ shifts.filter isRaise

variable {cap value : Nat} {shifts : List Shift}

@[simp] theorem isRaise_raise (amount : Nat) :
    (raise amount).isRaise = true := rfl

@[simp] theorem isRaise_lower (amount : Nat) :
    (lower amount).isRaise = false := rfl

@[simp] theorem run_nil : run cap [] value = value := rfl

@[simp] theorem run_cons (shift : Shift) (rest : List Shift) :
    run cap (shift :: rest) value = run cap rest (apply cap value shift) :=
  rfl

@[simp] theorem raised_nil : raised [] = 0 := rfl

@[simp] theorem raised_cons (shift : Shift) (rest : List Shift) :
    raised (shift :: rest) = shift.up + raised rest := by
  simp [raised]

@[simp] theorem lowered_nil : lowered [] = 0 := rfl

@[simp] theorem lowered_cons (shift : Shift) (rest : List Shift) :
    lowered (shift :: rest) = shift.down + lowered rest := by
  simp [lowered]

theorem run_append (before after : List Shift) :
    run cap (before ++ after) value =
      run cap after (run cap before value) :=
  List.foldl_append

theorem raised_append (before after : List Shift) :
    raised (before ++ after) = raised before + raised after := by
  simp [raised]

theorem lowered_append (before after : List Shift) :
    lowered (before ++ after) = lowered before + lowered after := by
  simp [lowered]

theorem raised_perm {shifts' : List Shift} (hperm : shifts'.Perm shifts) :
    raised shifts' = raised shifts :=
  (hperm.map up).sum_eq

theorem lowered_perm {shifts' : List Shift} (hperm : shifts'.Perm shifts) :
    lowered shifts' = lowered shifts :=
  (hperm.map down).sum_eq

theorem lowersFirst_perm (shifts : List Shift) :
    (lowersFirst shifts).Perm shifts := by
  have hsplit := List.filter_append_perm (fun s => !isRaise s) shifts
  simpa [lowersFirst] using hsplit

theorem raised_lowers (shifts : List Shift) :
    raised (shifts.filter fun s => !s.isRaise) = 0 := by
  induction shifts with
  | nil => rfl
  | cons shift rest ih =>
      cases shift <;> simp [up, ih]

theorem lowered_raises (shifts : List Shift) :
    lowered (shifts.filter isRaise) = 0 := by
  induction shifts with
  | nil => rfl
  | cons shift rest ih =>
      cases shift <;> simp [List.filter_cons, down, ih]

theorem run_le (shifts : List Shift) (hcap : value ≤ cap) :
    run cap shifts value ≤ cap := by
  induction shifts generalizing value with
  | nil => exact hcap
  | cons shift rest ih =>
      apply ih
      cases shift <;> simp only [apply] <;> omega

theorem raised_raises (shifts : List Shift) :
    raised (shifts.filter isRaise) = raised shifts := by
  have hboth := raised_perm (lowersFirst_perm shifts)
  rw [lowersFirst, raised_append, raised_lowers, Nat.zero_add] at hboth
  exact hboth

theorem lowered_lowers (shifts : List Shift) :
    lowered (shifts.filter fun s => !s.isRaise) = lowered shifts := by
  have hboth := lowered_perm (lowersFirst_perm shifts)
  rw [lowersFirst, lowered_append, lowered_raises, Nat.add_zero] at hboth
  exact hboth

/-- No order goes below the one with the raises first. -/
theorem le_run (shifts : List Shift) (hcap : value ≤ cap) :
    min cap (value + raised shifts) - lowered shifts ≤
      run cap shifts value := by
  induction shifts generalizing value with
  | nil => simp [hcap]
  | cons shift rest ih =>
      cases shift with
      | raise amount =>
          have hrest := @ih (min cap (value + amount)) (by omega)
          simp only [run_cons, raised_cons, lowered_cons, apply, up, down]
          omega
      | lower amount =>
          have hrest := @ih (value - amount) (by omega)
          simp only [run_cons, raised_cons, lowered_cons, apply, up, down]
          omega

/-- Whatever came before, the rest adds at least this much. -/
theorem le_run_append (hcap : value ≤ cap) (before after : List Shift) :
    min cap (raised after) - lowered after ≤
      run cap (before ++ after) value := by
  have hle := le_run after (run_le before hcap)
  rw [run_append]
  omega

/-- Enough to take away and room to add: nothing is cut off. -/
theorem run_exact (hlow : lowered shifts ≤ value)
    (hhigh : value + raised shifts ≤ cap) :
    run cap shifts value + lowered shifts = value + raised shifts := by
  induction shifts generalizing value with
  | nil => rfl
  | cons shift rest ih =>
      cases shift with
      | raise amount =>
          simp only [raised_cons, lowered_cons, up, down] at hlow hhigh ⊢
          have hrest := @ih (value + amount) (by omega) (by omega)
          rw [run_cons, apply, Nat.min_eq_right (by omega)]
          omega
      | lower amount =>
          simp only [raised_cons, lowered_cons, up, down] at hlow hhigh ⊢
          have hrest := @ih (value - amount) (by omega) (by omega)
          rw [run_cons, apply]
          omega

theorem run_raises (hcap : value ≤ cap) (hnone : lowered shifts = 0) :
    run cap shifts value = min cap (value + raised shifts) := by
  induction shifts generalizing value with
  | nil => simp [hcap]
  | cons shift rest ih =>
      cases shift with
      | raise amount =>
          simp only [lowered_cons, raised_cons, up, down] at hnone ⊢
          rw [run_cons, apply, ih (by omega) (by omega)]
          omega
      | lower amount =>
          simp only [lowered_cons, raised_cons, up, down] at hnone ⊢
          rw [run_cons, apply, ih (by omega) (by omega)]
          omega

theorem run_lowers (hcap : value ≤ cap) (hnone : raised shifts = 0) :
    run cap shifts value = value - lowered shifts := by
  induction shifts generalizing value with
  | nil => simp
  | cons shift rest ih =>
      cases shift with
      | raise amount =>
          simp only [lowered_cons, raised_cons, up, down] at hnone ⊢
          rw [run_cons, apply, ih (by omega) (by omega)]
          omega
      | lower amount =>
          simp only [lowered_cons, raised_cons, up, down] at hnone ⊢
          rw [run_cons, apply, ih (by omega) (by omega)]
          omega

/-! ## Blocks -/

section Blocks

variable {K : Type} (block : K → List Shift) (keys : List K)

def raises : Nat := (keys.map fun key => raised (block key)).sum

def lowers : Nat := (keys.map fun key => lowered (block key)).sum

/-- What the blocks that lower more than they raise take away together. -/
def dips : Nat :=
  (keys.map fun key => lowered (block key) - raised (block key)).sum

/-- All raises first, then what is taken away beforehand and by the blocks. -/
def raisesFirst (cap start self : Nat) : Nat :=
  min cap (start + raises block keys) - (self + lowers block keys)

/-- No raises, or nothing that lowers, or room for all raises and enough for
the order in which the value gets lowest. -/
def Harmless (cap start self : Nat) : Prop :=
  raises block keys = 0 ∨ self + lowers block keys = 0 ∨
    (start + raises block keys ≤ cap ∧ ∀ key ∈ keys,
      self + dips block keys +
        min (lowered (block key)) (raised (block key)) ≤ start)

variable {block : K → List Shift} {keys : List K}

@[simp] theorem raises_cons (key : K) (rest : List K) :
    raises block (key :: rest) = raised (block key) + raises block rest := by
  simp [raises]

@[simp] theorem lowers_cons (key : K) (rest : List K) :
    lowers block (key :: rest) = lowered (block key) + lowers block rest := by
  simp [lowers]

@[simp] theorem dips_cons (key : K) (rest : List K) :
    dips block (key :: rest) =
      lowered (block key) - raised (block key) + dips block rest := by
  simp [dips]

theorem raises_append (before after : List K) :
    raises block (before ++ after) =
      raises block before + raises block after := by
  simp [raises]

theorem lowers_append (before after : List K) :
    lowers block (before ++ after) =
      lowers block before + lowers block after := by
  simp [lowers]

theorem dips_append (before after : List K) :
    dips block (before ++ after) = dips block before + dips block after := by
  simp [dips]

theorem raised_flatMap : raised (keys.flatMap block) = raises block keys := by
  induction keys with
  | nil => rfl
  | cons key rest ih => simp [raised_append, ih]

theorem lowered_flatMap :
    lowered (keys.flatMap block) = lowers block keys := by
  induction keys with
  | nil => rfl
  | cons key rest ih => simp [lowered_append, ih]

section Rearranged

variable {block' : K → List Shift} {keys' : List K}
  (hkeys : keys'.Perm keys) (hblock : ∀ key, (block' key).Perm (block key))
include hkeys hblock

theorem raises_perm : raises block' keys' = raises block keys := by
  simp only [raises, fun key => raised_perm (hblock key)]
  exact (hkeys.map _).sum_eq

theorem lowers_perm : lowers block' keys' = lowers block keys := by
  simp only [lowers, fun key => lowered_perm (hblock key)]
  exact (hkeys.map _).sum_eq

theorem dips_perm : dips block' keys' = dips block keys := by
  simp only [dips, fun key => raised_perm (hblock key),
    fun key => lowered_perm (hblock key)]
  exact (hkeys.map _).sum_eq

theorem raisesFirst_perm (cap start self : Nat) :
    raisesFirst block' keys' cap start self =
      raisesFirst block keys cap start self := by
  rw [raisesFirst, raisesFirst, raises_perm hkeys hblock,
    lowers_perm hkeys hblock]

theorem Harmless.perm {start self : Nat}
    (hharmless : Harmless block keys cap start self) :
    Harmless block' keys' cap start self := by
  rw [Harmless, raises_perm hkeys hblock, lowers_perm hkeys hblock,
    dips_perm hkeys hblock]
  refine hharmless.imp_right (Or.imp_right (And.imp_right ?_))
  intro hroom key hkey
  rw [raised_perm (hblock key), lowered_perm (hblock key)]
  exact hroom key (hkeys.mem_iff.mp hkey)

end Rearranged

/-- Room for all raises, and enough where the value gets lowest. -/
theorem run_blocks_exact (hhigh : value + raises block keys ≤ cap)
    (hlow : ∀ key ∈ keys, dips block keys +
      min (lowered (block key)) (raised (block key)) ≤ value) :
    run cap (keys.flatMap block) value + lowers block keys =
      value + raises block keys := by
  induction keys generalizing value with
  | nil => rfl
  | cons key rest ih =>
      have hfirst := hlow key List.mem_cons_self
      simp only [raises_cons, lowers_cons, dips_cons] at hhigh hlow hfirst ⊢
      have hrun : run cap (block key) value + lowered (block key) =
          value + raised (block key) := run_exact (by omega) (by omega)
      have hrest := @ih (run cap (block key) value) (by omega)
        (by
          intro other hother
          have hmore := hlow other (List.mem_cons_of_mem key hother)
          omega)
      rw [List.flatMap_cons, run_append]
      omega

variable {start self : Nat}

/-- No order of blocks goes below the one with the raises first. -/
theorem raisesFirst_le_run (hcap : start ≤ cap) :
    raisesFirst block keys cap start self ≤
      run cap (keys.flatMap block) (start - self) := by
  have hle := le_run (keys.flatMap block)
    (by omega : start - self ≤ cap)
  rw [raised_flatMap, lowered_flatMap] at hle
  rw [raisesFirst]
  omega

/-- Harmless shifts give what the raises first would. -/
theorem Harmless.run_eq (hharmless : Harmless block keys cap start self)
    (hcap : start ≤ cap) :
    run cap (keys.flatMap block) (start - self) =
      raisesFirst block keys cap start self := by
  rw [raisesFirst]
  rcases hharmless with hnone | hnone | ⟨hhigh, hlow⟩
  · rw [run_lowers (by omega) (by rw [raised_flatMap, hnone]),
      lowered_flatMap, hnone]
    omega
  · rw [run_raises (by omega) (by rw [lowered_flatMap]; omega),
      raised_flatMap]
    omega
  · rcases keys with - | ⟨key, rest⟩
    · simp [raises, lowers]
      omega
    · have hfirst := hlow key List.mem_cons_self
      have hexact : run cap ((key :: rest).flatMap block) (start - self) +
          lowers block (key :: rest) =
            start - self + raises block (key :: rest) := by
        apply run_blocks_exact
        · omega
        · intro other hother
          have hmore := hlow other hother
          omega
      omega

/-! ## Orders that cut something off -/

theorem raises_lowersFirst :
    raises (fun key => lowersFirst (block key)) keys = raises block keys :=
  raises_perm (List.Perm.refl keys) fun key => lowersFirst_perm (block key)

theorem lowers_lowersFirst :
    lowers (fun key => lowersFirst (block key)) keys = lowers block keys :=
  lowers_perm (List.Perm.refl keys) fun key => lowersFirst_perm (block key)

/-- A block that raises can come last, so the result is not zero. -/
theorem exists_run_pos (self : Nat) (hcap : start ≤ cap) (hpos : 0 < cap)
    (hraises : raises block keys ≠ 0) :
    ∃ keys' : List K, keys'.Perm keys ∧
      0 < run cap (keys'.flatMap fun key => lowersFirst (block key))
        (start - self) := by
  obtain ⟨amount, hamount, hne⟩ :=
    List.exists_mem_ne_zero_of_sum_ne_zero hraises
  obtain ⟨key, hkey, rfl⟩ := List.mem_map.mp hamount
  obtain ⟨before, after, rfl⟩ := List.append_of_mem hkey
  refine ⟨before ++ after ++ [key], ?_, ?_⟩
  · rw [List.append_assoc]
    exact (List.perm_append_singleton key after).append_left before
  · have hle := le_run_append (by omega : start - self ≤ cap)
      (((before ++ after).flatMap fun key => lowersFirst (block key)) ++
        (block key).filter fun s => !s.isRaise)
      ((block key).filter isRaise)
    rw [lowered_raises, raised_raises, List.append_assoc] at hle
    rw [List.flatMap_append, List.flatMap_singleton, lowersFirst]
    omega

/-- Once something was lowered, the raises cannot get lost at the cap. -/
theorem exists_run_gt (hcap : start ≤ cap)
    (hlowers : self + lowers block keys ≠ 0)
    (hhigh : cap < start + raises block keys)
    (hpos : 0 < raisesFirst block keys cap start self) :
    ∃ keys' : List K, keys'.Perm keys ∧
      raisesFirst block keys cap start self <
        run cap (keys'.flatMap fun key => lowersFirst (block key))
          (start - self) := by
  rw [raisesFirst] at hpos ⊢
  by_cases hself : self = 0
  · have hblocks : lowers block keys ≠ 0 := by omega
    obtain ⟨amount, hamount, hne⟩ :=
      List.exists_mem_ne_zero_of_sum_ne_zero hblocks
    obtain ⟨key, hkey, rfl⟩ := List.mem_map.mp hamount
    obtain ⟨before, after, rfl⟩ := List.append_of_mem hkey
    refine ⟨key :: (before ++ after), List.perm_middle.symm, ?_⟩
    have hfirst := run_lowers (by omega : start - self ≤ cap)
      (raised_lowers (block key))
    rw [lowered_lowers] at hfirst
    have hrest := le_run ((block key).filter isRaise ++
        (before ++ after).flatMap fun key => lowersFirst (block key))
      (by omega : start - self - lowered (block key) ≤ cap)
    rw [raised_append, lowered_append, raised_raises, lowered_raises,
      raised_flatMap, lowered_flatMap, raises_lowersFirst,
      lowers_lowersFirst, raises_append, lowers_append] at hrest
    rw [List.flatMap_cons, lowersFirst, List.append_assoc, run_append, hfirst]
    simp only [raises_append, lowers_append, raises_cons,
      lowers_cons] at hhigh hpos ⊢
    omega
  · refine ⟨keys, List.Perm.refl keys, ?_⟩
    have hle := le_run (keys.flatMap fun key => lowersFirst (block key))
      (by omega : start - self ≤ cap)
    rw [raised_flatMap, lowered_flatMap, raises_lowersFirst,
      lowers_lowersFirst] at hle
    omega

theorem dips_add_raises (hmore : ∀ key ∈ keys,
      raised (block key) ≤ lowered (block key)) :
    dips block keys + raises block keys = lowers block keys := by
  induction keys with
  | nil => rfl
  | cons key rest ih =>
      have hfirst := hmore key List.mem_cons_self
      have hrest := ih fun other hother =>
        hmore other (List.mem_cons_of_mem key hother)
      simp only [dips_cons, raises_cons, lowers_cons]
      omega

theorem dips_eq_zero (hless : ∀ key ∈ keys,
      lowered (block key) ≤ raised (block key)) : dips block keys = 0 := by
  induction keys with
  | nil => rfl
  | cons key rest ih =>
      have hfirst := hless key List.mem_cons_self
      have hrest := ih fun other hother =>
        hless other (List.mem_cons_of_mem key hother)
      rw [dips_cons]
      omega

/-- The blocks that lower more come first, then what the worst block lowers:
if this is more than there was, some of it is never taken away. -/
theorem exists_run_dip (hcap : start ≤ cap)
    (hhigh : start + raises block keys ≤ cap)
    (hpos : 0 < raisesFirst block keys cap start self) {key : K}
    (hkey : key ∈ keys)
    (hdip : start < self + dips block keys +
      min (lowered (block key)) (raised (block key))) :
    ∃ keys' : List K, keys'.Perm keys ∧
      raisesFirst block keys cap start self <
        run cap (keys'.flatMap fun key => lowersFirst (block key))
          (start - self) := by
  obtain ⟨before, after, rfl⟩ := List.append_of_mem hkey
  let falls (key : K) : Bool := raised (block key) < lowered (block key)
  have hsplit := List.filter_append_perm falls (before ++ after)
  generalize hfalling : (before ++ after).filter falls = falling at hsplit
  generalize hrising : (before ++ after).filter (fun k => !falls k) =
    rising at hsplit
  have hperm : (falling ++ key :: rising).Perm (before ++ key :: after) :=
    List.perm_middle.trans
      ((hsplit.cons key).trans List.perm_middle.symm)
  have hself := fun k => List.Perm.refl (block k)
  have hraises := raises_perm hperm hself
  have hlowers := lowers_perm hperm hself
  have hdips := dips_perm hperm hself
  have hfalls : dips block falling + raises block falling =
      lowers block falling := by
    apply dips_add_raises
    intro k hk
    rw [← hfalling] at hk
    have hlt : raised (block k) < lowered (block k) := by
      simpa [falls] using (List.mem_filter.mp hk).2
    omega
  have hrises : dips block rising = 0 := by
    apply dips_eq_zero
    intro k hk
    rw [← hrising] at hk
    simpa [falls] using (List.mem_filter.mp hk).2
  refine ⟨falling ++ key :: rising, hperm, ?_⟩
  have hle := le_run_append (by omega : start - self ≤ cap)
    ((falling.flatMap fun key => lowersFirst (block key)) ++
      (block key).filter fun s => !s.isRaise)
    ((block key).filter isRaise ++
      rising.flatMap fun key => lowersFirst (block key))
  rw [raised_append, lowered_append, raised_raises, lowered_raises,
    raised_flatMap, lowered_flatMap, raises_lowersFirst, lowers_lowersFirst,
    List.append_assoc, ← List.append_assoc _ _ (List.flatMap _ rising)] at hle
  rw [List.flatMap_append, List.flatMap_cons, lowersFirst]
  rw [raisesFirst] at hpos ⊢
  refine Nat.lt_of_lt_of_le ?_ hle
  rw [raises_append, raises_cons] at hraises
  rw [lowers_append, lowers_cons] at hlowers
  rw [dips_append, dips_cons] at hdips
  have hroom : raised (block key) + raises block rising ≤ cap := by omega
  rw [Nat.min_eq_right hhigh] at hpos ⊢
  rw [Nat.min_eq_right hroom]
  omega

/-- If no order gives another result, the shifts are harmless. -/
theorem harmless_of_run (hcap : start ≤ cap) (hpos : 0 < cap)
    (hall : ∀ keys' : List K, keys'.Perm keys →
      run cap (keys'.flatMap fun key => lowersFirst (block key))
        (start - self) = raisesFirst block keys cap start self) :
    Harmless block keys cap start self := by
  by_cases hraises : raises block keys = 0
  · exact Or.inl hraises
  by_cases hlowers : self + lowers block keys = 0
  · exact Or.inr (Or.inl hlowers)
  have hresult : 0 < raisesFirst block keys cap start self := by
    obtain ⟨keys', hperm, hrun⟩ := exists_run_pos self hcap hpos
      hraises
    rwa [hall keys' hperm] at hrun
  have hhigh : start + raises block keys ≤ cap := by
    by_contra hover
    obtain ⟨keys', hperm, hrun⟩ := exists_run_gt hcap hlowers
      (Nat.lt_of_not_le hover) hresult
    exact absurd (hall keys' hperm) (Nat.ne_of_gt hrun)
  refine Or.inr (Or.inr ⟨hhigh, ?_⟩)
  intro key hkey
  by_contra hdip
  obtain ⟨keys', hperm, hrun⟩ := exists_run_dip hcap hhigh hresult hkey
    (Nat.lt_of_not_le hdip)
  exact absurd (hall keys' hperm) (Nat.ne_of_gt hrun)

end Blocks

end Shift

end DeepScry
