/-
When a `no` of the bounds check is right.  The check adds up the net deltas of
all usable sources, also of those that a payment would leave alone, and its
counters wrap; both can refuse a cost that some plan pays.
-/
import DeepScry.PaymentPlan

namespace DeepScry

open Saturating Supply

/-- The most mana of one colour that the usable sources could make. -/
def potential (sources : List ManaSource) (color : Color) : Nat :=
  ((sources.filter ManaSource.usable).map fun source =>
    if source.production.kind.makes color then
      source.production.amount.toNat
    else 0).sum

/-- The sum of the net deltas, each as the program computes it. -/
def netDeltas (sources : List ManaSource) : Int :=
  (sources.map fun source => source.production.netDelta.toInt).sum

theorem netDeltas_append (sources rest : List ManaSource) :
    netDeltas (sources ++ rest) = netDeltas sources + netDeltas rest := by
  simp [netDeltas]

theorem netDeltas_perm {sources rest : List ManaSource}
    (hperm : sources.Perm rest) : netDeltas sources = netDeltas rest :=
  (hperm.map _).sum_eq

theorem bump_apply (counts : Color → UInt8) (color c : Color) (n : UInt8) :
    bump counts color n c = if c == color then counts c + n else counts c := by
  by_cases hc : c = color
  · subst hc
    simp [bump]
  · simp [bump, hc]

theorem bumpAll_apply (counts : Color → UInt8) {colors : List ManaColor}
    (hnodup : colors.Nodup) (n : UInt8) (c : Color) :
    bumpAll counts colors n c =
      if colors.any fun color => c == color.toColor then counts c + n
      else counts c := by
  induction colors generalizing counts with
  | nil => simp [bumpAll]
  | cons color rest ih =>
      obtain ⟨hnot, hrest⟩ := List.nodup_cons.mp hnodup
      have hfold : bumpAll counts (color :: rest) n =
          bumpAll (bump counts color.toColor n) rest n := rfl
      rw [hfold, ih _ hrest, bump_apply]
      by_cases hc : c = color.toColor
      · have hnone : rest.any (fun color => c == color.toColor) = false := by
          rw [List.any_eq_false]
          intro d hd heq
          rw [beq_iff_eq] at heq
          exact hnot (ManaColor.toColor_injective (hc.symm.trans heq) ▸ hd)
        simp [hc ▸ hnone, hc]
      · simp [hc]

/-- One usable source adds its net delta, and its amount to the colours it can
make. -/
theorem addSource_usable {source : ManaSource} (husable : source.usable = true)
    (bounds : PaymentBounds) :
    (bounds.addSource source).availableDelta =
        bounds.availableDelta + source.production.netDelta.toInt16 ∧
      ∀ color, (bounds.addSource source).max color =
        if source.production.kind.makes color then
          bounds.max color + source.production.amount
        else bounds.max color := by
  have hskip : (source.isTapped || source.hasSummoningSickness) = false := by
    simpa [ManaSource.usable] using husable
  unfold PaymentBounds.addSource
  rw [hskip]
  simp only [Bool.false_eq_true, ↓reduceIte]
  cases hkind : source.production.kind with
  | fixed c => exact ⟨rfl, fun color => bump_apply _ _ _ _⟩
  | colorless => exact ⟨rfl, fun color => bump_apply _ _ _ _⟩
  | choice colors =>
      have hnodup : colors.iter.Nodup :=
        List.Nodup.filter _ (by decide : ManaColor.all.Nodup)
      exact ⟨rfl, fun color => bumpAll_apply _ hnodup _ _⟩
  | anyColor =>
      refine ⟨rfl, fun color => ?_⟩
      have hall : (ManaColor.all.any fun c => color == c.toColor) =
          (color != .colorless) := by
        cases color <;> decide
      have := bumpAll_apply bounds.max (by decide : ManaColor.all.Nodup)
        source.production.amount color
      rw [hall] at this
      exact this

theorem addSource_not_usable {source : ManaSource}
    (hunusable : source.usable = false) (bounds : PaymentBounds) :
    bounds.addSource source = bounds := by
  have hskip : (source.isTapped || source.hasSummoningSickness) = true := by
    simpa only [ManaSource.usable, Bool.not_eq_false'] using hunusable
  unfold PaymentBounds.addSource
  rw [if_pos hskip]

theorem foldl_addSource_availableDelta (sources : List ManaSource)
    (bounds : PaymentBounds) :
    (sources.foldl PaymentBounds.addSource bounds).availableDelta.toInt =
      (bounds.availableDelta.toInt +
        netDeltas (sources.filter ManaSource.usable)).bmod 65536 := by
  induction sources generalizing bounds with
  | nil => simp [netDeltas]
  | cons source rest ih =>
      rw [List.foldl_cons, ih]
      cases husable : source.usable with
      | true =>
          have hadd := (addSource_usable husable bounds).1
          rw [hadd, Int16.toInt_add, Int8.toInt_toInt16]
          simp only [List.filter_cons, husable, ↓reduceIte, netDeltas,
            List.map_cons, List.sum_cons]
          change Int.bmod (Int.bmod _ 65536 + _) 65536 = _
          rw [Int.bmod_add_bmod, add_assoc]
      | false =>
          rw [addSource_not_usable husable]
          simp [husable]

theorem foldl_addSource_max (sources : List ManaSource)
    (bounds : PaymentBounds) (color : Color) :
    ((sources.foldl PaymentBounds.addSource bounds).max color).toNat =
      ((bounds.max color).toNat + potential sources color) % 256 := by
  induction sources generalizing bounds with
  | nil =>
      have hlt := (bounds.max color).toNat_lt
      simp only [List.foldl_nil, potential, List.filter_nil, List.map_nil,
        List.sum_nil]
      omega
  | cons source rest ih =>
      rw [List.foldl_cons, ih]
      cases husable : source.usable with
      | true =>
          rw [(addSource_usable husable bounds).2 color]
          simp only [potential, List.filter_cons, husable, ↓reduceIte,
            List.map_cons, List.sum_cons]
          by_cases hmakes : source.production.kind.makes color
          · simp only [hmakes, ↓reduceIte, UInt8.toNat_add]
            omega
          · simp [hmakes]
      | false =>
          rw [addSource_not_usable husable]
          simp [potential, husable]

theorem needed_toNat (cost : ManaCost) :
    cost.needed.toNat = min cost.total 255 := by
  rw [ManaCost.total_eq]
  simp only [ManaCost.needed, add8_toNat, Saturating.min_add_min]

theorem toInt16_toInt (n : UInt8) : n.toUInt16.toInt16.toInt = n.toNat := by
  have hbits : n.toUInt16.toInt16.toInt =
      Int.bmod n.toUInt16.toNat (2 ^ 16) :=
    BitVec.toInt_eq_toNat_bmod n.toUInt16.toBitVec
  have hlt := n.toNat_lt
  rw [hbits, UInt8.toNat_toUInt16]
  exact Int.bmod_eq_of_le (by omega) (by omega)

theorem exceeds_iff (cost : ManaCost) (max : Color → UInt8) :
    (cost.white > max .white || cost.blue > max .blue ||
      cost.black > max .black || cost.red > max .red ||
      cost.green > max .green || cost.colorless > max .colorless) = true ↔
      ∃ color, cost.amountOf color > max color := by
  simp only [Bool.or_eq_true, decide_eq_true_eq]
  constructor
  · rintro (((((h | h) | h) | h) | h) | h)
    · exact ⟨.white, h⟩
    · exact ⟨.blue, h⟩
    · exact ⟨.black, h⟩
    · exact ⟨.red, h⟩
    · exact ⟨.green, h⟩
    · exact ⟨.colorless, h⟩
  · rintro ⟨color, h⟩
    cases color <;> simp only [ManaCost.amountOf] at h <;> simp [h]

/-- The two tests that answer `no`, without the machine integers. -/
theorem boundsCheckPayment_eq_no_iff (cost : ManaCost)
    (sources : List ManaSource) :
    boundsCheckPayment cost sources = .no ↔
      (netDeltas (sources.filter ManaSource.usable)).bmod 65536 <
          (min cost.total 255 : Nat) ∨
        ∃ color, potential sources color % 256 < (cost.amountOf color).toNat := by
  have hdelta := foldl_addSource_availableDelta sources {}
  have hmax := fun color => foldl_addSource_max sources {} color
  simp only [Int16.toInt_zero, UInt8.toNat_zero, zero_add] at hdelta hmax
  have htest : (paymentBounds sources).availableDelta <
      cost.needed.toUInt16.toInt16 ↔
        (netDeltas (sources.filter ManaSource.usable)).bmod 65536 <
          (min cost.total 255 : Nat) := by
    rw [Int16.lt_iff_toInt_lt, toInt16_toInt, needed_toNat, ← hdelta]
    rfl
  have hcolor : (∃ color, cost.amountOf color > (paymentBounds sources).max color)
      ↔ ∃ color, potential sources color % 256 < (cost.amountOf color).toNat := by
    refine exists_congr fun color => ?_
    rw [gt_iff_lt, UInt8.lt_iff_toNat_lt, ← hmax]
    rfl
  rw [← htest, ← hcolor, ← exceeds_iff]
  simp only [boundsCheckPayment]
  by_cases hlow : (paymentBounds sources).availableDelta <
      cost.needed.toUInt16.toInt16
  · simp [hlow]
  · rw [if_neg hlow]
    split
    · next hexceeds => simp only [hexceeds, or_true]
    · next hfits =>
      simp only [hlow, hfits]
      split <;> decide

/-- A plan that the check does not overlook: the sources it leaves idle lose
no more than it has to spare, and no counter wraps below the cost. -/
structure Unobscured (cost : ManaCost) (sources : List ManaSource)
    (plan : List Activation) : Prop where
  absorbs_idle : (min cost.total 255 : Nat) ≤
    (netDeltas (plan.map Activation.source) +
      netDeltas (idle sources plan)).bmod 65536
  colors_fit : ∀ color, (cost.amountOf color).toNat ≤
    potential sources color % 256

theorem boundsCheckPayment_ne_no_iff {cost : ManaCost}
    {sources : List ManaSource} {plan : List Activation}
    (hids : (sources.map ManaSource.cardId).Nodup)
    (hplan : IsPlan sources plan) :
    boundsCheckPayment cost sources ≠ .no ↔ Unobscured cost sources plan := by
  have hsplit : netDeltas (sources.filter ManaSource.usable) =
      netDeltas (plan.map Activation.source) +
        netDeltas (idle sources plan) := by
    rw [netDeltas_perm (usable_perm hids hplan), netDeltas_append]
  rw [Ne, boundsCheckPayment_eq_no_iff, not_or, not_lt, not_exists, hsplit]
  constructor
  · rintro ⟨hdelta, hcolors⟩
    exact ⟨hdelta, fun color => not_lt.mp (hcolors color)⟩
  · rintro ⟨hdelta, hcolors⟩
    exact ⟨hdelta, fun color => not_lt.mpr (hcolors color)⟩

theorem netDelta_eq {production : ManaProduction}
    (hamount : production.amount.toNat ≤ 127)
    (hcost : production.activationDemand.total ≤ 127) :
    production.netDelta.toInt =
      production.amount.toNat - production.activationDemand.total := by
  have hcast : ∀ n : UInt8, n.toNat ≤ 127 → n.toInt8.toInt = n.toNat := by
    intro n hn
    have hbits : n.toInt8.toInt = Int.bmod n.toNat (2 ^ 8) :=
      BitVec.toInt_eq_toNat_bmod n.toBitVec
    rw [hbits]
    exact Int.bmod_eq_of_le (by omega) (by omega)
  unfold ManaProduction.netDelta ManaProduction.activationDemand at *
  cases hact : production.activationCost with
  | none =>
      simp only [Int8.toInt_sub, Int8.toInt_zero, sub_zero,
        hcast _ hamount, Demand.total, Finset.sum_const_zero]
      exact Int.bmod_eq_of_le (by omega) (by omega)
  | some cost =>
      simp only [hact] at hcost
      change cost.total ≤ 127 at hcost
      have hcmc : cost.cmc.toNat = cost.total := by
        rw [ManaCost.cmc_toNat]
        omega
      rw [Int8.toInt_sub, hcast _ hamount, hcast _ (by omega), hcmc]
      change _ = (production.amount.toNat : Int) - cost.total
      exact Int.bmod_eq_of_le (by omega) (by omega)

/-- A plan that pays is worth at least the cost, net of its own activations. -/
theorem Pays.total_le {cost : ManaCost} {plan : List Activation}
    (hpays : Pays cost plan) :
    cost.total +
        (plan.map fun a => a.source.production.activationDemand.total).sum ≤
      (plan.map fun a => a.source.production.amount.toNat).sum := by
  have htotal := hpays.2
  rwa [planDemand_total, sum_produced] at htotal

def Profitable (source : ManaSource) : Prop :=
  source.production.amount.toNat ≤ 127 ∧
    source.production.activationDemand.total ≤ source.production.amount.toNat

theorem netDeltas_eq {sources : List ManaSource}
    (hprofit : ∀ source ∈ sources, Profitable source) :
    netDeltas sources +
        (sources.map fun s => s.production.activationDemand.total).sum =
      (sources.map fun s => s.production.amount.toNat).sum ∧
    0 ≤ netDeltas sources := by
  induction sources with
  | nil => simp [netDeltas]
  | cons source rest ih =>
      obtain ⟨hamount, hact⟩ := hprofit source List.mem_cons_self
      obtain ⟨heq, hpos⟩ := ih fun s hs =>
        hprofit s (List.mem_cons_of_mem source hs)
      have hdelta := netDelta_eq hamount (hact.trans hamount)
      simp only [netDeltas, List.map_cons, List.sum_cons] at heq hpos ⊢
      constructor
      · rw [Nat.cast_add, Nat.cast_add]
        omega
      · omega

/-- Every colour a plan makes is within the potential of its sources. -/
theorem produced_le_potential {sources : List ManaSource}
    {plan : List Activation} (hids : (sources.map ManaSource.cardId).Nodup)
    (hplan : IsPlan sources plan) (color : Color) :
    produced plan color ≤ potential sources color := by
  have hsum := ((usable_perm hids hplan).map fun source =>
    if source.production.kind.makes color then
      source.production.amount.toNat
    else 0).sum_eq
  have hle : produced plan color ≤
      (plan.map fun a => if a.source.production.kind.makes color then
        a.source.production.amount.toNat else 0).sum := by
    unfold produced
    refine List.sum_le_sum fun a ha => ?_
    by_cases hcolor : a.color = color
    · have hmakes := hplan.makes a ha
      rw [hcolor] at hmakes
      simp [hcolor, hmakes]
    · simp [hcolor]
  unfold potential
  rw [hsum, List.map_append, List.sum_append, List.map_map]
  exact hle.trans (Nat.le_add_right _ _)

theorem potential_le (sources : List ManaSource) (color : Color) :
    potential sources color ≤ ((sources.filter ManaSource.usable).map
      fun source => source.production.amount.toNat).sum := by
  refine List.sum_le_sum fun source _ => ?_
  split
  · exact le_rfl
  · exact Nat.zero_le _

/-- Where no source asks for more than it makes and nothing can wrap, a `no`
is always right. -/
theorem boundsCheckPayment_no_sound_of_profitable {cost : ManaCost}
    {sources : List ManaSource}
    (hids : (sources.map ManaSource.cardId).Nodup)
    (hprofit : ∀ source ∈ sources, source.usable = true → Profitable source)
    (htotal : ((sources.filter ManaSource.usable).map fun source =>
      source.production.amount.toNat).sum ≤ 255)
    (hno : boundsCheckPayment cost sources = .no) :
    ¬ ∃ plan, IsPlan sources plan ∧ Pays cost plan := by
  rintro ⟨plan, hplan, hpays⟩
  refine (boundsCheckPayment_ne_no_iff hids hplan).mpr ?_ hno
  have hperm := usable_perm hids hplan
  have hall : ∀ source ∈ plan.map Activation.source ++ idle sources plan,
      Profitable source := by
    intro source hsource
    obtain ⟨hmem, husable⟩ := List.mem_filter.mp (hperm.mem_iff.mpr hsource)
    exact hprofit source hmem husable
  obtain ⟨hactive, -⟩ := netDeltas_eq fun source hsource =>
    hall source (List.mem_append_left _ hsource)
  obtain ⟨hidle, hpos⟩ := netDeltas_eq fun source hsource =>
    hall source (List.mem_append_right _ hsource)
  have hsum := (hperm.map fun source => source.production.amount.toNat).sum_eq
  have hworth := hpays.total_le
  simp only [List.map_append, List.sum_append, List.map_map,
    Function.comp_def] at hactive hsum
  constructor
  · rw [Int.bmod_eq_of_le (by omega) (by omega)]
    omega
  · intro color
    have hlow := hpays.1 color
    have hmade := produced_le_potential hids hplan color
    have hhigh := (potential_le sources color).trans htotal
    change (cost.amountOf color).toNat + _ ≤ _ at hlow
    omega

end DeepScry
