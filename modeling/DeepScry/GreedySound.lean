/-
A `yes` of the greedy resolver comes with a plan that pays.  Each phase keeps
one invariant: the taps so far, with a colour for each, cover what the phases
so far required by colour together with the banked surplus.
-/
import DeepScry.PaymentPlan

namespace DeepScry

open Saturating Supply

namespace GreedyManaResolver

def amounts (sources : List ManaSource) : Nat :=
  (sources.map fun source => source.production.amount.toNat).sum

/-- The loop taps a prefix of the candidates and reports at most what they
make. -/
theorem tapCandidates_spec (amount : UInt8)
    (scored : List (ManaSource × UInt16)) (tapOrder : List CardId)
    (tapped : UInt8) :
    ∃ taps, taps <+: scored.map Prod.fst ∧
      (tapCandidates amount scored tapOrder tapped).1 =
        tapOrder ++ taps.map ManaSource.cardId ∧
      (tapCandidates amount scored tapOrder tapped).2.toNat ≤
        tapped.toNat + amounts taps := by
  induction scored generalizing tapOrder tapped with
  | nil => exact ⟨[], by simp, by simp [tapCandidates], by simp [tapCandidates]⟩
  | cons head rest ih =>
      obtain ⟨source, score⟩ := head
      by_cases henough : tapped ≥ amount
      · refine ⟨[], List.nil_prefix, ?_, ?_⟩
        · simp [tapCandidates, henough]
        · simp [tapCandidates, henough]
      · obtain ⟨taps, htaken, horder, hle⟩ :=
          ih (tapOrder ++ [source.cardId])
            (add8 tapped source.production.amount)
        refine ⟨source :: taps, ?_, ?_, ?_⟩
        · simpa using htaken
        · simpa [tapCandidates, henough] using horder
        · have hadd := add8_toNat_le tapped source.production.amount
          simp only [tapCandidates, henough, ↓reduceIte]
          simp only [amounts, List.map_cons, List.sum_cons] at hle ⊢
          omega

/-- What a successful tapping loop did. -/
theorem tapSources_spec {eligible : ManaProduction → Bool}
    {score : ManaProduction → UInt16} {sources : List ManaSource}
    {tapOrder tapOrder' : List CardId} {amount tapped : UInt8}
    (hids : (sources.map ManaSource.cardId).Nodup)
    (htap : tapSources eligible score sources tapOrder amount =
      some (tapOrder', tapped)) :
    ∃ taps, (taps.map ManaSource.cardId).Nodup ∧
      (∀ source ∈ taps, source ∈ candidates eligible sources tapOrder) ∧
      tapOrder' = tapOrder ++ taps.map ManaSource.cardId ∧
      amount.toNat ≤ tapped.toNat ∧ tapped.toNat ≤ amounts taps := by
  simp only [tapSources] at htap
  split at htap
  · next henough =>
    obtain ⟨taps, htaken, horder, hle⟩ := tapCandidates_spec amount
      (((candidates eligible sources tapOrder).map fun source =>
        (source, score source.production)).insertionSort
          fun a b => a.2 ≤ b.2) tapOrder 0
    simp only [Option.some.injEq] at htap
    rw [htap] at henough horder hle
    have hperm : ((((candidates eligible sources tapOrder).map fun source =>
        (source, score source.production)).insertionSort
          fun a b => a.2 ≤ b.2).map Prod.fst).Perm
            (candidates eligible sources tapOrder) := by
      have hsort := (List.perm_insertionSort (fun a b => a.2 ≤ b.2)
        ((candidates eligible sources tapOrder).map fun source =>
          (source, score source.production))).map Prod.fst
      simpa [Function.comp_def] using hsort
    have hnodup : ((candidates eligible sources tapOrder).map
        ManaSource.cardId).Nodup :=
      (List.filter_sublist.map ManaSource.cardId).nodup hids
    refine ⟨taps, ?_, ?_, horder, ?_, ?_⟩
    · exact (htaken.sublist.map ManaSource.cardId).nodup
        ((hperm.map ManaSource.cardId).nodup_iff.mpr hnodup)
    · intro source hsource
      exact hperm.mem_iff.mp (htaken.subset hsource)
    · exact UInt8.le_iff_toNat_le.mp henough
    · simpa using hle
  · simp at htap

theorem mem_candidates {eligible : ManaProduction → Bool}
    {sources : List ManaSource} {tapOrder : List CardId}
    {source : ManaSource}
    (hmem : source ∈ candidates eligible sources tapOrder) :
    source ∈ sources ∧ source.usable = true ∧ source.cardId ∉ tapOrder ∧
      eligible source.production = true := by
  simp only [candidates, List.mem_filter, Bool.and_eq_true,
    Bool.not_eq_true', List.contains_eq_mem, decide_eq_false_iff_not] at hmem
  obtain ⟨hsource, ⟨⟨htapped, hsick⟩, hfresh⟩, heligible⟩ := hmem
  exact ⟨hsource, by simp [ManaSource.usable, htapped, hsick], hfresh,
    heligible⟩

/-- Fresh taps with a colour for each extend a plan. -/
theorem isPlan_append {eligible : ManaProduction → Bool}
    {sources : List ManaSource} {plan : List Activation}
    {taps : List ManaSource} {color : ManaSource → Color}
    (hplan : IsPlan sources plan)
    (hnodup : (taps.map ManaSource.cardId).Nodup)
    (hmem : ∀ source ∈ taps, source ∈
      candidates eligible sources (plan.map fun a => a.source.cardId))
    (hmakes : ∀ source ∈ taps,
      source.production.kind.makes (color source) = true) :
    IsPlan sources (plan ++ taps.map fun source => ⟨source, color source⟩) := by
  constructor
  · rw [List.map_append, List.nodup_append, List.map_map]
    refine ⟨hplan.nodup, by simpa [Function.comp_def] using hnodup, ?_⟩
    intro id hid id' hid' heq
    obtain ⟨source, hsource, rfl⟩ := List.mem_map.mp hid'
    have hfresh := (mem_candidates (hmem source hsource)).2.2.1
    rw [heq] at hid
    exact hfresh hid
  · intro a ha
    rcases List.mem_append.mp ha with hold | hnew
    · exact hplan.mem a hold
    · obtain ⟨source, hsource, rfl⟩ := List.mem_map.mp hnew
      exact (mem_candidates (hmem source hsource)).1
  · intro a ha
    rcases List.mem_append.mp ha with hold | hnew
    · exact hplan.usable a hold
    · obtain ⟨source, hsource, rfl⟩ := List.mem_map.mp hnew
      exact (mem_candidates (hmem source hsource)).2.1
  · intro a ha
    rcases List.mem_append.mp ha with hold | hnew
    · exact hplan.makes a hold
    · obtain ⟨source, hsource, rfl⟩ := List.mem_map.mp hnew
      exact hmakes source hsource

/-- The state after some phases: a plan with this tap order covers `paid` and
the banked surplus. -/
def Banked (sources : List ManaSource) (paid : Color → Nat)
    (state : GreedyState) : Prop :=
  ∃ plan, IsPlan sources plan ∧
    plan.map (fun a => a.source.cardId) = state.tapOrder ∧
    Covers (produced plan) ⟨paid, state.extraGeneric.toNat⟩

theorem banked_init (sources : List ManaSource) :
    Banked sources (fun _ => 0) {} := by
  refine ⟨[], IsPlan.nil sources, rfl, ?_⟩
  exact Covers.zero _

/-- A phase whose loop taps only sources that make `color` adds the
requirement of that colour to what is covered. -/
theorem payPhase_banked {eligible : ManaProduction → Bool}
    {score : ManaProduction → UInt16} {sources : List ManaSource}
    {color : Color} {required : UInt8} {state state' : GreedyState}
    {paid : Color → Nat}
    (hids : (sources.map ManaSource.cardId).Nodup)
    (hmakes : ∀ production, eligible production = true →
      production.kind.makes color = true)
    (hbanked : Banked sources paid state)
    (hphase : payPhase (tapSources eligible score sources) required state =
      some state') :
    Banked sources
      (fun c => paid c + if c = color then required.toNat else 0) state' := by
  obtain ⟨plan, hplan, horder, hcover⟩ := hbanked
  simp only [payPhase] at hphase
  split at hphase
  · next hpos =>
    split at hphase
    · next tapOrder tapped htap =>
      cases hphase
      obtain ⟨taps, hnodup, hmem, rfl, henough, hle⟩ :=
        tapSources_spec hids htap
      rw [← horder] at hmem
      refine ⟨plan ++ taps.map fun source => ⟨source, color⟩, ?_, ?_, ?_⟩
      · exact isPlan_append hplan hnodup hmem fun source hsource =>
          hmakes _ (mem_candidates (hmem source hsource)).2.2.2
      · simp [horder, Function.comp_def]
      · rw [produced_append, produced_same]
        have hbatch := covers_single color (henough.trans hle)
        refine (hcover.add hbatch).mono_wild ?_
        have hadd := add8_toNat_le state.extraGeneric (sub8 tapped required)
        have hsub := sub8_toNat tapped required
        change _ ≤ state.extraGeneric.toNat + (amounts taps - required.toNat)
        change (add8 state.extraGeneric (sub8 tapped required)).toNat ≤ _
        omega
    · cases hphase
  · next hzero =>
    cases hphase
    have hreq : required.toNat = 0 := by
      rw [gt_iff_lt, UInt8.lt_iff_toNat_lt] at hzero
      simpa using hzero
    refine ⟨plan, hplan, horder, ?_⟩
    simpa [hreq] using hcover

theorem makes_of_canProduceColor {production : ManaProduction}
    {color : ManaColor} (hcan : canProduceColor production color = true) :
    production.kind.makes color.toColor = true := by
  unfold canProduceColor at hcan
  split at hcan
  · next c hkind =>
    rw [beq_iff_eq] at hcan
    simp [hkind, hcan, ManaProductionKind.makes]
  · next colors hkind =>
    rwa [hkind, ManaProductionKind.makes_choice]
  · next hkind =>
    simp [hkind, ManaProductionKind.makes, ManaColor.toColor_ne_colorless]
  · cases hcan

theorem payColor_banked {sources : List ManaSource} {color : ManaColor}
    {required : UInt8} {state state' : GreedyState} {paid : Color → Nat}
    (hids : (sources.map ManaSource.cardId).Nodup)
    (hbanked : Banked sources paid state)
    (hphase : payColor sources color required state = some state') :
    Banked sources
      (fun c => paid c + if c = color.toColor then required.toNat else 0)
      state' :=
  payPhase_banked hids (fun _ => makes_of_canProduceColor) hbanked hphase

theorem payColorless_banked {sources : List ManaSource}
    {required : UInt8} {state state' : GreedyState} {paid : Color → Nat}
    (hids : (sources.map ManaSource.cardId).Nodup)
    (hbanked : Banked sources paid state)
    (hphase : payPhase (tapForColorless sources) required state =
      some state') :
    Banked sources
      (fun c => paid c + if c = .colorless then required.toNat else 0)
      state' := by
  refine payPhase_banked hids ?_ hbanked hphase
  intro production heligible
  rw [beq_iff_eq] at heligible
  simp [heligible, ManaProductionKind.makes]

/-- The generic phase: whatever is tapped counts whole. -/
theorem tapForGeneric_covers {sources : List ManaSource}
    {state : GreedyState} {paid : Color → Nat} {amount : UInt8}
    {result : List CardId × UInt8}
    (hids : (sources.map ManaSource.cardId).Nodup)
    (hbanked : Banked sources paid state)
    (htap : tapForGeneric sources state.tapOrder amount = some result) :
    ∃ plan, IsPlan sources plan ∧
      plan.map (fun a => a.source.cardId) = result.1 ∧
      Covers (produced plan)
        ⟨paid, state.extraGeneric.toNat + amount.toNat⟩ := by
  obtain ⟨plan, hplan, horder, hcover⟩ := hbanked
  obtain ⟨tapOrder', tapped⟩ := result
  obtain ⟨taps, hnodup, hmem, rfl, henough, hle⟩ := tapSources_spec hids htap
  rw [← horder] at hmem
  have hmakes : ∀ source ∈ taps, ∃ color,
      source.production.kind.makes color = true := fun source hsource =>
    ManaProduction.exists_makes_of_producesMana
      (mem_candidates (hmem source hsource)).2.2.2
  choose! color hcolor using hmakes
  refine ⟨plan ++ taps.map fun source => ⟨source, color source⟩,
    isPlan_append hplan hnodup hmem hcolor, ?_, ?_⟩
  · simp [horder, Function.comp_def]
  · rw [produced_append]
    have hbatch := covers_wild
      (produced (taps.map fun source => ⟨source, color source⟩))
    refine (hcover.add hbatch).mono_wild ?_
    rw [sum_produced]
    simp only [List.map_map, Function.comp_def]
    simp only [amounts] at hle
    omega

/-- A successful greedy search is a plan that covers the cost. -/
theorem tryGreedyPayment_sound {cost : ManaCost} {sources : List ManaSource}
    {tapOrder : List CardId}
    (hids : (sources.map ManaSource.cardId).Nodup)
    (hgreedy : tryGreedyPayment cost sources = some tapOrder) :
    ∃ plan, IsPlan sources plan ∧
      plan.map (fun a => a.source.cardId) = tapOrder ∧
      Covers (produced plan) cost.demand := by
  simp only [tryGreedyPayment, Option.bind_eq_bind,
    Option.bind_eq_some_iff] at hgreedy
  obtain ⟨s₁, hwhite, s₂, hblue, s₃, hblack, s₄, hred, s₅, hgreen, s₆,
    hcolorless, hgeneric⟩ := hgreedy
  have hbanked := payColorless_banked hids (payColor_banked hids
    (payColor_banked hids (payColor_banked hids (payColor_banked hids
      (payColor_banked hids (banked_init sources) hwhite) hblue) hblack)
        hred) hgreen) hcolorless
  have hpaid : (fun c : Color => 0 +
      (if c = ManaColor.white.toColor then cost.white.toNat else 0) +
      (if c = ManaColor.blue.toColor then cost.blue.toNat else 0) +
      (if c = ManaColor.black.toColor then cost.black.toNat else 0) +
      (if c = ManaColor.red.toColor then cost.red.toNat else 0) +
      (if c = ManaColor.green.toColor then cost.green.toNat else 0) +
      (if c = Color.colorless then cost.colorless.toNat else 0)) =
        cost.demand.typed := by
    funext c
    cases c <;> simp [ManaColor.toColor, ManaCost.demand, ManaCost.amountOf]
  rw [hpaid] at hbanked
  have hrest : (cost.generic - min cost.generic s₆.extraGeneric).toNat =
      cost.generic.toNat - s₆.extraGeneric.toNat := by
    rw [UInt8.toNat_sub_of_le, min8_toNat]
    · omega
    · rw [UInt8.le_iff_toNat_le, min8_toNat]
      omega
  split at hgeneric
  · obtain ⟨result, htap, hresult⟩ := Option.bind_eq_some_iff.mp hgeneric
    cases hresult
    obtain ⟨plan, hplan, horder, hcover⟩ :=
      tapForGeneric_covers hids hbanked htap
    refine ⟨plan, hplan, horder, hcover.mono_wild ?_⟩
    omega
  · next hnone =>
    cases hgeneric
    obtain ⟨plan, hplan, horder, hcover⟩ := hbanked
    refine ⟨plan, hplan, horder, hcover.mono_wild ?_⟩
    rw [gt_iff_lt, UInt8.lt_iff_toNat_lt] at hnone
    change ¬ 0 < _ at hnone
    omega

/-- A `yes` with an output buffer leaves in it the distinct ids of usable
sources, and these cover the cost under some choice of producible colours. -/
theorem checkPayment_yes_sound (cost : ManaCost) (sources : List ManaSource)
    (buffer : List CardId)
    (hids : (sources.map ManaSource.cardId).Nodup)
    (hyes : (checkPayment cost sources (some buffer)).1 = .yes) :
    ∃ tapOrder, (checkPayment cost sources (some buffer)).2 = some tapOrder ∧
      tapOrder.Nodup ∧
      ∃ plan, IsPlan sources plan ∧
        plan.map (fun a => a.source.cardId) = tapOrder ∧
        Covers (produced plan) cost.demand := by
  have hsome : ∀ {tapOrder}, tryGreedyPayment cost sources = some tapOrder →
      tapOrder.Nodup ∧ ∃ plan, IsPlan sources plan ∧
        plan.map (fun a => a.source.cardId) = tapOrder ∧
        Covers (produced plan) cost.demand := by
    intro tapOrder hgreedy
    obtain ⟨plan, hplan, horder, hcover⟩ :=
      tryGreedyPayment_sound hids hgreedy
    exact ⟨horder ▸ hplan.nodup, plan, hplan, horder, hcover⟩
  unfold checkPayment at hyes ⊢
  cases hbounds : boundsCheckPayment cost sources with
  | no => simp [hbounds] at hyes
  | yes | maybe =>
      cases hgreedy : tryGreedyPayment cost sources with
      | none => simp [hbounds, hgreedy] at hyes
      | some tapOrder => exact ⟨tapOrder, rfl, hsome hgreedy⟩

/-- A dual land and a source of two green pay {1}{R}{G}. -/
theorem checkPayment_yes_sound_dual :
    let taiga := ManaColors.fromSlice [.red, .green]
    let cost : ManaCost := { generic := 1, red := 1, green := 1 }
    let sources : List ManaSource :=
      [⟨⟨1⟩, { kind := .choice taiga }, false, false⟩,
        ⟨⟨2⟩, { kind := .fixed .green, amount := 2 }, false, false⟩]
    ∃ tapOrder, (checkPayment cost sources (some [])).2 = some tapOrder ∧
      tapOrder.Nodup ∧
      ∃ plan, IsPlan sources plan ∧
        plan.map (fun a => a.source.cardId) = tapOrder ∧
        Covers (produced plan) cost.demand :=
  checkPayment_yes_sound _ _ _ (by decide) (by decide)

end GreedyManaResolver

end DeepScry
