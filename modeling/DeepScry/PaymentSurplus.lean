/-
Where the mana of a search goes.  What a phase taps leaves the sources that
are still free; it pays the requirement, and the rest is banked unless a
counter stops at 255.
-/
import DeepScry.PaymentPhases

namespace DeepScry

open Drawing Supply

namespace GreedyManaResolver

/-- The mana of the free sources of a kind. -/
def free (eligible : ManaProduction → Bool) (sources : List ManaSource)
    (state : GreedyState) : Nat :=
  load ManaSource.worth (candidates eligible sources state.tapOrder)

/-- What the phases so far banked and what is still free to tap. -/
def funds (sources : List ManaSource) (state : GreedyState) : Nat :=
  state.extraGeneric.toNat + load ManaSource.worth
    (candidates ManaProduction.producesMana sources state.tapOrder)

/-- What some phases ask for. -/
def required (phases : List Phase) : Nat :=
  load (fun phase : Phase => phase.required.toNat) phases

/-- A loop that taps only sources of mana, as all loops do. -/
def Phase.Producing (phase : Phase) : Prop :=
  ∀ production, phase.eligible production = true →
    production.producesMana = true

theorem producesMana_of_canProduceColor {production : ManaProduction}
    {color : ManaColor} (hcan : canProduceColor production color = true) :
    production.producesMana = true := by
  rw [ManaProduction.producesMana]
  rw [canProduceColor] at hcan
  cases hkind : production.kind with
  | fixed _ => rfl
  | choice colors =>
      rw [hkind] at hcan
      dsimp only at hcan ⊢
      by_contra hempty
      rw [Bool.not_eq_true', Bool.not_eq_false, ManaColors.isEmpty,
        beq_iff_eq] at hempty
      rw [ManaColors.contains, hempty] at hcan
      revert hcan
      cases color <;> decide
  | anyColor => rfl
  | colorless => rfl

theorem producing_of_mem_typedPhases {cost : ManaCost} {phase : Phase}
    (hmem : phase ∈ typedPhases cost) : phase.Producing := by
  have hcolor (color : ManaColor) (n : UInt8) :
      (Phase.color color n).Producing :=
    fun _ => producesMana_of_canProduceColor
  have hcolorless (n : UInt8) : (Phase.colorless n).Producing := by
    intro production heligible
    have hkind : production.kind = .colorless := beq_iff_eq.mp heligible
    rw [ManaProduction.producesMana, hkind]
  simp only [typedPhases, List.mem_cons, List.not_mem_nil, or_false] at hmem
  rcases hmem with rfl | rfl | rfl | rfl | rfl | rfl
  · exact hcolor _ _
  · exact hcolor _ _
  · exact hcolor _ _
  · exact hcolor _ _
  · exact hcolor _ _
  · exact hcolorless _

theorem required_typedPhases (cost : ManaCost) :
    required (typedPhases cost) + cost.generic.toNat = cost.total := by
  rw [ManaCost.total_eq]
  simp only [required, typedPhases, load_cons, load_nil, Phase.color,
    Phase.colorless]
  omega

theorem candidates_nodup {sources : List ManaSource}
    (hids : (sources.map ManaSource.cardId).Nodup)
    (eligible : ManaProduction → Bool) (tapOrder : List CardId) :
    (candidates eligible sources tapOrder).Nodup :=
  (hids.of_map ManaSource.cardId).filter _

/-- A longer tap order takes its own sources out of the candidates. -/
theorem candidates_append (eligible : ManaProduction → Bool)
    (sources : List ManaSource) (tapOrder more : List CardId) :
    candidates eligible sources (tapOrder ++ more) =
      (candidates eligible sources tapOrder).filter fun source =>
        !more.contains source.cardId := by
  rw [candidates, candidates, List.filter_filter]
  refine List.filter_congr fun source _ => ?_
  have happ : (tapOrder ++ more).contains source.cardId =
      (tapOrder.contains source.cardId || more.contains source.cardId) := by
    simp
  rw [happ]
  cases source.isTapped <;> cases source.hasSummoningSickness <;>
    cases tapOrder.contains source.cardId <;>
      cases more.contains source.cardId <;> simp

namespace Phase

variable {phase : Phase} {sources : List ManaSource}

theorem taps_nodup (hids : (sources.map ManaSource.cardId).Nodup)
    (tapOrder : List CardId) : (phase.taps sources tapOrder).Nodup :=
  (draw_initial _ _).sublist.nodup
    ((ranked_perm _ _).nodup_iff.mpr (candidates_nodup hids _ _))

/-- The free sources of a kind are those that the phase taps and those it
leaves. -/
theorem load_candidates (hids : (sources.map ManaSource.cardId).Nodup)
    (eligible : ManaProduction → Bool) (state : GreedyState) :
    load ManaSource.worth (candidates eligible sources state.tapOrder) =
      load ManaSource.worth ((phase.taps sources state.tapOrder).filter
          fun source => eligible source.production) +
        load ManaSource.worth (candidates eligible sources
          (phase.after sources state).tapOrder) := by
  have hsplit := load_filter (w := ManaSource.worth)
    (fun source : ManaSource => ((phase.taps sources state.tapOrder).map
      ManaSource.cardId).contains source.cardId)
    (candidates eligible sources state.tapOrder)
  have hperm : ((candidates eligible sources state.tapOrder).filter
      fun source => ((phase.taps sources state.tapOrder).map
        ManaSource.cardId).contains source.cardId).Perm
      ((phase.taps sources state.tapOrder).filter
        fun source => eligible source.production) := by
    rw [List.perm_ext_iff_of_nodup
      ((candidates_nodup hids _ _).filter _) ((taps_nodup hids _).filter _)]
    intro source
    rw [List.mem_filter, List.mem_filter, List.contains_iff_mem]
    constructor
    · rintro ⟨hmem, hid⟩
      obtain ⟨tap, htap, heq⟩ := List.mem_map.mp hid
      obtain ⟨hsource, -, -, heligible⟩ := mem_candidates hmem
      have htapped := (mem_candidates (mem_of_mem_taps htap)).1
      rw [← List.inj_on_of_nodup_map hids htapped hsource heq] at heligible ⊢
      exact ⟨htap, heligible⟩
    · rintro ⟨htap, heligible⟩
      refine ⟨?_, List.mem_map_of_mem htap⟩
      have hmem := mem_of_mem_taps htap
      rw [candidates, List.mem_filter] at hmem ⊢
      rw [Bool.and_eq_true] at hmem ⊢
      exact ⟨hmem.1, hmem.2.1, heligible⟩
  rw [after, candidates_append, ← load_perm hperm]
  exact hsplit.symm

/-- Sources that the loop may not tap stay free. -/
theorem free_after_of_apart (hids : (sources.map ManaSource.cardId).Nodup)
    {eligible : ManaProduction → Bool}
    (hapart : ∀ source ∈ sources, source.usable = true →
      phase.eligible source.production = true →
        eligible source.production = false) (state : GreedyState) :
    free eligible sources (phase.after sources state) =
      free eligible sources state := by
  have hload := @load_candidates phase sources hids eligible state
  have hnone : (phase.taps sources state.tapOrder).filter
      (fun source => eligible source.production) = [] := by
    rw [List.filter_eq_nil_iff]
    intro source hsource heligible
    obtain ⟨hmem, husable, -, hphase⟩ :=
      mem_candidates (mem_of_mem_taps hsource)
    rw [hapart source hmem husable hphase] at heligible
    exact nomatch heligible
  rw [hnone, load_nil, Nat.zero_add] at hload
  exact hload.symm

/-- A loop that taps only sources of mana takes its taps from these. -/
theorem load_producing (hids : (sources.map ManaSource.cardId).Nodup)
    (hproducing : phase.Producing) (state : GreedyState) :
    load ManaSource.worth (candidates ManaProduction.producesMana sources
        state.tapOrder) =
      load ManaSource.worth (phase.taps sources state.tapOrder) +
        load ManaSource.worth (candidates ManaProduction.producesMana sources
          (phase.after sources state).tapOrder) := by
  have hall : (phase.taps sources state.tapOrder).filter (fun source =>
      source.production.producesMana) =
        phase.taps sources state.tapOrder := by
    rw [List.filter_eq_self]
    intro source htap
    exact hproducing _ (mem_candidates (mem_of_mem_taps htap)).2.2.2
  have hload := @load_candidates phase sources hids
    ManaProduction.producesMana state
  rwa [hall] at hload

theorem after_extraGeneric (state : GreedyState) :
    (phase.after sources state).extraGeneric.toNat =
      min (state.extraGeneric.toNat + (phase.tapped sources state.tapOrder -
        phase.required.toNat)) 255 := by
  rw [after]
  refine UInt8.toNat_ofNat_of_lt' ?_
  rw [UInt8.size]
  omega

theorem required_le_load {state : GreedyState}
    (henough : phase.required.toNat ≤ load ManaSource.worth
      (candidates phase.eligible sources state.tapOrder)) :
    phase.required.toNat ≤ load ManaSource.worth
      (phase.taps sources state.tapOrder) := by
  rw [← load_ranking] at henough
  exact le_load_draw henough

/-- A phase makes no mana out of nothing. -/
theorem funds_after_le (hids : (sources.map ManaSource.cardId).Nodup)
    (hproducing : phase.Producing) {state : GreedyState}
    (henough : phase.required.toNat ≤ load ManaSource.worth
      (candidates phase.eligible sources state.tapOrder)) :
    funds sources (phase.after sources state) + phase.required.toNat ≤
      funds sources state := by
  have hload := load_producing hids hproducing state
  have hmet := required_le_load henough
  rw [funds, funds, after_extraGeneric, hload, tapped]
  omega

/-- The bank is full, or nothing but the requirement has gone. -/
def Exact (sources : List ManaSource) (state : GreedyState) (spent : Nat)
    (state' : GreedyState) : Prop :=
  state'.extraGeneric.toNat = 255 ∨
    funds sources state' + spent = funds sources state

theorem exact_after (hids : (sources.map ManaSource.cardId).Nodup)
    (hproducing : phase.Producing) {state : GreedyState}
    (henough : phase.required.toNat ≤ load ManaSource.worth
      (candidates phase.eligible sources state.tapOrder))
    (hfits : load ManaSource.worth (phase.taps sources state.tapOrder) ≤ 255) :
    Exact sources state phase.required.toNat (phase.after sources state) := by
  have hload := load_producing hids hproducing state
  have hmet := required_le_load henough
  rw [Exact, funds, funds, after_extraGeneric, hload, tapped]
  omega

theorem after_full {state : GreedyState}
    (hfull : state.extraGeneric.toNat = 255) :
    (phase.after sources state).extraGeneric.toNat = 255 := by
  rw [after_extraGeneric, hfull]
  omega

end Phase

theorem payAll_cons {sources : List ManaSource} {phase : Phase}
    {rest : List Phase} {state final : GreedyState}
    (hpay : payAll sources (phase :: rest) state = some final) :
    phase.required.toNat ≤ load ManaSource.worth
        (candidates phase.eligible sources state.tapOrder) ∧
      payAll sources rest (phase.after sources state) = some final := by
  obtain ⟨after, hphase, hrest⟩ := Option.bind_eq_some_iff.mp hpay
  obtain ⟨henough, rfl⟩ := Phase.enough_of_pay hphase
  exact ⟨henough, hrest⟩

theorem funds_payAll_le {sources : List ManaSource}
    (hids : (sources.map ManaSource.cardId).Nodup) {phases : List Phase}
    (hproducing : ∀ phase ∈ phases, phase.Producing)
    {state final : GreedyState}
    (hpay : payAll sources phases state = some final) :
    funds sources final + required phases ≤ funds sources state := by
  induction phases generalizing state with
  | nil =>
      cases hpay
      exact le_rfl
  | cons phase rest ih =>
      obtain ⟨henough, hrest⟩ := payAll_cons hpay
      obtain ⟨hphase, hothers⟩ := List.forall_mem_cons.mp hproducing
      have hstep := Phase.funds_after_le hids hphase henough
      have hrun := ih hothers hrest
      rw [required, load_cons]
      rw [required] at hrun
      omega

theorem payAll_full {sources : List ManaSource} {phases : List Phase}
    {state final : GreedyState} (hfull : state.extraGeneric.toNat = 255)
    (hpay : payAll sources phases state = some final) :
    final.extraGeneric.toNat = 255 := by
  induction phases generalizing state with
  | nil =>
      cases hpay
      exact hfull
  | cons phase rest ih =>
      obtain ⟨-, hrest⟩ := payAll_cons hpay
      exact ih (Phase.after_full hfull) hrest

/-- Where no tapping loop can run past 255, a successful run of phases loses
nothing that matters. -/
theorem exact_payAll {sources : List ManaSource}
    (hids : (sources.map ManaSource.cardId).Nodup) {phases : List Phase}
    (hproducing : ∀ phase ∈ phases, phase.Producing)
    (hfits : ∀ phase ∈ phases, ∀ tapOrder,
      load ManaSource.worth (phase.taps sources tapOrder) ≤ 255)
    {state final : GreedyState}
    (hpay : payAll sources phases state = some final) :
    Phase.Exact sources state (required phases) final := by
  induction phases generalizing state with
  | nil =>
      cases hpay
      exact Or.inr rfl
  | cons phase rest ih =>
      obtain ⟨henough, hrest⟩ := payAll_cons hpay
      obtain ⟨hphase, hothers⟩ := List.forall_mem_cons.mp hproducing
      obtain ⟨hloop, hloops⟩ := List.forall_mem_cons.mp hfits
      rcases Phase.exact_after hids hphase henough (hloop _) with
        hfull | hstep
      · exact Or.inl (payAll_full hfull hrest)
      · rcases ih hothers hloops hrest with hfull | hrun
        · exact Or.inl hfull
        · right
          rw [required, load_cons]
          rw [required] at hrun
          omega

/-- No source can be tapped in both phases. -/
def Phase.Apart (sources : List ManaSource) (phase other : Phase) : Prop :=
  ∀ source ∈ sources, source.usable = true →
    phase.eligible source.production = true →
      other.eligible source.production = false

/-- Phases that cannot get in each other's way succeed when each has enough to
begin with. -/
theorem payAll_apart {sources : List ManaSource}
    (hids : (sources.map ManaSource.cardId).Nodup) {phases : List Phase}
    (hapart : phases.Pairwise (Phase.Apart sources)) {state : GreedyState}
    (henough : ∀ phase ∈ phases,
      phase.required.toNat ≤ free phase.eligible sources state) :
    ∃ final, payAll sources phases state = some final := by
  induction phases generalizing state with
  | nil => exact ⟨state, rfl⟩
  | cons phase rest ih =>
      obtain ⟨hfirst, hrest⟩ := List.pairwise_cons.mp hapart
      obtain ⟨hmet, hothers⟩ := List.forall_mem_cons.mp henough
      obtain ⟨final, hrun⟩ := ih hrest fun other hother => by
        rw [Phase.free_after_of_apart hids (hfirst other hother)]
        exact hothers other hother
      refine ⟨final, ?_⟩
      rw [payAll, Phase.pay_eq]
      exact (congrArg (Option.bind · _) (if_pos hmet)).trans hrun

/-- Successful phases follow one another. -/
theorem foldl_after_eq {sources : List ManaSource} {phases : List Phase}
    {state final : GreedyState}
    (hpay : payAll sources phases state = some final) :
    phases.foldl (fun state phase => phase.after sources state) state =
      final := by
  induction phases generalizing state with
  | nil => exact Option.some.inj hpay
  | cons phase rest ih => exact ih (payAll_cons hpay).2

theorem genericPhase_required (cost : ManaCost) (state : GreedyState) :
    (genericPhase cost state).required.toNat =
      cost.generic.toNat - state.extraGeneric.toNat := by
  have hmin := Saturating.min8_toNat cost.generic state.extraGeneric
  have hle : min cost.generic state.extraGeneric ≤ cost.generic := by
    rw [UInt8.le_iff_toNat_le, hmin]
    exact Nat.min_le_left _ _
  change (cost.generic - min cost.generic state.extraGeneric).toNat = _
  rw [UInt8.toNat_sub_of_le _ _ hle, hmin]
  omega

/-- The search succeeds when the typed phases do and leave the funds for the
generic part. -/
theorem tryGreedyPayment_isSome_iff (cost : ManaCost)
    (sources : List ManaSource) :
    (tryGreedyPayment cost sources).isSome ↔
      ∃ final, payAll sources (typedPhases cost) {} = some final ∧
        cost.generic.toNat ≤ funds sources final := by
  have hlast (final : GreedyState) :
      ((genericPhase cost final).pay sources final).isSome ↔
        cost.generic.toNat ≤ funds sources final := by
    rw [Phase.pay_isSome_iff, genericPhase_required, funds,
      ← Nat.sub_le_iff_le_add']
    rfl
  rw [tryGreedyPayment_eq]
  cases hpay : payAll sources (typedPhases cost) {} with
  | none => simp
  | some final => simp [hlast]

/-- Where no tapping loop can run past 255, the search succeeds when the typed
phases do and the sources make as much as the cost asks for. -/
theorem tryGreedyPayment_isSome_iff_total {cost : ManaCost}
    {sources : List ManaSource}
    (hids : (sources.map ManaSource.cardId).Nodup)
    (hfits : ∀ phase ∈ typedPhases cost, ∀ tapOrder,
      load ManaSource.worth (phase.taps sources tapOrder) ≤ 255) :
    (tryGreedyPayment cost sources).isSome ↔
      (payAll sources (typedPhases cost) {}).isSome ∧
        cost.total ≤ funds sources {} := by
  have hrequired := required_typedPhases cost
  have hproducing (phase : Phase) (hmem : phase ∈ typedPhases cost) :=
    producing_of_mem_typedPhases hmem
  rw [tryGreedyPayment_isSome_iff]
  constructor
  · rintro ⟨final, hpay, hgeneric⟩
    have hspent := funds_payAll_le hids hproducing hpay
    refine ⟨by rw [hpay]; rfl, ?_⟩
    omega
  · rintro ⟨hsome, htotal⟩
    obtain ⟨final, hpay⟩ := Option.isSome_iff_exists.mp hsome
    refine ⟨final, hpay, ?_⟩
    rcases exact_payAll hids hproducing hfits hpay with hfull | hexact
    · have hlt := cost.generic.toNat_lt
      rw [funds, hfull]
      omega
    · omega

/-- Phases that each make a colour add their requirements to what is
covered. -/
theorem payAll_banked {sources : List ManaSource}
    (hids : (sources.map ManaSource.cardId).Nodup)
    {typed : List (Color × Phase)}
    (hmakes : ∀ t ∈ typed, ∀ production, t.2.eligible production = true →
      production.kind.makes t.1 = true)
    {paid : Color → Nat} {state final : GreedyState}
    (hbanked : Banked sources paid state)
    (hpay : payAll sources (typed.map Prod.snd) state = some final) :
    Banked sources (fun c => paid c + load (fun t : Color × Phase =>
      if c = t.1 then t.2.required.toNat else 0) typed) final := by
  induction typed generalizing paid state with
  | nil =>
      cases hpay
      exact hbanked
  | cons t rest ih =>
      obtain ⟨hfirst, hothers⟩ := List.forall_mem_cons.mp hmakes
      obtain ⟨after, hphase, hrest⟩ := Option.bind_eq_some_iff.mp hpay
      have hstep := ih hothers (payPhase_banked hids hfirst hbanked hphase)
        hrest
      simpa only [load_cons, Nat.add_assoc] using hstep

/-- A phase for any mana adds its requirement to the untyped part. -/
theorem Phase.after_covers {sources : List ManaSource} {phase : Phase}
    (hids : (sources.map ManaSource.cardId).Nodup)
    (hproducing : phase.Producing) {paid : Color → Nat} {state : GreedyState}
    (hbanked : Banked sources paid state)
    (henough : phase.required.toNat ≤
      free phase.eligible sources state) :
    ∃ plan, IsPlan sources plan ∧
      plan.map (fun a => a.source.cardId) =
        (phase.after sources state).tapOrder ∧
      Covers (produced plan)
        ⟨paid, state.extraGeneric.toNat + phase.required.toNat⟩ := by
  obtain ⟨plan, hplan, horder, hcover⟩ := hbanked
  have hmem : ∀ source ∈ phase.taps sources state.tapOrder, source ∈
      candidates phase.eligible sources
        (plan.map fun a => a.source.cardId) := by
    rw [horder]
    exact fun source => mem_of_mem_taps
  have hmakes : ∀ source ∈ phase.taps sources state.tapOrder, ∃ color,
      source.production.kind.makes color = true := fun source hsource =>
    ManaProduction.exists_makes_of_producesMana
      (hproducing _ (mem_candidates (hmem source hsource)).2.2.2)
  choose! color hcolor using hmakes
  have hnodup : ((phase.taps sources state.tapOrder).map
      ManaSource.cardId).Nodup := by
    refine (taps_nodup hids _).map_on fun a ha b hb heq => ?_
    exact List.inj_on_of_nodup_map hids
      (mem_candidates (hmem a ha)).1 (mem_candidates (hmem b hb)).1 heq
  refine ⟨plan ++ (phase.taps sources state.tapOrder).map fun source =>
    ⟨source, color source⟩, isPlan_append hplan hnodup hmem hcolor, ?_, ?_⟩
  · simp [horder, Phase.after, Function.comp_def]
  · rw [produced_append]
    have hbatch := covers_wild (produced
      ((phase.taps sources state.tapOrder).map fun source =>
        ⟨source, color source⟩))
    refine (hcover.add hbatch).mono_wild (Nat.add_le_add_left ?_ _)
    rw [sum_produced, List.map_map]
    exact required_le_load henough

end GreedyManaResolver

end DeepScry
