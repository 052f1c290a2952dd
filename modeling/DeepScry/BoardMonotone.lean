/-
More sources do not hurt, as long as no counter of the search runs past 255.
On the longer list every phase taps fewer of the old sources, so the later
phases find more of them free; what the surplus loses they make up.
-/
import DeepScry.PaymentSurplus

namespace DeepScry

open Drawing

namespace GreedyManaResolver

/-- Whatever old source the longer run has tapped, the shorter has as well. -/
def Ahead (sources : List ManaSource) (state state' : GreedyState) : Prop :=
  ∀ source ∈ sources,
    source.cardId ∈ state'.tapOrder → source.cardId ∈ state.tapOrder

/-- No loop of the phase can count past 255. -/
def Phase.Fits (phase : Phase) (sources : List ManaSource) : Prop :=
  0 < phase.required.toNat → ∀ source ∈ sources, source.usable = true →
    phase.eligible source.production = true →
      phase.required.toNat + source.worth ≤ 256

instance (phase : Phase) (sources : List ManaSource) :
    Decidable (phase.Fits sources) :=
  inferInstanceAs (Decidable (_ → ∀ source ∈ sources, _ → _ → _))

theorem Phase.load_taps_le {phase : Phase} {sources : List ManaSource}
    (hfits : phase.Fits sources) (tapOrder : List CardId) :
    load ManaSource.worth (phase.taps sources tapOrder) ≤ 255 := by
  by_cases hzero : phase.required.toNat = 0
  · rw [Phase.taps, hzero, draw_zero]
    exact Nat.zero_le _
  · refine load_draw_le fun source hsource => ?_
    obtain ⟨hmem, husable, -, heligible⟩ :=
      mem_candidates (mem_ranked.mp hsource)
    exact hfits (Nat.pos_of_ne_zero hzero) source hmem husable heligible

theorem eq_filter_of_sublist {sources more : List ManaSource}
    (hnodup : more.Nodup) (hsub : sources.Sublist more) :
    sources = more.filter fun source => decide (source ∈ sources) := by
  induction hsub with
  | slnil => rfl
  | @cons sources rest source hsub ih =>
      obtain ⟨hnot, hrest⟩ := List.nodup_cons.mp hnodup
      have habsent : source ∉ sources := fun hmem => hnot (hsub.subset hmem)
      simpa [habsent] using ih hrest
  | @cons_cons sources rest source hsub ih =>
      obtain ⟨hnot, hrest⟩ := List.nodup_cons.mp hnodup
      rw [List.filter_cons, decide_eq_true List.mem_cons_self, if_pos rfl,
        List.cons.injEq]
      refine ⟨rfl, (ih hrest).trans (List.filter_congr fun other hother => ?_)⟩
      have hne : other ≠ source := fun heq => hnot (heq ▸ hother)
      simp [hne]

section

variable {sources more : List ManaSource} {state state' : GreedyState}

/-- The old sources still free in the longer run. -/
def stillFree (sources : List ManaSource) (state : GreedyState)
    (source : ManaSource) : Bool :=
  decide (source ∈ sources) && !state.tapOrder.contains source.cardId

theorem candidates_sublist (hids : (more.map ManaSource.cardId).Nodup)
    (hsub : sources.Sublist more) (hahead : Ahead sources state state')
    (eligible : ManaProduction → Bool) :
    candidates eligible sources state.tapOrder =
      (candidates eligible more state'.tapOrder).filter
        (stillFree sources state) := by
  rw [candidates, candidates, List.filter_filter]
  conv_lhs => rw [eq_filter_of_sublist (hids.of_map _) hsub]
  rw [List.filter_filter]
  refine List.filter_congr fun source _ => ?_
  rw [Bool.eq_iff_iff]
  simp only [stillFree, Bool.and_eq_true, Bool.not_eq_true',
    decide_eq_true_eq, List.contains_eq_mem, decide_eq_false_iff_not]
  constructor
  · rintro ⟨⟨⟨husable, hfree⟩, heligible⟩, hmem⟩
    exact ⟨⟨hmem, hfree⟩,
      ⟨husable, fun hid => hfree (hahead source hmem hid)⟩, heligible⟩
  · rintro ⟨⟨hmem, hfree⟩, ⟨husable, -⟩, heligible⟩
    exact ⟨⟨⟨husable, hfree⟩, heligible⟩, hmem⟩

theorem load_candidates_le (hids : (more.map ManaSource.cardId).Nodup)
    (hsub : sources.Sublist more) (hahead : Ahead sources state state')
    (eligible : ManaProduction → Bool) :
    load ManaSource.worth (candidates eligible sources state.tapOrder) ≤
      load ManaSource.worth (candidates eligible more state'.tapOrder) := by
  rw [candidates_sublist hids hsub hahead]
  exact load_sublist List.filter_sublist

/-- A phase keeps the longer run ahead. -/
theorem ahead_after (hids : (more.map ManaSource.cardId).Nodup)
    (hsub : sources.Sublist more) (hahead : Ahead sources state state')
    (phase : Phase) :
    Ahead sources (phase.after sources state) (phase.after more state') := by
  intro source hsource hmem
  by_cases hfree : source.cardId ∈ state.tapOrder
  · exact List.mem_append_left _ hfree
  · rcases List.mem_append.mp hmem with hold | hnew
    · exact absurd (hahead source hsource hold) hfree
    · obtain ⟨tap, htap, hid⟩ := List.mem_map.mp hnew
      have htapped := (mem_candidates (Phase.mem_of_mem_taps htap)).1
      have heq := List.inj_on_of_nodup_map hids htapped
        (hsub.subset hsource) hid
      rw [heq] at htap
      refine List.mem_append_right _ (List.mem_map_of_mem ?_)
      rw [Phase.taps, Phase.ranking, candidates_sublist hids hsub hahead,
        ← filter_ranked]
      refine mem_draw_filter le_rfl ?_ htap
      simp [stillFree, hsource, hfree]

theorem payAll_mono (hids : (more.map ManaSource.cardId).Nodup)
    (hsub : sources.Sublist more) (hahead : Ahead sources state state')
    {phases : List Phase} {final : GreedyState}
    (hpay : payAll sources phases state = some final) :
    ∃ final', payAll more phases state' = some final' ∧
      Ahead sources final final' := by
  induction phases generalizing state state' with
  | nil =>
      cases hpay
      exact ⟨state', rfl, hahead⟩
  | cons phase rest ih =>
      obtain ⟨henough, hrest⟩ := payAll_cons hpay
      have hmore := henough.trans
        (load_candidates_le hids hsub hahead phase.eligible)
      obtain ⟨final', hrun, hfinal⟩ :=
        ih (ahead_after hids hsub hahead phase) hrest
      refine ⟨final', ?_, hfinal⟩
      rw [payAll, Phase.pay_eq, if_pos hmore]
      exact hrun

end

/-- A search that succeeds on some of the sources succeeds on all of them, if
no loop for a colour can count past 255 there. -/
theorem tryGreedyPayment_mono {cost : ManaCost}
    {sources more : List ManaSource}
    (hids : (more.map ManaSource.cardId).Nodup)
    (hsub : sources.Sublist more)
    (hfits : ∀ phase ∈ typedPhases cost, phase.Fits more)
    (hsome : (tryGreedyPayment cost sources).isSome) :
    (tryGreedyPayment cost more).isSome := by
  have hids' : (sources.map ManaSource.cardId).Nodup :=
    (hsub.map ManaSource.cardId).nodup hids
  have hproducing (phase : Phase) (hmem : phase ∈ typedPhases cost) :=
    producing_of_mem_typedPhases hmem
  obtain ⟨final, hpay, hgeneric⟩ :=
    (tryGreedyPayment_isSome_iff cost sources).mp hsome
  have hstart : Ahead sources {} {} := fun _ _ hmem => hmem
  obtain ⟨final', hpay', -⟩ := payAll_mono hids hsub hstart hpay
  refine (tryGreedyPayment_isSome_iff cost more).mpr ⟨final', hpay', ?_⟩
  have hspent := funds_payAll_le hids' hproducing hpay
  have hstock : funds sources {} ≤ funds more {} :=
    Nat.add_le_add_left (load_candidates_le hids hsub hstart
      ManaProduction.producesMana) _
  have hexact := exact_payAll hids hproducing
    (fun phase hmem => Phase.load_taps_le (hfits phase hmem)) hpay'
  rcases hexact with hfull | hexact
  · have hgeneric := cost.generic.toNat_lt
    rw [funds, hfull]
    omega
  · omega

/-- A Forest more, and {1}{G} can still be paid. -/
theorem tryGreedyPayment_mono_forest :
    let forest (id : Nat) : ManaSource :=
      ⟨⟨id⟩, { kind := .fixed .green }, false, false⟩
    (tryGreedyPayment { generic := 1, green := 1 }
      [forest 1, forest 2, forest 3]).isSome :=
  @tryGreedyPayment_mono _ [⟨⟨1⟩, { kind := .fixed .green }, false, false⟩,
      ⟨⟨3⟩, { kind := .fixed .green }, false, false⟩] _
    (by decide) (by decide) (by decide) (by decide)

/-- Without the Plains the dual source pays {W} and banks 99.  With it, the
dual source is tapped for blue behind 254 others, where the loop stops
counting at 255. -/
theorem not_tryGreedyPayment_mono :
    ¬ ∀ (cost : ManaCost) (sources more : List ManaSource),
      (more.map ManaSource.cardId).Nodup → sources.Sublist more →
        (tryGreedyPayment cost sources).isSome →
          (tryGreedyPayment cost more).isSome := by
  intro hmono
  let plains : ManaSource := ⟨⟨1⟩, { kind := .fixed .white }, false, false⟩
  let dual : ManaSource :=
    ⟨⟨2⟩, { kind := .choice (.fromSlice [.white, .blue]), amount := 100 },
      false, false⟩
  let sea : ManaSource :=
    ⟨⟨3⟩, { kind := .fixed .blue, amount := 254 }, false, false⟩
  let atoll : ManaSource :=
    ⟨⟨4⟩, { kind := .fixed .blue, sideCost := .payLife 1 }, false, false⟩
  let cost : ManaCost := { generic := 99, white := 1, blue := 255 }
  have hmore := hmono cost [dual, sea, atoll] [plains, dual, sea, atoll]
    (by decide) (List.sublist_cons_self _ _) (by decide)
  revert hmore
  decide

end GreedyManaResolver

end DeepScry
