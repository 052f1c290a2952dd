/-
When the search leaves the sacrifice sources alone.  Where the other sources
suffice, it does so exactly when in each phase those that rank ahead of the
first sacrifice source make what the phase requires.
-/
import DeepScry.PaymentPhases

namespace DeepScry

open Drawing

/-- Activating the source costs the source itself. -/
def ManaSource.isSacrifice (source : ManaSource) : Bool :=
  source.production.sideCost == .sacrifice

namespace GreedyManaResolver

/-- The list without the sacrifice sources. -/
def keeping (sources : List ManaSource) : List ManaSource :=
  sources.filter fun source => !source.isSacrifice

/-- No sacrifice source is in the tap order. -/
def Keeps (sources : List ManaSource) (tapOrder : List CardId) : Prop :=
  ∀ source ∈ sources, source.isSacrifice = true → source.cardId ∉ tapOrder

/-- What ranks ahead of the first sacrifice source meets the requirement. -/
def Phase.Spares (phase : Phase) (sources : List ManaSource)
    (tapOrder : List CardId) : Prop :=
  phase.required.toNat ≤ load ManaSource.worth
    ((phase.ranking sources tapOrder).takeWhile fun source =>
      !source.isSacrifice)

/-- Every phase still to come spares the sacrifice sources. -/
def SparesFrom (cost : ManaCost) (sources : List ManaSource) :
    List Phase → GreedyState → Prop
  | [], state => (genericPhase cost state).Spares sources state.tapOrder
  | phase :: rest, state =>
      phase.Spares sources state.tapOrder ∧
        SparesFrom cost sources rest (phase.after sources state)

def SparesSacrifices (cost : ManaCost) (sources : List ManaSource) : Prop :=
  SparesFrom cost sources (typedPhases cost) {}

theorem candidates_keeping (eligible : ManaProduction → Bool)
    (sources : List ManaSource) (tapOrder : List CardId) :
    candidates eligible (keeping sources) tapOrder =
      (candidates eligible sources tapOrder).filter fun source =>
        !source.isSacrifice := by
  rw [candidates, candidates, keeping, List.filter_filter, List.filter_filter]
  exact List.filter_congr fun source _ => Bool.and_comm _ _

namespace Phase

variable (phase : Phase) (sources : List ManaSource)

theorem ranking_keeping (tapOrder : List CardId) :
    phase.ranking (keeping sources) tapOrder =
      (phase.ranking sources tapOrder).filter fun source =>
        !source.isSacrifice := by
  rw [ranking, ranking, candidates_keeping, filter_ranked]

variable {phase sources}

/-- A phase that the other sources can pay succeeds, and taps no sacrifice
source exactly when it spares them; then these might as well not be there. -/
theorem spares_step {state after : GreedyState}
    (hpay : phase.pay (keeping sources) state = some after) :
    phase.pay sources state = some (phase.after sources state) ∧
      ((∀ source ∈ phase.taps sources state.tapOrder,
          source.isSacrifice = false) ↔
        phase.Spares sources state.tapOrder) ∧
      (phase.Spares sources state.tapOrder →
        phase.after sources state = after) := by
  obtain ⟨henough, rfl⟩ := enough_of_pay hpay
  rw [← load_ranking, ranking_keeping] at henough
  have hkept := draw_kept_iff henough
  refine ⟨?_, ?_, ?_⟩
  · have hsub := load_sublist (w := ManaSource.worth)
      (List.filter_sublist (p := fun source : ManaSource =>
        !source.isSacrifice) (l := phase.ranking sources state.tapOrder))
    rw [pay_eq, if_pos]
    rw [← load_ranking]
    exact henough.trans hsub
  · rw [Spares, ← hkept]
    simp only [Bool.not_eq_true']
    rfl
  · intro hspares
    have htaps : phase.taps (keeping sources) state.tapOrder =
        phase.taps sources state.tapOrder := by
      rw [taps, ranking_keeping]
      exact draw_filter (hkept.mpr hspares)
    rw [Phase.after, Phase.after, tapped, tapped, htaps]

end Phase

/-- After a phase the tap order keeps the sacrifice sources when its taps
do. -/
theorem keeps_after_iff {phase : Phase} {sources : List ManaSource}
    {state : GreedyState}
    (hids : (sources.map ManaSource.cardId).Nodup)
    (hkeeps : Keeps sources state.tapOrder) :
    Keeps sources (phase.after sources state).tapOrder ↔
      ∀ source ∈ phase.taps sources state.tapOrder,
        source.isSacrifice = false := by
  constructor
  · intro hafter source hmem
    have hsource := (mem_candidates (Phase.mem_of_mem_taps hmem)).1
    by_contra hsacrifice
    rw [Bool.not_eq_false] at hsacrifice
    exact hafter source hsource hsacrifice
      (List.mem_append_right _ (List.mem_map_of_mem hmem))
  · intro hclean source hsource hsacrifice hmem
    rcases List.mem_append.mp hmem with hold | hnew
    · exact hkeeps source hsource hsacrifice hold
    · obtain ⟨tap, htap, hid⟩ := List.mem_map.mp hnew
      have hmem := (mem_candidates (Phase.mem_of_mem_taps htap)).1
      have heq := List.inj_on_of_nodup_map hids hmem hsource hid
      rw [heq] at htap
      exact absurd hsacrifice (by simp [hclean source htap])

theorem searchFrom_keeps_iff {cost : ManaCost} {sources : List ManaSource}
    {phases : List Phase} {state : GreedyState}
    (hids : (sources.map ManaSource.cardId).Nodup)
    (hkeeps : Keeps sources state.tapOrder)
    (hsome : (searchFrom cost (keeping sources) phases state).isSome) :
    (∃ tapOrder, searchFrom cost sources phases state = some tapOrder ∧
        Keeps sources tapOrder) ↔
      SparesFrom cost sources phases state := by
  induction phases generalizing state with
  | nil =>
      obtain ⟨kept, hkept⟩ := Option.isSome_iff_exists.mp hsome
      obtain ⟨after, hpay, -⟩ := Option.map_eq_some_iff.mp hkept
      obtain ⟨hfull, hspares, -⟩ := Phase.spares_step hpay
      have hsearch : searchFrom cost sources [] state =
          some ((genericPhase cost state).after sources state).tapOrder :=
        congrArg (Option.map GreedyState.tapOrder) hfull
      rw [hsearch, SparesFrom, ← hspares, ← keeps_after_iff hids hkeeps]
      simp
  | cons phase rest ih =>
      obtain ⟨kept, hkept⟩ := Option.isSome_iff_exists.mp hsome
      rw [searchFrom_cons] at hkept
      obtain ⟨after, hpay, hrest⟩ := Option.bind_eq_some_iff.mp hkept
      obtain ⟨hfull, hspares, hafter⟩ := Phase.spares_step hpay
      rw [searchFrom_cons, hfull, Option.bind_some, SparesFrom]
      have hstep := @keeps_after_iff phase sources state hids hkeeps
      rw [hspares] at hstep
      constructor
      · rintro ⟨tapOrder, hsearch, hclean⟩
        have hnow : phase.Spares sources state.tapOrder :=
          hstep.mp fun source hsource hsacrifice hmem =>
            hclean source hsource hsacrifice (subset_searchFrom hsearch hmem)
        refine ⟨hnow, (ih (hstep.mpr hnow) ?_).mp ⟨tapOrder, hsearch, hclean⟩⟩
        rw [hafter hnow, hrest]
        rfl
      · rintro ⟨hnow, hthen⟩
        refine (ih (hstep.mpr hnow) ?_).mpr hthen
        rw [hafter hnow, hrest]
        rfl

/-- Where the other sources suffice, the search on the full list taps no
sacrifice source exactly when every phase spares them. -/
theorem sacrifice_last_iff {cost : ManaCost} {sources : List ManaSource}
    (hids : (sources.map ManaSource.cardId).Nodup)
    (hkeeping : (tryGreedyPayment cost (keeping sources)).isSome) :
    (∃ tapOrder, tryGreedyPayment cost sources = some tapOrder ∧
        ∀ source ∈ sources, source.production.sideCost = .sacrifice →
          source.cardId ∉ tapOrder) ↔
      SparesSacrifices cost sources := by
  rw [tryGreedyPayment_eq] at hkeeping
  have hiff := @searchFrom_keeps_iff cost sources (typedPhases cost) {} hids
    (fun _ _ _ => List.not_mem_nil) hkeeping
  simp only [Keeps, ManaSource.isSacrifice, beq_iff_eq] at hiff
  rw [tryGreedyPayment_eq]
  exact hiff

/-- A Plains and a lotus for {W}: the lotus stays. -/
theorem sacrifice_last_iff_plains :
    let sources : List ManaSource :=
      [⟨⟨1⟩, { kind := .anyColor, amount := 3, sideCost := .sacrifice },
          false, false⟩,
        ⟨⟨2⟩, { kind := .fixed .white }, false, false⟩]
    (∃ tapOrder, tryGreedyPayment { white := 1 } sources = some tapOrder ∧
        ∀ source ∈ sources, source.production.sideCost = .sacrifice →
          source.cardId ∉ tapOrder) ↔
      SparesSacrifices { white := 1 } sources :=
  sacrifice_last_iff (by decide) (by decide)

/-- {W} from a Plains that has to be sacrificed and a source of any colour for
45 life: both score 1000, and the first of the two is tapped. -/
theorem not_sacrifice_last :
    ¬ ∀ (cost : ManaCost) (sources : List ManaSource),
      (sources.map ManaSource.cardId).Nodup →
        (tryGreedyPayment cost (keeping sources)).isSome →
          ∃ tapOrder, tryGreedyPayment cost sources = some tapOrder ∧
            ∀ source ∈ sources, source.production.sideCost = .sacrifice →
              source.cardId ∉ tapOrder := by
  intro hlast
  let plains : ManaSource :=
    ⟨⟨1⟩, { kind := .fixed .white, sideCost := .sacrifice }, false, false⟩
  let pain : ManaSource :=
    ⟨⟨2⟩, { kind := .anyColor, sideCost := .payLife 45 }, false, false⟩
  obtain ⟨tapOrder, hpaid, hkept⟩ := hlast { white := 1 } [plains, pain]
    (by decide) (by decide)
  have hdone : tryGreedyPayment { white := 1 } [plains, pain] =
      some [⟨1⟩] := by
    decide
  rw [hdone] at hpaid
  cases hpaid
  exact hkept plains List.mem_cons_self rfl (by decide)

end GreedyManaResolver

end DeepScry
