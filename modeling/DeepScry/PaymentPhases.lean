/-
The greedy search as a sequence of phases.  Each phase draws from the ranking
of its candidates until its requirement is met; the search is six such phases
and a last one for the generic part that the surplus leaves.
-/
import DeepScry.Drawing
import DeepScry.GreedySound

namespace DeepScry

open Drawing Saturating

/-- The mana of one activation. -/
def ManaSource.worth (source : ManaSource) : Nat :=
  source.production.amount.toNat

namespace GreedyManaResolver

/-- One tapping loop: what it may tap, in which order and up to what. -/
structure Phase where
  eligible : ManaProduction → Bool
  score : ManaProduction → UInt16
  required : UInt8

namespace Phase

def color (color : ManaColor) (required : UInt8) : Phase where
  eligible production := canProduceColor production color
  score production := scoreForColor production color
  required := required

def colorless (required : UInt8) : Phase where
  eligible production := production.kind == .colorless
  score := genericScore
  required := required

def generic (required : UInt8) : Phase where
  eligible := ManaProduction.producesMana
  score := genericScore
  required := required

variable (phase : Phase) (sources : List ManaSource)

/-- The candidates of the phase, the first to tap first. -/
def ranking (tapOrder : List CardId) : List ManaSource :=
  ranked (fun source => (phase.score source.production).toNat)
    (candidates phase.eligible sources tapOrder)

/-- What the phase taps. -/
def taps (tapOrder : List CardId) : List ManaSource :=
  draw ManaSource.worth phase.required.toNat (phase.ranking sources tapOrder)

/-- A loop counts no further than 255. -/
def tapped (tapOrder : List CardId) : Nat :=
  min (load ManaSource.worth (phase.taps sources tapOrder)) 255

def after (state : GreedyState) : GreedyState where
  tapOrder := state.tapOrder ++
    (phase.taps sources state.tapOrder).map ManaSource.cardId
  extraGeneric := UInt8.ofNat (min (state.extraGeneric.toNat +
    (phase.tapped sources state.tapOrder - phase.required.toNat)) 255)

def pay (state : GreedyState) : Option GreedyState :=
  payPhase (tapSources phase.eligible phase.score sources) phase.required state

end Phase

/-- The loop draws from the list until the amount is there. -/
theorem tapCandidates_eq (amount : UInt8) (score : ManaProduction → UInt16)
    (sources : List ManaSource) (tapOrder : List CardId) (tapped : UInt8) :
    tapCandidates amount
        (sources.map fun source => (source, score source.production))
        tapOrder tapped =
      (tapOrder ++ (draw ManaSource.worth (amount.toNat - tapped.toNat)
        sources).map ManaSource.cardId,
      UInt8.ofNat (min (tapped.toNat + load ManaSource.worth
        (draw ManaSource.worth (amount.toNat - tapped.toNat) sources)) 255)) := by
  have hself (n : UInt8) : UInt8.ofNat (min n.toNat 255) = n := by
    rw [Nat.min_eq_left (Nat.le_of_lt_succ n.toNat_lt), UInt8.ofNat_toNat]
  induction sources generalizing tapOrder tapped with
  | nil => simp [tapCandidates, draw, hself]
  | cons source rest ih =>
      rw [List.map_cons, tapCandidates]
      by_cases henough : tapped ≥ amount
      · have hzero := Nat.sub_eq_zero_of_le (UInt8.le_iff_toNat_le.mp henough)
        rw [if_pos henough, hzero, draw_zero]
        simp [hself]
      · have hpos : amount.toNat - tapped.toNat ≠ 0 := by
          rw [ge_iff_le, UInt8.le_iff_toNat_le] at henough
          omega
        have hadd := add8_toNat tapped source.production.amount
        rw [if_neg henough, ih, draw_cons hpos, load_cons, List.map_cons,
          hadd]
        have hneed : amount.toNat - min (tapped.toNat +
            source.production.amount.toNat) 255 =
              amount.toNat - tapped.toNat - source.worth := by
          have hlt := amount.toNat_lt
          change _ = _ - source.production.amount.toNat
          omega
        rw [hneed, Prod.mk.injEq]
        constructor
        · simp
        · congr 1
          change _ = min (_ + (source.production.amount.toNat + _)) 255
          omega

namespace Phase

variable (phase : Phase) (sources : List ManaSource)

theorem tapSources_eq (tapOrder : List CardId) :
    tapSources phase.eligible phase.score sources tapOrder phase.required =
      if phase.required.toNat ≤ load ManaSource.worth
          (candidates phase.eligible sources tapOrder) then
        some (tapOrder ++
            (phase.taps sources tapOrder).map ManaSource.cardId,
          UInt8.ofNat (phase.tapped sources tapOrder))
      else none := by
  have hsort : (((candidates phase.eligible sources tapOrder).map
      fun source => (source, phase.score source.production)).insertionSort
        fun a b => a.2 ≤ b.2) = (phase.ranking sources tapOrder).map
          fun source => (source, phase.score source.production) := by
    symm
    exact List.map_insertionSort _ _ _ _ fun _ _ _ _ =>
      UInt16.le_iff_toNat_le.symm
  have hload := load_perm (w := ManaSource.worth) (ranked_perm
    (fun source : ManaSource => (phase.score source.production).toNat)
    (candidates phase.eligible sources tapOrder))
  have hlt := phase.required.toNat_lt
  simp only [tapSources]
  rw [hsort, tapCandidates_eq, UInt8.toNat_zero, Nat.sub_zero, Nat.zero_add]
  change (if phase.required ≤ UInt8.ofNat (phase.tapped sources tapOrder) then
    _ else _) = _
  have hle : phase.required ≤ UInt8.ofNat (phase.tapped sources tapOrder) ↔
      phase.required.toNat ≤ load ManaSource.worth
        (candidates phase.eligible sources tapOrder) := by
    have htapped : phase.tapped sources tapOrder < 256 := by
      rw [tapped]
      omega
    rw [UInt8.le_iff_toNat_le, UInt8.toNat_ofNat_of_lt' htapped, ← hload]
    constructor
    · intro hmet
      have hsub := load_sublist (w := ManaSource.worth)
        (draw_initial (w := ManaSource.worth) phase.required.toNat
          (phase.ranking sources tapOrder)).sublist
      exact (hmet.trans (Nat.min_le_left _ _)).trans hsub
    · intro hmet
      have hdraw := le_load_draw hmet
      exact le_min hdraw (by omega)
  simp only [hle]
  rfl

/-- A phase succeeds when its candidates suffice. -/
theorem pay_eq (state : GreedyState) :
    phase.pay sources state =
      if phase.required.toNat ≤ load ManaSource.worth
          (candidates phase.eligible sources state.tapOrder) then
        some (phase.after sources state)
      else none := by
  rw [pay, payPhase]
  by_cases hpos : phase.required > 0
  · rw [if_pos hpos, tapSources_eq]
    by_cases henough : phase.required.toNat ≤ load ManaSource.worth
        (candidates phase.eligible sources state.tapOrder)
    · simp only [if_pos henough]
      rw [after, Option.some.injEq, GreedyState.mk.injEq]
      refine ⟨rfl, ?_⟩
      rw [← UInt8.toNat_inj, add8_toNat, sub8_toNat,
        UInt8.toNat_ofNat_of_lt' (by rw [tapped, UInt8.size]; omega),
        UInt8.toNat_ofNat_of_lt' (by rw [UInt8.size]; omega)]
    · simp only [if_neg henough]
  · have hzero : phase.required.toNat = 0 := by
      rw [gt_iff_lt, UInt8.lt_iff_toNat_lt] at hpos
      simpa using hpos
    rw [if_neg hpos, hzero, if_pos (Nat.zero_le _), after, taps, tapped, taps,
      hzero, draw_zero, Option.some.injEq]
    have hextra : UInt8.ofNat (min (state.extraGeneric.toNat +
        (min (load ManaSource.worth []) 255 - 0)) 255) =
          state.extraGeneric := by
      rw [load_nil, Nat.min_eq_left (Nat.zero_le _), Nat.sub_zero,
        Nat.add_zero,
        Nat.min_eq_left (Nat.le_of_lt_succ state.extraGeneric.toNat_lt),
        UInt8.ofNat_toNat]
    rw [hextra, List.map_nil, List.append_nil]

theorem pay_isSome_iff (state : GreedyState) :
    (phase.pay sources state).isSome ↔ phase.required.toNat ≤
      load ManaSource.worth
        (candidates phase.eligible sources state.tapOrder) := by
  rw [pay_eq]
  split
  · next henough => simp [henough]
  · next hshort => simp [hshort]

theorem load_ranking (tapOrder : List CardId) :
    load ManaSource.worth (phase.ranking sources tapOrder) =
      load ManaSource.worth (candidates phase.eligible sources tapOrder) :=
  load_perm (ranked_perm _ _)

variable {phase sources}

theorem mem_of_mem_taps {tapOrder : List CardId} {source : ManaSource}
    (hmem : source ∈ phase.taps sources tapOrder) :
    source ∈ candidates phase.eligible sources tapOrder :=
  mem_ranked.mp ((draw_initial _ _).subset hmem)

theorem enough_of_pay {state after : GreedyState}
    (hpay : phase.pay sources state = some after) :
    phase.required.toNat ≤ load ManaSource.worth
        (candidates phase.eligible sources state.tapOrder) ∧
      after = phase.after sources state := by
  rw [pay_eq] at hpay
  split at hpay
  · next henough =>
    cases hpay
    exact ⟨henough, rfl⟩
  · exact nomatch hpay

end Phase

/-- The phases with a colour of their own. -/
def typedPhases (cost : ManaCost) : List Phase :=
  [.color .white cost.white, .color .blue cost.blue, .color .black cost.black,
    .color .red cost.red, .color .green cost.green,
    .colorless cost.colorless]

/-- What is left for the generic phase. -/
def genericPhase (cost : ManaCost) (state : GreedyState) : Phase :=
  .generic (cost.generic - min cost.generic state.extraGeneric)

def payAll (sources : List ManaSource) :
    List Phase → GreedyState → Option GreedyState
  | [], state => some state
  | phase :: rest, state =>
      (phase.pay sources state).bind (payAll sources rest)

theorem payAll_cons_isSome_iff (sources : List ManaSource) (phase : Phase)
    (rest : List Phase) (state : GreedyState) :
    (payAll sources (phase :: rest) state).isSome ↔
      phase.required.toNat ≤ load ManaSource.worth
          (candidates phase.eligible sources state.tapOrder) ∧
        (payAll sources rest (phase.after sources state)).isSome := by
  rw [payAll, Phase.pay_eq]
  split
  · next henough => exact (and_iff_right henough).symm
  · next hshort => exact iff_of_false (nomatch ·) fun h => hshort h.1

theorem payAll_append (sources : List ManaSource) (phases rest : List Phase)
    (state : GreedyState) :
    payAll sources (phases ++ rest) state =
      (payAll sources phases state).bind (payAll sources rest) := by
  induction phases generalizing state with
  | nil => rfl
  | cons phase more ih =>
      rw [List.cons_append, payAll, payAll, Option.bind_assoc]
      exact congrArg _ (funext ih)

theorem tryGreedyPayment_eq (cost : ManaCost) (sources : List ManaSource) :
    tryGreedyPayment cost sources =
      (payAll sources (typedPhases cost) {}).bind fun state =>
        ((genericPhase cost state).pay sources state).map
          GreedyState.tapOrder := by
  have hgeneric (state : GreedyState) :
      (if cost.generic - min cost.generic state.extraGeneric > 0 then
        (tapForGeneric sources state.tapOrder
          (cost.generic - min cost.generic state.extraGeneric)).bind
            fun result => some result.1
      else some state.tapOrder) =
        ((genericPhase cost state).pay sources state).map
          GreedyState.tapOrder := by
    change _ = (payPhase (tapForGeneric sources)
      (cost.generic - min cost.generic state.extraGeneric) state).map _
    rw [payPhase]
    by_cases hpos : cost.generic - min cost.generic state.extraGeneric > 0
    · rw [if_pos hpos, if_pos hpos]
      cases tapForGeneric sources state.tapOrder
          (cost.generic - min cost.generic state.extraGeneric) with
      | none => rfl
      | some result => rfl
    · rw [if_neg hpos, if_neg hpos]
      rfl
  simp only [← hgeneric]
  simp only [tryGreedyPayment, typedPhases, payAll, Option.bind_eq_bind,
    Option.bind_assoc]
  simp only [Option.bind_some]
  rfl

/-- The search from one phase on. -/
def searchFrom (cost : ManaCost) (sources : List ManaSource)
    (phases : List Phase) (state : GreedyState) : Option (List CardId) :=
  (payAll sources phases state).bind fun state =>
    ((genericPhase cost state).pay sources state).map GreedyState.tapOrder

theorem searchFrom_cons (cost : ManaCost) (sources : List ManaSource)
    (phase : Phase) (rest : List Phase) (state : GreedyState) :
    searchFrom cost sources (phase :: rest) state =
      (phase.pay sources state).bind (searchFrom cost sources rest) :=
  Option.bind_assoc _ _ _

/-- Nothing that was tapped is untapped again. -/
theorem subset_searchFrom {cost : ManaCost} {sources : List ManaSource}
    {phases : List Phase} {state : GreedyState} {tapOrder : List CardId}
    (hsearch : searchFrom cost sources phases state = some tapOrder) :
    state.tapOrder ⊆ tapOrder := by
  induction phases generalizing state with
  | nil =>
      obtain ⟨after, hpay, rfl⟩ := Option.map_eq_some_iff.mp hsearch
      obtain ⟨-, rfl⟩ := Phase.enough_of_pay hpay
      exact List.subset_append_left _ _
  | cons phase rest ih =>
      rw [searchFrom_cons] at hsearch
      obtain ⟨after, hpay, hrest⟩ := Option.bind_eq_some_iff.mp hsearch
      obtain ⟨-, rfl⟩ := Phase.enough_of_pay hpay
      exact fun id hid => ih hrest (List.mem_append_left _ hid)

/-- A `yes` takes both the bounds check and the search. -/
theorem checkPayment_eq_yes_iff (cost : ManaCost) (sources : List ManaSource)
    (buffer : Option (List CardId)) :
    (checkPayment cost sources buffer).1 = .yes ↔
      boundsCheckPayment cost sources ≠ .no ∧
        (tryGreedyPayment cost sources).isSome := by
  rw [checkPayment]
  cases boundsCheckPayment cost sources <;>
    cases tryGreedyPayment cost sources <;> simp

end GreedyManaResolver

end DeepScry
