/-
The greedy search without dual sources.  When a source makes one colour, no
colour or, one mana at a time, any colour, tapping the sources of one colour
first wastes no flexible one: the search then finds a payment whenever there
is one.
-/
import DeepScry.BoundsCheck
import DeepScry.PaymentSurplus

namespace DeepScry

open Drawing Saturating Supply

/-- A free source of one colour, of none, or of one mana of any colour. -/
structure ManaSource.Plain (source : ManaSource) : Prop where
  activationCost : source.production.activationCost = none
  sideCost : source.production.sideCost = .none
  kind : match source.production.kind with
    | .fixed _ | .colorless => True
    | .anyColor => source.production.amount = 1
    | .choice _ => False

namespace GreedyManaResolver

def fixedOf (color : ManaColor) (production : ManaProduction) : Bool :=
  production.kind == .fixed color

def flexible (production : ManaProduction) : Bool :=
  production.kind == .anyColor

theorem filter_candidates {eligible narrower : ManaProduction → Bool}
    {p : ManaSource → Bool} {sources : List ManaSource}
    (hsame : ∀ source ∈ sources,
      (eligible source.production && p source) =
        narrower source.production) (tapOrder : List CardId) :
    (candidates eligible sources tapOrder).filter p =
      candidates narrower sources tapOrder := by
  rw [candidates, candidates, List.filter_filter]
  refine List.filter_congr fun source hsource => ?_
  rw [← hsame source hsource, Bool.and_left_comm, Bool.and_comm (p source)]

section

variable {sources : List ManaSource} {color : ManaColor} {amount : UInt8}

/-- What a plain source can make decides what it is. -/
theorem canProduceColor_plain {source : ManaSource} (hplain : source.Plain) :
    canProduceColor source.production color =
      (fixedOf color source.production || flexible source.production) := by
  have hkind := hplain.kind
  rw [canProduceColor, fixedOf, flexible]
  cases hcase : source.production.kind with
  | fixed c =>
      rw [Bool.eq_iff_iff]
      simp
  | choice colors =>
      rw [hcase] at hkind
      exact hkind.elim
  | anyColor => simp
  | colorless => simp

theorem scoreForColor_fixed {source : ManaSource} (hplain : source.Plain)
    (hfixed : fixedOf color source.production = true) :
    scoreForColor source.production color = 0 := by
  rw [fixedOf, beq_iff_eq] at hfixed
  rw [scoreForColor, ManaProduction.sideCostScore, hplain.sideCost, hfixed]
  simp only [beq_self_eq_true, ↓reduceIte]
  decide

theorem scoreForColor_flexible {source : ManaSource} (hplain : source.Plain)
    (hflexible : flexible source.production = true) :
    scoreForColor source.production color = 100 := by
  rw [flexible, beq_iff_eq] at hflexible
  rw [scoreForColor, ManaProduction.sideCostScore, hplain.sideCost, hflexible]
  change add16 0 100 = 100
  decide

variable (hplain : ∀ source ∈ sources, source.Plain)

include hplain

/-- The sources of the colour come before the flexible ones. -/
theorem ranking_color (tapOrder : List CardId) : ∃ fixed spare,
    (Phase.color color amount).ranking sources tapOrder = fixed ++ spare ∧
      fixed.Perm (candidates (fixedOf color) sources tapOrder) ∧
      spare.Perm (candidates flexible sources tapOrder) := by
  have hfixed : (candidates (Phase.color color amount).eligible sources
      tapOrder).filter (fun source => fixedOf color source.production) =
        candidates (fixedOf color) sources tapOrder := by
    refine filter_candidates (fun source hsource => ?_) tapOrder
    change (canProduceColor _ color && _) = _
    rw [canProduceColor_plain (hplain source hsource)]
    cases fixedOf color source.production <;> simp
  have hspare : (candidates (Phase.color color amount).eligible sources
      tapOrder).filter (fun source => !fixedOf color source.production) =
        candidates flexible sources tapOrder := by
    refine filter_candidates (fun source hsource => ?_) tapOrder
    change (canProduceColor _ color && _) = _
    rw [canProduceColor_plain (hplain source hsource), fixedOf, flexible,
      Bool.eq_iff_iff]
    cases source.production.kind <;> simp
  refine ⟨_, _, ranked_split _ (fun source => fixedOf color source.production)
    ?_, hfixed ▸ ranked_perm _ _, hspare ▸ ranked_perm _ _⟩
  intro a ha b hb hfirst hlast
  obtain ⟨hasource, -, -, -⟩ := mem_candidates ha
  obtain ⟨hbsource, -, -, hmakes⟩ := mem_candidates hb
  have hbplain := hplain b hbsource
  change canProduceColor b.production color = true at hmakes
  rw [canProduceColor_plain hbplain, hlast, Bool.false_or] at hmakes
  change (scoreForColor a.production color).toNat <
    (scoreForColor b.production color).toNat
  rw [scoreForColor_fixed (hplain a hasource) hfirst,
    scoreForColor_flexible hbplain hmakes]
  decide

/-- A colour phase taps flexible sources only for what its own sources lack,
and leaves all other sources alone. -/
theorem free_after_color (hids : (sources.map ManaSource.cardId).Nodup)
    (state : GreedyState) :
    free flexible sources ((Phase.color color amount).after sources state) =
        free flexible sources state -
          (amount.toNat - free (fixedOf color) sources state) ∧
      ∀ eligible, (∀ source ∈ sources, eligible source.production = true →
          canProduceColor source.production color = false) →
        free eligible sources ((Phase.color color amount).after sources state) =
          free eligible sources state := by
  obtain ⟨fixed, spare, hranking, hfixed, hspare⟩ :=
    @ranking_color sources color amount hplain state.tapOrder
  have htaps : (Phase.color color amount).taps sources state.tapOrder =
      draw ManaSource.worth amount.toNat fixed ++
        draw ManaSource.worth
          (amount.toNat - free (fixedOf color) sources state) spare := by
    rw [Phase.taps, hranking]
    change draw _ amount.toNat _ = _
    rw [draw_append, load_perm hfixed]
    rfl
  constructor
  · have hload := @Phase.load_candidates (.color color amount) sources hids
      flexible state
    have hunits : ∀ source ∈ spare, source.worth = 1 := by
      intro source hsource
      obtain ⟨hmem, -, -, hflexible⟩ :=
        mem_candidates (hspare.mem_iff.mp hsource)
      have hkind := (hplain source hmem).kind
      rw [flexible, beq_iff_eq] at hflexible
      rw [hflexible] at hkind
      rw [ManaSource.worth, hkind]
      rfl
    have hnone : (draw ManaSource.worth amount.toNat fixed).filter
        (fun source => flexible source.production) = [] := by
      rw [List.filter_eq_nil_iff]
      intro source hsource hflexible
      have hmem := hfixed.mem_iff.mp ((draw_initial _ _).subset hsource)
      have hkind := (mem_candidates hmem).2.2.2
      rw [fixedOf, beq_iff_eq] at hkind
      rw [flexible, hkind] at hflexible
      cases hflexible
    have hall : (draw ManaSource.worth (amount.toNat -
        free (fixedOf color) sources state) spare).filter
          (fun source => flexible source.production) =
        draw ManaSource.worth (amount.toNat -
          free (fixedOf color) sources state) spare := by
      rw [List.filter_eq_self]
      intro source hsource
      have hmem := hspare.mem_iff.mp ((draw_initial _ _).subset hsource)
      exact (mem_candidates hmem).2.2.2
    rw [htaps, List.filter_append, hnone, hall, List.nil_append,
      load_draw_units hunits, load_perm hspare] at hload
    change free flexible sources state = min _ (free flexible sources state) +
      free flexible sources ((Phase.color color amount).after sources state)
        at hload
    omega
  · intro eligible hother
    refine Phase.free_after_of_apart hids (fun source hsource _ hmakes => ?_)
      state
    by_contra heligible
    rw [Bool.not_eq_false] at heligible
    change canProduceColor source.production color = true at hmakes
    rw [hother source hsource heligible] at hmakes
    cases hmakes

theorem free_color (state : GreedyState) :
    load ManaSource.worth (candidates (Phase.color color amount).eligible
        sources state.tapOrder) =
      free (fixedOf color) sources state + free flexible sources state := by
  obtain ⟨fixed, spare, hranking, hfixed, hspare⟩ :=
    @ranking_color sources color amount hplain state.tapOrder
  rw [← Phase.load_ranking, hranking, load_append, load_perm hfixed,
    load_perm hspare]
  rfl

theorem free_other_color (hids : (sources.map ManaSource.cardId).Nodup)
    {other : ManaColor} (hne : other ≠ color) (state : GreedyState) :
    free (fixedOf other) sources
        ((Phase.color color amount).after sources state) =
      free (fixedOf other) sources state := by
  refine (free_after_color hplain hids state).2 _ fun source _ hfixed => ?_
  rw [fixedOf, beq_iff_eq] at hfixed
  rw [canProduceColor, hfixed]
  exact beq_false_of_ne hne

theorem free_no_color (hids : (sources.map ManaSource.cardId).Nodup)
    (state : GreedyState) :
    free (fun production => production.kind == .colorless) sources
        ((Phase.color color amount).after sources state) =
      free (fun production => production.kind == .colorless) sources state := by
  refine (free_after_color hplain hids state).2 _ fun source _ hcolorless => ?_
  rw [canProduceColor, beq_iff_eq.mp hcolorless]

/-- The coloured requirements, in the order of the phases. -/
def colorRequirements (cost : ManaCost) : List (ManaColor × UInt8) :=
  [(.white, cost.white), (.blue, cost.blue), (.black, cost.black),
    (.red, cost.red), (.green, cost.green)]

/-- What the free sources of a colour lack of a requirement. -/
def lack (sources : List ManaSource) (state : GreedyState)
    (requirement : ManaColor × UInt8) : Nat :=
  requirement.2.toNat - free (fixedOf requirement.1) sources state

/-- The colour phases succeed when the flexible sources make up for what the
others lack. -/
theorem payAll_colors (hids : (sources.map ManaSource.cardId).Nodup)
    {requirements : List (ManaColor × UInt8)}
    (hnodup : (requirements.map Prod.fst).Nodup) {state : GreedyState}
    (henough : load (lack sources state) requirements ≤
      free flexible sources state) :
    ∃ final, payAll sources
        (requirements.map fun requirement =>
          .color requirement.1 requirement.2) state = some final ∧
      free (fun production => production.kind == .colorless) sources final =
        free (fun production => production.kind == .colorless) sources
          state := by
  induction requirements generalizing state with
  | nil => exact ⟨state, rfl, rfl⟩
  | cons requirement rest ih =>
      obtain ⟨color, amount⟩ := requirement
      obtain ⟨hnot, hrest⟩ := List.nodup_cons.mp hnodup
      rw [load_cons] at henough
      change (amount.toNat - free (fixedOf color) sources state) + _ ≤ _
        at henough
      have hpay : (Phase.color color amount).pay sources state =
          some ((Phase.color color amount).after sources state) := by
        have hfree := @free_color sources color amount hplain state
        have hmet : amount.toNat ≤ load ManaSource.worth (candidates
            (Phase.color color amount).eligible sources state.tapOrder) := by
          omega
        exact (Phase.pay_eq _ _ _).trans (if_pos hmet)
      have hlack : load (lack sources
          ((Phase.color color amount).after sources state)) rest =
            load (lack sources state) rest := by
        refine load_congr fun other hother => ?_
        have hne : other.1 ≠ color := fun heq =>
          hnot (List.mem_map.mpr ⟨other, hother, heq⟩)
        rw [lack, lack, free_other_color hplain hids hne]
      have hspare := (@free_after_color sources color amount hplain hids
        state).1
      obtain ⟨final, hrun, hkept⟩ :=
        @ih hrest ((Phase.color color amount).after sources state) (by omega)
      refine ⟨final, ?_, hkept.trans (free_no_color hplain hids state)⟩
      rw [List.map_cons, payAll, hpay]
      exact hrun

end

theorem makes_color_plain {source : ManaSource} {color : ManaColor}
    (hplain : source.Plain)
    (hmakes : source.production.kind.makes color.toColor = true) :
    (fixedOf color source.production || flexible source.production) =
      true := by
  have hkind := hplain.kind
  rw [fixedOf, flexible]
  cases hcase : source.production.kind with
  | fixed c =>
      rw [hcase] at hmakes
      have heq := ManaColor.toColor_injective (beq_iff_eq.mp hmakes)
      simp [heq]
  | choice colors =>
      rw [hcase] at hkind
      exact hkind.elim
  | anyColor => simp
  | colorless =>
      rw [hcase] at hmakes
      exact absurd (beq_iff_eq.mp hmakes) color.toColor_ne_colorless

theorem makes_colorless_plain {source : ManaSource} (hplain : source.Plain)
    (hmakes : source.production.kind.makes .colorless = true) :
    source.production.kind = .colorless := by
  have hkind := hplain.kind
  cases hcase : source.production.kind with
  | fixed c =>
      rw [hcase] at hmakes
      exact absurd (beq_iff_eq.mp hmakes).symm c.toColor_ne_colorless
  | choice colors =>
      rw [hcase] at hkind
      exact hkind.elim
  | anyColor =>
      rw [hcase] at hmakes
      exact nomatch hmakes
  | colorless => rfl

section

variable {cost : ManaCost} {sources : List ManaSource}
  {plan : List Activation}

/-- The sources of a kind that a plan activates are free at the start. -/
theorem load_plan_le (hplan : IsPlan sources plan)
    (eligible : ManaProduction → Bool) :
    load (fun a : Activation => a.source.worth)
        (plan.filter fun a => eligible a.source.production) ≤
      free eligible sources {} := by
  have hactive : ((plan.filter fun a =>
      eligible a.source.production).map Activation.source).Nodup := by
    have hnodup := (List.filter_sublist (p := fun a : Activation =>
      eligible a.source.production) (l := plan)).map
        (fun a => a.source.cardId) |>.nodup hplan.nodup
    rw [← Function.comp_def ManaSource.cardId, ← List.map_map] at hnodup
    exact hnodup.of_map _
  have hsub := load_subset (w := ManaSource.worth) hactive
    (r := candidates eligible sources []) fun source hsource => by
      obtain ⟨a, ha, rfl⟩ := List.mem_map.mp hsource
      obtain ⟨hmem, heligible⟩ := List.mem_filter.mp ha
      have husable := hplan.usable a hmem
      rw [ManaSource.usable, Bool.not_or] at husable
      rw [candidates, List.mem_filter, husable]
      exact ⟨hplan.mem a hmem, by simpa using heligible⟩
  rw [load, List.map_map] at hsub
  exact hsub

theorem produced_eq (plan : List Activation) (color : Color) :
    produced plan color = load (fun a : Activation => a.source.worth)
      (plan.filter fun a => decide (a.color = color)) :=
  load_ite _ plan

variable (hplain : ∀ source ∈ sources, source.Plain)

include hplain

/-- A colour of a plan comes from the sources of that colour and from flexible
ones. -/
theorem produced_color_le (hplan : IsPlan sources plan) (color : ManaColor) :
    produced plan color.toColor ≤ free (fixedOf color) sources {} +
      produced (plan.filter fun a => flexible a.source.production)
        color.toColor := by
  have hsplit := load_filter
    (w := fun a : Activation => a.source.worth)
    (fun a => flexible a.source.production)
    (plan.filter fun a => decide (a.color = color.toColor))
  have hflexible : produced (plan.filter fun a =>
      flexible a.source.production) color.toColor =
        load (fun a : Activation => a.source.worth) ((plan.filter fun a =>
          decide (a.color = color.toColor)).filter fun a =>
            flexible a.source.production) := by
    rw [produced_eq, List.filter_comm]
  have hfixed : load (fun a : Activation => a.source.worth)
      ((plan.filter fun a => decide (a.color = color.toColor)).filter
        fun a => !flexible a.source.production) ≤
          free (fixedOf color) sources {} := by
    refine (load_subset (((hplan.nodup.of_map _).filter _).filter _)
      (r := plan.filter fun a => fixedOf color a.source.production)
      fun a ha => ?_).trans (load_plan_le hplan (fixedOf color))
    obtain ⟨hmem, hnot⟩ := List.mem_filter.mp ha
    obtain ⟨hplanned, hcolor⟩ := List.mem_filter.mp hmem
    have hmakes := hplan.makes a hplanned
    have hsame : a.color = color.toColor := of_decide_eq_true hcolor
    rw [hsame] at hmakes
    have heither := makes_color_plain
      (hplain _ (hplan.mem a hplanned)) hmakes
    rw [Bool.not_eq_true'] at hnot
    rw [hnot, Bool.or_false] at heither
    exact List.mem_filter.mpr ⟨hplanned, heither⟩
  rw [produced_eq plan, hflexible, ← hsplit, Nat.add_comm]
  exact Nat.add_le_add_right hfixed _

theorem produced_colorless_le (hplan : IsPlan sources plan) :
    produced plan .colorless ≤
      free (fun production => production.kind == .colorless) sources {} := by
  rw [produced_eq]
  refine (load_subset ((hplan.nodup.of_map _).filter _)
    (r := plan.filter fun a => a.source.production.kind == .colorless)
    fun a ha => ?_).trans (load_plan_le hplan fun production =>
      production.kind == .colorless)
  obtain ⟨hmem, hcolor⟩ := List.mem_filter.mp ha
  have hmakes := hplan.makes a hmem
  have hsame : a.color = .colorless := of_decide_eq_true hcolor
  rw [hsame] at hmakes
  exact List.mem_filter.mpr ⟨hmem, beq_iff_eq.mpr
    (makes_colorless_plain (hplain _ (hplan.mem a hmem)) hmakes)⟩

/-- The sources of a colour of their own lack no more than the plan makes with
flexible ones. -/
theorem lack_le (hplan : IsPlan sources plan)
    (hcovers : Covers (produced plan) cost.demand) :
    load (lack sources {}) (colorRequirements cost) ≤
      free flexible sources {} := by
  have hlack (color : ManaColor) (amount : UInt8)
      (hamount : amount = cost.amountOf color.toColor) :
      lack sources {} (color, amount) ≤ produced
        (plan.filter fun a => flexible a.source.production)
          color.toColor := by
    have hmade := produced_color_le hplain hplan color
    have hasked := hcovers.1 color.toColor
    change (cost.amountOf color.toColor).toNat ≤ _ at hasked
    rw [lack, hamount]
    dsimp only
    omega
  have hsum := sum_produced (plan.filter fun a => flexible a.source.production)
  have hbound := load_plan_le hplan flexible
  rw [Color.sum_univ] at hsum
  change (List.map _ _).sum ≤ _ at hbound
  have hwhite := hlack .white cost.white rfl
  have hblue := hlack .blue cost.blue rfl
  have hblack := hlack .black cost.black rfl
  have hred := hlack .red cost.red rfl
  have hgreen := hlack .green cost.green rfl
  simp only [colorRequirements, load_cons, load_nil, ManaColor.toColor,
    ManaSource.worth] at *
  omega

/-- What a plan covers is there to begin with. -/
theorem total_le_funds (hplan : IsPlan sources plan)
    (hcovers : Covers (produced plan) cost.demand) :
    cost.total ≤ funds sources {} := by
  have hall : plan.filter (fun a => a.source.production.producesMana) =
      plan := by
    rw [List.filter_eq_self]
    intro a ha
    have hkind := (hplain _ (hplan.mem a ha)).kind
    rw [ManaProduction.producesMana]
    cases hcase : a.source.production.kind with
    | choice colors =>
        rw [hcase] at hkind
        exact hkind.elim
    | fixed | anyColor | colorless => rfl
  have hbound := load_plan_le hplan ManaProduction.producesMana
  have htotal := hcovers.2
  rw [sum_produced] at htotal
  rw [hall] at hbound
  exact htotal.trans (hbound.trans (Nat.le_add_left _ _))

end

/-- A loop for a colour taps no more than the sources could make of it. -/
theorem load_taps_le_potential {sources : List ManaSource} {phase : Phase}
    {color : Color} (hmakes : ∀ production, phase.eligible production = true →
      production.kind.makes color = true) (tapOrder : List CardId) :
    load ManaSource.worth (phase.taps sources tapOrder) ≤
      potential sources color := by
  have hsub := load_sublist (w := ManaSource.worth)
    (draw_initial (w := ManaSource.worth) phase.required.toNat
      (phase.ranking sources tapOrder)).sublist
  rw [Phase.load_ranking] at hsub
  refine hsub.trans ?_
  rw [potential]
  change _ ≤ load (fun source : ManaSource =>
    if source.production.kind.makes color = true then source.worth else 0) _
  rw [load_ite, List.filter_filter]
  refine load_sublist ?_
  refine List.monotone_filter_right _ fun source hsource => ?_
  simp only [Bool.and_eq_true, Bool.not_eq_true'] at hsource
  obtain ⟨⟨⟨htapped, hsick⟩, -⟩, heligible⟩ := hsource
  simp [ManaSource.usable, htapped, hsick, hmakes _ heligible]

/-- No loop for a colour counts past 255 when the potential of its colour is
no larger. -/
theorem load_taps_typedPhases_le {cost : ManaCost} {sources : List ManaSource}
    (hsums : ∀ color, potential sources color ≤ 255) {phase : Phase}
    (hmem : phase ∈ typedPhases cost) (tapOrder : List CardId) :
    load ManaSource.worth (phase.taps sources tapOrder) ≤ 255 := by
  have hcolor (color : ManaColor) (amount : UInt8) :
      load ManaSource.worth ((Phase.color color amount).taps sources
        tapOrder) ≤ 255 :=
    (load_taps_le_potential (fun _ => makes_of_canProduceColor)
      tapOrder).trans (hsums color.toColor)
  have hcolorless (amount : UInt8) :
      load ManaSource.worth ((Phase.colorless amount).taps sources
        tapOrder) ≤ 255 := by
    refine (load_taps_le_potential (fun production hkind => ?_)
      tapOrder).trans (hsums .colorless)
    rw [beq_iff_eq.mp hkind]
    rfl
  simp only [typedPhases, List.mem_cons, List.not_mem_nil, or_false] at hmem
  rcases hmem with rfl | rfl | rfl | rfl | rfl | rfl
  · exact hcolor _ _
  · exact hcolor _ _
  · exact hcolor _ _
  · exact hcolor _ _
  · exact hcolor _ _
  · exact hcolorless _

/-- Without dual sources the search finds a payment whenever there is one. -/
theorem tryGreedyPayment_complete {cost : ManaCost}
    {sources : List ManaSource} {plan : List Activation}
    (hids : (sources.map ManaSource.cardId).Nodup)
    (hplain : ∀ source ∈ sources, source.Plain)
    (hsums : ∀ color, potential sources color ≤ 255)
    (hplan : IsPlan sources plan)
    (hcovers : Covers (produced plan) cost.demand) :
    (tryGreedyPayment cost sources).isSome := by
  have hnodup : ((colorRequirements cost).map Prod.fst).Nodup :=
    (by decide : ManaColor.all.Nodup)
  obtain ⟨colored, hcolors, hcolorless⟩ := payAll_colors hplain hids hnodup
    (lack_le hplain hplan hcovers)
  have hleft : cost.colorless.toNat ≤ load ManaSource.worth (candidates
      (Phase.colorless cost.colorless).eligible sources colored.tapOrder) := by
    have hasked := hcovers.1 .colorless
    have hmade := produced_colorless_le hplain hplan
    rw [← hcolorless] at hmade
    exact hasked.trans hmade
  have hpay : payAll sources (typedPhases cost) {} =
      some ((Phase.colorless cost.colorless).after sources colored) := by
    have hphases : typedPhases cost = (colorRequirements cost).map
        (fun requirement => .color requirement.1 requirement.2) ++
          [.colorless cost.colorless] := rfl
    rw [hphases, payAll_append, hcolors, Option.bind_some, payAll,
      Phase.pay_eq]
    exact congrArg (Option.bind · _) (if_pos hleft)
  refine (tryGreedyPayment_isSome_iff_total hids fun _ hmem =>
    load_taps_typedPhases_le hsums hmem).mpr ⟨?_, ?_⟩
  · rw [hpay]
    rfl
  · exact total_le_funds hplain hplan hcovers

/-- An amount read as a signed byte is off by no more than itself. -/
theorem netDelta_plain {source : ManaSource} (hplain : source.Plain) :
    -(source.worth : Int) ≤ source.production.netDelta.toInt ∧
      source.production.netDelta.toInt ≤ source.worth := by
  have hbits : source.production.amount.toInt8.toInt =
      Int.bmod source.production.amount.toNat (2 ^ 8) :=
    BitVec.toInt_eq_toNat_bmod source.production.amount.toBitVec
  have hlt := source.production.amount.toNat_lt
  rw [ManaProduction.netDelta, hplain.activationCost, ManaSource.worth]
  dsimp only
  rw [Int8.toInt_sub, Int8.toInt_zero, sub_zero, hbits, Int.bmod_def,
    Int.bmod_def]
  omega

theorem netDeltas_plain {sources : List ManaSource}
    (hplain : ∀ source ∈ sources, source.Plain) :
    -(load ManaSource.worth sources : Int) ≤ netDeltas sources ∧
      netDeltas sources ≤ load ManaSource.worth sources := by
  induction sources with
  | nil => exact ⟨le_rfl, le_rfl⟩
  | cons source rest ih =>
      obtain ⟨hfirst, hrest⟩ := List.forall_mem_cons.mp hplain
      have hone := netDelta_plain hfirst
      have hothers := ih hrest
      rw [load_cons]
      simp only [netDeltas, List.map_cons, List.sum_cons] at hothers ⊢
      omega

/-- Every mana counts for some colour. -/
theorem load_usable_le {sources : List ManaSource}
    (hplain : ∀ source ∈ sources, source.Plain) :
    load ManaSource.worth (sources.filter ManaSource.usable) ≤
      ∑ color, potential sources color := by
  induction sources with
  | nil => exact Nat.zero_le _
  | cons source rest ih =>
      obtain ⟨hfirst, hrest⟩ := List.forall_mem_cons.mp hplain
      have hothers := ih hrest
      cases husable : source.usable with
      | false => simpa [potential, husable] using hothers
      | true =>
          have hcons (color : Color) : potential (source :: rest) color =
              (if source.production.kind.makes color = true then
                source.worth else 0) + potential rest color := by
            simp [potential, husable, ManaSource.worth]
          have hmakes : source.worth ≤ ∑ color,
              if source.production.kind.makes color = true then
                source.worth else 0 := by
            have hsome : ∃ color,
                source.production.kind.makes color = true := by
              refine ManaProduction.exists_makes_of_producesMana ?_
              have hkind := hfirst.kind
              rw [ManaProduction.producesMana]
              cases hcase : source.production.kind with
              | choice colors =>
                  rw [hcase] at hkind
                  exact hkind.elim
              | fixed | anyColor | colorless => rfl
            obtain ⟨color, hcolor⟩ := hsome
            refine le_trans ?_ (Finset.single_le_sum
              (fun _ _ => Nat.zero_le _) (Finset.mem_univ color))
            rw [if_pos hcolor]
          simp only [List.filter_cons, husable, ↓reduceIte, load_cons, hcons,
            Finset.sum_add_distrib]
          omega

/-- With a plan in hand, the bounds check refuses only when the net deltas do
not reach the cost. -/
theorem boundsCheckPayment_plain {cost : ManaCost}
    {sources : List ManaSource} {plan : List Activation}
    (hids : (sources.map ManaSource.cardId).Nodup)
    (hplain : ∀ source ∈ sources, source.Plain)
    (hsums : ∀ color, potential sources color ≤ 255)
    (hplan : IsPlan sources plan)
    (hcovers : Covers (produced plan) cost.demand) :
    boundsCheckPayment cost sources = .no ↔
      netDeltas (sources.filter ManaSource.usable) <
        (min cost.total 255 : Nat) := by
  have husable : ∀ source ∈ sources.filter ManaSource.usable, source.Plain :=
    fun source hsource => hplain source (List.mem_filter.mp hsource).1
  have hbound := netDeltas_plain husable
  have hload := load_usable_le hplain
  have hcolors : ¬ ∃ color,
      potential sources color % 256 < (cost.amountOf color).toNat := by
    rintro ⟨color, hlt⟩
    have hmade := produced_le_potential hids hplan color
    have hasked := hcovers.1 color
    change (cost.amountOf color).toNat ≤ _ at hasked
    have hsum := hsums color
    omega
  rw [Color.sum_univ] at hload
  have hwhite := hsums .white
  have hblue := hsums .blue
  have hblack := hsums .black
  have hred := hsums .red
  have hgreen := hsums .green
  have hcolorless := hsums .colorless
  rw [boundsCheckPayment_eq_no_iff, or_iff_left hcolors,
    Int.bmod_eq_of_le (by omega) (by omega)]

/-- Without dual sources the verdict is `yes` exactly when some plan covers
the cost, if none does or the net deltas reach the cost. -/
theorem checkPayment_complete_iff {cost : ManaCost}
    {sources : List ManaSource} {buffer : Option (List CardId)}
    (hids : (sources.map ManaSource.cardId).Nodup)
    (hplain : ∀ source ∈ sources, source.Plain)
    (hsums : ∀ color, potential sources color ≤ 255) :
    ((checkPayment cost sources buffer).1 = .yes ↔
        ∃ plan, IsPlan sources plan ∧ Covers (produced plan) cost.demand) ↔
      ((∃ plan, IsPlan sources plan ∧ Covers (produced plan) cost.demand) →
        (min cost.total 255 : Nat) ≤
          netDeltas (sources.filter ManaSource.usable)) := by
  rw [checkPayment_eq_yes_iff]
  constructor
  · intro hiff hexists
    obtain ⟨hbounds, -⟩ := hiff.mpr hexists
    obtain ⟨plan, hplan, hcovers⟩ := hexists
    rw [Ne, boundsCheckPayment_plain hids hplain hsums hplan hcovers,
      not_lt] at hbounds
    exact hbounds
  · intro hreach
    constructor
    · rintro ⟨-, hsome⟩
      obtain ⟨tapOrder, hgreedy⟩ := Option.isSome_iff_exists.mp hsome
      obtain ⟨plan, hplan, -, hcovers⟩ := tryGreedyPayment_sound hids hgreedy
      exact ⟨plan, hplan, hcovers⟩
    · intro hexists
      have hdelta := hreach hexists
      obtain ⟨plan, hplan, hcovers⟩ := hexists
      rw [Ne, boundsCheckPayment_plain hids hplain hsums hplan hcovers, not_lt]
      exact ⟨hdelta,
        tryGreedyPayment_complete hids hplain hsums hplan hcovers⟩

/-- A Plains, a Wastes and a source of any colour for {1}{W}{C}. -/
theorem checkPayment_complete_iff_wastes :
    let sources : List ManaSource :=
      [⟨⟨1⟩, { kind := .fixed .white }, false, false⟩,
        ⟨⟨2⟩, { kind := .colorless }, false, false⟩,
        ⟨⟨3⟩, { kind := .anyColor }, false, false⟩]
    let cost : ManaCost := { generic := 1, white := 1, colorless := 1 }
    ((checkPayment cost sources none).1 = .yes ↔
        ∃ plan, IsPlan sources plan ∧ Covers (produced plan) cost.demand) ↔
      ((∃ plan, IsPlan sources plan ∧ Covers (produced plan) cost.demand) →
        (min cost.total 255 : Nat) ≤
          netDeltas (sources.filter ManaSource.usable)) := by
  refine checkPayment_complete_iff (by decide) ?_ (by decide)
  intro source hsource
  simp only [List.mem_cons, List.not_mem_nil, or_false] at hsource
  rcases hsource with rfl | rfl | rfl <;> exact ⟨rfl, rfl, by simp⟩

/-- One source of 128 white for {W}: read as a signed byte, its amount is
-128. -/
theorem not_checkPayment_complete :
    ¬ ∀ (cost : ManaCost) (sources : List ManaSource)
      (buffer : Option (List CardId)),
      (sources.map ManaSource.cardId).Nodup →
        (∀ source ∈ sources, source.Plain) →
          (∀ color, potential sources color ≤ 255) →
            ((checkPayment cost sources buffer).1 = .yes ↔
              ∃ plan, IsPlan sources plan ∧
                Covers (produced plan) cost.demand) := by
  intro hcomplete
  let cathedral : ManaSource :=
    ⟨⟨1⟩, { kind := .fixed .white, amount := 128 }, false, false⟩
  have hiff := hcomplete { white := 1 } [cathedral] none (by decide)
    (fun source hsource => by
      rw [List.mem_singleton.mp hsource]
      exact ⟨rfl, rfl, trivial⟩) (by decide)
  have hyes := hiff.mpr ⟨[⟨cathedral, .white⟩], by
    constructor <;> decide, by
      decide⟩
  revert hyes
  decide

end GreedyManaResolver

end DeepScry
