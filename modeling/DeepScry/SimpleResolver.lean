/-
The resolver for boards without flexible sources.  It answers from the bounds
check alone and then taps in list order, without looking whether that
sufficed.
-/
import DeepScry.NoDuals

namespace DeepScry

open Drawing Saturating Supply

open GreedyManaResolver (GreedyState Phase payAll candidates free funds)

namespace SimpleManaResolver

/-- A usable source that this resolver does not handle. -/
def isComplex (source : ManaSource) : Bool :=
  !source.isTapped && !source.hasSummoningSickness &&
    match source.production.kind with
    | .fixed _ | .colorless => false
    | .choice _ | .anyColor => true

/-- One tapping loop: the sources as they are listed. -/
def tap (eligible : ManaProduction → Bool) (amount : UInt8) :
    List ManaSource → List CardId → UInt8 → List CardId × UInt8
  | [], tapOrder, tapped => (tapOrder, tapped)
  | source :: rest, tapOrder, tapped =>
      if tapped ≥ amount then (tapOrder, tapped)
      else if source.isTapped || source.hasSummoningSickness ||
          tapOrder.contains source.cardId then
        tap eligible amount rest tapOrder tapped
      else if eligible source.production then
        tap eligible amount rest (tapOrder ++ [source.cardId])
          (add8 tapped source.production.amount)
      else tap eligible amount rest tapOrder tapped

/-- A loop for a typed requirement banks its surplus. -/
def tapAndBank (eligible : ManaProduction → Bool) (sources : List ManaSource)
    (amount : UInt8) (state : GreedyState) : GreedyState :=
  let (tapOrder, tapped) := tap eligible amount sources state.tapOrder 0
  ⟨tapOrder, add8 state.extraGeneric (sub8 tapped amount)⟩

def tapColor (sources : List ManaSource) (color : ManaColor) (amount : UInt8)
    (state : GreedyState) : GreedyState :=
  tapAndBank (fun production => production.kind == .fixed color) sources
    amount state

def isFixedOrColorless (production : ManaProduction) : Bool :=
  match production.kind with
  | .fixed _ | .colorless => true
  | .choice _ | .anyColor => false

def computeTapOrder (cost : ManaCost) (sources : List ManaSource) :
    List CardId :=
  let state := tapColor sources .white cost.white {}
  let state := tapColor sources .blue cost.blue state
  let state := tapColor sources .black cost.black state
  let state := tapColor sources .red cost.red state
  let state := tapColor sources .green cost.green state
  let state := tapAndBank (fun production => production.kind == .colorless)
    sources cost.colorless state
  let generic := if cost.generic > 0 then
      cost.generic - min cost.generic state.extraGeneric
    else cost.generic
  (tap isFixedOrColorless generic sources state.tapOrder 0).1

def checkPayment (cost : ManaCost) (sources : List ManaSource)
    (tapOrderOut : Option (List CardId)) :
    PaymentResult × Option (List CardId) :=
  if sources.any isComplex then (.maybe, tapOrderOut)
  else
    match boundsCheckPayment cost sources with
    | .no => (.no, tapOrderOut)
    | .yes | .maybe =>
        (.yes, tapOrderOut.map fun _ => computeTapOrder cost sources)

/-- A loop as a phase without a ranking of its own. -/
def unranked (eligible : ManaProduction → Bool) (amount : UInt8) : Phase where
  eligible := eligible
  score _ := 0
  required := amount

theorem tap_eq {sources : List ManaSource}
    (hids : (sources.map ManaSource.cardId).Nodup)
    (eligible : ManaProduction → Bool) (amount : UInt8)
    (tapOrder : List CardId) (tapped : UInt8) :
    tap eligible amount sources tapOrder tapped =
      GreedyManaResolver.tapCandidates amount
        ((candidates eligible sources tapOrder).map fun source => (source, 0))
        tapOrder tapped := by
  induction sources generalizing tapOrder tapped with
  | nil => rfl
  | cons source rest ih =>
      obtain ⟨hnot, hrest⟩ := List.nodup_cons.mp hids
      rw [tap]
      by_cases henough : tapped ≥ amount
      · rw [if_pos henough]
        cases (candidates eligible (source :: rest) tapOrder).map
            fun source => (source, (0 : UInt16)) with
        | nil => rfl
        | cons head tail =>
            exact (if_pos henough : _ = (tapOrder, tapped)).symm
      · rw [if_neg henough]
        by_cases hskip : (source.isTapped || source.hasSummoningSickness ||
            tapOrder.contains source.cardId) = true
        · have hcandidates : candidates eligible (source :: rest) tapOrder =
              candidates eligible rest tapOrder := by
            refine List.filter_cons_of_neg ?_
            revert hskip
            cases source.isTapped <;> cases source.hasSummoningSickness <;>
              cases tapOrder.contains source.cardId <;> simp
          rw [if_pos hskip, ih hrest, hcandidates]
        · rw [if_neg hskip]
          rw [Bool.not_eq_true, Bool.or_eq_false_iff,
            Bool.or_eq_false_iff] at hskip
          obtain ⟨⟨htapped, hsick⟩, hfresh⟩ := hskip
          cases heligible : eligible source.production with
          | false =>
              have hcandidates : candidates eligible (source :: rest)
                  tapOrder = candidates eligible rest tapOrder :=
                List.filter_cons_of_neg (by simp [heligible])
              rw [hcandidates, ← ih hrest]
              rfl
          | true =>
              have hcandidates : candidates eligible (source :: rest)
                  tapOrder =
                    source :: candidates eligible rest tapOrder :=
                List.filter_cons_of_pos
                  (by rw [htapped, hsick, hfresh, heligible]; rfl)
              have hothers : candidates eligible rest
                  (tapOrder ++ [source.cardId]) =
                    candidates eligible rest tapOrder := by
                rw [GreedyManaResolver.candidates_append,
                  List.filter_eq_self]
                intro other hother
                have hmem := (GreedyManaResolver.mem_candidates hother).1
                have hne : other.cardId ≠ source.cardId := fun heq =>
                  hnot (List.mem_map.mpr ⟨other, hmem, heq⟩)
                simpa using hne
              rw [if_pos rfl, ih hrest, hothers, hcandidates, List.map_cons,
                GreedyManaResolver.tapCandidates, if_neg henough]

theorem unranked_taps (eligible : ManaProduction → Bool) (amount : UInt8)
    (sources : List ManaSource) (tapOrder : List CardId) :
    (unranked eligible amount).taps sources tapOrder =
      draw ManaSource.worth amount.toNat
        (candidates eligible sources tapOrder) :=
  congrArg _ (ranked_eq_self (List.pairwise_of_forall fun _ _ => le_rfl))

theorem tap_zero {sources : List ManaSource}
    (hids : (sources.map ManaSource.cardId).Nodup)
    (eligible : ManaProduction → Bool) (amount : UInt8)
    (tapOrder : List CardId) :
    tap eligible amount sources tapOrder 0 =
      (tapOrder ++ ((unranked eligible amount).taps sources tapOrder).map
          ManaSource.cardId,
        UInt8.ofNat ((unranked eligible amount).tapped sources tapOrder)) := by
  rw [tap_eq hids, GreedyManaResolver.tapCandidates_eq amount fun _ => 0,
    Phase.tapped, unranked_taps, UInt8.toNat_zero, Nat.sub_zero, Nat.zero_add]

/-- A loop does what a phase without a ranking does, whether or not it finds
enough. -/
theorem tapAndBank_eq {sources : List ManaSource}
    (hids : (sources.map ManaSource.cardId).Nodup)
    (eligible : ManaProduction → Bool) (amount : UInt8)
    (state : GreedyState) :
    tapAndBank eligible sources amount state =
      (unranked eligible amount).after sources state := by
  rw [tapAndBank, tap_zero hids, Phase.after]
  dsimp only
  rw [GreedyState.mk.injEq]
  refine ⟨rfl, ?_⟩
  have htapped : (unranked eligible amount).tapped sources state.tapOrder <
      UInt8.size := by
    rw [Phase.tapped, UInt8.size]
    omega
  rw [← UInt8.toNat_inj, add8_toNat, sub8_toNat,
    UInt8.toNat_ofNat_of_lt' htapped,
    UInt8.toNat_ofNat_of_lt' (by rw [UInt8.size]; omega)]
  rfl

/-- The phases for the typed requirements, with the colour that each pays. -/
def typedWith (color : ManaColor → UInt8 → Phase)
    (colorless : UInt8 → Phase) (cost : ManaCost) : List (Color × Phase) :=
  ((GreedyManaResolver.colorRequirements cost).map fun requirement =>
    (requirement.1.toColor, color requirement.1 requirement.2)) ++
    [(.colorless, colorless cost.colorless)]

/-- The typed loops of this resolver. -/
def typedLoops : ManaCost → List (Color × Phase) :=
  typedWith
    (fun color => unranked fun production => production.kind == .fixed color)
    (unranked fun production => production.kind == .colorless)

def genericLoop (cost : ManaCost) (state : GreedyState) : Phase :=
  unranked isFixedOrColorless
    (cost.generic - min cost.generic state.extraGeneric)

/-- What the resolver taps when its typed loops find enough. -/
theorem computeTapOrder_eq {cost : ManaCost} {sources : List ManaSource}
    {final : GreedyState} (hids : (sources.map ManaSource.cardId).Nodup)
    (hpay : payAll sources ((typedLoops cost).map Prod.snd) {} =
      some final) :
    computeTapOrder cost sources =
      ((genericLoop cost final).after sources final).tapOrder := by
  have hfinal := GreedyManaResolver.foldl_after_eq hpay
  have hgeneric : (if cost.generic > 0 then
      cost.generic - min cost.generic final.extraGeneric
    else cost.generic) =
      cost.generic - min cost.generic final.extraGeneric := by
    split
    · rfl
    · next hzero =>
      have hrequired :=
        GreedyManaResolver.genericPhase_required cost final
      change (cost.generic - min cost.generic final.extraGeneric).toNat = _
        at hrequired
      rw [gt_iff_lt, UInt8.lt_iff_toNat_lt, UInt8.toNat_zero] at hzero
      rw [← UInt8.toNat_inj, hrequired]
      omega
  simp only [computeTapOrder, tapColor, tapAndBank_eq hids]
  simp only [typedLoops, typedWith, GreedyManaResolver.colorRequirements,
    List.map_cons,
    List.map_nil, List.map_append, List.foldl_append, List.foldl_cons,
    List.foldl_nil] at hfinal
  rw [hfinal, hgeneric, tap_zero hids]
  rfl

section

variable {cost : ManaCost} {sources : List ManaSource}

/-- What a usable source of a simple board can be. -/
theorem kind_of_simple (hsimple : sources.any isComplex = false)
    {source : ManaSource} (hmem : source ∈ sources)
    (husable : source.usable = true) :
    (∃ color, source.production.kind = .fixed color) ∨
      source.production.kind = .colorless := by
  have hnot := List.any_eq_false.mp hsimple source hmem
  rw [ManaSource.usable, Bool.not_or, Bool.and_eq_true] at husable
  rw [isComplex, husable.1, husable.2] at hnot
  cases hcase : source.production.kind with
  | fixed color => exact Or.inl ⟨color, rfl⟩
  | colorless => exact Or.inr rfl
  | choice colors =>
      rw [hcase] at hnot
      exact absurd rfl hnot
  | anyColor =>
      rw [hcase] at hnot
      exact absurd rfl hnot

/-- A simple source makes one kind of mana. -/
theorem makes_unique {production : ManaProduction} {color other : Color}
    (hkind : (∃ c, production.kind = .fixed c) ∨
      production.kind = .colorless)
    (hcolor : production.kind.makes color = true)
    (hother : production.kind.makes other = true) : color = other := by
  rcases hkind with ⟨c, hkind⟩ | hkind
  · rw [hkind] at hcolor hother
    exact (beq_iff_eq.mp hcolor).trans (beq_iff_eq.mp hother).symm
  · rw [hkind] at hcolor hother
    exact (beq_iff_eq.mp hcolor).trans (beq_iff_eq.mp hother).symm

/-- The potential of a colour is what the sources of it make. -/
theorem potential_simple (hsimple : sources.any isComplex = false)
    {color : Color} {eligible : ManaProduction → Bool}
    (hkind : ∀ production, (∃ c, production.kind = .fixed c) ∨
      production.kind = .colorless →
        eligible production = production.kind.makes color) :
    potential sources color = free eligible sources {} := by
  rw [potential]
  change load (fun source : ManaSource =>
    if source.production.kind.makes color = true then source.worth else 0) _ =
      load ManaSource.worth (candidates eligible sources [])
  rw [load_ite, List.filter_filter, candidates]
  refine congrArg _ (List.filter_congr fun source hsource => ?_)
  cases husable : source.usable with
  | false =>
      rw [ManaSource.usable, Bool.not_or] at husable
      rw [husable]
      simp
  | true =>
      rw [hkind _ (kind_of_simple hsimple hsource husable)]
      rw [ManaSource.usable, Bool.not_or] at husable
      rw [husable]
      simp

/-- The phase taps only what makes its colour, and of the simple sources all
that do. -/
structure PaysFor (color : Color) (phase : Phase) : Prop where
  makes : ∀ production, phase.eligible production = true →
    production.kind.makes color = true
  producing : phase.Producing
  simple : ∀ production, (∃ c, production.kind = .fixed c) ∨
    production.kind = .colorless →
      phase.eligible production = production.kind.makes color

theorem paysFor_typedWith {make : ManaColor → UInt8 → Phase}
    {makeColorless : UInt8 → Phase}
    (hcolor : ∀ color n, PaysFor color.toColor (make color n))
    (hcolorless : ∀ n, PaysFor .colorless (makeColorless n)) :
    ∀ t ∈ typedWith make makeColorless cost, PaysFor t.1 t.2 := by
  intro t ht
  rcases List.mem_append.mp ht with hmem | hmem
  · obtain ⟨requirement, -, rfl⟩ := List.mem_map.mp hmem
    exact hcolor _ _
  · rw [List.mem_singleton.mp hmem]
    exact hcolorless _

/-- On a simple board the typed phases succeed when no colour asks for more
than there is. -/
theorem payAll_simple (hids : (sources.map ManaSource.cardId).Nodup)
    (hsimple : sources.any isComplex = false)
    {typed : List (Color × Phase)} (hnodup : (typed.map Prod.fst).Nodup)
    (hpays : ∀ t ∈ typed, PaysFor t.1 t.2)
    (henough : ∀ t ∈ typed,
      t.2.required.toNat ≤ potential sources t.1) :
    ∃ final, payAll sources (typed.map Prod.snd) {} = some final := by
  refine GreedyManaResolver.payAll_apart hids ?_ ?_
  · rw [List.pairwise_map]
    refine (List.pairwise_map.mp hnodup).imp_of_mem ?_
    intro t u ht hu hne source hsource husable heligible
    have hkind := kind_of_simple hsimple hsource husable
    rw [(hpays t ht).simple _ hkind] at heligible
    rw [(hpays u hu).simple _ hkind]
    by_contra hother
    rw [Bool.not_eq_false] at hother
    exact hne (makes_unique hkind heligible hother)
  · intro phase hphase
    obtain ⟨t, ht, rfl⟩ := List.mem_map.mp hphase
    rw [← potential_simple hsimple (hpays t ht).simple]
    exact henough t ht

theorem funds_simple (hsimple : sources.any isComplex = false) :
    funds sources {} =
      load ManaSource.worth (sources.filter ManaSource.usable) := by
  have hcandidates : candidates ManaProduction.producesMana sources [] =
      sources.filter ManaSource.usable := by
    refine List.filter_congr fun source hsource => ?_
    have hproduces (husable : source.usable = true) :
        source.production.producesMana = true := by
      rw [ManaProduction.producesMana]
      rcases kind_of_simple hsimple hsource husable with
        ⟨color, hkind⟩ | hkind
      · rw [hkind]
      · rw [hkind]
    cases husable : source.usable with
    | false =>
        rw [ManaSource.usable, Bool.not_or] at husable
        rw [husable]
        rfl
    | true =>
        have hmana := hproduces husable
        rw [ManaSource.usable, Bool.not_or] at husable
        rw [husable, hmana]
        rfl
  rw [funds, hcandidates]
  exact Nat.zero_add _

theorem required_typedWith {make : ManaColor → UInt8 → Phase}
    {makeColorless : UInt8 → Phase}
    (hcolor : ∀ color n, (make color n).required = n)
    (hcolorless : ∀ n, (makeColorless n).required = n) :
    (∀ t ∈ typedWith make makeColorless cost,
        t.2.required = cost.amountOf t.1) ∧
      GreedyManaResolver.required
          ((typedWith make makeColorless cost).map Prod.snd) +
        cost.generic.toNat = cost.total := by
  constructor
  · intro t ht
    simp only [typedWith, GreedyManaResolver.colorRequirements,
      List.map_cons, List.map_nil, List.cons_append, List.nil_append,
      List.mem_cons, List.not_mem_nil, or_false] at ht
    rcases ht with rfl | rfl | rfl | rfl | rfl | rfl
    · exact hcolor _ _
    · exact hcolor _ _
    · exact hcolor _ _
    · exact hcolor _ _
    · exact hcolor _ _
    · exact hcolorless _
  · rw [ManaCost.total_eq]
    simp only [GreedyManaResolver.required, typedWith,
      GreedyManaResolver.colorRequirements, List.map_cons, List.map_nil,
      List.cons_append, List.nil_append, load_cons, load_nil, hcolor,
      hcolorless]
    omega

theorem typedWith_nodup (make : ManaColor → UInt8 → Phase)
    (makeColorless : UInt8 → Phase) :
    ((typedWith make makeColorless cost).map Prod.fst).Nodup :=
  (by decide : Color.all.Nodup)

/-- When every colour is there and the total as well, the typed phases leave
the funds for the generic part. -/
theorem payAll_typedWith {make : ManaColor → UInt8 → Phase}
    {makeColorless : UInt8 → Phase}
    (hids : (sources.map ManaSource.cardId).Nodup)
    (hsimple : sources.any isComplex = false)
    (hsums : ∀ color, potential sources color ≤ 255)
    (hcolor : ∀ color n, PaysFor color.toColor (make color n) ∧
      (make color n).required = n)
    (hcolorless : ∀ n, PaysFor .colorless (makeColorless n) ∧
      (makeColorless n).required = n)
    (hfits : ∀ color, (cost.amountOf color).toNat ≤ potential sources color)
    (htotal : cost.total ≤
      load ManaSource.worth (sources.filter ManaSource.usable)) :
    ∃ final, payAll sources
        ((typedWith make makeColorless cost).map Prod.snd) {} = some final ∧
      cost.generic.toNat ≤ funds sources final := by
  have hpays := @paysFor_typedWith cost make makeColorless
    (fun color n => (hcolor color n).1) fun n => (hcolorless n).1
  obtain ⟨hrequired, hsum⟩ := @required_typedWith cost make makeColorless
    (fun color n => (hcolor color n).2) fun n => (hcolorless n).2
  obtain ⟨final, hpay⟩ := payAll_simple hids hsimple
    (@typedWith_nodup cost make makeColorless) hpays fun t ht => by
      rw [hrequired t ht]
      exact hfits t.1
  refine ⟨final, hpay, ?_⟩
  have hexact := GreedyManaResolver.exact_payAll hids
    (fun phase hphase => by
      obtain ⟨t, ht, rfl⟩ := List.mem_map.mp hphase
      exact (hpays t ht).producing)
    (fun phase hphase tapOrder => by
      obtain ⟨t, ht, rfl⟩ := List.mem_map.mp hphase
      exact (GreedyManaResolver.load_taps_le_potential (hpays t ht).makes
        tapOrder).trans (hsums t.1)) hpay
  rcases hexact with hfull | hexact
  · have hgeneric := cost.generic.toNat_lt
    rw [funds, hfull]
    omega
  · rw [funds_simple hsimple] at hexact
    omega

omit cost sources in
theorem fixed_makes (c color : ManaColor) :
    (ManaProductionKind.fixed c).makes color.toColor = (c == color) := by
  cases c <;> cases color <;> rfl

theorem paysFor_color (color : ManaColor) (n : UInt8) :
    PaysFor color.toColor (.color color n) where
  makes _ := GreedyManaResolver.makes_of_canProduceColor
  producing _ := GreedyManaResolver.producesMana_of_canProduceColor
  simple production hkind := by
    change GreedyManaResolver.canProduceColor production color = _
    rcases hkind with ⟨c, hkind⟩ | hkind
    · rw [GreedyManaResolver.canProduceColor, hkind, fixed_makes]
    · rw [GreedyManaResolver.canProduceColor, hkind]
      exact (beq_false_of_ne color.toColor_ne_colorless).symm

theorem paysFor_fixed (color : ManaColor) (n : UInt8) :
    PaysFor color.toColor
      (unranked (fun production => production.kind == .fixed color) n) where
  makes production heligible := by
    rw [beq_iff_eq.mp heligible, fixed_makes, beq_self_eq_true]
  producing production heligible := by
    rw [ManaProduction.producesMana, beq_iff_eq.mp heligible]
  simple production hkind := by
    change (production.kind == .fixed color) = _
    rcases hkind with ⟨c, hkind⟩ | hkind
    · rw [hkind, fixed_makes, Bool.eq_iff_iff, beq_iff_eq, beq_iff_eq,
        ManaProductionKind.fixed.injEq]
    · rw [hkind]
      exact (beq_false_of_ne color.toColor_ne_colorless).symm

/-- Both resolvers pay colourless mana from colourless sources. -/
theorem paysFor_colorless {phase : Phase} (heligible : phase.eligible =
    fun production => production.kind == .colorless) :
    PaysFor .colorless phase where
  makes production hkind := by
    rw [heligible] at hkind
    rw [beq_iff_eq.mp hkind]
    rfl
  producing production hkind := by
    rw [heligible] at hkind
    rw [ManaProduction.producesMana, beq_iff_eq.mp hkind]
  simple production hkind := by
    rw [heligible]
    dsimp only
    rcases hkind with ⟨c, hkind⟩ | hkind
    · rw [hkind]
      exact (beq_false_of_ne c.toColor_ne_colorless.symm).symm
    · rw [hkind]
      exact beq_self_eq_true _

variable (hids : (sources.map ManaSource.cardId).Nodup)
  (hsimple : sources.any isComplex = false)
  (hsums : ∀ color, potential sources color ≤ 255)
  (hfits : ∀ color, (cost.amountOf color).toNat ≤ potential sources color)
  (htotal : cost.total ≤
    load ManaSource.worth (sources.filter ManaSource.usable))

include hids hsimple hsums hfits htotal

/-- The greedy search finds what the totals promise. -/
theorem tryGreedyPayment_isSome :
    (GreedyManaResolver.tryGreedyPayment cost sources).isSome :=
  (GreedyManaResolver.tryGreedyPayment_isSome_iff cost sources).mpr
    (payAll_typedWith hids hsimple hsums
      (fun color n => ⟨paysFor_color color n, rfl⟩)
      (fun _ => ⟨paysFor_colorless rfl, rfl⟩) hfits htotal)

/-- So do the loops of this resolver. -/
theorem computeTapOrder_covers :
    ∃ plan, IsPlan sources plan ∧
      plan.map (fun a => a.source.cardId) = computeTapOrder cost sources ∧
      Covers (produced plan) cost.demand := by
  obtain ⟨final, hpay, hgeneric⟩ := payAll_typedWith hids hsimple hsums
    (fun color n => ⟨paysFor_fixed color n, rfl⟩)
    (fun n => ⟨@paysFor_colorless
      (unranked (fun production => production.kind == .colorless) n) rfl,
        rfl⟩) hfits htotal
  have hpays : ∀ t ∈ typedLoops cost, PaysFor t.1 t.2 :=
    paysFor_typedWith paysFor_fixed fun _ => paysFor_colorless rfl
  have hbanked := GreedyManaResolver.payAll_banked hids
    (fun t ht => (hpays t ht).makes)
    (GreedyManaResolver.banked_init sources) hpay
  have hproducing : (genericLoop cost final).Producing := by
    intro production heligible
    change isFixedOrColorless production = true at heligible
    rw [isFixedOrColorless] at heligible
    rw [ManaProduction.producesMana]
    cases hcase : production.kind with
    | fixed | colorless | anyColor => rfl
    | choice =>
        rw [hcase] at heligible
        cases heligible
  have henough : (genericLoop cost final).required.toNat ≤
      free (genericLoop cost final).eligible sources final := by
    have hsame : candidates isFixedOrColorless sources final.tapOrder =
        candidates ManaProduction.producesMana sources final.tapOrder := by
      refine List.filter_congr fun source hsource => ?_
      cases husable : source.usable with
      | false =>
          rw [ManaSource.usable, Bool.not_or] at husable
          rw [husable]
          rfl
      | true =>
          rw [isFixedOrColorless, ManaProduction.producesMana]
          rcases kind_of_simple hsimple hsource husable with
            ⟨c, hkind⟩ | hkind
          · rw [hkind]
          · rw [hkind]
    have hrequired := GreedyManaResolver.genericPhase_required cost final
    change (genericLoop cost final).required.toNat = _ at hrequired
    change _ ≤ load ManaSource.worth
      (candidates isFixedOrColorless sources final.tapOrder)
    rw [hrequired, hsame]
    exact Nat.sub_le_iff_le_add'.mpr hgeneric
  obtain ⟨plan, hplan, horder, hcovers⟩ :=
    Phase.after_covers hids hproducing hbanked henough
  refine ⟨plan, hplan, ?_, ?_⟩
  · rw [horder, computeTapOrder_eq hids hpay]
  · have htyped : (fun c : Color => 0 + load (fun t : Color × Phase =>
        if c = t.1 then t.2.required.toNat else 0) (typedLoops cost)) =
          cost.demand.typed := by
      funext c
      cases c <;> simp [typedLoops, typedWith, unranked, ManaColor.toColor,
        GreedyManaResolver.colorRequirements, ManaCost.demand,
        ManaCost.amountOf]
    have hrequired := GreedyManaResolver.genericPhase_required cost final
    change (genericLoop cost final).required.toNat = _ at hrequired
    rw [htyped] at hcovers
    refine hcovers.mono_wild ?_
    omega

end

/-- What a plan covers is no more than the usable sources make. -/
theorem total_le_of_covers {cost : ManaCost} {sources : List ManaSource}
    (hids : (sources.map ManaSource.cardId).Nodup) {plan : List Activation}
    (hplan : IsPlan sources plan)
    (hcovers : Covers (produced plan) cost.demand) :
    cost.total ≤ load ManaSource.worth (sources.filter ManaSource.usable) := by
  have htotal := hcovers.2
  have hload := load_perm (w := ManaSource.worth) (usable_perm hids hplan)
  have hplanned : load ManaSource.worth (plan.map Activation.source) =
      (plan.map fun a => a.source.production.amount.toNat).sum := by
    rw [load, List.map_map]
    rfl
  rw [sum_produced, ← hplanned] at htotal
  rw [hload, load_append]
  exact htotal.trans (Nat.le_add_right _ _)

/-- The bounds check lets through what its totals and no colour refuse. -/
theorem boundsCheckPayment_ne_no {cost : ManaCost} {sources : List ManaSource}
    (hsums : ∀ color, potential sources color ≤ 255) :
    boundsCheckPayment cost sources ≠ .no ↔
      (min cost.total 255 : Nat) ≤
          (netDeltas (sources.filter ManaSource.usable)).bmod 65536 ∧
        ∀ color, (cost.amountOf color).toNat ≤ potential sources color := by
  rw [Ne, boundsCheckPayment_eq_no_iff, not_or, not_lt, not_exists]
  refine and_congr_right fun _ => forall_congr' fun color => ?_
  rw [not_lt, Nat.mod_eq_of_lt (Nat.lt_succ_of_le (hsums color))]

/-- Both resolvers and both ways of asking agree, and what is tapped covers
the cost. -/
structure Agrees (cost : ManaCost) (sources : List ManaSource) : Prop where
  buffered : ∀ buffer, (checkPayment cost sources (some buffer)).1 =
    (checkPayment cost sources none).1
  greedy : ∀ buffer, (checkPayment cost sources none).1 =
    (GreedyManaResolver.checkPayment cost sources buffer).1
  covers : ∀ buffer, (checkPayment cost sources (some buffer)).1 = .yes →
    ∃ plan, IsPlan sources plan ∧
      (checkPayment cost sources (some buffer)).2 =
        some (plan.map fun a => a.source.cardId) ∧
      Covers (produced plan) cost.demand

/-- A board that the totals of the bounds check let through makes as much as
the cost asks for. -/
def TotalsHold (cost : ManaCost) (sources : List ManaSource) : Prop :=
  (min cost.total 255 : Nat) ≤
      (netDeltas (sources.filter ManaSource.usable)).bmod 65536 →
    (∀ color, (cost.amountOf color).toNat ≤ potential sources color) →
      cost.total ≤
        load ManaSource.worth (sources.filter ManaSource.usable)

/-- On a simple board the resolvers agree exactly when the totals of the
bounds check can be trusted. -/
theorem agrees_iff {cost : ManaCost} {sources : List ManaSource}
    (hids : (sources.map ManaSource.cardId).Nodup)
    (hsimple : sources.any isComplex = false)
    (hsums : ∀ color, potential sources color ≤ 255) :
    Agrees cost sources ↔ TotalsHold cost sources := by
  have hbounds := @boundsCheckPayment_ne_no cost sources hsums
  have hcheck (buffer : Option (List CardId)) :
      checkPayment cost sources buffer =
        if boundsCheckPayment cost sources = .no then (.no, buffer)
        else (.yes, buffer.map fun _ => computeTapOrder cost sources) := by
    rw [checkPayment, hsimple]
    cases boundsCheckPayment cost sources <;> rfl
  constructor
  · intro hagrees hdelta hfits
    have hadmitted := hbounds.mpr ⟨hdelta, hfits⟩
    have hyes : (checkPayment cost sources (some [])).1 = .yes := by
      rw [hcheck, if_neg hadmitted]
    obtain ⟨plan, hplan, -, hcovers⟩ := hagrees.covers [] hyes
    exact total_le_of_covers hids hplan hcovers
  · intro htotals
    by_cases hrefused : boundsCheckPayment cost sources = .no
    · have hno (buffer : Option (List CardId)) :
          (checkPayment cost sources buffer).1 = .no := by
        rw [hcheck, if_pos hrefused]
      refine ⟨fun buffer => ?_, fun buffer => ?_, fun buffer hyes => ?_⟩
      · rw [hno, hno]
      · rw [hno, GreedyManaResolver.checkPayment, hrefused]
      · rw [hno] at hyes
        cases hyes
    · obtain ⟨hdelta, hfits⟩ := hbounds.mp hrefused
      have htotal := htotals hdelta hfits
      have hyes (buffer : Option (List CardId)) :
          checkPayment cost sources buffer =
            (.yes, buffer.map fun _ => computeTapOrder cost sources) := by
        rw [hcheck, if_neg hrefused]
      obtain ⟨tapOrder, hgreedy⟩ := Option.isSome_iff_exists.mp
        (tryGreedyPayment_isSome hids hsimple hsums hfits htotal)
      refine ⟨fun buffer => ?_, fun buffer => ?_, fun buffer _ => ?_⟩
      · rw [hyes, hyes]
      · rw [hyes, GreedyManaResolver.checkPayment, hgreedy]
        cases hverdict : boundsCheckPayment cost sources with
        | no => exact absurd hverdict hrefused
        | yes | maybe => rfl
      · obtain ⟨plan, hplan, horder, hcovers⟩ :=
          computeTapOrder_covers hids hsimple hsums hfits htotal
        refine ⟨plan, hplan, ?_, hcovers⟩
        rw [hyes, horder]
        rfl

/-- A Plains and a source of two colourless mana for {1}{W}. -/
theorem agrees_iff_plains :
    let sources : List ManaSource :=
      [⟨⟨1⟩, { kind := .fixed .white }, false, false⟩,
        ⟨⟨2⟩, { kind := .colorless, amount := 2 }, false, false⟩]
    Agrees { generic := 1, white := 1 } sources ↔
      TotalsHold { generic := 1, white := 1 } sources :=
  agrees_iff (by decide) (by decide) (by decide)

/-- A source of one white mana whose activation asks for 200: as signed bytes
its net delta is 57, so {2} is let through. -/
theorem not_agrees :
    ¬ ∀ (cost : ManaCost) (sources : List ManaSource),
      (sources.map ManaSource.cardId).Nodup →
        (∀ source ∈ sources, 0 < source.production.amount) →
          sources.any isComplex = false →
            (∀ color, potential sources color ≤ 255) →
              Agrees cost sources := by
  intro hagrees
  let cathedral : ManaSource :=
    { cardId := ⟨1⟩
      production :=
        { kind := .fixed .white
          activationCost := some { generic := 200 } } }
  have hsame := (hagrees { generic := 2 } [cathedral] (by decide) (by decide)
    (by decide) (by decide)).greedy none
  revert hsame
  decide

end SimpleManaResolver

end DeepScry
