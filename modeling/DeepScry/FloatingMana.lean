/-
Floating mana as sources.  The engine takes the pool out of the cost and asks
one of two back ends for the rest; the combined question puts one free source
of one mana in front of the others for each mana in the pool.
-/
import DeepScry.ManaEngine
import DeepScry.SimpleResolver
import DeepScry.TotalMana

namespace DeepScry

open Drawing Saturating Supply
open GreedyManaResolver (GreedyState Phase payAll candidates free funds
  typedPhases tryGreedyPayment)

/-- Free untapped sources of one mana, one for each mana in the pool. -/
structure Floats (pool : ManaPool) (units : List ManaSource) : Prop where
  plain : ∀ unit ∈ units, unit.Plain
  usable : ∀ unit ∈ units, unit.usable = true
  one : ∀ unit ∈ units, unit.production.amount = 1
  kind : ∀ unit ∈ units, (∃ color, unit.production.kind = .fixed color) ∨
    unit.production.kind = .colorless
  count : ∀ color, (units.countP fun unit =>
    unit.production.kind.makes color) = (pool.amountOf color).toNat

/-- What the pool leaves of the cost. -/
def ManaCost.left (cost : ManaCost) (pool : ManaPool) : ManaCost :=
  if pool.isEmpty then cost else cost.afterPool pool

/-- The phase that pays one kind of mana. -/
def GreedyManaResolver.Phase.of (color : Color) (required : UInt8) : Phase :=
  match color with
  | .white => .color .white required
  | .blue => .color .blue required
  | .black => .color .black required
  | .red => .color .red required
  | .green => .color .green required
  | .colorless => .colorless required

namespace FloatingMana

theorem typedPhases_eq (cost : ManaCost) :
    typedPhases cost =
      Color.all.map fun color => Phase.of color (cost.amountOf color) :=
  rfl

theorem amountOf_left (cost : ManaCost) (pool : ManaPool) (color : Color) :
    ((cost.left pool).amountOf color).toNat =
      (cost.amountOf color).toNat - (pool.amountOf color).toNat := by
  rw [ManaCost.left]
  split
  · next hempty =>
    rw [beq_iff_eq.mp hempty]
    cases color <;> rfl
  · cases color <;> exact sub8_toNat _ _

theorem of_required (color : Color) (n : UInt8) :
    (Phase.of color n).required = n := by
  cases color <;> rfl

theorem of_eligible (color : Color) (n m : UInt8) :
    (Phase.of color n).eligible = (Phase.of color m).eligible := by
  cases color <;> rfl

theorem paysFor_of (color : Color) (n : UInt8) :
    SimpleManaResolver.PaysFor color (.of color n) := by
  cases color
  · exact SimpleManaResolver.paysFor_color .white n
  · exact SimpleManaResolver.paysFor_color .blue n
  · exact SimpleManaResolver.paysFor_color .black n
  · exact SimpleManaResolver.paysFor_color .red n
  · exact SimpleManaResolver.paysFor_color .green n
  · exact SimpleManaResolver.paysFor_colorless rfl

/-- No source ranks before a unit. -/
theorem score_unit {pool : ManaPool} {units : List ManaSource}
    (hfloats : Floats pool units) {unit : ManaSource} (hunit : unit ∈ units)
    {color : Color} {n : UInt8}
    (heligible : (Phase.of color n).eligible unit.production = true) :
    (Phase.of color n).score unit.production = 0 := by
  have hplain := hfloats.plain unit hunit
  have hcolor (color : ManaColor) (hcan :
      GreedyManaResolver.canProduceColor unit.production color = true) :
      GreedyManaResolver.scoreForColor unit.production color = 0 := by
    refine GreedyManaResolver.scoreForColor_fixed hplain ?_
    rw [GreedyManaResolver.canProduceColor_plain hplain] at hcan
    rcases hfloats.kind unit hunit with ⟨c, hkind⟩ | hkind
    · rw [GreedyManaResolver.flexible, hkind, Bool.or_eq_true] at hcan
      exact hcan.resolve_right Bool.noConfusion
    · rw [GreedyManaResolver.fixedOf, GreedyManaResolver.flexible,
        hkind] at hcan
      cases hcan
  cases color
  · exact hcolor _ heligible
  · exact hcolor _ heligible
  · exact hcolor _ heligible
  · exact hcolor _ heligible
  · exact hcolor _ heligible
  · change GreedyManaResolver.genericScore unit.production = 0
    rw [GreedyManaResolver.genericScore, ManaProduction.sideCostScore,
      hplain.sideCost, hfloats.one unit hunit, beq_iff_eq.mp heligible]
    decide

section

variable {pool : ManaPool} {units sources : List ManaSource}
  {combined rest : GreedyState}

/-- Both runs have tapped the same of the other sources. -/
def Matched (sources : List ManaSource) (combined rest : GreedyState) : Prop :=
  ∀ source ∈ sources,
    source.cardId ∈ combined.tapOrder ↔ source.cardId ∈ rest.tapOrder

theorem candidates_matched (hmatched : Matched sources combined rest)
    (eligible : ManaProduction → Bool) :
    candidates eligible sources combined.tapOrder =
      candidates eligible sources rest.tapOrder := by
  refine List.filter_congr fun source hsource => ?_
  have hsame : combined.tapOrder.contains source.cardId =
      rest.tapOrder.contains source.cardId := by
    rw [Bool.eq_iff_iff, List.contains_iff_mem, List.contains_iff_mem]
    exact hmatched source hsource
  rw [hsame]

variable {color : Color} {n n' : UInt8}

/-- The units of the colour come first. -/
theorem ranking_units (hfloats : Floats pool units)
    (hmatched : Matched sources combined rest) :
    (Phase.of color n).ranking (units ++ sources) combined.tapOrder =
      candidates (Phase.of color n).eligible units combined.tapOrder ++
        (Phase.of color n').ranking sources rest.tapOrder := by
  have hscore : (Phase.of color n').score = (Phase.of color n).score := by
    cases color <;> rfl
  rw [Phase.ranking, Phase.ranking, of_eligible color n' n, hscore,
    ← candidates_matched hmatched]
  refine (congrArg _ (List.filter_append _ _)).trans (ranked_append ?_)
  intro unit hunit _ _
  obtain ⟨hmem, -, -, heligible⟩ := GreedyManaResolver.mem_candidates hunit
  rw [score_unit hfloats hmem heligible]
  exact Nat.zero_le _

/-- The units of the colour pay their part, the other sources what is left. -/
theorem taps_units (hfloats : Floats pool units)
    (hmatched : Matched sources combined rest)
    (hleft : n'.toNat = n.toNat - load ManaSource.worth
      (candidates (Phase.of color n).eligible units combined.tapOrder)) :
    (Phase.of color n).taps (units ++ sources) combined.tapOrder =
      draw ManaSource.worth n.toNat (candidates (Phase.of color n).eligible
          units combined.tapOrder) ++
        (Phase.of color n').taps sources rest.tapOrder := by
  rw [Phase.taps, Phase.taps, ranking_units hfloats hmatched, draw_append,
    of_required, of_required, hleft]

theorem matched_after (hfloats : Floats pool units)
    (hids : ((units ++ sources).map ManaSource.cardId).Nodup)
    (hmatched : Matched sources combined rest)
    (hleft : n'.toNat = n.toNat - load ManaSource.worth
      (candidates (Phase.of color n).eligible units combined.tapOrder)) :
    Matched sources ((Phase.of color n).after (units ++ sources) combined)
      ((Phase.of color n').after sources rest) := by
  intro source hsource
  have hforeign : source.cardId ∉ (draw ManaSource.worth n.toNat
      (candidates (Phase.of color n).eligible units
        combined.tapOrder)).map ManaSource.cardId := by
    intro hmem
    obtain ⟨unit, hdrawn, hid⟩ := List.mem_map.mp hmem
    have hunit := (GreedyManaResolver.mem_candidates
      ((draw_initial _ _).subset hdrawn)).1
    rw [List.map_append, List.nodup_append] at hids
    exact hids.2.2 _ (List.mem_map_of_mem hunit) _
      (List.mem_map_of_mem hsource) hid
  rw [Phase.after, Phase.after, taps_units hfloats hmatched hleft,
    List.map_append, List.mem_append, List.mem_append, List.mem_append,
    hmatched source hsource, or_iff_right hforeign]

/-- A phase leaves the units of the other colours alone. -/
theorem units_after (hfloats : Floats pool units)
    (hids : ((units ++ sources).map ManaSource.cardId).Nodup)
    {other : Color} (hne : other ≠ color) (m : UInt8) :
    candidates (Phase.of other m).eligible units
        ((Phase.of color n).after (units ++ sources) combined).tapOrder =
      candidates (Phase.of other m).eligible units combined.tapOrder := by
  rw [Phase.after, GreedyManaResolver.candidates_append, List.filter_eq_self]
  intro unit hunit
  obtain ⟨hmem, -, -, hother⟩ := GreedyManaResolver.mem_candidates hunit
  rw [Bool.not_eq_true', Bool.eq_false_iff, Ne, List.contains_iff_mem]
  intro htapped
  obtain ⟨tap, htap, hid⟩ := List.mem_map.mp htapped
  obtain ⟨hsource, -, -, heligible⟩ :=
    GreedyManaResolver.mem_candidates (Phase.mem_of_mem_taps htap)
  have heq := List.inj_on_of_nodup_map hids hsource
    (List.mem_append_left _ hmem) hid
  rw [heq] at heligible
  have hkind := hfloats.kind unit hmem
  rw [(paysFor_of _ _).simple _ hkind] at heligible hother
  exact hne (SimpleManaResolver.makes_unique hkind hother heligible)

/-- Both runs of typed phases succeed or fail together. -/
theorem payAll_matched {cost : ManaCost} (hfloats : Floats pool units)
    (hids : ((units ++ sources).map ManaSource.cardId).Nodup)
    {colors : List Color} (hnodup : colors.Nodup)
    (hmatched : Matched sources combined rest)
    (huntouched : ∀ color ∈ colors, ∀ n, load ManaSource.worth
      (candidates (Phase.of color n).eligible units combined.tapOrder) =
        (pool.amountOf color).toNat) :
    (payAll (units ++ sources) (colors.map fun color =>
        .of color (cost.amountOf color)) combined).isSome ↔
      (payAll sources (colors.map fun color =>
        .of color ((cost.left pool).amountOf color)) rest).isSome := by
  induction colors generalizing combined rest with
  | nil => exact iff_of_true rfl rfl
  | cons color others ih =>
      obtain ⟨hnot, hothers⟩ := List.nodup_cons.mp hnodup
      obtain ⟨hunits, hrest⟩ := List.forall_mem_cons.mp huntouched
      have hleft : ((cost.left pool).amountOf color).toNat =
          (cost.amountOf color).toNat - load ManaSource.worth
            (candidates (Phase.of color (cost.amountOf color)).eligible units
              combined.tapOrder) := by
        rw [amountOf_left, hunits]
      have hnext := ih hothers
        (@matched_after _ _ _ _ _ color _ _ hfloats hids hmatched hleft)
        fun other hother n => by
          have hne : other ≠ color := fun heq => hnot (heq ▸ hother)
          rw [units_after hfloats hids hne]
          exact hrest other hother n
      have hload : load ManaSource.worth (candidates
          (Phase.of color (cost.amountOf color)).eligible (units ++ sources)
            combined.tapOrder) = (pool.amountOf color).toNat +
          load ManaSource.worth (candidates (Phase.of color
            ((cost.left pool).amountOf color)).eligible sources
              rest.tapOrder) := by
        rw [candidates, List.filter_append, load_append]
        refine congrArg₂ _ (hunits _) ?_
        change load _ (candidates _ sources combined.tapOrder) = _
        rw [candidates_matched hmatched, of_eligible]
      rw [List.map_cons, List.map_cons,
        GreedyManaResolver.payAll_cons_isSome_iff,
        GreedyManaResolver.payAll_cons_isSome_iff, hload, of_required,
        of_required, hleft, hunits]
      exact and_congr Nat.sub_le_iff_le_add'.symm hnext

theorem load_floats (hfloats : Floats pool units) (eligible) :
    load ManaSource.worth (candidates eligible units []) =
      units.countP fun unit => eligible unit.production := by
  have hone : ∀ unit ∈ units.filter (fun unit => eligible unit.production),
      unit.worth = 1 := fun unit hunit =>
    congrArg UInt8.toNat (hfloats.one unit (List.mem_filter.mp hunit).1)
  have hcandidates : candidates eligible units [] =
      units.filter fun unit => eligible unit.production := by
    refine List.filter_congr fun unit hunit => ?_
    have husable := hfloats.usable unit hunit
    rw [ManaSource.usable, Bool.not_or] at husable
    rw [husable]
    simp
  rw [hcandidates, load_units hone, List.countP_eq_length_filter]

theorem untouched_units (hfloats : Floats pool units) (color : Color)
    (n : UInt8) :
    load ManaSource.worth
        (candidates (Phase.of color n).eligible units []) =
      (pool.amountOf color).toNat := by
  rw [load_floats hfloats, ← hfloats.count color]
  refine List.countP_congr fun unit hunit => ?_
  rw [(paysFor_of color n).simple _ (hfloats.kind unit hunit)]

/-- Every unit is one mana of the pool. -/
theorem length_units (hfloats : Floats pool units) :
    units.length = pool.amount := by
  have hlength : ∀ l : List ManaSource, (∀ unit ∈ l,
      (∃ color, unit.production.kind = .fixed color) ∨
        unit.production.kind = .colorless) →
      ∑ color, (l.countP fun unit => unit.production.kind.makes color) =
        l.length := by
    intro l hkinds
    induction l with
    | nil => simp
    | cons unit rest ih =>
        obtain ⟨hkind, hothers⟩ := List.forall_mem_cons.mp hkinds
        have hone : ∃ c, ∀ color, unit.production.kind.makes color =
            (color == c) := by
          rcases hkind with ⟨c, hkind⟩ | hkind
          · exact ⟨c.toColor, fun color => by rw [hkind]; rfl⟩
          · exact ⟨.colorless, fun color => by rw [hkind]; rfl⟩
        obtain ⟨c, hmakes⟩ := hone
        simp only [List.countP_cons, Finset.sum_add_distrib, ih hothers,
          hmakes, beq_iff_eq, Finset.sum_ite_eq', Finset.mem_univ,
          ↓reduceIte, List.length_cons]
  rw [← hlength units hfloats.kind, pool.amount_eq_sum]
  exact Finset.sum_congr rfl fun color _ => hfloats.count color

theorem funds_units (hfloats : Floats pool units) :
    funds (units ++ sources) {} = pool.amount + funds sources {} := by
  have hall : units.countP (fun unit => unit.production.producesMana) =
      units.length := by
    rw [List.countP_eq_length]
    intro unit hunit
    rw [ManaProduction.producesMana]
    rcases hfloats.kind unit hunit with ⟨c, hkind⟩ | hkind
    · rw [hkind]
    · rw [hkind]
  have hunits := load_floats hfloats ManaProduction.producesMana
  rw [hall, length_units hfloats] at hunits
  rw [funds, funds, candidates, List.filter_append, load_append]
  change _ + (load _ (candidates _ units []) + _) = _
  rw [hunits, Nat.add_left_comm]
  rfl

variable {cost : ManaCost}

/-- The generic part that the pool leaves. -/
theorem left_generic (hpool : pool.amount < 256) :
    (cost.left pool).generic.toNat = cost.generic.toNat -
      ∑ color, ((pool.amountOf color).toNat -
        (cost.amountOf color).toNat) := by
  rw [ManaCost.left, Color.sum_univ]
  split
  · next hempty =>
    rw [beq_iff_eq.mp hempty]
    simp [ManaPool.amountOf]
  · have hunused (available need : UInt8) :
        (sub8 available (min need available)).toNat =
          available.toNat - need.toNat := by
      rw [sub8_toNat, min8_toNat]
      omega
    have hsum (a b c d e f : UInt8)
        (hlt : a.toNat + b.toNat + c.toNat + d.toNat + e.toNat +
          f.toNat < 256) : (a + b + c + d + e + f).toNat =
            a.toNat + b.toNat + c.toNat + d.toNat + e.toNat + f.toNat := by
      simp only [UInt8.toNat_add, Nat.mod_add_mod]
      exact Nat.mod_eq_of_lt hlt
    rw [ManaPool.amount] at hpool
    rw [ManaCost.afterPool]
    dsimp only
    rw [sub8_toNat, hsum]
    · simp only [hunused]
      rfl
    · simp only [hunused]
      refine lt_of_le_of_lt ?_ hpool
      gcongr <;> exact Nat.sub_le _ _

/-- What the pool leaves can be paid as far as both are there together. -/
theorem left_total_le_iff (hpool : pool.amount < 256) {stock : Nat}
    (htyped : ∑ color, ((cost.left pool).amountOf color).toNat ≤ stock) :
    (cost.left pool).total ≤ stock ↔ cost.total ≤ pool.amount + stock := by
  have hcolor : ∑ color, ((cost.left pool).amountOf color).toNat +
      pool.amount = ∑ color, (cost.amountOf color).toNat +
        ∑ color, ((pool.amountOf color).toNat -
          (cost.amountOf color).toNat) := by
    rw [pool.amount_eq_sum, ← Finset.sum_add_distrib,
      ← Finset.sum_add_distrib]
    refine Finset.sum_congr rfl fun color _ => ?_
    rw [amountOf_left]
    omega
  have hgeneric := @left_generic pool cost hpool
  rw [ManaCost.total_eq_sum, ManaCost.total_eq_sum]
  omega

/-- The pool alone pays when it leaves nothing. -/
theorem left_total_eq_zero_iff (hpool : pool.amount < 256)
    (hcost : cost.total < 256) :
    (cost.left pool).total = 0 ↔ pool.canPay cost = true := by
  rw [ManaPool.canPay_spec hpool hcost]
  have hle := @left_total_le_iff pool cost hpool 0
  rw [Nat.le_zero, Nat.le_zero, Nat.add_zero] at hle
  have htyped : ∑ color, ((cost.left pool).amountOf color).toNat = 0 ↔
      ∀ color, (cost.amountOf color).toNat ≤
        (pool.amountOf color).toNat := by
    rw [Finset.sum_eq_zero_iff]
    refine forall_congr' fun color => ?_
    rw [amountOf_left, Nat.sub_eq_zero_iff_le]
    exact ⟨fun h => h (Finset.mem_univ color), fun h _ => h⟩
  rw [← htyped]
  constructor
  · intro hzero
    have hnone := hzero
    rw [ManaCost.total_eq_sum, Nat.add_eq_zero_iff] at hnone
    exact ⟨hnone.1, (hle hnone.1).mp hzero⟩
  · rintro ⟨hnone, hpaid⟩
    exact (hle hnone).mpr hpaid

theorem left_total_le (hpool : pool.amount < 256) :
    (cost.left pool).total ≤ cost.total := by
  rw [ManaCost.total_eq_sum, ManaCost.total_eq_sum, left_generic hpool]
  refine Nat.add_le_add (Finset.sum_le_sum fun color _ => ?_)
    (Nat.sub_le _ _)
  rw [amountOf_left]
  exact Nat.sub_le _ _

theorem potential_sources_le
    (hsums : ∀ color, potential (units ++ sources) color ≤ 255)
    (color : Color) : potential sources color ≤ 255 := by
  refine le_trans ?_ (hsums color)
  rw [potential, potential, List.filter_append, List.map_append,
    List.sum_append]
  exact Nat.le_add_left _ _

theorem netDeltas_units (hfloats : Floats pool units) :
    netDeltas ((units ++ sources).filter ManaSource.usable) =
      (pool.amount : Int) + netDeltas (sources.filter ManaSource.usable) := by
  have hunits : ∀ l : List ManaSource, (∀ unit ∈ l,
      unit.Plain ∧ unit.production.amount = 1) →
        netDeltas l = (l.length : Int) := by
    intro l hplain
    induction l with
    | nil => rfl
    | cons unit rest ih =>
        obtain ⟨⟨hunit, hone⟩, hothers⟩ := List.forall_mem_cons.mp hplain
        have hdelta : unit.production.netDelta.toInt = 1 := by
          rw [ManaProduction.netDelta, hunit.activationCost, hone]
          decide
        have hrest := ih hothers
        simp only [netDeltas, List.map_cons, List.sum_cons, hdelta,
          List.length_cons] at hrest ⊢
        omega
  have hall : units.filter ManaSource.usable = units :=
    List.filter_eq_self.mpr hfloats.usable
  rw [List.filter_append, hall, netDeltas_append, hunits units fun unit hunit =>
    ⟨hfloats.plain unit hunit, hfloats.one unit hunit⟩, length_units hfloats]

variable (hids : ((units ++ sources).map ManaSource.cardId).Nodup)
  (hfloats : Floats pool units)
  (hsums : ∀ color, potential (units ++ sources) color ≤ 255)
  (hpool : pool.amount < 256)

include hids hfloats hsums hpool

/-- The search pays the cost from units and sources exactly when it pays from
the sources what the pool leaves. -/
theorem tryGreedyPayment_units :
    (tryGreedyPayment cost (units ++ sources)).isSome ↔
      (tryGreedyPayment (cost.left pool) sources).isSome := by
  have hids' : (sources.map ManaSource.cardId).Nodup := by
    rw [List.map_append, List.nodup_append] at hids
    exact hids.2.1
  have htyped := @payAll_matched pool units sources {} {} cost
    hfloats hids _ (by decide : Color.all.Nodup) (fun _ _ => Iff.rfl)
    fun color _ n => untouched_units hfloats color n
  rw [← typedPhases_eq, ← typedPhases_eq] at htyped
  rw [GreedyManaResolver.tryGreedyPayment_isSome_iff_total hids fun _ hmem =>
      GreedyManaResolver.load_taps_typedPhases_le hsums hmem,
    GreedyManaResolver.tryGreedyPayment_isSome_iff_total hids' fun _ hmem =>
      GreedyManaResolver.load_taps_typedPhases_le
        (potential_sources_le hsums) hmem,
    htyped, funds_units hfloats]
  refine and_congr_right fun hsome => ?_
  obtain ⟨final, hpay⟩ := Option.isSome_iff_exists.mp hsome
  have hspent := GreedyManaResolver.funds_payAll_le hids'
    (fun _ hmem => GreedyManaResolver.producing_of_mem_typedPhases hmem) hpay
  have hrequired := GreedyManaResolver.required_typedPhases (cost.left pool)
  rw [ManaCost.total_eq_sum] at hrequired
  exact (left_total_le_iff hpool (by omega)).symm

end

theorem payAll_zero (sources : List ManaSource) {phases : List Phase}
    (hzero : ∀ phase ∈ phases, phase.required.toNat = 0)
    (state : GreedyState) : (payAll sources phases state).isSome := by
  induction phases generalizing state with
  | nil => rfl
  | cons phase rest ih =>
      obtain ⟨hfirst, hrest⟩ := List.forall_mem_cons.mp hzero
      rw [GreedyManaResolver.payAll_cons_isSome_iff, hfirst]
      exact ⟨Nat.zero_le _, ih hrest _⟩

/-- Nothing is always paid. -/
theorem tryGreedyPayment_zero {cost : ManaCost} {sources : List ManaSource}
    (hids : (sources.map ManaSource.cardId).Nodup)
    (hsums : ∀ color, potential sources color ≤ 255)
    (hzero : cost.total = 0) : (tryGreedyPayment cost sources).isSome := by
  refine (GreedyManaResolver.tryGreedyPayment_isSome_iff_total hids
    fun _ hmem => GreedyManaResolver.load_taps_typedPhases_le hsums hmem).mpr
      ⟨payAll_zero sources (fun phase hphase => ?_) {}, ?_⟩
  · rw [typedPhases_eq] at hphase
    obtain ⟨color, -, rfl⟩ := List.mem_map.mp hphase
    have hle := cost.amountOf_le color
    rw [of_required]
    omega
  · rw [hzero]
    exact Nat.zero_le _

/-- The net deltas of the sources and the mana in the pool reach the cost. -/
def Reaches (cost : ManaCost) (pool : ManaPool) (sources : List ManaSource) :
    Prop :=
  (cost.total : Int) ≤ ((pool.amount : Int) +
    netDeltas (sources.filter ManaSource.usable)).bmod 65536

/-- Alone, the pool must not be outweighed by negative deltas.  Otherwise the
resolver must see no difference between the deltas with and without the pool,
and the count of simple sources has to answer as the search does. -/
def CountsExactly (engine : ManaEngine) (cost : ManaCost) (pool : ManaPool) :
    Prop :=
  let rest := cost.left pool
  let payable := (tryGreedyPayment rest engine.manaSources).isSome = true
  if pool.isEmpty = false ∧ rest.total = 0 then
    Reaches cost pool engine.manaSources
  else if engine.useGreedyResolver then
    payable → (Reaches rest {} engine.manaSources ↔
      Reaches cost pool engine.manaSources)
  else
    engine.canPaySimple rest = true ↔
      payable ∧ Reaches cost pool engine.manaSources

/-- The combined question, without the machine integers. -/
theorem canPay_units {pool : ManaPool} {units sources : List ManaSource}
    {cost : ManaCost}
    (hids : ((units ++ sources).map ManaSource.cardId).Nodup)
    (hfloats : Floats pool units)
    (hsums : ∀ color, potential (units ++ sources) color ≤ 255)
    (hpool : pool.amount < 256) (hcost : cost.total < 256) :
    GreedyManaResolver.canPay cost (units ++ sources) = true ↔
      (tryGreedyPayment (cost.left pool) sources).isSome ∧
        Reaches cost pool sources := by
  rw [GreedyManaResolver.canPay, beq_iff_eq,
    GreedyManaResolver.checkPayment_eq_yes_iff,
    ← tryGreedyPayment_units hids hfloats hsums hpool, and_comm]
  refine and_congr_right fun hsome => ?_
  obtain ⟨tapOrder, hgreedy⟩ := Option.isSome_iff_exists.mp hsome
  obtain ⟨plan, hplan, -, hcovers⟩ :=
    GreedyManaResolver.tryGreedyPayment_sound hids hgreedy
  have hcolors : ¬ ∃ color, potential (units ++ sources) color % 256 <
      (cost.amountOf color).toNat := by
    rintro ⟨color, hlt⟩
    have hmade := produced_le_potential hids hplan color
    have hasked := hcovers.1 color
    have hsum := hsums color
    change (cost.amountOf color).toNat ≤ _ at hasked
    omega
  rw [Ne, boundsCheckPayment_eq_no_iff, or_iff_left hcolors, not_lt,
    netDeltas_units hfloats, Nat.min_eq_left (Nat.le_of_lt_succ hcost)]
  rfl

theorem canPayWithPool_eq {engine : ManaEngine} {cost : ManaCost}
    {pool : ManaPool} (hpool : pool.amount < 256) (hcost : cost.total < 256) :
    engine.canPayWithPool cost pool = true ↔
      (pool.isEmpty = false ∧ (cost.left pool).total = 0) ∨
        engine.canPay (cost.left pool) = true := by
  have hzero := left_total_eq_zero_iff hpool hcost
  have hlt := (@left_total_le pool cost hpool).trans_lt hcost
  have hcmc : (cost.left pool).cmc = 0 ↔ (cost.left pool).total = 0 := by
    rw [← UInt8.toNat_inj, ManaCost.cmc_toNat, Nat.mod_eq_of_lt hlt]
    rfl
  rw [ManaEngine.canPayWithPool]
  cases hempty : pool.isEmpty with
  | true =>
      have hleft : cost.left pool = cost := by
        rw [ManaCost.left, if_pos hempty]
      simp [hleft]
  | false =>
      have hleft : cost.left pool = cost.afterPool pool := by
        rw [ManaCost.left, hempty]
        rfl
      rw [hleft] at hzero hcmc ⊢
      by_cases hpaid : (cost.afterPool pool).total = 0
      · simp [hpaid, hzero.mp hpaid]
      · have hno : pool.canPay cost = false := by
          rw [← Bool.not_eq_true, ← hzero]
          exact hpaid
        simp [hpaid, hno, hcmc]

theorem floats_nil : Floats {} [] := by
  constructor
  · exact fun _ hunit => nomatch hunit
  · exact fun _ hunit => nomatch hunit
  · exact fun _ hunit => nomatch hunit
  · exact fun _ hunit => nomatch hunit
  · decide

end FloatingMana

end DeepScry
