/-
The layers of power and toughness with all their parts, beside the sums that a
card keeps: when the two agree, and when a set base wins over an ability that
defines power and toughness.
-/
import DeepScry.PowerRange
import DeepScry.SelectorMeaning

namespace DeepScry

namespace PTBreakdown

/-- The layers without the one of the defining ability. -/
def withoutCda (breakdown : PTBreakdown) : PTBreakdown :=
  { breakdown with characteristicValue := none }

end PTBreakdown

namespace Stat

open CheckedInt8

/-- The sum as the layers compute it. -/
def wide (stat : Stat) : Int32 :=
  stat.base.toInt32 +
    (stat.bonus + (stat.plus.toUInt32.toInt32 - stat.minus.toUInt32.toInt32))

/-- The layers wrap the exact sum as well, in an `i32`. -/
theorem toInt_wide (stat : Stat) :
    stat.wide.toInt = stat.exact.bmod (2 ^ 32) := by
  have hcast : ∀ n : UInt8, n.toUInt32.toInt32.toInt = (n.toNat : Int) := by
    intro n
    have hn := n.toNat_lt
    have hword := BitVec.toInt_eq_toNat_bmod n.toUInt32.toBitVec
    change n.toUInt32.toInt32.toInt = (n.toUInt32.toNat : Int).bmod _ at hword
    rw [hword, UInt8.toNat_toUInt32]
    exact Int.bmod_eq_of_le (by omega) (by omega)
  simp only [wide, Int32.toInt_add, Int32.toInt_sub, hcast,
    Int8.toInt_toInt32, exact]
  simp only [Int.add_bmod_bmod]
  congr 1
  omega

theorem exact_bounds (stat : Stat) :
    -2147484031 ≤ stat.exact ∧ stat.exact ≤ 2147484029 := by
  have hbase := stat.base.toInt_lt
  have hbase' := stat.base.le_toInt
  have hplus := stat.plus.toNat_lt
  have hminus := stat.minus.toNat_lt
  have hbonus := stat.bonus.toInt_lt
  have hbonus' := stat.bonus.le_toInt
  simp only [exact]
  omega

/-- Both sums are the same exactly when the exact one fits an `i8`; it is never
so far out that the wider sum comes back. -/
theorem wide_eq_current_iff (stat : Stat) :
    stat.wide = stat.current.toInt32 ↔ Fits stat.exact := by
  have hbounds := stat.exact_bounds
  rw [← Int32.toInt_inj, toInt_wide, Int8.toInt_toInt32, toInt_current]
  simp only [Int.bmod_eq_emod, Fits]
  split <;> split <;> omega

end Stat

namespace Layers

/-- The value of a source of power or toughness, for a card. -/
def CdaPtSource.eval (game : GameState) (creature : Card) :
    CdaPtSource → Int32
  | .controllerLifeTotal =>
      ((game.players.find? fun player =>
        player.id == creature.controller).map (·.life)).getD 0
  | .allGraveyardCreatures modifier =>
      let count := (game.zones.playerZones.map fun entry =>
        (entry.2.graveyard.filter fun id =>
          (game.getCard id).any (·.isCreature)).length).sum
      modifier.apply
        (if count ≤ 2147483647 then Int32.ofNat count else Int32.maxValue)

/-- Power and toughness by a characteristic-defining ability. -/
def StaticAbility.cdaPt (game : GameState) (creature : Card) :
    StaticAbility → Option (Int32 × Int32)
  | .characteristicDefiningPt power toughness =>
      some (power.eval game creature, toughness.eval game creature)
  | _ => none

def StaticAbility.isOpalescenceStyle : StaticAbility → Bool
  | .opalescenceStyle => true
  | _ => false

section Concrete

variable (full : DeepScry.StaticAbility → StaticAbility)
  (effects : StaticEffects) (game : GameState)

/-- `calculate_cda_pt`, for a card that exists: the first defining ability. -/
def calculateCdaPt (creature : Card) : Option (Int32 × Int32) :=
  (statics full creature).findSome? (StaticAbility.cdaPt game creature)

/-- An enchantment other than an Aura, beside another permanent that makes
enchantments creatures. -/
def isOpalescenceCreature (card : Card) : Bool :=
  card.isEnchantment && !card.subtypes.contains "Aura" &&
    game.zones.battlefield.any fun id =>
      id != card.id && (game.getCard id).any fun source =>
        (statics full source).any StaticAbility.isOpalescenceStyle

def opalescencePt (card : Card) : Option Int32 :=
  if isOpalescenceCreature full game card then
    some card.manaCost.cmc.toUInt32.toInt32
  else none

/-- The layers of one game with nothing left open but the table that counts
cards and grants keywords. -/
def layers : StaticEffects :=
  { effects with
    calculateCdaPt := fun _ id =>
      (game.getCard id).map (calculateCdaPt full game)
    opalescencePt := fun _ card => opalescencePt full game card
    calculateModifyptEffects := fun _ id =>
      (game.getCard id).bind
        (calculateModifyptEffects full effects game id) }

/-- `get_pt_breakdown`. -/
def getPtBreakdown (creatureId : CardId) : Option PTBreakdown :=
  game.getPtBreakdown (layers full effects game) creatureId

/-- What one source contributes. -/
def contributionsOf (creatureId : CardId) (creature : Card)
    (sourceId : CardId) : List (Int32 × Int32) :=
  match game.getCard sourceId with
  | none => []
  | some source =>
      let p : Pairing := { game, creatureId, sourceId, creature, source }
      (statics full source).filterMap (p.modifyPtBonus effects)

def addBonus (sum bonus : Int32 × Int32) : Int32 × Int32 :=
  (sum.1 + bonus.1, sum.2 + bonus.2)

/-- What all sources contribute. -/
def totalBonus (creatureId : CardId) (creature : Card) : Int32 × Int32 :=
  ((sources game).flatMap (contributionsOf full effects game creatureId
    creature)).foldl addBonus (0, 0)

/-- The layers of a card of the game. -/
def breakdownOf (creatureId : CardId) (creature : Card) : PTBreakdown where
  base := (creature.powerStat.base.toInt32, creature.toughnessStat.base.toInt32)
  characteristicValue := calculateCdaPt full game creature
  setptValue := (opalescencePt full game creature).map fun v => (v, v)
  modifyptEffects :=
    ((totalBonus full effects game creatureId creature).1 + creature.powerBonus,
      (totalBonus full effects game creatureId creature).2 +
        creature.toughnessBonus)
  modifyptCounters := GameState.modifyptCounters creature
  isSwitched := false

/-- Every permanent is a card of the game. -/
def Known : Prop :=
  ∀ id ∈ game.zones.battlefield, (game.getCard id).isSome

/-- No layer but the one of bonuses and counters is about the creature. -/
structure Undisturbed (creatureId : CardId) (creature : Card) : Prop where
  cda : ∀ power toughness,
    .characteristicDefiningPt power toughness ∉ statics full creature
  opalescence : isOpalescenceCreature full game creature = false
  modifyPt : ∀ sourceId ∈ sources game, ∀ source,
    game.getCard sourceId = some source → ∀ ability ∈ statics full source,
      let p : Pairing := { game, creatureId, sourceId, creature, source }
      ¬p.Contributes effects ability

variable {full effects game}

theorem addSource_eq (hknown : Known game) {sourceId : CardId}
    (creatureId : CardId) (creature : Card) (sum : Int32 × Int32) :
    addSource full effects game creatureId creature sum sourceId =
      some ((contributionsOf full effects game creatureId creature
        sourceId).foldl addBonus sum) := by
  unfold addSource contributionsOf
  cases hsource : game.getCard sourceId with
  | none =>
      have hmissing : sourceId ∉ game.zones.battlefield := by
        intro hmem
        simpa [hsource] using hknown sourceId hmem
      simp [hmissing]
  | some source =>
      simp only [List.foldl_filterMap, Option.some.injEq]
      congr 1
      funext sum ability
      cases Pairing.modifyPtBonus effects _ ability <;> rfl

/-- A scan adds up all contributions. -/
theorem foldlM_addSource (hknown : Known game) (creatureId : CardId)
    (creature : Card) (ids : List CardId) (sum : Int32 × Int32) :
    ids.foldlM (addSource full effects game creatureId creature) sum =
      some ((ids.flatMap (contributionsOf full effects game creatureId
        creature)).foldl addBonus sum) := by
  induction ids generalizing sum with
  | nil => rfl
  | cons id rest ih =>
      simp [addSource_eq hknown, ih, List.foldl_append]

/-- The bonuses of the layers are the sum of what every source contributes. -/
theorem calculateModifyptEffects_eq (hknown : Known game)
    (creatureId : CardId) (creature : Card) :
    calculateModifyptEffects full effects game creatureId creature =
      some (totalBonus full effects game creatureId creature) :=
  foldlM_addSource hknown creatureId creature (sources game) (0, 0)

/-- A defining ability is read exactly when the card has one. -/
theorem calculateCdaPt_eq_none (creature : Card) :
    calculateCdaPt full game creature = none ↔
      ∀ power toughness,
        .characteristicDefiningPt power toughness ∉
          statics full creature := by
  simp only [calculateCdaPt, List.findSome?_eq_none_iff]
  constructor
  · intro hnone power toughness hmem
    simpa [StaticAbility.cdaPt] using hnone _ hmem
  · intro hnone ability hmem
    cases ability with
    | characteristicDefiningPt power toughness =>
        exact absurd hmem (hnone power toughness)
    | _ => rfl

variable {creatureId : CardId} {creature : Card}

/-- Nothing is added to an undisturbed creature. -/
theorem Undisturbed.totalBonus
    (hundisturbed : Undisturbed full effects game creatureId creature) :
    totalBonus full effects game creatureId creature = (0, 0) := by
  have hnone : (sources game).flatMap
      (contributionsOf full effects game creatureId creature) = [] := by
    rw [List.flatMap_eq_nil_iff]
    intro sourceId hmem
    unfold contributionsOf
    cases hsource : game.getCard sourceId with
    | none => rfl
    | some source =>
        rw [List.filterMap_eq_nil_iff]
        intro ability hability
        have hsilent := hundisturbed.modifyPt sourceId hmem source hsource
          ability hability
        simpa [Pairing.Contributes] using hsilent
  rw [Layers.totalBonus, hnone]
  rfl

/-- Where all permanents are known the layers of a creature are found. -/
theorem getPtBreakdown_eq (hknown : Known game)
    (hcreature : game.getCard creatureId = some creature) :
    getPtBreakdown full effects game creatureId =
      some (breakdownOf full effects game creatureId creature) := by
  simp [getPtBreakdown, GameState.getPtBreakdown, layers, hcreature,
    calculateModifyptEffects_eq hknown, breakdownOf, Card.powerStat,
    Card.toughnessStat]

/-- The final power and toughness are the sum of the card when no other layer
is about it. -/
theorem Undisturbed.finalPt
    (hundisturbed : Undisturbed full effects game creatureId creature) :
    (breakdownOf full effects game creatureId creature).finalPt =
      (creature.powerStat.wide, creature.toughnessStat.wide) := by
  have hcda : calculateCdaPt full game creature = none :=
    (calculateCdaPt_eq_none creature).mpr hundisturbed.cda
  simp [breakdownOf, PTBreakdown.finalPt, hcda, opalescencePt,
    hundisturbed.opalescence, hundisturbed.totalBonus, Stat.wide,
    GameState.modifyptCounters, Card.powerStat, Card.toughnessStat]

/-- The defining ability changes nothing where the set value of Opalescence
replaces it or its value is the base. -/
theorem power_withoutCda_iff :
    (breakdownOf full effects game creatureId creature).power =
        (breakdownOf full effects game creatureId creature).withoutCda.power ↔
      isOpalescenceCreature full game creature ∨
        ∀ cda, calculateCdaPt full game creature = some cda →
          cda.1 = creature.powerStat.base.toInt32 := by
  cases hset : isOpalescenceCreature full game creature <;>
    cases hcda : calculateCdaPt full game creature <;>
    simp [PTBreakdown.power, PTBreakdown.withoutCda, PTBreakdown.finalPt,
      breakdownOf, opalescencePt, hset, hcda]

theorem toughness_withoutCda_iff :
    (breakdownOf full effects game creatureId creature).toughness =
        (breakdownOf full effects game creatureId
          creature).withoutCda.toughness ↔
      isOpalescenceCreature full game creature ∨
        ∀ cda, calculateCdaPt full game creature = some cda →
          cda.2 = creature.toughnessStat.base.toInt32 := by
  cases hset : isOpalescenceCreature full game creature <;>
    cases hcda : calculateCdaPt full game creature <;>
    simp [PTBreakdown.toughness, PTBreakdown.withoutCda, PTBreakdown.finalPt,
      breakdownOf, opalescencePt, hset, hcda]

variable (full effects game creatureId creature)

/-- The layers agree with the sums of the card where they should, and a set
base takes precedence over a defining ability: leaving the ability out changes
nothing. -/
structure PtAgree (breakdown : PTBreakdown) : Prop where
  current : Undisturbed full effects game creatureId creature →
    breakdown.finalPt =
      (creature.currentPower.toInt32, creature.currentToughness.toInt32)
  power : creature.tempBasePower.isSome →
    breakdown.power = breakdown.withoutCda.power
  toughness : creature.tempBaseToughness.isSome →
    breakdown.toughness = breakdown.withoutCda.toughness

/-- The sums of an undisturbed creature fit an `i8`, and a set base meets no
defining ability of another value, unless Opalescence sets both. -/
structure PtPlain : Prop where
  fits : Undisturbed full effects game creatureId creature →
    CheckedInt8.Fits creature.powerStat.exact ∧
      CheckedInt8.Fits creature.toughnessStat.exact
  power : ∀ base, creature.tempBasePower = some base →
    isOpalescenceCreature full game creature ∨
      ∀ cda, calculateCdaPt full game creature = some cda →
        cda.1 = base.toInt32
  toughness : ∀ base, creature.tempBaseToughness = some base →
    isOpalescenceCreature full game creature ∨
      ∀ cda, calculateCdaPt full game creature = some cda →
        cda.2 = base.toInt32

variable {full effects game creatureId creature}

/-- The layers of a creature are found, and they are as they should be exactly
when its sums fit and no defining ability overrides a set base. -/
theorem ptAgree_iff (hknown : Known game)
    (hcreature : game.getCard creatureId = some creature) :
    ∃ breakdown,
      getPtBreakdown full effects game creatureId = some breakdown ∧
      (PtAgree full effects game creatureId creature breakdown ↔
        PtPlain full effects game creatureId creature) := by
  refine ⟨_, getPtBreakdown_eq hknown hcreature, ?_⟩
  constructor
  · intro hagree
    constructor
    · intro hundisturbed
      have hcurrent := hagree.current hundisturbed
      rw [hundisturbed.finalPt, Prod.mk.injEq, Card.currentPower_eq,
        Card.currentToughness_eq] at hcurrent
      exact ⟨(Stat.wide_eq_current_iff _).mp hcurrent.1,
        (Stat.wide_eq_current_iff _).mp hcurrent.2⟩
    · intro base hbase
      have hpower := hagree.power (by simp [hbase])
      rw [power_withoutCda_iff] at hpower
      simpa [Card.powerStat, hbase] using hpower
    · intro base hbase
      have htoughness := hagree.toughness (by simp [hbase])
      rw [toughness_withoutCda_iff] at htoughness
      simpa [Card.toughnessStat, hbase] using htoughness
  · intro hplain
    constructor
    · intro hundisturbed
      rcases hplain.fits hundisturbed with ⟨hpower, htoughness⟩
      rw [hundisturbed.finalPt, Card.currentPower_eq, Card.currentToughness_eq,
        (Stat.wide_eq_current_iff _).mpr hpower,
        (Stat.wide_eq_current_iff _).mpr htoughness]
    · intro hset
      rcases Option.isSome_iff_exists.mp hset with ⟨base, hbase⟩
      rw [power_withoutCda_iff]
      simpa [Card.powerStat, hbase] using hplain.power base hbase
    · intro hset
      rcases Option.isSome_iff_exists.mp hset with ⟨base, hbase⟩
      rw [toughness_withoutCda_iff]
      simpa [Card.toughnessStat, hbase] using hplain.toughness base hbase

end Concrete

/-- A game with one permanent and a player at twenty life. -/
def lonePermanent (card : Card) : GameState where
  cards := ⟨[some card]⟩
  players := [{ id := ⟨0⟩ }]
  zones := { battlefield := [⟨0⟩] }
  turn := { activePlayer := ⟨0⟩ }

theorem lonePermanent_known (card : Card) : Known (lonePermanent card) := by
  intro id hmem
  rw [List.mem_singleton.mp hmem]
  rfl

/-- A permanent without static abilities is undisturbed by itself. -/
theorem lonePermanent_undisturbed
    (full : DeepScry.StaticAbility → StaticAbility) (effects : StaticEffects)
    {card : Card}
    (hstatics : card.staticAbilities = []) :
    Undisturbed full effects (lonePermanent card) ⟨0⟩ card := by
  constructor
  · simp [statics, hstatics]
  · have hsource : (lonePermanent card).getCard ⟨0⟩ = some card := rfl
    have hfield : (lonePermanent card).zones.battlefield = [⟨0⟩] := rfl
    simp [isOpalescenceCreature, hfield, hsource, statics, hstatics]
  · intro sourceId hmem source hsource ability hability
    have hid : sourceId = ⟨0⟩ := List.mem_singleton.mp hmem
    subst hid
    cases hsource
    simp [statics, hstatics] at hability

/-- A decoder of static abilities that knows one defining ability: power and
toughness are the life of the controller. -/
def lifeDecoder : DeepScry.StaticAbility → StaticAbility := fun _ =>
  .characteristicDefiningPt .controllerLifeTotal .controllerLifeTotal

/-- A two-power, two-toughness creature alone is as it should be. -/
theorem ptAgree_twoTwo :
    ∃ breakdown,
      getPtBreakdown lifeDecoder GameState.noEffects
          (lonePermanent (Card.twoTwoWith 0)) ⟨0⟩ = some breakdown ∧
        PtAgree lifeDecoder GameState.noEffects
          (lonePermanent (Card.twoTwoWith 0)) ⟨0⟩ (Card.twoTwoWith 0)
          breakdown := by
  have hcard : (lonePermanent (Card.twoTwoWith 0)).getCard ⟨0⟩ =
      some (Card.twoTwoWith 0) := rfl
  have hlone : ∃ breakdown,
      getPtBreakdown lifeDecoder GameState.noEffects
          (lonePermanent (Card.twoTwoWith 0)) ⟨0⟩ = some breakdown ∧
        (PtAgree lifeDecoder GameState.noEffects
            (lonePermanent (Card.twoTwoWith 0)) ⟨0⟩ (Card.twoTwoWith 0)
            breakdown ↔
          PtPlain lifeDecoder GameState.noEffects
            (lonePermanent (Card.twoTwoWith 0)) ⟨0⟩ (Card.twoTwoWith 0)) :=
    ptAgree_iff (lonePermanent_known _) hcard
  rcases hlone with ⟨breakdown, hfound, hiff⟩
  refine ⟨breakdown, hfound, hiff.mpr ⟨fun _ => by decide, ?_, ?_⟩⟩
  · intro base hbase
    cases hbase
  · intro base hbase
    cases hbase

/-- A creature whose power and toughness are the life of its controller, made
a zero-power, one-toughness creature for the turn. -/
def animatedAvatar : Card where
  id := ⟨0⟩
  owner := ⟨0⟩
  controller := ⟨0⟩
  types := [.creature]
  tempBasePower := some 0
  tempBaseToughness := some 1
  staticAbilities := [.other 0]
  definition := { cache := { isCreature := true } }

/-- With 126 plus counters the sum of the card turns negative, and a creature
set to zero power and one toughness keeps the twenty of its defining
ability. -/
theorem not_ptAgree_instances :
    (∃ breakdown,
      getPtBreakdown lifeDecoder GameState.noEffects
          (lonePermanent (Card.twoTwoWith 126)) ⟨0⟩ = some breakdown ∧
        breakdown.finalPt = (128, 128) ∧
        ¬PtAgree lifeDecoder GameState.noEffects
          (lonePermanent (Card.twoTwoWith 126)) ⟨0⟩ (Card.twoTwoWith 126)
          breakdown) ∧
    ∃ breakdown,
      getPtBreakdown lifeDecoder GameState.noEffects
          (lonePermanent animatedAvatar) ⟨0⟩ = some breakdown ∧
        breakdown.finalPt = (20, 20) ∧
        ¬PtAgree lifeDecoder GameState.noEffects
          (lonePermanent animatedAvatar) ⟨0⟩ animatedAvatar breakdown := by
  constructor
  · refine ⟨_, rfl, by decide, ?_⟩
    intro hagree
    have hcurrent := hagree.current
      (lonePermanent_undisturbed lifeDecoder GameState.noEffects (by decide))
    exact absurd hcurrent (by decide)
  · refine ⟨_, rfl, by decide, ?_⟩
    intro hagree
    exact absurd (hagree.power rfl) (by decide)

end Layers

end DeepScry
