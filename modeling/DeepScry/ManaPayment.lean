/-
The mana payment solver: the shared bounds check and the greedy resolver.  All
three tapping loops of the resolver sort the candidates by a score and tap
until the amount is reached, so they share one definition here.
-/
import DeepScry.Mana
import DeepScry.Types
import Mathlib.Data.List.Sort

namespace DeepScry

open Saturating Supply

inductive PaymentResult where
  | yes
  | no
  | maybe
deriving DecidableEq

structure ManaSource where
  cardId : CardId
  production : ManaProduction
  isTapped : Bool := false
  hasSummoningSickness : Bool := false
deriving DecidableEq

/-- Neither tapped nor summoning-sick. -/
def ManaSource.usable (source : ManaSource) : Bool :=
  !(source.isTapped || source.hasSummoningSickness)

/-- The running totals of the bounds check.  `min` counts what is guaranteed,
`max` what is possible; both wrap, `flexibleSources` saturates. -/
structure PaymentBounds where
  availableDelta : Int16 := 0
  min : Color → UInt8 := fun _ => 0
  max : Color → UInt8 := fun _ => 0
  flexibleSources : UInt8 := 0

/-- `counts[color] += n`. -/
def bump (counts : Color → UInt8) (color : Color) (n : UInt8) :
    Color → UInt8 :=
  Function.update counts color (counts color + n)

/-- `counts[color] += n` for every listed colour. -/
def bumpAll (counts : Color → UInt8) (colors : List ManaColor) (n : UInt8) :
    Color → UInt8 :=
  colors.foldl (fun counts color => bump counts color.toColor n) counts

def PaymentBounds.addSource (bounds : PaymentBounds) (source : ManaSource) :
    PaymentBounds :=
  if source.isTapped || source.hasSummoningSickness then bounds
  else
    let n := source.production.amount
    let delta := bounds.availableDelta + source.production.netDelta.toInt16
    match source.production.kind with
    | .fixed color =>
        { bounds with
          availableDelta := delta
          min := bump bounds.min color.toColor n
          max := bump bounds.max color.toColor n }
    | .colorless =>
        { bounds with
          availableDelta := delta
          min := bump bounds.min .colorless n
          max := bump bounds.max .colorless n }
    | .choice colors =>
        { bounds with
          availableDelta := delta
          max := bumpAll bounds.max colors.iter n
          flexibleSources := add8 bounds.flexibleSources n }
    | .anyColor =>
        { bounds with
          availableDelta := delta
          max := bumpAll bounds.max ManaColor.all n
          flexibleSources := add8 bounds.flexibleSources n }

def paymentBounds (sources : List ManaSource) : PaymentBounds :=
  sources.foldl PaymentBounds.addSource {}

/-- All the pips of a cost, saturating. -/
def ManaCost.needed (cost : ManaCost) : UInt8 :=
  add8 (add8 (add8 (add8 (add8 (add8 cost.white cost.blue) cost.black)
    cost.red) cost.green) cost.colorless) cost.generic

def boundsCheckPayment (cost : ManaCost) (sources : List ManaSource) :
    PaymentResult :=
  let bounds := paymentBounds sources
  if bounds.availableDelta < cost.needed.toUInt16.toInt16 then .no
  else if cost.white > bounds.max .white || cost.blue > bounds.max .blue ||
      cost.black > bounds.max .black || cost.red > bounds.max .red ||
      cost.green > bounds.max .green ||
      cost.colorless > bounds.max .colorless then .no
  else
    let totalExcess := sub8 (bounds.min .white) cost.white +
      sub8 (bounds.min .blue) cost.blue + sub8 (bounds.min .black) cost.black +
      sub8 (bounds.min .red) cost.red + sub8 (bounds.min .green) cost.green +
      sub8 (bounds.min .colorless) cost.colorless
    let availableForGeneric := bounds.flexibleSources + totalExcess
    if bounds.min .white ≥ cost.white && bounds.min .blue ≥ cost.blue &&
        bounds.min .black ≥ cost.black && bounds.min .red ≥ cost.red &&
        bounds.min .green ≥ cost.green &&
        bounds.min .colorless ≥ cost.colorless &&
        availableForGeneric ≥ cost.generic then .yes
    else .maybe

namespace GreedyManaResolver

def canProduceColor (production : ManaProduction) (color : ManaColor) : Bool :=
  match production.kind with
  | .fixed c => c == color
  | .choice colors => colors.contains color
  | .anyColor => true
  | .colorless => false

def scoreForColor (production : ManaProduction) (color : ManaColor) : UInt16 :=
  let kindScore : UInt16 := match production.kind with
    | .fixed c => if c == color then 0 else 65535
    | .choice colors =>
        if colors.contains color then UInt16.ofNat colors.len else 65535
    | .anyColor => 100
    | .colorless => 65535
  add16 production.sideCostScore kindScore

def genericScore (production : ManaProduction) : UInt16 :=
  let score := production.sideCostScore
  let score :=
    if production.amount > 1 then
      add16 score ((production.amount - 1).toUInt16 * 2)
    else score
  let kindBias : UInt16 := match production.kind with
    | .fixed _ => 0
    | .colorless => 0
    | .choice colors => UInt16.ofNat colors.len
    | .anyColor => 4
  add16 score kindBias

/-- Tap scored candidates in order until `amount` is reached. -/
def tapCandidates (amount : UInt8) :
    List (ManaSource × UInt16) → List CardId → UInt8 → List CardId × UInt8
  | [], tapOrder, tapped => (tapOrder, tapped)
  | (source, _) :: rest, tapOrder, tapped =>
      if tapped ≥ amount then (tapOrder, tapped)
      else tapCandidates amount rest (tapOrder ++ [source.cardId])
        (add8 tapped source.production.amount)

/-- The sources a tapping loop may still use. -/
def candidates (eligible : ManaProduction → Bool) (sources : List ManaSource)
    (tapOrder : List CardId) : List ManaSource :=
  sources.filter fun source =>
    !source.isTapped && !source.hasSummoningSickness &&
      !tapOrder.contains source.cardId && eligible source.production

/-- One tapping loop: collect, sort by score (stably), tap.  The result is the
longer tap order with the mana tapped, when that suffices. -/
def tapSources (eligible : ManaProduction → Bool)
    (score : ManaProduction → UInt16) (sources : List ManaSource)
    (tapOrder : List CardId) (amount : UInt8) :
    Option (List CardId × UInt8) :=
  let scored := (candidates eligible sources tapOrder).map fun source =>
    (source, score source.production)
  let sorted := scored.insertionSort fun a b => a.2 ≤ b.2
  let result := tapCandidates amount sorted tapOrder 0
  if result.2 ≥ amount then some result else none

def tapForColor (sources : List ManaSource) (tapOrder : List CardId)
    (color : ManaColor) (amount : UInt8) : Option (List CardId × UInt8) :=
  tapSources (fun production => canProduceColor production color)
    (fun production => scoreForColor production color) sources tapOrder amount

/-- The colorless loop, written inline in the source. -/
def tapForColorless (sources : List ManaSource) (tapOrder : List CardId)
    (amount : UInt8) : Option (List CardId × UInt8) :=
  tapSources (fun production => production.kind == .colorless) genericScore
    sources tapOrder amount

def tapForGeneric (sources : List ManaSource) (tapOrder : List CardId)
    (amount : UInt8) : Option (List CardId × UInt8) :=
  tapSources ManaProduction.producesMana genericScore sources tapOrder amount

/-- The tap list and the surplus banked for the generic phase. -/
structure GreedyState where
  tapOrder : List CardId := []
  extraGeneric : UInt8 := 0
deriving DecidableEq

/-- One phase: nothing when nothing is required, else tap and bank the
surplus. -/
def payPhase
    (tap : List CardId → UInt8 → Option (List CardId × UInt8))
    (required : UInt8) (state : GreedyState) : Option GreedyState :=
  if required > 0 then
    match tap state.tapOrder required with
    | some (tapOrder, tapped) =>
        some ⟨tapOrder, add8 state.extraGeneric (sub8 tapped required)⟩
    | none => none
  else some state

def payColor (sources : List ManaSource) (color : ManaColor)
    (required : UInt8) (state : GreedyState) : Option GreedyState :=
  payPhase (fun tapOrder => tapForColor sources tapOrder color) required state

def tryGreedyPayment (cost : ManaCost) (sources : List ManaSource) :
    Option (List CardId) := do
  let state ← payColor sources .white cost.white {}
  let state ← payColor sources .blue cost.blue state
  let state ← payColor sources .black cost.black state
  let state ← payColor sources .red cost.red state
  let state ← payColor sources .green cost.green state
  let state ← payPhase (tapForColorless sources) cost.colorless state
  let generic := cost.generic - min cost.generic state.extraGeneric
  if generic > 0 then
    let result ← tapForGeneric sources state.tapOrder generic
    some result.1
  else some state.tapOrder

/-- The verdict and the output buffer, which is left alone unless the greedy
search succeeds. -/
def checkPayment (cost : ManaCost) (sources : List ManaSource)
    (tapOrderOut : Option (List CardId)) :
    PaymentResult × Option (List CardId) :=
  match boundsCheckPayment cost sources with
  | .no => (.no, tapOrderOut)
  | .yes | .maybe =>
      match tryGreedyPayment cost sources with
      | some tapOrder => (.yes, tapOrderOut.map fun _ => tapOrder)
      | none => (.maybe, tapOrderOut)

def canPay (cost : ManaCost) (sources : List ManaSource) : Bool :=
  (checkPayment cost sources none).1 == .yes

/-- The tap order, when the solver finds one. -/
def computeTapOrder (cost : ManaCost) (sources : List ManaSource) :
    Option (List CardId) :=
  match checkPayment cost sources (some []) with
  | (.yes, tapOrderOut) => tapOrderOut
  | _ => none

end GreedyManaResolver

end DeepScry
