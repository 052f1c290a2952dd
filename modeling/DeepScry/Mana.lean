/-
Mana colours, costs, pools and the production of a mana source.  A `u8` field
is a `UInt8`: `+` and `-` wrap, as the release profile compiles them.
-/
import DeepScry.Saturating
import DeepScry.Supply

namespace DeepScry

open Saturating Supply

inductive Color where
  | white
  | blue
  | black
  | red
  | green
  | colorless
deriving DecidableEq

/-- `Color::all_colors_and_colorless`. -/
def Color.all : List Color :=
  [.white, .blue, .black, .red, .green, .colorless]

instance : Fintype Color where
  elems := ⟨Color.all, by decide⟩
  complete := by
    intro color
    cases color <;> decide

instance : Inhabited Color := ⟨.white⟩

theorem Color.sum_univ (f : Color → Nat) :
    ∑ color, f color =
      f .white + f .blue + f .black + f .red + f .green + f .colorless := by
  change (Color.all.map f).sum = _
  simp only [Color.all, List.map_cons, List.map_nil, List.sum_cons,
    List.sum_nil]
  omega

/-- The five colours proper. -/
inductive ManaColor where
  | white
  | blue
  | black
  | red
  | green
deriving DecidableEq

namespace ManaColor

def all : List ManaColor := [.white, .blue, .black, .red, .green]

theorem mem_all (color : ManaColor) : color ∈ all := by
  cases color <;> decide

def toColor : ManaColor → Color
  | white => .white
  | blue => .blue
  | black => .black
  | red => .red
  | green => .green

theorem toColor_injective : Function.Injective toColor := by
  intro c d heq
  cases c <;> cases d <;> first | rfl | cases heq

theorem toColor_ne_colorless (color : ManaColor) :
    color.toColor ≠ .colorless := by
  cases color <;> decide

end ManaColor

/-- A set of colours, one bit each.  Every constructor of the source keeps the
three unused bits clear. -/
structure ManaColors where
  bits : UInt8
  valid : bits &&& 0x1F = bits
deriving DecidableEq

namespace ManaColors

def colorToBit : ManaColor → UInt8
  | .white => 1
  | .blue => 2
  | .black => 4
  | .red => 8
  | .green => 16

/-- `ManaColors::new`. -/
def empty : ManaColors := ⟨0, by decide⟩

/-- `ManaColors::with`. -/
def insert (set : ManaColors) (color : ManaColor) : ManaColors where
  bits := set.bits ||| colorToBit color
  valid := by
    have hbit : colorToBit color &&& 0x1F = colorToBit color := by
      cases color <;> decide
    have hdist : (set.bits ||| colorToBit color) &&& 0x1F =
        (set.bits &&& 0x1F) ||| (colorToBit color &&& 0x1F) := by
      rw [← UInt8.toBitVec_inj]
      simp [UInt8.toBitVec_and, UInt8.toBitVec_or, BitVec.and_or_distrib_right]
    rw [hdist, set.valid, hbit]

/-- `ManaColors::from_slice`. -/
def fromSlice (colors : List ManaColor) : ManaColors :=
  colors.foldl insert empty

def contains (set : ManaColors) (color : ManaColor) : Bool :=
  set.bits &&& colorToBit color != 0

def isEmpty (set : ManaColors) : Bool :=
  set.bits == 0

/-- `ManaColors::iter`: the members in WUBRG order. -/
def iter (set : ManaColors) : List ManaColor :=
  ManaColor.all.filter set.contains

/-- `ManaColors::len`: the number of one bits. -/
def len (set : ManaColors) : Nat :=
  ((List.range 8).filter fun i => set.bits.toBitVec.getLsbD i).length

theorem mem_iter (set : ManaColors) (color : ManaColor) :
    color ∈ set.iter ↔ set.contains color = true := by
  simp [iter, ManaColor.mem_all]

/-- With the unused bits clear, a nonempty set has a member. -/
theorem exists_contains_of_not_isEmpty {set : ManaColors}
    (hne : set.isEmpty = false) : ∃ color, set.contains color = true := by
  by_contra hnone
  have hzero : ∀ color, set.bits &&& colorToBit color = 0 := by
    intro color
    by_contra hbit
    exact hnone ⟨color, by simpa [contains] using hbit⟩
  have hmask : (0x1F : UInt8) = 1 ||| 2 ||| 4 ||| 8 ||| 16 := by decide
  have hor : ∀ x y z : UInt8, x &&& (y ||| z) = (x &&& y) ||| (x &&& z) := by
    intro x y z
    rw [← UInt8.toBitVec_inj]
    simp [BitVec.and_or_distrib_left]
  have hbits : set.bits = 0 := by
    have hwhite := hzero .white
    have hblue := hzero .blue
    have hblack := hzero .black
    have hred := hzero .red
    have hgreen := hzero .green
    simp only [colorToBit] at hwhite hblue hblack hred hgreen
    rw [← set.valid, hmask]
    simp only [hor, hwhite, hblue, hblack, hred, hgreen]
    decide
  simp [isEmpty, hbits] at hne

end ManaColors

/-- A mana cost; `xCount` is the number of X symbols, still unresolved. -/
structure ManaCost where
  generic : UInt8 := 0
  white : UInt8 := 0
  blue : UInt8 := 0
  black : UInt8 := 0
  red : UInt8 := 0
  green : UInt8 := 0
  colorless : UInt8 := 0
  xCount : UInt8 := 0
deriving DecidableEq, Repr

namespace ManaCost

/-- The requirement of one kind of mana. -/
def amountOf (cost : ManaCost) : Color → UInt8
  | .white => cost.white
  | .blue => cost.blue
  | .black => cost.black
  | .red => cost.red
  | .green => cost.green
  | .colorless => cost.colorless

/-- The converted cost, added up in a `u8`. -/
def cmc (cost : ManaCost) : UInt8 :=
  cost.generic + cost.white + cost.blue + cost.black + cost.red +
    cost.green + cost.colorless

def isAffordable (cost : ManaCost)
    (white blue black red green colorless : UInt8) : Bool :=
  if white < cost.white || blue < cost.blue || black < cost.black ||
      red < cost.red || green < cost.green || colorless < cost.colorless then
    false
  else
    white + blue + black + red + green + colorless ≥ cost.cmc

/-- The mana symbols of the cost, `X` first. -/
def display (cost : ManaCost) : String :=
  let symbols (count : UInt8) (symbol : String) : String :=
    String.join (List.replicate count.toNat symbol)
  symbols cost.xCount "X" ++
    (if 0 < cost.generic then toString cost.generic else "") ++
    symbols cost.white "W" ++ symbols cost.blue "U" ++
    symbols cost.black "B" ++ symbols cost.red "R" ++
    symbols cost.green "G" ++ symbols cost.colorless "C"

/-- What the cost asks for, without the width of its fields. -/
def demand (cost : ManaCost) : Demand Color where
  typed color := (cost.amountOf color).toNat
  wild := cost.generic.toNat

/-- The sum of all the pips, without wrapping. -/
def total (cost : ManaCost) : Nat := cost.demand.total

theorem total_eq (cost : ManaCost) :
    cost.total = cost.white.toNat + cost.blue.toNat + cost.black.toNat +
      cost.red.toNat + cost.green.toNat + cost.colorless.toNat +
      cost.generic.toNat := by
  simp [total, Demand.total, demand, Color.sum_univ, amountOf]

theorem cmc_toNat (cost : ManaCost) : cost.cmc.toNat = cost.total % 256 := by
  rw [total_eq]
  simp only [cmc, UInt8.toNat_add]
  omega

end ManaCost

structure ManaPool where
  white : UInt8 := 0
  blue : UInt8 := 0
  black : UInt8 := 0
  red : UInt8 := 0
  green : UInt8 := 0
  colorless : UInt8 := 0
deriving DecidableEq

namespace ManaPool

def canPay (pool : ManaPool) (cost : ManaCost) : Bool :=
  cost.isAffordable pool.white pool.blue pool.black pool.red pool.green
    pool.colorless

/-- What a payment of up to `need` leaves of a component, and of the need. -/
def spend (available need : UInt8) : UInt8 × UInt8 :=
  (available - min need available, need - min need available)

/-- Pay the coloured part, then the generic part from what is left, in the
order of the colours. -/
def payCost (pool : ManaPool) (cost : ManaCost) : Except String ManaPool :=
  if pool.canPay cost then
    let (white, need) := spend (pool.white - cost.white) cost.generic
    let (blue, need) := spend (pool.blue - cost.blue) need
    let (black, need) := spend (pool.black - cost.black) need
    let (red, need) := spend (pool.red - cost.red) need
    let (green, need) := spend (pool.green - cost.green) need
    let (colorless, _) := spend (pool.colorless - cost.colorless) need
    .ok ⟨white, blue, black, red, green, colorless⟩
  else
    .error ("Insufficient mana to pay cost " ++ cost.display ++
      ". Pool has: " ++ toString pool.white ++ "W " ++ toString pool.blue ++
      "U " ++ toString pool.black ++ "B " ++ toString pool.red ++ "R " ++
      toString pool.green ++ "G " ++ toString pool.colorless ++ "C")

/-- Total mana in the pool, added up in a `u8`. -/
def total (pool : ManaPool) : UInt8 :=
  pool.white + pool.blue + pool.black + pool.red + pool.green + pool.colorless

/-- `ManaPool::add_color`. -/
def addColor (pool : ManaPool) : Color → ManaPool
  | .white => { pool with white := pool.white + 1 }
  | .blue => { pool with blue := pool.blue + 1 }
  | .black => { pool with black := pool.black + 1 }
  | .red => { pool with red := pool.red + 1 }
  | .green => { pool with green := pool.green + 1 }
  | .colorless => { pool with colorless := pool.colorless + 1 }

def amountOf (pool : ManaPool) : Color → UInt8
  | .white => pool.white
  | .blue => pool.blue
  | .black => pool.black
  | .red => pool.red
  | .green => pool.green
  | .colorless => pool.colorless

def isEmpty (pool : ManaPool) : Bool := pool == {}

end ManaPool

/-- What is left of the cost after the mana in the pool: the colours first,
then the generic part. -/
def ManaCost.afterPool (cost : ManaCost) (pool : ManaPool) : ManaCost :=
  let unused (available need : UInt8) : UInt8 :=
    Saturating.sub8 available (min need available)
  let poolForGeneric := unused pool.white cost.white +
    unused pool.blue cost.blue + unused pool.black cost.black +
    unused pool.red cost.red + unused pool.green cost.green +
    unused pool.colorless cost.colorless
  { generic := Saturating.sub8 cost.generic poolForGeneric
    white := Saturating.sub8 cost.white pool.white
    blue := Saturating.sub8 cost.blue pool.blue
    black := Saturating.sub8 cost.black pool.black
    red := Saturating.sub8 cost.red pool.red
    green := Saturating.sub8 cost.green pool.green
    colorless := Saturating.sub8 cost.colorless pool.colorless }

/-- What a source can make, as an upper bound: `choice` is one of a set. -/
inductive ManaProductionKind where
  | fixed (color : ManaColor)
  | choice (colors : ManaColors)
  | anyColor
  | colorless
deriving DecidableEq

namespace ManaProductionKind

/-- Whether one activation may be chosen to make this kind of mana. -/
def makes : ManaProductionKind → Color → Bool
  | fixed c, color => color == c.toColor
  | choice colors, color => colors.iter.any fun c => color == c.toColor
  | anyColor, color => color != .colorless
  | colorless, color => color == .colorless

theorem makes_choice (colors : ManaColors) (c : ManaColor) :
    (choice colors).makes c.toColor = colors.contains c := by
  rw [Bool.eq_iff_iff]
  simp only [makes, List.any_eq_true, ManaColors.mem_iter, beq_iff_eq]
  constructor
  · rintro ⟨d, hd, heq⟩
    rwa [ManaColor.toColor_injective heq]
  · exact fun hc => ⟨c, hc, rfl⟩

end ManaProductionKind

/-- What activating the source costs besides mana. -/
inductive ManaSideCost where
  | none
  | utility
  | payLife (amount : UInt8)
  | sacrifice
deriving DecidableEq

namespace ManaSideCost

/-- The position in the derived order: free, utility, life, sacrifice. -/
def rank : ManaSideCost → Nat
  | .none => 0
  | utility => 1
  | payLife amount => 2 + amount.toNat
  | sacrifice => 258

def max (a b : ManaSideCost) : ManaSideCost :=
  if a.rank < b.rank then b else a

def min (a b : ManaSideCost) : ManaSideCost :=
  if b.rank < a.rank then b else a

end ManaSideCost

structure ManaProduction where
  kind : ManaProductionKind
  activationCost : Option ManaCost := .none
  amount : UInt8 := 1
  sideCost : ManaSideCost := .none
deriving DecidableEq

namespace ManaProduction

def sideCostScore (production : ManaProduction) : UInt16 :=
  match production.sideCost with
  | .none => 0
  | .utility => 5
  | .payLife n => min (mul16 20 n.toUInt16) 900
  | .sacrifice => 1000

/-- Production less activation cost, both cast to `i8`. -/
def netDelta (production : ManaProduction) : Int8 :=
  let produced := production.amount.toInt8
  let cost := match production.activationCost with
    | some cost => cost.cmc.toInt8
    | .none => 0
  produced - cost

def producesMana (production : ManaProduction) : Bool :=
  match production.kind with
  | .fixed _ => true
  | .choice colors => !colors.isEmpty
  | .anyColor => true
  | .colorless => true

/-- What one activation asks for. -/
def activationDemand (production : ManaProduction) : Demand Color :=
  match production.activationCost with
  | some cost => cost.demand
  | .none => ⟨fun _ => 0, 0⟩

theorem exists_makes_of_producesMana {production : ManaProduction}
    (hmakes : production.producesMana = true) :
    ∃ color, production.kind.makes color = true := by
  unfold producesMana at hmakes
  split at hmakes
  · next c hkind => exact ⟨c.toColor, by simp [hkind, ManaProductionKind.makes]⟩
  · next colors hkind =>
    rw [Bool.not_eq_true'] at hmakes
    obtain ⟨c, hc⟩ := ManaColors.exists_contains_of_not_isEmpty hmakes
    exact ⟨c.toColor, by rwa [hkind, ManaProductionKind.makes_choice]⟩
  · next hkind => exact ⟨.white, by simp [hkind, ManaProductionKind.makes]⟩
  · next hkind => exact ⟨.colorless, by simp [hkind, ManaProductionKind.makes]⟩

end ManaProduction

end DeepScry
