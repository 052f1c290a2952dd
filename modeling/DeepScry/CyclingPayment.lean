/-
Paying for cycling.  The pool and the sources are asked one by one whether
they cover the cost, and the sources are tapped whenever they do.
-/
import DeepScry.AbilityCost
import DeepScry.CastingCharge
import DeepScry.ManaEngine
import DeepScry.PoolPayment

namespace DeepScry

/-- A source that was tapped, with the pool before and after it. -/
structure ManaTap where
  source : CardId
  before : ManaPool
  after : ManaPool

namespace ManaTap

/-- What the source produced: the components that grew. -/
def produced (tap : ManaTap) : Nat :=
  ∑ color, ((tap.after.amountOf color).toNat -
    (tap.before.amountOf color).toNat)

/-- What went missing: the components that shrank. -/
def lost (tap : ManaTap) : Nat :=
  ∑ color, ((tap.before.amountOf color).toNat -
    (tap.after.amountOf color).toNat)

theorem balance (tap : ManaTap) :
    tap.after.amount + tap.lost = tap.before.amount + tap.produced := by
  rw [ManaPool.amount_eq_sum, ManaPool.amount_eq_sum, lost, produced,
    ← Finset.sum_add_distrib, ← Finset.sum_add_distrib]
  refine Finset.sum_congr rfl fun color _ => ?_
  omega

end ManaTap

/-- The payment of one cycling: the sources to tap, and, once they are all
tapped, what they gave, and the game with the result. -/
structure CyclingPayment where
  sources : List CardId
  taps : List ManaTap
  outcome : Outcome Unit

namespace GameState

def regularPool (game : GameState) (player : PlayerId) : ManaPool :=
  ((game.getPlayer player).map Player.manaPool).getD {}

/-- The pool alone covers the cost. -/
def poolCanPay (game : GameState) (player : PlayerId) (cost : ManaCost) :
    Bool :=
  (game.getPlayer player).any fun p => p.manaPool.canPay cost

end GameState

namespace CastingMethods

variable (methods : CastingMethods)

/-- Tap one source after the other; errors are only logged. -/
def tapForCycling (player : PlayerId) :
    List CardId → ManaCost → GameState → List ManaTap × Option GameState
  | [], _, game => ([], some game)
  | source :: rest, hint, game =>
      match methods.tapForManaAndUpdateHint game player source hint with
      | none => ([], none)
      | some (tapped, result) =>
          let hint := match result with
            | .ok left => left
            | .error _ => hint
          let tap : ManaTap :=
            ⟨source, game.regularPool player, tapped.regularPool player⟩
          let (taps, after) := tapForCycling player rest hint tapped
          (tap :: taps, after)

/-- The payment in the arm of `SpellAbility::Cycle`. -/
def payCycling (player : PlayerId) (cost : ManaCost) (engine : ManaEngine)
    (game : GameState) : CyclingPayment :=
  let (game, engine) := engine.updateMut game.message player
  let poolCanPay := game.poolCanPay player cost
  let tapOrder := GreedyManaResolver.computeTapOrder cost engine.manaSources
  if !poolCanPay && tapOrder.isNone then
    ⟨[], [], .error game.message (.invalidAction "cannot pay cost")⟩
  else
    let sources := tapOrder.getD []
    match methods.tapForCycling player sources cost game with
    | (taps, none) => ⟨sources, taps, none⟩
    | (taps, some tapped) => ⟨sources, taps, tapped.payMana player cost⟩

end CastingMethods

/-- The payment pays as casting does: it succeeds just when the pool and the
sources together cover the cost, taps nothing for a cost that the pool covers,
and loses no mana. -/
structure CyclingPayment.LikeCasting (payment : CyclingPayment)
    (player : PlayerId) (cost : ManaCost) (engine : ManaEngine)
    (game : GameState) : Prop where
  succeeds : (∃ after, payment.outcome = .ok after ()) ↔
    engine.canPayWithPool cost (game.regularPool player)
  spares : game.poolCanPay player cost → payment.sources = []
  balances : ∀ after, payment.outcome = .ok after () →
    (after.regularPool player).amount + cost.total =
      (game.regularPool player).amount +
        (payment.taps.map ManaTap.produced).sum

namespace CastingMethods

variable (methods : CastingMethods)

/-- The sources that are found for the whole cost. -/
def cyclingSources (cost : ManaCost) (engine : ManaEngine) : List CardId :=
  (GreedyManaResolver.computeTapOrder cost engine.manaSources).getD []

/-- A cost that the pool covers has no sources, a cost without sources is
covered by the pool or not payable at all, the sources of any other cost give
what it needs just when it is payable, and no mana is lost. -/
structure CoverApart (player : PlayerId) (cost : ManaCost)
    (engine : ManaEngine) (game : GameState) : Prop where
  spares : game.poolCanPay player cost → cyclingSources cost engine = []
  unmixed : cyclingSources cost engine = [] →
    (game.poolCanPay player cost ↔
      engine.canPayWithPool cost (game.regularPool player))
  delivers : cyclingSources cost engine ≠ [] →
    ((∃ tapped, (methods.tapForCycling player
          (cyclingSources cost engine) cost game).2 = some tapped ∧
        tapped.poolCanPay player cost) ↔
      engine.canPayWithPool cost (game.regularPool player))
  lossless : ∀ tapped, (methods.tapForCycling player
      (cyclingSources cost engine) cost game).2 = some tapped →
    tapped.poolCanPay player cost →
      cost.total - (tapped.regularPool player).amount =
        ((methods.tapForCycling player (cyclingSources cost engine) cost
          game).1.map ManaTap.lost).sum

theorem CoverApart.agrees {player : PlayerId} {cost : ManaCost}
    {engine : ManaEngine} {game : GameState}
    (hapart : methods.CoverApart player cost engine game) :
    (∃ tapped, (methods.tapForCycling player
        (cyclingSources cost engine) cost game).2 = some tapped ∧
      tapped.poolCanPay player cost) ↔
    engine.canPayWithPool cost (game.regularPool player) := by
  by_cases hnone : cyclingSources cost engine = []
  · rw [← hapart.unmixed hnone, hnone]
    simp [tapForCycling]
  · exact hapart.delivers hnone

/-- Whatever the sources do, the taps tell how the pool has changed. -/
theorem tapForCycling_balance {player : PlayerId} {sources : List CardId}
    {hint : ManaCost} {game after : GameState}
    (hafter : (methods.tapForCycling player sources hint game).2 =
      some after) :
    (after.regularPool player).amount +
        ((methods.tapForCycling player sources hint game).1.map
          ManaTap.lost).sum =
      (game.regularPool player).amount +
        ((methods.tapForCycling player sources hint game).1.map
          ManaTap.produced).sum := by
  induction sources generalizing hint game with
  | nil =>
      cases hafter
      rfl
  | cons source rest ih =>
      rw [tapForCycling] at hafter ⊢
      generalize methods.tapForManaAndUpdateHint game player source hint =
        tap at hafter ⊢
      rcases tap with _ | ⟨tapped, result⟩
      · cases hafter
      · have hrest := ih hafter
        have hfirst := ManaTap.balance
          ⟨source, game.regularPool player, tapped.regularPool player⟩
        simp only [List.map_cons, List.sum_cons]
        dsimp only at hfirst
        omega

end CastingMethods

namespace GameState

theorem regularPool_modifyPlayer {game : GameState} {player : PlayerId}
    {p : Player} (hplayer : game.getPlayer player = some p)
    (pool : ManaPool) :
    (game.modifyPlayer player fun p =>
      { p with manaPool := pool }).regularPool player = pool := by
  have hfound : (game.modifyPlayer player fun p =>
      { p with manaPool := pool }).getPlayer player =
        (game.getPlayer player).map fun p => { p with manaPool := pool } := by
    apply FirstMatch.find?_modifyFirst
    intro p
    rfl
  rw [regularPool, hfound, hplayer]
  rfl

/-- The payment succeeds when the pool passes the test; what it falls short of
is not paid. -/
theorem payMana_spec (game : GameState) (player : PlayerId)
    (cost : ManaCost) :
    if game.poolCanPay player cost then
      ∃ after, game.payMana player cost = .ok after () ∧
        (after.regularPool player).amount + cost.total =
          (game.regularPool player).amount +
            (cost.total - (game.regularPool player).amount)
    else ∀ after, game.payMana player cost ≠ .ok after () := by
  have hlogged : (game.logManaPool player).getPlayer player =
      game.getPlayer player := by
    rw [logManaPool]
    split <;> rfl
  rw [payMana, poolCanPay, hlogged, spendMana, hlogged, regularPool]
  cases hplayer : game.getPlayer player with
  | none => simp [Outcome.error, Outcome.ok]
  | some p =>
      cases hpays : p.manaPool.canPay cost with
      | false => simp [hpays, Outcome.error, Outcome.ok]
      | true =>
          have hcolors := ((p.manaPool.canPay_iff cost).mp hpays).1
          obtain ⟨paid, hpaid⟩ : ∃ paid, p.manaPool.payCost cost = .ok paid := by
            rw [ManaPool.payCost, if_pos hpays]
            exact ⟨_, rfl⟩
          simp only [Option.any_some, hpays, Bool.not_true, hpaid, if_true,
            Bool.false_eq_true, if_false]
          refine ⟨_, rfl, ?_⟩
          rw [regularPool_modifyPlayer (hlogged.trans hplayer),
            Option.map_some, Option.getD_some]
          exact ManaPool.payCost_spec hcolors hpaid

end GameState

namespace CastingMethods

variable (methods : CastingMethods) (player : PlayerId) (cost : ManaCost)

/-- The arm asks for a way to pay before it taps, but that changes nothing:
a cost without one is not paid for. -/
theorem payCycling_cases (engine : ManaEngine) (game : GameState) :
    let payment := methods.payCycling player cost engine game
    let ready := engine.updateMut game.message player
    let run := methods.tapForCycling player (cyclingSources cost ready.2) cost
      ready.1
    payment.sources = cyclingSources cost ready.2 ∧ payment.taps = run.1 ∧
      ∀ after, payment.outcome = .ok after () ↔
        ∃ tapped, run.2 = some tapped ∧
          tapped.payMana player cost = .ok after () := by
  dsimp only [payCycling]
  generalize engine.updateMut game.message player = ready
  obtain ⟨game, engine⟩ := ready
  dsimp only
  split
  · next hguard =>
    obtain ⟨hpool, horder⟩ : game.poolCanPay player cost = false ∧
        GreedyManaResolver.computeTapOrder cost engine.manaSources = none := by
      simpa using hguard
    have hsources : cyclingSources cost engine = [] := by
      rw [cyclingSources, horder]
      rfl
    have hpays := game.payMana_spec player cost
    rw [hpool, if_neg Bool.false_ne_true] at hpays
    rw [hsources]
    refine ⟨rfl, rfl, fun after => ⟨fun herror => ?_, ?_⟩⟩
    · simp [Outcome.error, Outcome.ok] at herror
    · rintro ⟨tapped, ⟨⟩, hpaid⟩
      exact absurd hpaid (hpays after)
  · rw [← cyclingSources]
    generalize methods.tapForCycling player (cyclingSources cost engine) cost
      game = run
    obtain ⟨taps, _ | tapped⟩ := run
    · refine ⟨rfl, rfl, fun after => ⟨nofun, ?_⟩⟩
      rintro ⟨tapped, ⟨⟩, -⟩
    · refine ⟨rfl, rfl, fun after => ⟨fun hpaid => ⟨tapped, rfl, hpaid⟩, ?_⟩⟩
      rintro ⟨tapped, ⟨⟩, hpaid⟩
      exact hpaid

end CastingMethods

/-- A red mana in the pool and an untapped Mountain. -/
def redAndMountain : GameState where
  cards := ⟨[some
    { id := ⟨0⟩
      owner := ⟨0⟩
      controller := ⟨0⟩
      types := [.land]
      definition :=
        { cache :=
            { isManaSource := true
              manaProduction := { kind := .fixed .red } } } }]⟩
  players := [{ id := ⟨0⟩, manaPool := { red := 1 } }]
  zones := { battlefield := [⟨0⟩] }
  turn := { activePlayer := ⟨0⟩ }
  manaCaches := [(⟨0⟩, .new ⟨0⟩)]

end DeepScry
