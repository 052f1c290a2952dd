/-
What is announced for a spell before it goes on the stack: its modes, X, and
the additional costs that the mana seems to allow.
-/
import DeepScry.CombatDamage
import DeepScry.EffectiveCost
import DeepScry.ManaEngine
import DeepScry.TotalMana

namespace DeepScry

open Saturating

namespace SpellEffect

/-- The modes, how many to choose and at least how many, and whether one may
be chosen again. -/
def modalChoice? : SpellEffect →
    Option (List (SpellEffect × UInt8) × UInt8 × UInt8 × Bool)
  | modalChoice modes numToChoose minToChoose canRepeatModes =>
      some (modes, numToChoose, minToChoose, canRepeatModes)
  | _ => none

/-- The chosen modes of an effect in its place, with what they cost. -/
def applyModes (indices : List Nat) : SpellEffect → List SpellEffect × UInt8
  | modalChoice modes _ _ _ =>
      let chosen := indices.filterMap fun index => modes[index]?
      (chosen.map Prod.fst,
        chosen.foldl (fun total mode => add8 total mode.2) 0)
  | effect => ([effect], 0)

/-- `apply_selected_modes`, on the effects of the spell. -/
def applySelectedModes (indices : List Nat) (effects : List SpellEffect) :
    List SpellEffect × UInt8 :=
  effects.foldl
    (fun applied effect =>
      (applied.1 ++ (effect.applyModes indices).1,
        add8 applied.2 (effect.applyModes indices).2))
    ([], 0)

end SpellEffect

namespace GameState

/-- Log the old value of a field and write the new one, if there is a card. -/
def setLogged (game : GameState) (card : CardId)
    (action : Card → GameAction) (write : Card → Card) : GameState :=
  match game.card? card with
  | none => game
  | some spell =>
      (game.logAction (action spell) game.logger.logCount).modifyCard card
        write

variable (game : GameState) (card : CardId)

def setXPaidLogged (xValue : UInt8) : GameState :=
  game.setLogged card (fun spell => .setXPaid card spell.xPaid)
    fun spell => { spell with xPaid := xValue }

def setTimesKickedLogged (count : UInt8) : GameState :=
  game.setLogged card (fun spell => .setTimesKicked card spell.timesKicked)
    fun spell => { spell with timesKicked := count }

def setKickerPaidLogged (paid : Bool) : GameState :=
  game.setLogged card (fun spell => .setKickerPaid card spell.kickerPaid)
    fun spell => { spell with kickerPaid := paid }

def setOffspringPaidLogged (paid : Bool) : GameState :=
  game.setLogged card
    (fun spell => .setOffspringPaid card spell.offspringPaid)
    fun spell => { spell with offspringPaid := paid }

def setBargainPaidLogged (paid : Bool) : GameState :=
  game.setLogged card (fun spell => .setBargainPaid card spell.bargainPaid)
    fun spell => { spell with bargainPaid := paid }

def setModeCostPaidLogged (cost : UInt8) : GameState :=
  game.setLogged card (fun spell => .setModeCostPaid card spell.modeCostPaid)
    fun spell => { spell with modeCostPaid := cost }

end GameState

/-- What the announcements ask for: the modes that have targets, the number of
targets there are, and the answers of the controller. -/
structure AnnouncementMethods extends CostQueries where
  getValidModesForSpell : GameState → CardId → PlayerId → List (Nat × Bool)
  numValidTargets : GameState → CardId → Nat
  relativeTargetCost : GameState → CardId → Bool
  chooseModes : GameState → PlayerId → CardId → List Nat → UInt8 → UInt8 →
    Bool → ChoiceResult (List Nat)
  chooseXValue : GameState → PlayerId → CardId → UInt8 → ChoiceResult UInt8
  replayModes : List Nat → ReplayChoice
  replayXValue : UInt8 → ReplayChoice

/-- The part of the game loop that the announcements use; `reports` says
whether it writes messages. -/
structure ArmState where
  game : GameState
  engine : ManaEngine := {}
  choiceCounter : UInt32 := 0
  reports : Bool := true

namespace ArmState

variable (state : ArmState) (player : PlayerId) (card : CardId)

def onGame (f : GameState → GameState) : ArmState :=
  { state with game := f state.game }

def report : ArmState :=
  if state.reports then state.onGame GameState.message else state

def updateEngine : ArmState :=
  let updated := state.engine.updateMut state.game player
  { state with
    game := updated.1
    engine := updated.2 }

def logChoicePoint (choice : ReplayChoice) (priorLogSize : Nat) : ArmState :=
  { state with
    game := state.game.logAction
      (.choicePoint player (state.choiceCounter + 1) (some choice))
      priorLogSize
    choiceCounter := state.choiceCounter + 1 }

/-- An answer, or how the step is left without one. -/
def answered {α : Type} :
    ChoiceResult α → Except (GameState × Option MtgError) α
  | .ok value => .ok value
  | .undoRequest n => .error (state.game.handleUndoRequest player n, none)
  | .exitGame => .error (state.game,
      some (.invalidAction "Game exit requested by controller"))
  | .error message => .error (state.game,
      some (.invalidAction ("Controller error: " ++ message)))
  | .needInput => .error (state.game, some .needInput)

def pool : ManaPool :=
  ((state.game.getPlayer player).map Player.totalAvailableMana).getD {}

/-- One for each source that can be tapped, and what floats. -/
def availableMana : UInt8 :=
  add8 (UInt8.ofNat (state.engine.manaSources.countP ManaSource.usable))
    (state.pool player).total

/-- What the printed cost leaves of the available mana. -/
def spareMana : UInt8 :=
  sub8 (state.availableMana player)
    (((state.game.getCard card).map fun spell =>
      spell.manaCost.cmc).getD 0)

end ArmState

namespace AnnouncementMethods

variable (methods : AnnouncementMethods) (player : PlayerId) (card : CardId)

/-- The modes that have targets and do not cost too much. -/
def validModeIndices (modes : List (SpellEffect × UInt8)) (budget : UInt8)
    (state : ArmState) : List Nat :=
  ((methods.getValidModesForSpell state.game card player).filter
    Prod.snd).map Prod.fst |>.filter fun index =>
      modes[index]?.any fun mode => mode.2 ≤ budget

/-- The chosen modes take the place of the choice. -/
def applyModes (indices : List Nat) (state : ArmState) : ArmState :=
  match state.game.card? card with
  | none => state
  | some spell =>
      let applied := SpellEffect.applySelectedModes indices spell.effects
      let written := state.onGame fun game =>
        game.modifyCard card fun spell => { spell with effects := applied.1 }
      if 0 < applied.2 then
        written.onGame fun game => game.setModeCostPaidLogged card applied.2
      else written

/-- The first modal choice among the effects of the spell. -/
def modalChoice? (state : ArmState) :
    Option (List (SpellEffect × UInt8) × UInt8 × UInt8 × Bool) :=
  (state.game.getCard card).bind fun spell =>
    spell.effects.findSome? SpellEffect.modalChoice?

/-- The chosen modes, none where there is nothing to choose. -/
def chosenModes (state : ArmState) :
    Except (GameState × Option MtgError) (Option (List Nat)) :=
  match modalChoice? card state with
  | none => .ok none
  | some (modes, numToChoose, minToChoose, canRepeatModes) =>
      let valid := methods.validModeIndices player card modes
        (state.spareMana player card) state
      if valid.isEmpty then .ok none
      else
        (state.answered player (methods.chooseModes state.game player card
          valid numToChoose minToChoose canRepeatModes)).map fun selected =>
            some (selected.filterMap fun index => valid[index]?)

/-- Log the choice, apply it and write a message for each mode. -/
def withModes (indices : List Nat) (state : ArmState) : ArmState :=
  indices.foldl (fun state _ => state.report)
    (applyModes card indices (state.logChoicePoint player
      (methods.replayModes indices) state.game.logger.logCount))

def afterModes (chosen : Option (List Nat)) (state : ArmState) : ArmState :=
  match chosen with
  | none => state
  | some indices => methods.withModes player card indices state

def announceModes (state : ArmState) :
    Except (GameState × Option MtgError) ArmState :=
  match modalChoice? card state with
  | none => .ok state
  | some _ =>
      let updated := state.updateEngine player
      (methods.chosenModes player card updated).map fun chosen =>
        methods.afterModes player card chosen updated

/-- As much X as the mana allows, with one reserved for each target beyond the
first where the spell costs more for them. -/
def maxX (spell : Card) (state : ArmState) : UInt8 :=
  let targetReserve := if methods.relativeTargetCost state.game card then
      UInt8.ofNat (min (methods.numValidTargets state.game card - 1) 255)
    else 0
  let reservedCost := add8 spell.manaCost.cmc targetReserve
  let maxMana := state.availableMana player
  if 0 < spell.manaCost.xCount ∧ reservedCost < maxMana then
    (maxMana - reservedCost) / spell.manaCost.xCount
  else 0

/-- The answer, no more than the bound. -/
def chosenX (spell : Card) (state : ArmState) :
    Except (GameState × Option MtgError) UInt8 :=
  let bound := methods.maxX player card spell state
  (state.answered player (methods.chooseXValue state.game player card
    bound)).map fun answer => min answer bound

def withX (x : UInt8) (state : ArmState) : ArmState :=
  ((state.onGame fun game => game.setXPaidLogged card x).logChoicePoint player
    (methods.replayXValue x) state.game.logger.logCount).report

def announceX (state : ArmState) :
    Except (GameState × Option MtgError) ArmState :=
  match state.game.getCard card with
  | none => .ok state
  | some spell =>
      if spell.manaCost.hasX then
        let updated := state.updateEngine player
        (methods.chosenX player card spell updated).map fun x =>
          methods.withX player card x updated
      else .ok state

/-- An additional cost with at least one mana: the engine is updated, then the
spare mana decides. -/
def announceCost (cost? : Option ManaCost)
    (decide : UInt8 → UInt8 → ArmState → ArmState) (state : ArmState) :
    ArmState :=
  match cost? with
  | none => state
  | some cost =>
      if 0 < cost.cmc then
        let updated := state.updateEngine player
        decide (updated.spareMana player card) cost.cmc updated
      else state

def announceMultikicker (state : ArmState) : ArmState :=
  announceCost player card
    ((state.game.card? card).bind Card.multikickerCost)
    (fun spare kick updated =>
      let maxKicks := spare / kick
      if 0 < maxKicks then
        (updated.onGame fun game =>
          game.setTimesKickedLogged card maxKicks).report
      else updated.onGame fun game => game.setTimesKickedLogged card 0)
    state

def announceKicker (state : ArmState) : ArmState :=
  announceCost player card ((state.game.card? card).bind Card.kickerCost)
    (fun spare kick updated =>
      if kick ≤ spare then
        (updated.onGame fun game => game.setKickerPaidLogged card true).report
      else updated)
    state

def announceOffspring (state : ArmState) : ArmState :=
  announceCost player card ((state.game.card? card).bind Card.offspringCost)
    (fun spare offspring updated =>
      if offspring ≤ spare then
        (updated.onGame fun game =>
          game.setOffspringPaidLogged card true).report
      else updated)
    state

/-- Everything that is announced before a sacrifice. -/
def announceCosts (state : ArmState) :
    Except (GameState × Option MtgError) ArmState :=
  (methods.announceModes player card state).bind fun state =>
    (methods.announceX player card state).map fun state =>
      announceOffspring player card (announceKicker player card
        (announceMultikicker player card state))

end AnnouncementMethods

end DeepScry
