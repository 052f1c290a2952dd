/-
The operations that move cards on their own account: the draw with its dredge
replacement, milling, and countering a spell.
-/
import DeepScry.DelayedFiring

namespace DeepScry

namespace GameState

/-- Count the draw of this turn and log the old count; a missing player has
drawn once. -/
def recordCardDrawn (game : GameState) (player : PlayerId)
    (priorLogSize : Nat) : GameState × UInt8 :=
  match game.getPlayer player with
  | some p =>
      ((game.modifyPlayer player fun p =>
        { p with cardsDrawnThisTurn := p.cardsDrawnThisTurn + 1 }).logAction
          (.setCardsDrawnThisTurn player p.cardsDrawnThisTurn
            (p.cardsDrawnThisTurn + 1)) priorLogSize,
        p.cardsDrawnThisTurn + 1)
  | none => (game, 1)

/-- `draw_card_inner`: the top card and the number of the draw; an empty
library gives neither. -/
def drawCardInner (game : GameState) (player : PlayerId) (logGamelog : Bool) :
    Outcome (Option CardId × UInt8) :=
  match (game.zones.getPlayerZones player).bind fun own =>
    own.library.getLast?.map fun id => (own, id) with
  | some (own, id) =>
      let priorLogSize := game.logger.logCount
      let drawn := { game with
        zones := game.zones.modifyPlayerZones player fun own =>
          { own with
            library := own.library.dropLast
            hand := own.hand ++ [id] } }
      let logged := (drawn.maybeRevealToPlayer id player
        priorLogSize).logAction
          (.moveCard id .library .hand player
            (some (UInt32.ofNat own.library.dropLast.length))) priorLogSize
      let (counted, drawCount) := logged.recordCardDrawn player priorLogSize
      .ok (if logGamelog then counted.message else counted)
        (some id, drawCount)
  | none => .ok game (none, 0)

/-- `draw_card_silent`, the draw of an opening hand. -/
def drawCardSilent (game : GameState) (player : PlayerId) :
    Outcome (Option CardId × UInt8) :=
  game.drawCardInner player false

/-- The cards of the graveyard with dredge that the library is large enough
for, each with its amount. -/
def dredgeCandidates (game : GameState) (own : PlayerZones) :
    List (CardId × UInt8) :=
  own.graveyard.filterMap fun id =>
    match (game.card? id).bind fun card => card.keywords.getArgs .dredge with
    | some (.dredge amount) =>
        if amount.toNat ≤ own.library.length then some (id, amount) else none
    | _ => none

/-- The candidate that mills the fewest cards, the first of these. -/
def bestDredge (candidates : List (CardId × UInt8)) :
    Option (CardId × UInt8) :=
  candidates.foldl
    (fun best candidate =>
      match best with
      | none => some candidate
      | some (_, amount) =>
          if candidate.2 < amount then some candidate else best) none

/-- `counter_spell`: from the stack to the graveyard of its owner, past all
triggers. -/
def counterSpell (game : GameState) (spell : CardId) : Outcome Unit :=
  if !game.zones.stack.contains spell then
    .error game (.invalidAction
      "Cannot counter a spell that is not on the stack")
  else
    match game.cards.get spell.raw with
    | none => .error game (.entityNotFound spell.raw)
    | some card =>
        let position := game.zones.positionOf .stack card.owner spell
        .ok ((game.changeZone spell .stack .graveyard card.owner).logAction
          (.moveCard spell .stack .graveyard card.owner
            (position.map UInt32.ofNat)) game.logger.logCount) ()

section Moving

variable (executor : EffectExecutor) (depth : Nat)

/-- The loop of `mill_cards`: at most so many more cards. -/
def millLoop (player : PlayerId) :
    Nat → GameState → List CardId → Outcome (List CardId)
  | 0, game, milled => .ok game milled
  | count + 1, game, milled =>
      match (game.zones.getPlayerZones player).bind fun own =>
        own.library.getLast? with
      | some id =>
          (moveCard executor depth game id .library .graveyard player).andThen
            fun moved _ => millLoop player count moved (milled ++ [id])
      | none => .ok game milled

/-- `mill_cards`; an empty library ends it early. -/
def millCards (game : GameState) (player : PlayerId) (count : UInt8) :
    Outcome (List CardId) :=
  millLoop executor depth player count.toNat game []

/-- Mill and return the best dredge card; `none` when there is none. -/
def tryDredgeInsteadOfDraw (game : GameState) (player : PlayerId) :
    Outcome (Option (Option CardId × UInt8)) :=
  match game.zones.getPlayerZones player with
  | none => .ok game none
  | some own =>
      match bestDredge (game.dredgeCandidates own) with
      | none => .ok game none
      | some (id, amount) =>
          (game.millCards executor depth player amount).andThen
            fun milled _ =>
              (moveCard executor depth milled id .graveyard .hand
                player).andThen fun returned _ =>
                  .ok returned.message (some (none, 0))

/-- `draw_card`: a dredge takes the place of the draw. -/
def drawCard (game : GameState) (player : PlayerId) :
    Outcome (Option CardId × UInt8) :=
  (game.tryDredgeInsteadOfDraw executor depth player).andThen
    fun game dredged =>
      match dredged with
      | some result => .ok game result
      | none => game.drawCardInner player true

end Moving

end GameState

end DeepScry
