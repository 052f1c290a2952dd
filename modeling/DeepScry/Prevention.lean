/-
Damage prevention and damage increase: the shields of a player against the
damage of a source, the auras that stop damage of a colour, and the statics
that add to damage.
-/
import DeepScry.ContinuousEffects

namespace DeepScry

/-- A chosen source is recognised by its id alone. -/
def DamageSourceFilter.matches (filter : DamageSourceFilter)
    (source : CardId) (sourceIsColor : Color → Bool) : Bool :=
  match filter with
  | .color wanted => sourceIsColor wanted
  | .specificSource chosen => chosen == source
  | .coloredSource _ chosen => chosen == source

namespace DamagePreventionShield

/-- The points a shield prevents of a damage event, and what is left of it. -/
def apply (shield : DamagePreventionShield) (source : CardId)
    (amount : UInt32) (sourceIsColor : Color → Bool) :
    UInt32 × DamagePreventionShield :=
  if amount = 0 || !shield.source.matches source sourceIsColor then
    (0, shield)
  else
    match shield.scope with
    | .allThisTurn => (amount, shield)
    | .nextEvent => (amount, { shield with scope := .nextPoints 0 })
    | .nextPoints remaining =>
        let prevented := min amount remaining
        (prevented,
          { shield with scope := .nextPoints (remaining - prevented) })

def isSpent (shield : DamagePreventionShield) : Bool :=
  shield.scope == .nextPoints 0

/-- One shield after the other, until nothing remains of the damage. -/
def applyAll (source : CardId) (sourceIsColor : Color → Bool) :
    UInt32 → List DamagePreventionShield →
      UInt32 × List DamagePreventionShield
  | remaining, [] => (remaining, [])
  | remaining, shield :: rest =>
      if remaining = 0 then (remaining, shield :: rest)
      else
        let (prevented, used) := shield.apply source remaining sourceIsColor
        let (left, usedRest) :=
          applyAll source sourceIsColor (remaining - prevented) rest
        (left, used :: usedRest)

end DamagePreventionShield

namespace GameState

/-- The colours of a card, none for a missing one. -/
def colorsOf (game : GameState) (id : CardId) : List Color :=
  ((game.getCard id).map fun card => card.colors).getD []

/-- What the shields of a player let through.  They are logged before they are
used up; spent ones go. -/
def applySourcePreventionShields (game : GameState) (target : PlayerId)
    (source : Option CardId) (amount : Int32) : GameState × Int32 :=
  match source with
  | none => (game, amount)
  | some source =>
      if amount ≤ 0 then (game, amount)
      else
        match game.getPlayer target with
        | none => (game, amount)
        | some player =>
            if player.sourcePreventionShields.isEmpty then (game, amount)
            else
              let logged := game.logAction
                (.setSourcePreventionShields target
                  player.sourcePreventionShields) game.logger.logCount
              let colors := game.colorsOf source
              let (remaining, shields) := DamagePreventionShield.applyAll
                source colors.contains amount.toUInt32
                player.sourcePreventionShields
              let used := logged.modifyPlayer target fun p =>
                { p with
                  sourcePreventionShields :=
                    shields.filter fun shield => !shield.isSpent }
              (if remaining = amount.toUInt32 then used else used.message,
                remaining.toInt32)

/-- An aura on the target keeps off the damage of its chosen colour. -/
def isColorPreventedByAura (game : GameState) (target source : CardId) :
    Bool :=
  let sourceColors := game.colorsOf source
  !sourceColors.isEmpty &&
    (game.getAttachedAuras target).any fun auraId =>
      (game.getCard auraId).any fun aura =>
        (aura.staticAbilities.any fun ability => ability matches
          .preventDamageToEnchantedByChosenColor) &&
        aura.chosenColor.any fun color => sourceColors.contains color

/-- What one permanent adds to the damage of a source of its controller. -/
def damageBoostOf (card : Card) (sourceIsRed : Bool) : Int32 :=
  let statics := card.staticAbilities.foldl
    (fun (modifier : Int32) ability =>
      match ability with
      | .damageIncrease bonus =>
          if sourceIsRed then modifier + bonus.toUInt32.toInt32 else modifier
      | _ => modifier) 0
  if card.name = "Artist's Talent" && 3 ≤ card.getCounter .level then
    statics + 2
  else statics

/-- The bonus for damage to an opponent, or to what an opponent controls. -/
def getDamageBoostForSource (game : GameState) (source : CardId)
    (targetController : PlayerId) : Int32 :=
  match game.getCard source with
  | none => 0
  | some sourceCard =>
      if targetController = sourceCard.controller then 0
      else
        game.zones.battlefield.foldl
          (fun modifier id =>
            match game.getCard id with
            | some card =>
                if card.controller = sourceCard.controller then
                  modifier + damageBoostOf card
                    (sourceCard.colors.contains .red)
                else modifier
            | none => modifier) 0

end GameState

end DeepScry
