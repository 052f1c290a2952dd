/-
The second pass of combat damage: what each attacker deals to its blockers and
to the defending player, and what its blockers deal back.
-/
import DeepScry.CombatDamage

namespace DeepScry

open SortedMap

/-- Damage from one creature to another, as it is added to the running
totals. -/
structure CreatureHit where
  source : CardId
  target : CardId
  amount : Int32
  deathtouch : Bool := false
deriving DecidableEq

structure PlayerHit where
  source : CardId
  player : PlayerId
  amount : Int32
deriving DecidableEq

/-- What a damage step adds to its totals. -/
structure DamageRecord where
  toBlockers : List CreatureHit := []
  strikeBacks : List CreatureHit := []
  toPlayers : List PlayerHit := []
  boosts : List CreatureHit := []
deriving DecidableEq

def DamageRecord.append (record other : DamageRecord) : DamageRecord where
  toBlockers := record.toBlockers ++ other.toBlockers
  strikeBacks := record.strikeBacks ++ other.strikeBacks
  toPlayers := record.toPlayers ++ other.toPlayers
  boosts := record.boosts ++ other.boosts

/-- Who deals damage in a step: with first or double strike in the first one,
else without first strike or with double strike. -/
def strikesInStep (firstStrikeStep hasFirstStrike hasDoubleStrike : Bool) :
    Bool :=
  if firstStrikeStep then hasFirstStrike || hasDoubleStrike
  else hasDoubleStrike || !hasFirstStrike

namespace GameState

/-- The planned damage to each blocker; an aura may keep it off, and then it
stays with the attacker. -/
def dealAssigned (attacker : CardId) (deathtouch : Bool) :
    GameState → Int32 → Assignment → GameState × Int32 × List CreatureHit
  | game, remaining, [] => (game, remaining, [])
  | game, remaining, (blocker, damage) :: rest =>
      if 0 < damage then
        if game.isColorPreventedByAura blocker attacker then
          dealAssigned attacker deathtouch game.message remaining rest
        else
          let (game, left, hits) := dealAssigned attacker deathtouch
            game.message (remaining - damage) rest
          (game, left, ⟨attacker, blocker, damage, deathtouch⟩ :: hits)
      else dealAssigned attacker deathtouch game remaining rest

/-- Without a plan: lethal damage to one blocker after the other, or all of it
to a lone one.  Damage that an aura keeps off is spent. -/
def dealInOrder (attacker : CardId) (deathtouch trample alone : Bool) :
    GameState → Int32 → List CardId →
      GameState × Except MtgError (Int32 × List CreatureHit)
  | game, remaining, [] => (game, .ok (remaining, []))
  | game, remaining, blocker :: rest =>
      if remaining ≤ 0 then (game, .ok (remaining, []))
      else
        match game.getCard blocker with
        | none => (game, .error (.entityNotFound blocker.raw))
        | some card =>
            let toughness := card.currentToughness
            let lethal : Int8 :=
              if deathtouch && 0 < toughness then 1 else toughness
            let damage :=
              if alone && !trample then remaining
              else min remaining lethal.toInt32
            if 0 < damage then
              if game.isColorPreventedByAura blocker attacker then
                dealInOrder attacker deathtouch trample alone game.message
                  (remaining - damage) rest
              else
                match dealInOrder attacker deathtouch trample alone
                    game.message (remaining - damage) rest with
                | (game, .ok (left, hits)) =>
                    (game, .ok (left,
                      ⟨attacker, blocker, damage, deathtouch⟩ :: hits))
                | (game, .error e) => (game, .error e)
            else
              dealInOrder attacker deathtouch trample alone game remaining rest

section Effects

variable (effects : StaticEffects) (firstStrikeStep : Bool)

/-- Whether a creature deals damage in the step, by its keywords. -/
def dealsDamageThisStep (game : GameState) (id : CardId) : Bool :=
  strikesInStep firstStrikeStep
    (game.hasKeywordWithEffects effects id .firstStrike)
    (game.hasKeywordWithEffects effects id .doubleStrike)

/-- Whether all combat damage of or to a card is prevented. -/
def combatDamagePrevented (game : GameState) (id : CardId) : Bool :=
  (game.getCard id).any fun card => card.preventAllCombatDamageThisTurn

/-- What each blocker deals to the attacker. -/
def strikeBack (attacker : CardId) :
    GameState → List CardId → GameState × Except MtgError (List CreatureHit)
  | game, [] => (game, .ok [])
  | game, blocker :: rest =>
      if !game.zones.battlefield.contains blocker then
        strikeBack attacker game rest
      else
        match game.getCard blocker with
        | none => (game, .error (.entityNotFound blocker.raw))
        | some card =>
            if !game.dealsDamageThisStep effects firstStrikeStep blocker ||
                card.preventAllCombatDamageThisTurn ||
                game.combatDamagePrevented attacker then
              strikeBack attacker game rest
            else
              let power := game.combatPower effects blocker card
              if 0 < power then
                if game.isColorPreventedByAura attacker blocker then
                  strikeBack attacker game.message rest
                else
                  let hit : CreatureHit := ⟨blocker, attacker, power,
                    game.hasKeywordWithEffects effects blocker .deathtouch⟩
                  match strikeBack attacker game.message rest with
                  | (game, .ok hits) => (game, .ok (hit :: hits))
                  | (game, .error e) => (game, .error e)
              else strikeBack attacker game rest

/-- The blockers strike back, after the attacker's own damage. -/
def finishExchange (game : GameState) (attacker : CardId)
    (record : DamageRecord) : GameState × Except MtgError DamageRecord :=
  match strikeBack effects firstStrikeStep attacker game
      (game.combat.getBlockers attacker) with
  | (game, .ok hits) => (game, .ok { record with strikeBacks := hits })
  | (game, .error e) => (game, .error e)

/-- Damage to a player, as far as the shields let it through; `none` when they
stop all of it. -/
def hitPlayer (game : GameState) (attacker : CardId) (player : PlayerId)
    (amount : Int32) : GameState × Option PlayerHit :=
  match game.applySourcePreventionShields player (some attacker) amount with
  | (game, left) =>
      if left ≤ 0 then (game, none)
      else (game.message, some ⟨attacker, player, left⟩)

/-- A blocked attacker with an assignment: when the shields stop all of its
trample damage, the rest of the exchange is skipped. -/
def exchangePlanned (game : GameState) (attacker : CardId) (power : Int32)
    (assignments : Assignment) : GameState × Except MtgError DamageRecord :=
  let hasTrample := game.hasKeywordWithEffects effects attacker .trample
  let hasDeathtouch := game.hasKeywordWithEffects effects attacker .deathtouch
  match dealAssigned attacker hasDeathtouch game power assignments with
  | (game, left, hits) =>
      let record : DamageRecord := { toBlockers := hits }
      if hasTrample && 0 < left then
        match game.combat.getDefendingPlayer attacker with
        | some player =>
            match game.hitPlayer attacker player left with
            | (game, some hit) =>
                game.finishExchange effects firstStrikeStep attacker
                  { record with toPlayers := [hit] }
            | (game, none) => (game, .ok record)
        | none => game.finishExchange effects firstStrikeStep attacker record
      else game.finishExchange effects firstStrikeStep attacker record

/-- A blocked attacker without an assignment; its trample damage meets no
shield. -/
def exchangeSimple (game : GameState) (attacker : CardId) (power : Int32) :
    GameState × Except MtgError DamageRecord :=
  let blockers := game.combat.getBlockers attacker
  let hasTrample := game.hasKeywordWithEffects effects attacker .trample
  let hasDeathtouch := game.hasKeywordWithEffects effects attacker .deathtouch
  match dealInOrder attacker hasDeathtouch hasTrample (blockers.length == 1)
      game power blockers with
  | (game, .error e) => (game, .error e)
  | (game, .ok (left, hits)) =>
      let record : DamageRecord := { toBlockers := hits }
      if hasTrample && 0 < left then
        match game.combat.getDefendingPlayer attacker with
        | some player =>
            game.message.finishExchange effects firstStrikeStep attacker
              { record with toPlayers := [⟨attacker, player, left⟩] }
        | none => game.finishExchange effects firstStrikeStep attacker record
      else game.finishExchange effects firstStrikeStep attacker record

/-- An unblocked attacker. -/
def strikePlayer (game : GameState) (attacker : CardId) (power : Int32) :
    GameState × Except MtgError DamageRecord :=
  match game.combat.getDefendingPlayer attacker with
  | some player =>
      match game.hitPlayer attacker player power with
      | (game, hit) => (game, .ok { toPlayers := hit.toList })
  | none => (game, .ok {})

/-- One attacker of the second pass. -/
def exchange (plan : DamageAssignmentPlan) (game : GameState)
    (attacker : CardId) : GameState × Except MtgError DamageRecord :=
  if !game.zones.battlefield.contains attacker then (game, .ok {})
  else
    match game.getCard attacker with
    | none => (game, .error (.entityNotFound attacker.raw))
    | some card =>
        let power := game.combatPower effects attacker card
        if !game.dealsDamageThisStep effects firstStrikeStep attacker ||
            card.preventAllCombatDamageThisTurn || power ≤ 0 then
          (game, .ok {})
        else if game.combat.isBlocked attacker then
          match lookup plan attacker with
          | some assignments =>
              game.exchangePlanned effects firstStrikeStep attacker power
                assignments
          | none => game.exchangeSimple effects firstStrikeStep attacker power
        else game.strikePlayer attacker power

/-- The second pass over the attackers. -/
def exchangeAll (plan : DamageAssignmentPlan) :
    GameState → List CardId → GameState × Except MtgError DamageRecord
  | game, [] => (game, .ok {})
  | game, attacker :: rest =>
      match game.exchange effects firstStrikeStep plan attacker with
      | (game, .error e) => (game, .error e)
      | (game, .ok record) =>
          match exchangeAll plan game rest with
          | (game, .ok records) => (game, .ok (record.append records))
          | (game, .error e) => (game, .error e)

end Effects

end GameState

end DeepScry
