/-
After the damage of a step is dealt out: increases, lifelink, damage to the
players, triggers and marks, and the destruction of creatures.  A combat has
one damage step, or two when it has first strike.
-/
import DeepScry.CombatExchange
import DeepScry.DelayedFiring
import DeepScry.LossFlag

namespace DeepScry

open SortedMap

/-- Combat damage of one creature in a step, by the kind of recipient. -/
structure CombatDamageBreakdown where
  total : Int32
  toPlayer : Int32
  toCreature : Int32
deriving DecidableEq

/-- The executor of card effects, with the triggers on combat damage. -/
structure CombatExecutor extends EffectExecutor where
  checkCombatDamageTriggers :
    GameState → CardId → CombatDamageBreakdown → Outcome Unit

/-- `entry(k).or_insert(0) += amount`. -/
def addTo {K : Type} [LinearOrder K] (totals : List (K × Int32)) (k : K)
    (amount : Int32) : List (K × Int32) :=
  insert k ((lookup totals k).getD 0 + amount) totals

namespace DamageRecord

def creatureHits (record : DamageRecord) : List CreatureHit :=
  record.toBlockers ++ record.strikeBacks ++ record.boosts

/-- `damage_sources_per_target`. -/
def damageSourcesPerTarget (record : DamageRecord) :
    List (CardId × List (CardId × Unit)) :=
  record.creatureHits.foldl
    (fun sources hit =>
      insert hit.target
        (insert hit.source () ((lookup sources hit.target).getD [])) sources)
    []

/-- `player_damage_by_creature`. -/
def playerDamageByCreature (record : DamageRecord) : List (CardId × Int32) :=
  record.toPlayers.foldl (fun totals hit => addTo totals hit.source hit.amount)
    []

/-- `damage_to_players`. -/
def damageToPlayers (record : DamageRecord) : List (PlayerId × Int32) :=
  record.toPlayers.foldl (fun totals hit => addTo totals hit.player hit.amount)
    []

/-- `damage_to_creatures`. -/
def damageToCreatures (record : DamageRecord) : List (CardId × Int32) :=
  record.creatureHits.foldl
    (fun totals hit => addTo totals hit.target hit.amount) []

/-- `damage_dealt_by_creature`. -/
def damageDealtByCreature (record : DamageRecord) : List (CardId × Int32) :=
  record.toPlayers.foldl (fun totals hit => addTo totals hit.source hit.amount)
    (record.creatureHits.foldl
      (fun totals hit => addTo totals hit.source hit.amount) [])

/-- `deathtouch_damaged_creatures`. -/
def deathtouched (record : DamageRecord) (id : CardId) : Bool :=
  record.creatureHits.any fun hit => hit.deathtouch && hit.target == id

end DamageRecord

namespace GameState

/-- The bonus of each source of damage to a creature, as a hit of its own. -/
def creatureBoosts (game : GameState) (record : DamageRecord) :
    List CreatureHit :=
  record.damageSourcesPerTarget.flatMap fun (target, sources) =>
    if game.zones.battlefield.contains target then
      match game.getCard target with
      | some card =>
          sources.filterMap fun (source, _) =>
            let boost := game.getDamageBoostForSource source card.controller
            if 0 < boost then some ⟨source, target, boost, false⟩ else none
      | none => []
    else []

/-- Damage to a player with the bonus of its source. -/
def boostPlayerHit (game : GameState) (hit : PlayerHit) : PlayerHit :=
  let boost := game.getDamageBoostForSource hit.source hit.player
  if 0 < boost then { hit with amount := hit.amount + boost } else hit

/-- Damage increases; each is reported. -/
def applyBoosts (game : GameState) (record : DamageRecord) :
    GameState × DamageRecord :=
  let boosts := game.creatureBoosts record
  let boosted := record.toPlayers.filter fun hit =>
    0 < game.getDamageBoostForSource hit.source hit.player
  ((boosts.length + boosted.length).repeat message game,
    { record with
      boosts := record.boosts ++ boosts
      toPlayers := record.toPlayers.map game.boostPlayerHit })

/-- Whether a permanent has the static ability. -/
def anyStatic (game : GameState) (who : Card → Bool)
    (isIt : StaticAbility → Bool) : Bool :=
  game.zones.battlefield.any fun id =>
    (game.card? id).any fun card => who card && card.staticAbilities.any isIt

def hasDamageToExileLibrary (game : GameState) : Bool :=
  game.anyStatic (fun _ => true) fun ability =>
    ability matches .damageToExileLibrary

/-- A player with a creature and a life floor keeps one life. -/
def applyLifeFloor (game : GameState) (player : PlayerId) (amount : Int32) :
    Int32 :=
  let hasLifeFloor :=
    game.anyStatic (fun card => card.controller == player) fun ability =>
      ability matches .lifeFloor
  let controlsCreature := game.zones.battlefield.any fun id =>
    (game.card? id).any fun card =>
      card.controller == player && card.isCreature
  if hasLifeFloor && controlsCreature then
    let life := ((game.getPlayer player).map Player.life).getD 0
    if life < 1 then amount else max (min amount (life - 1)) 0
  else amount

section Executor

variable (executor : EffectExecutor) (depth : Nat)

/-- Exile from the top of the library, as long as there is a card. -/
def exileTopOfLibrary (player : PlayerId) : Nat → GameState → Outcome Unit
  | 0, game => .ok game ()
  | count + 1, game =>
      match (game.zones.getPlayerZones player).bind fun zones =>
          zones.library.getLast? with
      | none => .ok game ()
      | some id =>
          (game.moveCard executor depth id .library .exile player).andThen
            fun game _ => exileTopOfLibrary player count game

/-- `deal_damage` to a player while no source of damage is set. -/
def dealDamage (game : GameState) (target : PlayerId) (amount : Int32) :
    Outcome Unit :=
  match game.getPlayer target with
  | none => .error game (.invalidAction "Invalid damage target")
  | some player =>
      if amount ≤ 0 then .ok game ()
      else
        let prevented :=
          if 0 < player.damagePrevention then
            min amount player.damagePrevention
          else 0
        let actual := amount - prevented
        let shielded := game.modifyPlayer target fun p =>
          { p with damagePrevention := p.damagePrevention - prevented }
        let shielded := if 0 < prevented then shielded.message else shielded
        if actual ≤ 0 then .ok shielded ()
        else if shielded.hasDamageToExileLibrary then
          exileTopOfLibrary executor depth target actual.toInt.toNat
            shielded.message
        else
          let capped := shielded.applyLifeFloor target actual
          let reported :=
            if capped < actual then shielded.message else shielded
          .ok ((reported.modifyPlayer target fun p =>
            p.loseLife capped).logAction (.modifyLife target (-capped))
              reported.logger.logCount) ()

def dealDamageToPlayers (game : GameState) :
    List (PlayerId × Int32) → Outcome Unit
  | [] => .ok game ()
  | (player, amount) :: rest =>
      (game.dealDamage executor depth player amount).andThen fun game _ =>
        dealDamageToPlayers game rest

end Executor

/-- Damage of a commander to a player is counted, in the order of the
sources. -/
def trackCommanderDamage (game : GameState) (record : DamageRecord) :
    GameState :=
  if game.isCommanderGame then
    (record.toPlayers.insertionSort fun hit hit' =>
      hit.source ≤ hit'.source).foldl
        (fun game hit =>
          match game.card? hit.source with
          | some card =>
              if card.isCommander then
                game.dealCommanderDamage hit.player card.owner
                  hit.amount.toUInt32.toUInt16
              else game
          | none => game) game
  else game

/-- Remember which sources dealt damage to a creature this turn. -/
def markDamagedBy (game : GameState) (target source : CardId) : GameState :=
  match game.card? target with
  | some card =>
      if card.damagedByThisTurn.contains source then game
      else
        (game.modifyCard target fun c =>
          { c with damagedByThisTurn := c.damagedByThisTurn ++ [source] }
          ).logAction (.markDamagedBy target source) game.logger.logCount
  | none => game

def markDamagedByAll (game : GameState) (record : DamageRecord) : GameState :=
  record.damageSourcesPerTarget.foldl
    (fun game (target, sources) =>
      sources.foldl (fun game (source, _) => game.markDamagedBy target source)
        game) game

/-- The creatures that dealt damage to an opponent of their controller. -/
def damageToOpponentMarks (game : GameState) (record : DamageRecord) :
    List (CardId × Unit) :=
  record.toPlayers.foldl
    (fun marks hit =>
      match game.card? hit.source with
      | some card =>
          if card.controller = hit.player then marks
          else insert hit.source () marks
      | none => marks) []

def markDealtDamageToOpponent (game : GameState) (id : CardId) : GameState :=
  match game.card? id with
  | some card =>
      (game.modifyCard id fun c =>
        { c with dealtDamageToOpponentThisTurn := true }).logAction
        (.markDealtDamageToOpponent id card.dealtDamageToOpponentThisTurn)
        game.logger.logCount
  | none => game

section Effects

variable (effects : StaticEffects)

/-- Lifelink; the life gained is not logged. -/
def applyLifelink (game : GameState) (record : DamageRecord) : GameState :=
  record.damageDealtByCreature.foldl
    (fun game (creature, total) =>
      if game.hasKeywordWithEffects effects creature .lifelink then
        match game.getCard creature with
        | some card =>
            game.modifyPlayer card.controller fun p => p.gainLife total
        | none => game
      else game) game

/-- Whether the damage of the step destroys a creature: it alone is compared
with the current toughness, unless it has deathtouch. -/
def destroyedBy (game : GameState) (record : DamageRecord) (id : CardId)
    (damage : Int32) : Bool :=
  game.zones.battlefield.contains id &&
    (game.getCard id).any fun card =>
      card.isCreature &&
      !game.hasKeywordWithEffects effects id .indestructible &&
      (decide (card.currentToughness.toInt32 ≤ damage) ||
        record.deathtouched id && decide (0 < card.currentToughness))

/-- `creatures_to_destroy`, in the order of the ids. -/
def creaturesToDestroy (game : GameState) (record : DamageRecord) :
    List CardId :=
  (record.damageToCreatures.filter fun (id, damage) =>
    game.destroyedBy effects record id damage).map Prod.fst

variable (executor : CombatExecutor) (depth : Nat)

/-- Fire the combat damage triggers of the creatures still there. -/
def fireDamageTriggers (playerDamage : List (CardId × Int32)) :
    GameState → List (CardId × Int32) → Outcome Unit
  | game, [] => .ok game ()
  | game, (creature, total) :: rest =>
      if game.zones.battlefield.contains creature then
        let toPlayer := (lookup playerDamage creature).getD 0
        (executor.checkCombatDamageTriggers game creature
          ⟨total, toPlayer, total - toPlayer⟩).andThen fun game _ =>
            fireDamageTriggers playerDamage game rest
      else fireDamageTriggers playerDamage game rest

/-- Destroy one creature, or use up a regeneration shield.  Errors of death
triggers are dropped. -/
def destroyCreature (game : GameState) (id : CardId) : Outcome Unit :=
  if (game.getCard id).any fun card => 0 < card.regenerationShields then
    game.applyRegenerationShield id
  else
    match executor.checkDeathTriggers game id with
    | none => none
    | some (game, _) =>
        match game.getCard id with
        | some card =>
            (game.moveCard executor.toEffectExecutor depth id .battlefield
              (game.deathDestinationForCard id) card.owner).andThen
                fun game _ => .ok game.message ()
        | none => .ok game ()

def destroyCreatures : GameState → List CardId → Outcome Unit
  | game, [] => .ok game ()
  | game, id :: rest =>
      (game.destroyCreature executor depth id).andThen fun game _ =>
        destroyCreatures game rest

/-- What follows the second pass, up to the destruction of creatures. -/
def dealRecord (game : GameState) (record : DamageRecord) :
    Outcome DamageRecord :=
  let (game, record) := game.applyBoosts record
  let game := game.applyLifelink effects record
  (game.dealDamageToPlayers executor.toEffectExecutor depth
    record.damageToPlayers).andThen fun game _ =>
      (fireDamageTriggers executor record.playerDamageByCreature
        (game.trackCommanderDamage record)
        record.damageDealtByCreature).andThen fun game _ =>
          let game := game.markDamagedByAll record
          .ok ((game.damageToOpponentMarks record).foldl
            (fun game (id, _) => game.markDealtDamageToOpponent id) game)
            record

variable (firstStrikeStep : Bool)

/-- The plan of an earlier pass over the same step, or a new one. -/
def damagePlan (game : GameState)
    (attackerController blockerController : DamageController)
    (recordedPlan : Option DamageAssignmentPlan) :
    Outcome DamageAssignmentPlan :=
  match recordedPlan with
  | some plan =>
      .ok game (plan.foldl (fun plan entry => insert entry.1 entry.2 plan) [])
  | none =>
      planDamage effects attackerController blockerController game
        game.combat.attackerIds

/-- Both passes and what follows them, before creatures are destroyed. -/
def dealCombatDamage (game : GameState)
    (attackerController blockerController : DamageController)
    (recordedPlan : Option DamageAssignmentPlan) :
    Outcome (DamageAssignmentPlan × DamageRecord) :=
  (game.damagePlan effects attackerController blockerController
    recordedPlan).andThen fun game plan =>
    match exchangeAll effects firstStrikeStep plan game
        game.combat.attackerIds with
    | (game, .error e) => .error game e
    | (game, .ok record) =>
        (game.dealRecord effects executor depth record).andThen
          fun game record => .ok game (plan, record)

/-- `assign_combat_damage_planned`. -/
def assignCombatDamagePlanned (game : GameState)
    (attackerController blockerController : DamageController)
    (recordedPlan : Option DamageAssignmentPlan) :
    Outcome DamageAssignmentPlan :=
  (game.dealCombatDamage effects executor depth firstStrikeStep
    attackerController blockerController recordedPlan).andThen
      fun game dealt =>
        (destroyCreatures executor depth game
          (game.creaturesToDestroy effects dealt.2)).andThen
            fun game _ => .ok game dealt.1

end Effects

/-- Whether a first-strike damage step is needed, by the keywords on the cards
themselves. -/
def hasFirstStrikeCombat (game : GameState) : Bool :=
  let strikesFirst (id : CardId) : Bool :=
    (game.getCard id).any fun card =>
      card.hasFirstStrike || card.hasDoubleStrike
  game.combat.attackerIds.any fun attacker =>
    strikesFirst attacker ||
      (game.combat.isBlocked attacker &&
        (game.combat.getBlockers attacker).any strikesFirst)

section Record

variable (effects : StaticEffects) (executor : CombatExecutor) (depth : Nat)

/-- What follows the second pass increases damage, and keeps who dealt it. -/
theorem dealRecord_record {game last : GameState}
    {record dealt : DamageRecord}
    (hdone : game.dealRecord effects executor depth record =
      some (last, .ok dealt)) :
    dealt = (game.applyBoosts record).2 := by
  rw [dealRecord] at hdone
  obtain ⟨_, _, -, hdone⟩ := Outcome.andThen_eq_ok.mp hdone
  obtain ⟨_, _, -, hdone⟩ := Outcome.andThen_eq_ok.mp hdone
  obtain ⟨-, hrecord⟩ := Prod.mk.inj (Option.some.inj hdone)
  exact (Except.ok.inj hrecord).symm

/-- A damage step that goes through made a plan and a second pass. -/
theorem dealCombatDamage_pass (firstStrikeStep : Bool) {game last : GameState}
    {attackerController blockerController : DamageController}
    {recordedPlan : Option DamageAssignmentPlan} {plan : DamageAssignmentPlan}
    {dealt : DamageRecord}
    (hdone : game.dealCombatDamage effects executor depth firstStrikeStep
      attackerController blockerController recordedPlan =
        some (last, .ok (plan, dealt))) :
    ∃ planned passed record,
      game.damagePlan effects attackerController blockerController
        recordedPlan = some (planned, .ok plan) ∧
      exchangeAll effects firstStrikeStep plan planned
        planned.combat.attackerIds = (passed, .ok record) ∧
      dealt = (passed.applyBoosts record).2 := by
  rw [dealCombatDamage] at hdone
  obtain ⟨planned, made, hplan, hdone⟩ := Outcome.andThen_eq_ok.mp hdone
  generalize hpass : exchangeAll effects firstStrikeStep made planned _ = pass
    at hdone
  rcases pass with ⟨passed, e | record⟩
  · cases hdone
  · obtain ⟨after, boosted, hrecord, hdone⟩ := Outcome.andThen_eq_ok.mp hdone
    obtain ⟨-, hboth⟩ := Prod.mk.inj (Option.some.inj hdone)
    obtain ⟨rfl, rfl⟩ := Prod.mk.inj (Except.ok.inj hboth)
    exact ⟨planned, passed, record, hplan, hpass,
      dealRecord_record effects executor depth hrecord⟩

end Record

end GameState

end DeepScry
