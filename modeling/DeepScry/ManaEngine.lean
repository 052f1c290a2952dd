/-
The mana engine of a player: the sources it lists, what the simple ones make,
and whether a count answers for them or the resolver.
-/
import DeepScry.ContinuousEffects
import DeepScry.ManaPayment
import DeepScry.Permanents

namespace DeepScry

/-- What a kind adds to the colours of a merged production. -/
def ManaProductionKind.addColors (colors : ManaColors) :
    ManaProductionKind → ManaColors
  | fixed color => colors.insert color
  | choice others => others.iter.foldl ManaColors.insert colors
  | colorless | anyColor => colors

/-- `merge_mana_production_kinds`: whatever one of the two can make. -/
def ManaProductionKind.merge (a b : ManaProductionKind) :
    ManaProductionKind :=
  if a == anyColor || b == anyColor then anyColor
  else
    let colors := b.addColors (a.addColors .empty)
    let hasColorless := a == colorless || b == colorless
    if colors.len = 0 then
      if hasColorless then colorless else ManaProduction.default.kind
    else if colors.len = 1 ∧ hasColorless = false then
      match colors.iter.head? with
      | some color => fixed color
      | none => choice colors
    else choice colors

namespace GameState

variable (game : GameState)

/-- The selectors that the granted abilities know. -/
def grantsAbilityTo (permanentId sourceId : CardId)
    (permanent source : Card) : AffectedSelector → Bool
  | .landsYouControl =>
      permanent.isLand && permanent.controller == source.controller
  | .creatureEnchantedBy =>
      (game.getAttachedAuras permanentId).contains sourceId
  | .landEnchantedBy =>
      permanent.isLand && (game.getAttachedAuras permanentId).contains sourceId
  | .self => permanentId == sourceId
  | .creaturesYouControl =>
      permanent.isCreature && permanent.controller == source.controller
  | _ => false

def getGrantedAbilities (permanentId : CardId) : List ActivatedAbility :=
  match game.getCard permanentId with
  | none => []
  | some permanent =>
      (game.zones.battlefield ++
        game.zones.playerZones.flatMap fun entry => entry.2.command).flatMap
        fun sourceId =>
          match game.getCard sourceId with
          | none => []
          | some source =>
              source.staticAbilities.filterMap fun
                | .grantAbility affected ability =>
                    if game.grantsAbilityTo permanentId sourceId permanent
                      source affected then some ability else none
                | _ => none

/-- The production with the granted mana abilities, if there are any. -/
def getEffectiveManaProduction (id : CardId)
    (cachedProduction : ManaProduction) : Option ManaProduction :=
  let granted := ManaProduction.deriveFromAbilities
    ((game.getGrantedAbilities id).filter fun ability => ability.isManaAbility)
  if granted.producesMana then
    some (.free (cachedProduction.kind.merge granted.kind))
  else none

/-- The colours that lands of the opponents can make. -/
def reflectedManaColors (player : PlayerId) : ManaColors :=
  game.zones.battlefield.foldl
    (fun colors id =>
      match game.card? id with
      | none => colors
      | some card =>
          if !card.isLand || card.controller == player then colors
          else
            match card.manaProduction.kind with
            | .anyColor => ManaColor.all.foldl ManaColors.insert colors
            | kind => kind.addColors colors)
    .empty

def effectiveProductionForResolution (id : CardId) (player : PlayerId) :
    ManaProduction :=
  match game.card? id with
  | none => .default
  | some card =>
      if card.activatedAbilities.any fun ability =>
        ability.isManaAbility && ability.producesReflectedMana then
        { card.manaProduction with
          kind := .choice (game.reflectedManaColors player) }
      else card.manaProduction

def getManaCache (player : PlayerId) : Option ManaSourceCache :=
  (game.manaCaches.find? fun entry => entry.1 == player).map Prod.snd

def modifyManaCache (player : PlayerId)
    (f : ManaSourceCache → ManaSourceCache) : GameState :=
  { game with
    manaCaches := FirstMatch.modifyFirst (fun entry => entry.1 == player)
      (fun entry => (entry.1, f entry.2)) game.manaCaches }

/-- A player without a cache gets a dirty one. -/
def ensureManaCache (player : PlayerId) : GameState :=
  if game.manaCaches.any fun entry => entry.1 == player then game
  else
    { game with
      manaCaches := game.manaCaches ++
        [(player, (ManaSourceCache.new player).markDirty)] }

def rebuildManaCacheIfNeeded (player : PlayerId) : GameState :=
  let ensured := game.ensureManaCache player
  if (ensured.getManaCache player).any fun cache => cache.needsRebuild then
    ensured.modifyManaCache player fun cache =>
      cache.rebuildFromBattlefield game.zones.battlefield game.cards
  else ensured

theorem getManaCache_modifyManaCache (player : PlayerId)
    (f : ManaSourceCache → ManaSourceCache) :
    (game.modifyManaCache player f).getManaCache player =
      (game.getManaCache player).map f := by
  have hfind := FirstMatch.find?_modifyFirst
    (p := fun entry : PlayerId × ManaSourceCache => entry.1 == player)
    (f := fun entry => (entry.1, f entry.2)) (fun _ => rfl) game.manaCaches
  rw [getManaCache, getManaCache, Option.map_map]
  exact (congrArg (Option.map Prod.snd) hfind).trans (Option.map_map _ _ _)

/-- A player has a cache after a rebuild. -/
theorem getManaCache_rebuild (player : PlayerId) :
    ((game.rebuildManaCacheIfNeeded player).getManaCache player).isSome =
      true := by
  have hensured : ((game.ensureManaCache player).getManaCache player).isSome =
      true := by
    rw [ensureManaCache]
    split
    · next hany =>
      rw [getManaCache, Option.isSome_map, List.find?_isSome]
      exact List.any_eq_true.mp hany
    · rw [getManaCache, Option.isSome_map, List.find?_isSome]
      exact ⟨_, List.mem_append_right _ List.mem_cons_self,
        beq_self_eq_true _⟩
  rw [rebuildManaCacheIfNeeded]
  split
  · rwa [getManaCache_modifyManaCache, Option.isSome_map]
  · exact hensured

theorem rebuildManaCache_frame (player : PlayerId) : ∃ manaCaches,
    game.rebuildManaCacheIfNeeded player = { game with manaCaches } := by
  rw [rebuildManaCacheIfNeeded]
  dsimp only [modifyManaCache]
  rw [ensureManaCache]
  split <;> split <;> exact ⟨_, rfl⟩

end GameState

structure ManaEngine where
  simpleSources : List CardId := []
  complexSources : List CardId := []
  simpleCapacity : Color → UInt8 := fun _ => 0
  manaSources : List ManaSource := []
  useGreedyResolver : Bool := false
  cachedPlayer : Option PlayerId := none
  cachedVersion : UInt32 := 0xFFFFFFFF

namespace ManaEngine

variable (engine : ManaEngine) (game : GameState) (player : PlayerId)

/-- Nothing has changed since the last update for the player. -/
def upToDate : Bool :=
  engine.cachedPlayer == some player &&
    engine.cachedVersion == game.manaStateVersion

/-- The lists and the capacity are cleared, the resolver flag is not. -/
def cleared : ManaEngine :=
  { engine with
    simpleSources := []
    complexSources := []
    simpleCapacity := fun _ => 0
    manaSources := [] }

def memoize : ManaEngine :=
  { engine with
    cachedPlayer := some player
    cachedVersion := game.manaStateVersion }

/-- A source listed by colour; it is never summoning-sick. -/
def simpleSource? (id : CardId) : Option ManaSource :=
  (game.card? id).map fun card =>
    { cardId := id
      production := card.manaProduction
      isTapped := card.tapped }

def complexSource? (id : CardId) : Option ManaSource :=
  (game.card? id).map fun card =>
    { cardId := id
      production := game.effectiveProductionForResolution id player
      isTapped := card.tapped
      hasSummoningSickness := game.hasSummoningSickness card }

def readFromCache (cache : ManaSourceCache) : ManaEngine :=
  let simple := Color.all.flatMap cache.sources
  let complex := engine.complexSources ++ cache.complexSources
  memoize
    { engine with
      simpleSources := engine.simpleSources ++ simple
      complexSources := complex
      simpleCapacity := fun color => (cache.untapped color).toUInt8
      manaSources := engine.manaSources ++
        simple.filterMap (simpleSource? game) ++
          cache.complexSources.filterMap (complexSource? game player)
      useGreedyResolver := !complex.isEmpty } game player

/-- A non-creature of one colour counts for the capacity while untapped. -/
def addSimple (id : CardId) (color : Color) (tapped : Bool) (n : UInt8) :
    ManaEngine :=
  { engine with
    simpleSources := engine.simpleSources ++ [id]
    simpleCapacity := if tapped then engine.simpleCapacity
      else bump engine.simpleCapacity color n }

def addComplex (id : CardId) : ManaEngine :=
  { engine with complexSources := engine.complexSources ++ [id] }

def scanSource (id : CardId) : ManaEngine :=
  match game.card? id with
  | none => engine
  | some card =>
      if card.owner != player || !card.isManaSource then engine
      else
        let production := (game.getEffectiveManaProduction id
          card.manaProduction).getD card.manaProduction
        let n := max production.amount 1
        let classified :=
          if card.isCreature then engine.addComplex id
          else
            match production.kind with
            | .fixed color => engine.addSimple id color.toColor card.tapped n
            | .colorless => engine.addSimple id .colorless card.tapped n
            | .choice _ | .anyColor => engine.addComplex id
        { classified with
          manaSources := classified.manaSources ++
            [{ cardId := id
               production
               isTapped := card.tapped
               hasSummoningSickness := game.hasSummoningSickness card }] }

def scanBattlefieldFallback : ManaEngine :=
  (game.zones.battlefield.foldl (fun engine id =>
    engine.scanSource game player id) engine).memoize game player

/-- The update that leaves the caches alone. -/
def update : ManaEngine :=
  if engine.upToDate game player then engine
  else
    match game.getManaCache player with
    | none => engine.cleared.memoize game player
    | some cache =>
        if cache.needsRebuild || cache.isEmpty then
          engine.cleared.scanBattlefieldFallback game player
        else engine.cleared.readFromCache game player cache

/-- The update that rebuilds the cache of the player where it has to. -/
def updateMut : GameState × ManaEngine :=
  if engine.upToDate game player then (game, engine)
  else
    let cacheNeedsInit := (game.getManaCache player).any fun cache =>
      cache.isEmpty && !game.zones.battlefield.isEmpty
    let marked := if cacheNeedsInit then
        game.modifyManaCache player ManaSourceCache.markDirty
      else game
    let rebuilt := marked.rebuildManaCacheIfNeeded player
    match rebuilt.getManaCache player with
    | some cache => (rebuilt, engine.cleared.readFromCache rebuilt player cache)
    | none => (rebuilt, engine.cleared)

def canPaySimple (cost : ManaCost) : Bool :=
  cost.isAffordable (engine.simpleCapacity .white)
    (engine.simpleCapacity .blue) (engine.simpleCapacity .black)
    (engine.simpleCapacity .red) (engine.simpleCapacity .green)
    (engine.simpleCapacity .colorless)

def canPay (cost : ManaCost) : Bool :=
  if engine.useGreedyResolver then
    GreedyManaResolver.canPay cost engine.manaSources
  else engine.canPaySimple cost

/-- Floating mana first, then the sources for the rest of the cost. -/
def canPayWithPool (cost : ManaCost) (pool : ManaPool) : Bool :=
  if pool.isEmpty then engine.canPay cost
  else if pool.canPay cost then true
  else
    let remaining := cost.afterPool pool
    if remaining.cmc = 0 then true else engine.canPay remaining

/-- An update writes nothing but the caches. -/
theorem updateMut_game : ∃ manaCaches,
    (engine.updateMut game player).1 = { game with manaCaches } := by
  rw [updateMut]
  split
  · exact ⟨game.manaCaches, rfl⟩
  · dsimp only
    generalize hmarked : (if (game.getManaCache player).any fun cache =>
      cache.isEmpty && !game.zones.battlefield.isEmpty then
        game.modifyManaCache player ManaSourceCache.markDirty
      else game) = marked
    obtain ⟨manaCaches, hcaches⟩ := marked.rebuildManaCache_frame player
    have hgame : ∃ manaCaches,
        marked.rebuildManaCacheIfNeeded player = { game with manaCaches } := by
      rw [hcaches, ← hmarked]
      split <;> exact ⟨_, rfl⟩
    split <;> exact hgame

/-- Right after an update there is nothing to do. -/
theorem upToDate_updateMut :
    (engine.updateMut game player).2.upToDate (engine.updateMut game player).1
      player = true := by
  rw [updateMut]
  split
  · next hcurrent => exact hcurrent
  · dsimp only
    generalize (if (game.getManaCache player).any fun cache =>
      cache.isEmpty && !game.zones.battlefield.isEmpty then
        game.modifyManaCache player ManaSourceCache.markDirty
      else game) = marked
    obtain ⟨cache, hcache⟩ := Option.isSome_iff_exists.mp
      (marked.getManaCache_rebuild player)
    rw [hcache]
    exact Bool.and_eq_true_iff.mpr
      ⟨beq_self_eq_true _, beq_self_eq_true _⟩

end ManaEngine

end DeepScry
