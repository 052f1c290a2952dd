/-
The scan of the battlefield that the mana engine takes for its gold standard,
and what an update of the engine lists beside it.
-/
import DeepScry.ManaEngine
import DeepScry.SourceCacheEvents

namespace DeepScry

/-- What two lists of sources are compared by: the permanent, whether it is
tapped and what it makes. -/
def ManaSource.listing (source : ManaSource) :
    CardId × Bool × ManaProduction :=
  (source.cardId, source.isTapped, source.production)

/-- Whether a mana ability of the card asks which colours opponents make. -/
def Card.makesReflectedMana (card : Card) : Bool :=
  card.activatedAbilities.any fun ability =>
    ability.isManaAbility && ability.producesReflectedMana

/-- A production of one colour, or of colorless mana. -/
def ManaProductionKind.isSingle : ManaProductionKind → Bool
  | fixed _ => true
  | colorless => true
  | choice _ => false
  | anyColor => false

theorem Card.isSingle_of_sourceClass {card : Card} {color : Color}
    (hclass : card.sourceClass = .simple color) :
    card.manaProduction.kind.isSingle = true := by
  rw [Card.sourceClass] at hclass
  split_ifs at hclass
  cases hkind : card.manaProduction.kind <;>
    simp_all [ManaProductionKind.isSingle]

namespace GameState

variable (game : GameState) (player : PlayerId)

/-- The battlefield with the cards, as the caches see them. -/
def sourceBoard : Board := ⟨game.zones.battlefield, game.cards⟩

/-- What is granted comes first, then the colours made by opponents now. -/
def scratchProduction (id : CardId) (card : Card) : ManaProduction :=
  match game.getEffectiveManaProduction id card.manaProduction with
  | some production => production
  | none => game.effectiveProductionForResolution id player

/-- The entry of a permanent in the scan, if it is a source of the player. -/
def scanned (id : CardId) : Option (CardId × Bool × ManaProduction) :=
  (game.sourceBoard.sourceOf player id).map fun card =>
    (id, card.tapped, game.scratchProduction player id card)

theorem effectiveProduction_eq {id : CardId} {card : Card}
    (hcard : game.card? id = some card)
    (hplain : card.makesReflectedMana = false) :
    game.effectiveProductionForResolution id player =
      card.manaProduction := by
  rw [Card.makesReflectedMana] at hplain
  simp [effectiveProductionForResolution, hcard, hplain]

end GameState

namespace ManaEngine

variable (engine : ManaEngine) (game : GameState) (player : PlayerId)

/-- Enter a source on the lists by the kind it makes; a creature is complex. -/
def listSource (id : CardId) (card : Card) (production : ManaProduction) :
    ManaEngine :=
  let n := max production.amount 1
  let classified :=
    if card.isCreature then engine.addComplex id
    else
      match production.kind with
      | .fixed color => engine.addSimple id color.toColor card.tapped n
      | .colorless => engine.addSimple id .colorless card.tapped n
      | .choice _ | .anyColor => engine.addComplex id
  { classified with
    manaSources := classified.manaSources ++
      [{ cardId := id
         production
         isTapped := card.tapped
         hasSummoningSickness := game.hasSummoningSickness card }] }

/-- One permanent of a scan that finds out a production in some way. -/
def scanWith (production : CardId → Card → ManaProduction) (id : CardId) :
    ManaEngine :=
  match game.card? id with
  | none => engine
  | some card =>
      if card.owner != player || !card.isManaSource then engine
      else engine.listSource game id card (production id card)

/-- `compute_from_scratch`; the lists are those of a new engine. -/
def computeFromScratch : ManaEngine :=
  game.zones.battlefield.foldl (fun scratch id =>
    scratch.scanWith game player (game.scratchProduction player) id) {}

theorem listSource_listings (id : CardId) (card : Card)
    (production : ManaProduction) :
    (engine.listSource game id card production).manaSources.map
        ManaSource.listing =
      engine.manaSources.map ManaSource.listing ++
        [(id, card.tapped, production)] := by
  have hclassified : ∀ color n,
      (engine.addSimple id color card.tapped n).manaSources =
        engine.manaSources := fun _ _ => rfl
  cases hcreature : card.isCreature <;> cases hkind : production.kind <;>
    simp [listSource, hcreature, hkind, hclassified, addComplex,
      ManaSource.listing]

theorem scanWith_listings (production : CardId → Card → ManaProduction)
    (id : CardId) :
    (engine.scanWith game player production id).manaSources.map
        ManaSource.listing =
      engine.manaSources.map ManaSource.listing ++
        ((game.sourceBoard.sourceOf player id).map fun card =>
          (id, card.tapped, production id card)).toList := by
  cases hcard : game.card? id with
  | none =>
      have hnone : game.sourceBoard.sourceOf player id = none := by
        change (game.card? id).filter _ = none
        simp [hcard]
      simp [scanWith, hcard, hnone]
  | some card =>
      have hsource : game.sourceBoard.sourceOf player id =
          if card.owner == player && card.isManaSource then some card
          else none := by
        change (game.card? id).filter _ = _
        simp [hcard, Option.filter]
      by_cases hown : (card.owner == player && card.isManaSource) = true
      · have hpass : (card.owner != player || !card.isManaSource) =
            false := by
          simpa [bne] using hown
        simp [scanWith, hcard, hpass, hsource, hown, listSource_listings]
      · have hpass : (card.owner != player || !card.isManaSource) =
            true := by
          cases howner : card.owner == player <;> simp_all [bne]
        simp [scanWith, hcard, hpass, hsource, hown]

/-- The listings of a whole scan, one for each source, in their order. -/
theorem foldl_scanWith_listings
    (production : CardId → Card → ManaProduction) (ids : List CardId) :
    (ids.foldl (fun engine id =>
        engine.scanWith game player production id) engine).manaSources.map
          ManaSource.listing =
      engine.manaSources.map ManaSource.listing ++
        ids.filterMap fun id =>
          (game.sourceBoard.sourceOf player id).map fun card =>
            (id, card.tapped, production id card) := by
  induction ids generalizing engine with
  | nil => simp
  | cons id rest ih =>
      rw [List.foldl_cons, ih, scanWith_listings, List.append_assoc]
      cases hsource : game.sourceBoard.sourceOf player id <;>
        simp [hsource]

theorem computeFromScratch_listings :
    (computeFromScratch game player).manaSources.map ManaSource.listing =
      game.zones.battlefield.filterMap (game.scanned player) := by
  rw [computeFromScratch, foldl_scanWith_listings]
  rfl

end ManaEngine

section Classes

variable {α : Type} [DecidableEq α] (cls : α → Option SourceClass)
  (ids : List α)

/-- The colour lists and the complex list together hold every classified id as
often as the whole list does. -/
theorem classes_perm :
    ((Color.all.flatMap fun color =>
        ids.filter fun id => cls id == some (.simple color)) ++
      ids.filter fun id => cls id == some .complex).Perm
        (ids.filter fun id => (cls id).isSome) := by
  rw [List.perm_iff_count]
  intro id
  have hout (p : α → Bool) (hp : p id = false) :
      (ids.filter p).count id = 0 := by
    apply List.count_eq_zero.mpr
    simp [hp]
  rcases hcls : cls id with - | color | -
  · simp [Color.all, hout, hcls]
  · cases color <;> simp [Color.all, hout, hcls]
  · simp [Color.all, hout, hcls]

end Classes

namespace ManaSourceCache

/-- Each source of the player on the board is on one list, as often as it lies
on the battlefield; what is listed by colour makes one kind of mana. -/
structure Lists (player : PlayerId) (board : Board)
    (cache : ManaSourceCache) : Prop where
  sources : (Color.all.flatMap cache.sources ++ cache.complexSources).Perm
    (board.battlefield.filter fun id => (board.sourceOf player id).isSome)
  single : ∀ color, ∀ id ∈ cache.sources color, ∀ card,
    board.cards.tryGet id.raw = some card →
      card.manaProduction.kind.isSingle = true

/-- A cache that is read without a rebuild lists the sources. -/
structure Sound (player : PlayerId) (board : Board)
    (cache : ManaSourceCache) : Prop where
  playerId : cache.playerId = player
  lists : cache.needsRebuild = false → cache.isEmpty = false →
    cache.Lists player board

variable {player : PlayerId} {board : Board} {cache : ManaSourceCache}

/-- A rebuilt cache, or one kept up to date since, lists the sources. -/
theorem Coherent.lists (hcache : Coherent player board cache) :
    cache.Lists player board := by
  let cls (id : CardId) : Option SourceClass :=
    (board.sourceOf player id).map Card.sourceClass
  have hlisted (own : SourceClass) :
      board.listed player own = fun id => cls id == some own := by
    funext id
    rw [Board.listed]
    cases hsource : board.sourceOf player id <;> simp [cls, hsource]
  constructor
  · have hperm := classes_perm cls board.battlefield
    simp only [hcache.complexSources, funext hcache.sources, hlisted]
    simpa [cls] using hperm
  · intro color id hid card hcard
    rw [hcache.sources, List.mem_filter, hlisted] at hid
    have hsource := hid.2
    simp only [cls, Board.sourceOf, hcard] at hsource
    rw [beq_iff_eq, Option.map_eq_some_iff] at hsource
    obtain ⟨found, hfound, hclass⟩ := hsource
    cases (Option.filter_eq_some_iff.mp hfound).1
    exact Card.isSingle_of_sourceClass hclass

end ManaSourceCache

namespace GameState

variable (game : GameState) (player : PlayerId)

/-- No mana ability is granted to a source of the player. -/
def Ungranted : Prop :=
  ∀ id ∈ game.zones.battlefield, ∀ card,
    game.sourceBoard.sourceOf player id = some card →
      game.getEffectiveManaProduction id card.manaProduction = none

/-- No source of the player makes what lands of opponents make, unless a
granted ability hides it. -/
def Unreflected : Prop :=
  ∀ id ∈ game.zones.battlefield, ∀ card,
    game.sourceBoard.sourceOf player id = some card →
      game.getEffectiveManaProduction id card.manaProduction = none →
        card.makesReflectedMana = false

/-- A source that makes what lands of opponents make is of no single kind. -/
def ReflectsOpenly : Prop :=
  ∀ id ∈ game.zones.battlefield, ∀ card,
    game.sourceBoard.sourceOf player id = some card →
      card.makesReflectedMana = true →
        card.manaProduction.kind.isSingle = false

/-- Every cache that is read without a rebuild lists the sources. -/
def CachesSound : Prop :=
  ∀ entry ∈ game.manaCaches, entry.2.Sound entry.1 game.sourceBoard

variable {game player}

theorem scanned_of_sourceOf {id : CardId} {card : Card}
    (hsource : game.sourceBoard.sourceOf player id = some card)
    (hungranted : game.getEffectiveManaProduction id card.manaProduction =
      none) :
    game.scanned player id = some (id, card.tapped,
      game.effectiveProductionForResolution id player) := by
  rw [scanned, hsource, Option.map_some, scratchProduction, hungranted]

theorem card?_of_sourceOf {id : CardId} {card : Card}
    (hsource : game.sourceBoard.sourceOf player id = some card) :
    game.card? id = some card :=
  (Option.filter_eq_some_iff.mp hsource).1

end GameState

namespace ManaEngine

variable {game : GameState} {player : PlayerId} (engine : ManaEngine)

/-- What is read from a cache is what the scan finds, up to the order. -/
theorem readFromCache_listings {cache : ManaSourceCache}
    (hlists : cache.Lists player game.sourceBoard)
    (hungranted : game.Ungranted player)
    (hreflects : game.ReflectsOpenly player) :
    ((engine.cleared.readFromCache game player cache).manaSources.map
        ManaSource.listing).Perm
      ((computeFromScratch game player).manaSources.map
        ManaSource.listing) := by
  have hlisted {id : CardId} (hid : id ∈ Color.all.flatMap cache.sources ++
      cache.complexSources) : id ∈ game.zones.battlefield ∧
        ∃ card, game.sourceBoard.sourceOf player id = some card := by
    obtain ⟨hfield, hsome⟩ := List.mem_filter.mp
      (hlists.sources.mem_iff.mp hid)
    exact ⟨hfield, Option.isSome_iff_exists.mp hsome⟩
  have hsimple : ∀ id ∈ Color.all.flatMap cache.sources,
      (simpleSource? game id).map ManaSource.listing =
        game.scanned player id := by
    intro id hid
    obtain ⟨hfield, card, hsource⟩ := hlisted (List.mem_append_left _ hid)
    have hcard := game.card?_of_sourceOf hsource
    obtain ⟨color, -, hcolor⟩ := List.mem_flatMap.mp hid
    have hplain : card.makesReflectedMana = false := by
      by_contra hmakes
      have hopen := hreflects id hfield card hsource (by simpa using hmakes)
      rw [hlists.single color id hcolor card hcard] at hopen
      cases hopen
    rw [game.scanned_of_sourceOf hsource (hungranted id hfield card hsource),
      game.effectiveProduction_eq player hcard hplain]
    simp [simpleSource?, hcard, ManaSource.listing]
  have hcomplex : ∀ id ∈ cache.complexSources,
      (complexSource? game player id).map ManaSource.listing =
        game.scanned player id := by
    intro id hid
    obtain ⟨hfield, card, hsource⟩ := hlisted (List.mem_append_right _ hid)
    have hcard := game.card?_of_sourceOf hsource
    rw [game.scanned_of_sourceOf hsource (hungranted id hfield card hsource)]
    simp [complexSource?, hcard, ManaSource.listing]
  have hread : (engine.cleared.readFromCache game player
      cache).manaSources.map ManaSource.listing =
        (Color.all.flatMap cache.sources ++
          cache.complexSources).filterMap (game.scanned player) := by
    rw [List.filterMap_append, ← List.filterMap_congr hsimple,
      ← List.filterMap_congr hcomplex]
    simp [readFromCache, memoize, cleared, List.map_filterMap]
  rw [hread, computeFromScratch_listings]
  refine (hlists.sources.filterMap _).trans (List.Perm.of_eq ?_)
  rw [List.filterMap_filter]
  apply List.filterMap_congr
  intro id _
  cases hsource : game.sourceBoard.sourceOf player id <;>
    simp [GameState.scanned, hsource]

/-- The fallback scan is the gold standard where nothing is reflected. -/
theorem fallback_listings (hplain : game.Unreflected player) :
    (engine.cleared.scanBattlefieldFallback game player).manaSources.map
        ManaSource.listing =
      (computeFromScratch game player).manaSources.map
        ManaSource.listing := by
  have hscan : ((game.zones.battlefield.foldl (fun engine id =>
      engine.scanSource game player id) engine.cleared).memoize game
        player).manaSources.map ManaSource.listing =
      game.zones.battlefield.filterMap fun id =>
        (game.sourceBoard.sourceOf player id).map fun card =>
          (id, card.tapped, (game.getEffectiveManaProduction id
            card.manaProduction).getD card.manaProduction) :=
    foldl_scanWith_listings engine.cleared game player _ _
  rw [scanBattlefieldFallback, hscan, computeFromScratch_listings]
  apply List.filterMap_congr
  intro id hid
  rw [GameState.scanned]
  cases hsource : game.sourceBoard.sourceOf player id with
  | none => rfl
  | some card =>
      rw [Option.map_some, Option.map_some, GameState.scratchProduction]
      cases hgranted : game.getEffectiveManaProduction id
          card.manaProduction with
      | some production => rfl
      | none =>
          have hown := hplain id hid card hsource hgranted
          rw [game.effectiveProduction_eq player
            (game.card?_of_sourceOf hsource) hown]
          rfl

end ManaEngine

namespace GameState

variable {game : GameState} {player : PlayerId}

theorem CachesSound.getManaCache (hsound : game.CachesSound)
    {cache : ManaSourceCache}
    (hcache : game.getManaCache player = some cache) :
    cache.Sound player game.sourceBoard := by
  obtain ⟨entry, hfind, rfl⟩ := Option.map_eq_some_iff.mp hcache
  have hplayer := List.find?_some hfind
  rw [beq_iff_eq] at hplayer
  subst hplayer
  exact hsound entry (List.mem_of_find?_eq_some hfind)

/-- A missing cache is made, and is dirty. -/
theorem getManaCache_ensureManaCache :
    (game.ensureManaCache player).getManaCache player =
      some ((game.getManaCache player).getD
        (ManaSourceCache.new player).markDirty) := by
  rw [ensureManaCache]
  split
  · next hany =>
    have hsome : (game.getManaCache player).isSome = true := by
      simpa [GameState.getManaCache, List.find?_isSome] using hany
    obtain ⟨cache, hcache⟩ := Option.isSome_iff_exists.mp hsome
    rw [hcache, Option.getD_some]
  · next hany =>
    have hnone : (game.manaCaches.find? fun entry =>
        entry.1 == player) = none := by
      rw [List.find?_eq_none]
      intro entry hentry hplayer
      exact hany (List.any_eq_true.mpr ⟨entry, hentry, hplayer⟩)
    simp [GameState.getManaCache, List.find?_append, hnone]

theorem CachesSound.ensureManaCache (hsound : game.CachesSound) :
    (game.ensureManaCache player).CachesSound := by
  rw [GameState.ensureManaCache]
  split
  · exact hsound
  · intro entry hentry
    rcases List.mem_append.mp hentry with hold | hnew
    · exact hsound entry hold
    · cases List.mem_singleton.mp hnew
      exact ⟨rfl, fun hclean => by cases hclean⟩

theorem CachesSound.modifyManaCache (hsound : game.CachesSound)
    {f : ManaSourceCache → ManaSourceCache}
    (hf : ∀ cache, cache.Sound player game.sourceBoard →
      (f cache).Sound player game.sourceBoard) :
    (game.modifyManaCache player f).CachesSound := by
  apply FirstMatch.forall_mem_modifyFirst _ hsound
  rintro ⟨owner, cache⟩ howner hcache
  rw [beq_iff_eq] at howner
  subst howner
  exact hf cache hcache

theorem sound_rebuild {cache : ManaSourceCache}
    (hplayer : cache.playerId = player) (board : Board) :
    (cache.rebuildFromBattlefield board.battlefield board.cards).Sound player
      board where
  playerId := (ManaSourceCache.rebuild_coherent hplayer board).playerId
  lists _ _ := (ManaSourceCache.rebuild_coherent hplayer board).lists

theorem sourceBoard_ensureManaCache :
    (game.ensureManaCache player).sourceBoard = game.sourceBoard := by
  rw [ensureManaCache]
  split <;> rfl

/-- A rebuild where it is needed keeps the caches sound. -/
theorem CachesSound.rebuild (hsound : game.CachesSound) :
    (game.rebuildManaCacheIfNeeded player).CachesSound := by
  have hensured : (game.ensureManaCache player).CachesSound :=
    hsound.ensureManaCache
  rw [rebuildManaCacheIfNeeded]
  split
  · apply hensured.modifyManaCache
    intro cache hcache
    rw [sourceBoard_ensureManaCache] at hcache ⊢
    exact sound_rebuild hcache.playerId game.sourceBoard
  · exact hensured

/-- After the rebuild the cache of the player can be read. -/
theorem CachesSound.rebuilt (hsound : game.CachesSound)
    (hread : ∀ cache, game.getManaCache player = some cache →
      cache.needsRebuild = false →
        cache.Lists player game.sourceBoard) :
    ∃ cache, (game.rebuildManaCacheIfNeeded player).getManaCache player =
      some cache ∧ cache.Lists player game.sourceBoard := by
  have hensured : (game.ensureManaCache player).getManaCache player =
      some ((game.getManaCache player).getD
        (ManaSourceCache.new player).markDirty) :=
    getManaCache_ensureManaCache
  rw [rebuildManaCacheIfNeeded, hensured]
  split
  · next hdirty =>
    rw [getManaCache_modifyManaCache, hensured, Option.map_some]
    refine ⟨_, rfl, ?_⟩
    apply (ManaSourceCache.rebuild_coherent _ game.sourceBoard).lists
    cases hcache : game.getManaCache player with
    | none => rfl
    | some cache => exact (hsound.getManaCache hcache).playerId
  · next hclean =>
    refine ⟨_, hensured, ?_⟩
    cases hcache : game.getManaCache player with
    | none => simp [hcache, ManaSourceCache.markDirty] at hclean
    | some cache =>
        rw [Option.getD_some]
        exact hread cache hcache (by simpa [hcache] using hclean)

end GameState

namespace ManaEngine

variable {game : GameState} {player : PlayerId} (engine : ManaEngine)

/-- The sources of the engine are those of a scan from scratch. -/
def Fresh (engine : ManaEngine) (game : GameState) (player : PlayerId) :
    Prop :=
  (engine.manaSources.map ManaSource.listing).Perm
    ((computeFromScratch game player).manaSources.map ManaSource.listing)

/-- When an update that leaves the caches alone finds what the scan finds: a
fallback scan takes a reflecting source for what it may make at most, a cache
knows of no granted ability, and without a cache there is no source. -/
def UpdateReads (game : GameState) (player : PlayerId) : Prop :=
  match game.getManaCache player with
  | none => ∀ id ∈ game.zones.battlefield,
      game.sourceBoard.sourceOf player id = none
  | some cache =>
      if cache.needsRebuild || cache.isEmpty then game.Unreflected player
      else game.Ungranted player ∧ game.ReflectsOpenly player

theorem update_fresh (hsound : game.CachesSound)
    (hstale : engine.upToDate game player = false)
    (hreads : UpdateReads game player) :
    (engine.update game player).Fresh game player := by
  rw [UpdateReads] at hreads
  rw [update, hstale, if_neg Bool.false_ne_true]
  cases hcache : game.getManaCache player with
  | none =>
      rw [hcache] at hreads
      have hscan : game.zones.battlefield.filterMap (game.scanned player) =
          [] := by
        rw [List.filterMap_eq_nil_iff]
        intro id hid
        rw [GameState.scanned, hreads id hid, Option.map_none]
      rw [Fresh, computeFromScratch_listings, hscan]
      exact List.Perm.nil
  | some cache =>
      rw [hcache] at hreads
      dsimp only at hreads ⊢
      split
      · next hfallback =>
        rw [if_pos hfallback] at hreads
        exact List.Perm.of_eq (engine.fallback_listings hreads)
      · next hread =>
        rw [if_neg hread] at hreads
        simp only [Bool.or_eq_true, not_or, Bool.not_eq_true] at hread
        exact engine.readFromCache_listings
          ((hsound.getManaCache hcache).lists hread.1 hread.2)
          hreads.1 hreads.2

/-- The game whose empty cache was marked for a rebuild. -/
def markedForInit (game : GameState) (player : PlayerId) : GameState :=
  if (game.getManaCache player).any fun cache =>
    cache.isEmpty && !game.zones.battlefield.isEmpty then
      game.modifyManaCache player ManaSourceCache.markDirty
  else game

theorem markedForInit_frame (game : GameState) (player : PlayerId) :
    ∃ manaCaches, markedForInit game player = { game with manaCaches } := by
  rw [markedForInit]
  split <;> exact ⟨_, rfl⟩

theorem markedForInit_sound (hsound : game.CachesSound) :
    (markedForInit game player).CachesSound := by
  rw [markedForInit]
  split
  · apply hsound.modifyManaCache
    intro cache hcache
    exact ⟨hcache.playerId, fun hclean => by cases hclean⟩
  · exact hsound

/-- Where no rebuild is marked, an empty cache stands for an empty
battlefield. -/
theorem markedForInit_lists (hsound : game.CachesSound)
    {cache : ManaSourceCache}
    (hcache : (markedForInit game player).getManaCache player = some cache)
    (hclean : cache.needsRebuild = false) :
    cache.Lists player game.sourceBoard := by
  rw [markedForInit] at hcache
  split at hcache
  · rw [GameState.getManaCache_modifyManaCache, Option.map_eq_some_iff]
      at hcache
    obtain ⟨old, -, rfl⟩ := hcache
    cases hclean
  · next hinit =>
    cases hempty : cache.isEmpty with
    | false => exact (hsound.getManaCache hcache).lists hclean hempty
    | true =>
        have hfield : game.zones.battlefield = [] := by
          simpa [hcache, hempty] using hinit
        rw [ManaSourceCache.isEmpty, Bool.and_eq_true,
          List.all_eq_true] at hempty
        have hsources : ∀ color, cache.sources color = [] := fun color =>
          List.isEmpty_iff.mp (hempty.1 color (by cases color <;> decide))
        constructor
        · simp [hsources, List.isEmpty_iff.mp hempty.2, Color.all,
            GameState.sourceBoard, hfield]
        · intro color id hid
          rw [hsources] at hid
          cases hid

theorem updateMut_eq (hstale : engine.upToDate game player = false) :
    engine.updateMut game player =
      match ((markedForInit game player).rebuildManaCacheIfNeeded
          player).getManaCache player with
      | some cache =>
          ((markedForInit game player).rebuildManaCacheIfNeeded player,
            engine.cleared.readFromCache
              ((markedForInit game player).rebuildManaCacheIfNeeded player)
              player cache)
      | none =>
          ((markedForInit game player).rebuildManaCacheIfNeeded player,
            engine.cleared) := by
  rw [updateMut, hstale]
  rfl

/-- An update that may rebuild keeps the caches sound and finds what the scan
finds, where no ability is granted to a source. -/
theorem updateMut_fresh (hsound : game.CachesSound)
    (hstale : engine.upToDate game player = false)
    (hungranted : game.Ungranted player)
    (hreflects : game.ReflectsOpenly player) :
    (engine.updateMut game player).1.CachesSound ∧
      (engine.updateMut game player).2.Fresh
        (engine.updateMut game player).1 player := by
  have hmarked : (markedForInit game player).CachesSound :=
    markedForInit_sound hsound
  obtain ⟨marking, hmarking⟩ := markedForInit_frame game player
  obtain ⟨rebuilding, hrebuilding⟩ :=
    (markedForInit game player).rebuildManaCache_frame player
  have hlists : ∀ cache,
      (markedForInit game player).getManaCache player = some cache →
      cache.needsRebuild = false →
        cache.Lists player game.sourceBoard :=
    fun _ hcache hclean => markedForInit_lists hsound hcache hclean
  obtain ⟨cache, hcache, hread⟩ :=
    hmarked.rebuilt (by rw [hmarking] at hlists ⊢; exact hlists)
  have hkept : ((markedForInit game player).rebuildManaCacheIfNeeded
      player).CachesSound := hmarked.rebuild
  rw [updateMut_eq engine hstale, hcache]
  refine ⟨hkept, ?_⟩
  rw [hrebuilding, hmarking]
  rw [hmarking] at hread
  exact engine.readFromCache_listings hread hungranted hreflects

end ManaEngine

end DeepScry
