/-
The affordability answer of the mana engine after an update, beside that of
the greedy resolver on the sources the engine lists.
-/
import DeepScry.ManaEngine
import DeepScry.SimpleResolver
import DeepScry.TotalMana

namespace DeepScry

open Drawing Supply

namespace ManaEngine

/-- The engine answers as the resolver does on all of its sources. -/
def Agrees (engine : ManaEngine) (cost : ManaCost) : Prop :=
  engine.canPay cost = GreedyManaResolver.canPay cost engine.manaSources

/-- What an update goes by: the sources that it lists, the mana that is counted
for the simple ones, and whether the resolver is asked. -/
structure Listing where
  sources : List ManaSource
  counted : Color → Nat
  asksResolver : Bool

/-- The mana of the usable sources. -/
def made (sources : List ManaSource) : Nat :=
  load ManaSource.worth (sources.filter ManaSource.usable)

namespace Listing

/-- The counts are those of the sources, all of one kind of mana, and do not
overflow. -/
structure Tallied (l : Listing) : Prop where
  ids : (l.sources.map ManaSource.cardId).Nodup
  simple : l.sources.any SimpleManaResolver.isComplex = false
  exact : ∀ color, l.counted color = potential l.sources color
  fits : ∀ color, l.counted color ≤ 255

/-- Where no colour is short, the wrapped totals compare as the net deltas and
the exact totals do. -/
def TotalsMatch (l : Listing) (cost : ManaCost) : Prop :=
  (∀ color, (cost.amountOf color).toNat ≤ potential l.sources color) →
    (cost.total % 256 ≤ made l.sources % 256 ↔
      (min cost.total 255 : Nat) ≤
          (netDeltas (l.sources.filter ManaSource.usable)).bmod 65536 ∧
        cost.total ≤ made l.sources)

/-- The resolver is asked, or the counts can be trusted for the cost. -/
def Trusted (l : Listing) (cost : ManaCost) : Prop :=
  l.asksResolver = true ∨ l.Tallied ∧ l.TotalsMatch cost

end Listing

section Inputs

variable (game : GameState) (player : PlayerId)

/-- What a scan of the battlefield makes of a permanent. -/
def scannedSource? (id : CardId) : Option ManaSource :=
  (game.card? id).bind fun card =>
    if card.owner != player || !card.isManaSource then none
    else some
      { cardId := id
        production := (game.getEffectiveManaProduction id
          card.manaProduction).getD card.manaProduction
        isTapped := card.tapped
        hasSummoningSickness := game.hasSummoningSickness card }

/-- What a scan counts for a permanent: nothing for a creature, and at least
one for another source of the colour. -/
def scannedCount (color : Color) (id : CardId) : Nat :=
  match game.card? id, scannedSource? game player id with
  | some card, some source =>
      let counts := !card.isCreature && !card.tapped &&
        match source.production.kind with
        | .fixed made => made.toColor == color
        | .colorless => color == .colorless
        | .choice _ | .anyColor => false
      if counts then (max source.production.amount 1).toNat else 0
  | _, _ => 0

/-- What is listed from a cache. -/
def cacheListing (cache : ManaSourceCache) : Listing where
  sources := (Color.all.flatMap cache.sources).filterMap (simpleSource? game) ++
    cache.complexSources.filterMap (complexSource? game player)
  counted color := (cache.untapped color).toNat
  asksResolver := !cache.complexSources.isEmpty

variable (engine : ManaEngine)

/-- What is listed already. -/
def ownListing : Listing where
  sources := engine.manaSources
  counted color := (engine.simpleCapacity color).toNat
  asksResolver := engine.useGreedyResolver

/-- What is listed by a scan, which leaves the flag of the engine alone. -/
def scanListing : Listing where
  sources := game.zones.battlefield.filterMap (scannedSource? game player)
  counted color := (game.zones.battlefield.map
    (scannedCount game player color)).sum
  asksResolver := engine.useGreedyResolver

/-- What `update` goes by. -/
def listing : Listing :=
  if engine.upToDate game player then engine.ownListing
  else
    match game.getManaCache player with
    | none => ⟨[], fun _ => 0, engine.useGreedyResolver⟩
    | some cache =>
        if cache.needsRebuild || cache.isEmpty then
          scanListing game player engine
        else cacheListing game player cache

/-- The cache after a rebuild, where one is due. -/
def currentCache : ManaSourceCache :=
  let cache := (game.getManaCache player).getD
    (ManaSourceCache.new player).markDirty
  if cache.needsRebuild ||
      (cache.isEmpty && !game.zones.battlefield.isEmpty) then
    cache.rebuildFromBattlefield game.zones.battlefield game.cards
  else cache

/-- What `update_mut` goes by. -/
def mutListing : Listing :=
  if engine.upToDate game player then engine.ownListing
  else cacheListing game player (currentCache game player)

end Inputs

/-- The engine is what the listing says, its counts in eight bits. -/
structure Shows (engine : ManaEngine) (l : Listing) : Prop where
  sources : engine.manaSources = l.sources
  capacity : ∀ color,
    (engine.simpleCapacity color).toNat = l.counted color % 256
  flag : engine.useGreedyResolver = l.asksResolver

section Shows

variable (engine : ManaEngine) (game : GameState) (player : PlayerId)

theorem shows_own : engine.Shows engine.ownListing where
  sources := rfl
  capacity color :=
    (Nat.mod_eq_of_lt (engine.simpleCapacity color).toNat_lt).symm
  flag := rfl

theorem shows_cache (cache : ManaSourceCache) :
    (engine.cleared.readFromCache game player cache).Shows
      (cacheListing game player cache) where
  sources := by simp [readFromCache, memoize, cleared, cacheListing]
  capacity color := by
    simp [readFromCache, memoize, cacheListing]
  flag := by simp [readFromCache, memoize, cleared, cacheListing]

/-- A permanent adds to a scan what the listing has for it. -/
theorem scanSource_spec (id : CardId) :
    (engine.scanSource game player id).manaSources =
        engine.manaSources ++ (scannedSource? game player id).toList ∧
      (∀ color, ((engine.scanSource game player id).simpleCapacity
          color).toNat =
        ((engine.simpleCapacity color).toNat +
          scannedCount game player color id) % 256) ∧
      (engine.scanSource game player id).useGreedyResolver =
        engine.useGreedyResolver := by
  have hsmall (color : Color) : (engine.simpleCapacity color).toNat =
      (engine.simpleCapacity color).toNat % 256 :=
    (Nat.mod_eq_of_lt (engine.simpleCapacity color).toNat_lt).symm
  simp only [scanSource, scannedCount, scannedSource?]
  cases hcard : game.card? id with
  | none => simp
  | some card =>
      cases hskip : card.owner != player || !card.isManaSource with
      | true =>
          simp only [hskip, Option.bind_some, if_true, Option.toList_none,
            List.append_nil, Nat.add_zero, true_and, and_true]
          exact hsmall
      | false =>
          simp only [hskip, Bool.false_eq_true, if_false, Option.bind_some,
            Option.toList_some]
          generalize (game.getEffectiveManaProduction id
            card.manaProduction).getD card.manaProduction = production
          cases hcreature : card.isCreature with
          | true => simp [addComplex]
          | false =>
              have hbump (color other : Color) (n : UInt8) :
                  (bump engine.simpleCapacity color n other).toNat =
                    ((engine.simpleCapacity other).toNat +
                      if other == color then n.toNat else 0) % 256 := by
                rw [bump_apply]
                split <;> simp
              cases hkind : production.kind with
              | fixed made =>
                  cases htapped : card.tapped with
                  | true => simp [addSimple]
                  | false =>
                      simp [addSimple, Bool.beq_comm]
                      intro color
                      rw [hbump]
                      simp
              | colorless =>
                  cases htapped : card.tapped with
                  | true => simp [addSimple]
                  | false => simp [addSimple, hbump]
              | choice colors => simp [addComplex]
              | anyColor => simp [addComplex]

theorem scan_spec (ids : List CardId) :
    let scanned := ids.foldl (fun engine id =>
      engine.scanSource game player id) engine
    scanned.manaSources =
        engine.manaSources ++ ids.filterMap (scannedSource? game player) ∧
      (∀ color, (scanned.simpleCapacity color).toNat =
        ((engine.simpleCapacity color).toNat +
          (ids.map (scannedCount game player color)).sum) % 256) ∧
      scanned.useGreedyResolver = engine.useGreedyResolver := by
  induction ids generalizing engine with
  | nil => simp
  | cons id rest ih =>
      obtain ⟨hsources, hcapacity, hflag⟩ :=
        engine.scanSource_spec game player id
      obtain ⟨hsources', hcapacity', hflag'⟩ :=
        ih (engine.scanSource game player id)
      refine ⟨?_, ?_, hflag'.trans hflag⟩
      · rw [List.foldl_cons, hsources', hsources, List.append_assoc,
          List.filterMap_cons]
        cases scannedSource? game player id <;> rfl
      · intro color
        rw [List.foldl_cons, hcapacity', hcapacity, List.map_cons,
          List.sum_cons, Nat.mod_add_mod, Nat.add_assoc]

theorem shows_scan :
    (engine.cleared.scanBattlefieldFallback game player).Shows
      (scanListing game player engine) := by
  obtain ⟨hsources, hcapacity, hflag⟩ := engine.cleared.scan_spec game player
    game.zones.battlefield
  refine ⟨hsources, ?_, hflag⟩
  intro color
  have hcolor := hcapacity color
  rwa [cleared, UInt8.toNat_zero, Nat.zero_add] at hcolor

/-- After `update` the engine is what the listing says. -/
theorem update_shows :
    (engine.update game player).Shows (engine.listing game player) := by
  rw [update, listing]
  cases engine.upToDate game player with
  | true => exact engine.shows_own
  | false =>
      cases game.getManaCache player with
      | none => exact ⟨rfl, fun _ => rfl, rfl⟩
      | some cache =>
          cases hscan : cache.needsRebuild || cache.isEmpty with
          | true =>
              simp only [hscan, if_true]
              exact engine.shows_scan game player
          | false =>
              simp only [hscan, Bool.false_eq_true, if_false]
              exact engine.shows_cache game player cache

theorem getManaCache_ensureManaCache :
    (game.ensureManaCache player).getManaCache player =
      some ((game.getManaCache player).getD
        (ManaSourceCache.new player).markDirty) := by
  rw [GameState.ensureManaCache]
  cases hany : game.manaCaches.any fun entry => entry.1 == player with
  | true =>
      obtain ⟨entry, hmem, hentry⟩ := List.any_eq_true.mp hany
      have hfound : (game.getManaCache player).isSome = true := by
        rw [GameState.getManaCache, Option.isSome_map, List.find?_isSome]
        exact ⟨entry, hmem, hentry⟩
      obtain ⟨cache, hcache⟩ := Option.isSome_iff_exists.mp hfound
      rw [if_pos rfl, hcache]
      rfl
  | false =>
      have hnone : game.manaCaches.find? (fun entry => entry.1 == player) =
          none := by
        rw [List.find?_eq_none]
        exact List.any_eq_false.mp hany
      simp [GameState.getManaCache, List.find?_append, hnone]

/-- A rebuild is made of a dirty cache only. -/
theorem getManaCache_rebuilt {cache : ManaSourceCache}
    (hcache : (game.getManaCache player).getD
      (ManaSourceCache.new player).markDirty = cache) :
    (game.rebuildManaCacheIfNeeded player).getManaCache player =
      some (if cache.needsRebuild then
        cache.rebuildFromBattlefield game.zones.battlefield game.cards
      else cache) := by
  have hensured := getManaCache_ensureManaCache game player
  rw [hcache] at hensured
  rw [GameState.rebuildManaCacheIfNeeded, hensured, Option.any_some]
  cases cache.needsRebuild with
  | true =>
      rw [if_pos rfl, if_pos rfl, GameState.getManaCache_modifyManaCache,
        hensured]
      rfl
  | false =>
      rw [if_neg Bool.false_ne_true, if_neg Bool.false_ne_true]
      exact hensured

/-- An update that is due reads the current cache. -/
theorem updateMut_of_due (hdue : engine.upToDate game player = false) :
    ∃ manaCaches, (engine.updateMut game player).2 =
      engine.cleared.readFromCache { game with manaCaches } player
        (currentCache game player) := by
  rw [updateMut, hdue, if_neg Bool.false_ne_true]
  dsimp only
  rw [currentCache]
  cases hcache : game.getManaCache player with
  | none =>
      have hnew : (game.getManaCache player).getD
          (ManaSourceCache.new player).markDirty =
            (ManaSourceCache.new player).markDirty := by rw [hcache]; rfl
      rw [Option.any_none, if_neg Bool.false_ne_true,
        getManaCache_rebuilt game player hnew]
      obtain ⟨manaCaches, hgame⟩ := game.rebuildManaCache_frame player
      exact ⟨manaCaches, by rw [hgame]; rfl⟩
  | some cache =>
      rw [Option.any_some, Option.getD_some]
      cases hinit : cache.isEmpty && !game.zones.battlefield.isEmpty with
      | true =>
          have hmarked : ((game.modifyManaCache player
              ManaSourceCache.markDirty).getManaCache player).getD
                (ManaSourceCache.new player).markDirty =
              cache.markDirty := by
            rw [GameState.getManaCache_modifyManaCache, hcache]
            rfl
          rw [if_pos rfl, getManaCache_rebuilt _ player hmarked,
            Bool.or_true, if_pos rfl]
          obtain ⟨manaCaches, hgame⟩ := (game.modifyManaCache player
            ManaSourceCache.markDirty).rebuildManaCache_frame player
          exact ⟨manaCaches, by rw [hgame]; rfl⟩
      | false =>
          have hsame : (game.getManaCache player).getD
              (ManaSourceCache.new player).markDirty = cache := by
            rw [hcache]
            rfl
          rw [if_neg Bool.false_ne_true, getManaCache_rebuilt game player hsame,
            Bool.or_false]
          obtain ⟨manaCaches, hgame⟩ := game.rebuildManaCache_frame player
          exact ⟨manaCaches, by rw [hgame]⟩

/-- After `update_mut` the engine is what the listing says. -/
theorem updateMut_shows :
    (engine.updateMut game player).2.Shows
      (engine.mutListing game player) := by
  rw [mutListing]
  cases hdue : engine.upToDate game player with
  | true =>
      rw [updateMut, hdue]
      exact engine.shows_own
  | false =>
      obtain ⟨manaCaches, hread⟩ := engine.updateMut_of_due game player hdue
      rw [hread, if_neg Bool.false_ne_true]
      exact engine.shows_cache { game with manaCaches } player _

end Shows

section Answers

variable {sources : List ManaSource}

/-- The colours add up to what simple sources make. -/
theorem sum_potential
    (hsimple : sources.any SimpleManaResolver.isComplex = false) :
    ∑ color, potential sources color = made sources := by
  have hkind : ∀ source ∈ sources.filter ManaSource.usable,
      (∃ color, source.production.kind = .fixed color) ∨
        source.production.kind = .colorless := by
    intro source hmem
    obtain ⟨hmem, husable⟩ := List.mem_filter.mp hmem
    exact SimpleManaResolver.kind_of_simple hsimple hmem husable
  simp only [potential, made, load]
  generalize sources.filter ManaSource.usable = usable at hkind
  induction usable with
  | nil => simp
  | cons source rest ih =>
      obtain ⟨hsource, hrest⟩ := List.forall_mem_cons.mp hkind
      have hone : ∑ color, (if source.production.kind.makes color = true then
          source.production.amount.toNat else 0) = source.worth := by
        rcases hsource with ⟨color, hkind⟩ | hkind
        · simp [hkind, ManaProductionKind.makes, ManaSource.worth]
        · simp [hkind, ManaProductionKind.makes, ManaSource.worth]
      simp only [List.map_cons, List.sum_cons, Finset.sum_add_distrib]
      rw [hone, ih hrest]

/-- On a simple board the resolver pays exactly what the totals allow. -/
theorem greedy_canPay_iff (cost : ManaCost)
    (hids : (sources.map ManaSource.cardId).Nodup)
    (hsimple : sources.any SimpleManaResolver.isComplex = false)
    (hsums : ∀ color, potential sources color ≤ 255) :
    GreedyManaResolver.canPay cost sources = true ↔
      (∀ color, (cost.amountOf color).toNat ≤ potential sources color) ∧
        (min cost.total 255 : Nat) ≤
          (netDeltas (sources.filter ManaSource.usable)).bmod 65536 ∧
        cost.total ≤ made sources := by
  have hbounds := @SimpleManaResolver.boundsCheckPayment_ne_no cost sources
    hsums
  rw [GreedyManaResolver.canPay, beq_iff_eq,
    GreedyManaResolver.checkPayment_eq_yes_iff, hbounds]
  constructor
  · rintro ⟨⟨hdelta, hfits⟩, hpaid⟩
    obtain ⟨tapOrder, htaps⟩ := Option.isSome_iff_exists.mp hpaid
    obtain ⟨plan, hplan, -, hcovers⟩ :=
      GreedyManaResolver.tryGreedyPayment_sound hids htaps
    exact ⟨hfits, hdelta,
      SimpleManaResolver.total_le_of_covers hids hplan hcovers⟩
  · rintro ⟨hfits, hdelta, htotal⟩
    exact ⟨⟨hdelta, hfits⟩, SimpleManaResolver.tryGreedyPayment_isSome hids
      hsimple hsums hfits htotal⟩

variable {engine : ManaEngine} {l : Listing}

/-- The count allows what its wrapped totals do. -/
theorem canPaySimple_iff (hshows : engine.Shows l) (htallied : l.Tallied)
    (cost : ManaCost) :
    engine.canPaySimple cost = true ↔
      (∀ color, (cost.amountOf color).toNat ≤ potential l.sources color) ∧
        cost.total % 256 ≤ made l.sources % 256 := by
  let pool : ManaPool := ⟨engine.simpleCapacity .white,
    engine.simpleCapacity .blue, engine.simpleCapacity .black,
    engine.simpleCapacity .red, engine.simpleCapacity .green,
    engine.simpleCapacity .colorless⟩
  have hcolors (color : Color) :
      (pool.amountOf color).toNat = potential l.sources color := by
    have hcapacity := hshows.capacity color
    rw [Nat.mod_eq_of_lt (Nat.lt_succ_of_le (htallied.fits color)),
      htallied.exact] at hcapacity
    cases color <;> exact hcapacity
  have hcan := pool.canPay_iff cost
  rw [ManaPool.amount_eq_sum] at hcan
  simp only [hcolors] at hcan
  rw [sum_potential htallied.simple] at hcan
  exact hcan

/-- Where the counts are those of the sources, the answers agree exactly when
the resolver is asked or the totals match. -/
theorem Shows.answers_iff (hshows : engine.Shows l) (htallied : l.Tallied)
    (cost : ManaCost) :
    engine.Agrees cost ↔ l.asksResolver = true ∨ l.TotalsMatch cost := by
  have hsums (color : Color) : potential l.sources color ≤ 255 := by
    rw [← htallied.exact]
    exact htallied.fits color
  have hgreedy := greedy_canPay_iff cost htallied.ids htallied.simple hsums
  have hcount := canPaySimple_iff hshows htallied cost
  rw [Agrees, canPay, hshows.flag, hshows.sources, Listing.TotalsMatch]
  cases l.asksResolver with
  | true => simp
  | false =>
      simp only [Bool.false_eq_true, if_false, false_or]
      rw [Bool.eq_iff_iff, hcount, hgreedy]
      constructor
      · intro hsame hfits
        simpa [hfits] using hsame
      · intro hsame
        constructor
        · rintro ⟨hfits, htotal⟩
          exact ⟨hfits, (hsame hfits).mp htotal⟩
        · rintro ⟨hfits, htotals⟩
          exact ⟨hfits, (hsame hfits).mpr htotals⟩

theorem Shows.agrees_of_trusted (hshows : engine.Shows l) {cost : ManaCost}
    (htrusted : l.Trusted cost) : engine.Agrees cost := by
  rcases htrusted with hasks | ⟨htallied, hmatch⟩
  · rw [Agrees, canPay, hshows.flag, hasks, if_pos rfl]
  · exact (hshows.answers_iff htallied cost).mpr (Or.inr hmatch)

end Answers

/-- After either update the answer is that of the resolver when the resolver is
asked or the counts can be trusted, and where the counts are those of the
sources, only then. -/
theorem update_agrees (engine : ManaEngine) (game : GameState)
    (player : PlayerId) (cost : ManaCost) :
    (((engine.listing game player).Trusted cost →
        (engine.update game player).Agrees cost) ∧
      ((engine.listing game player).Tallied →
        (engine.update game player).Agrees cost →
          (engine.listing game player).Trusted cost)) ∧
    ((engine.mutListing game player).Trusted cost →
        (engine.updateMut game player).2.Agrees cost) ∧
      ((engine.mutListing game player).Tallied →
        (engine.updateMut game player).2.Agrees cost →
          (engine.mutListing game player).Trusted cost) := by
  have hboth {updated : ManaEngine} {l : Listing} (hshows : updated.Shows l) :
      (l.Trusted cost → updated.Agrees cost) ∧
        (l.Tallied → updated.Agrees cost → l.Trusted cost) := by
    refine ⟨hshows.agrees_of_trusted, ?_⟩
    intro htallied hagrees
    rcases (hshows.answers_iff htallied cost).mp hagrees with hasks | hmatch
    · exact Or.inl hasks
    · exact Or.inr ⟨htallied, hmatch⟩
  exact ⟨hboth (engine.update_shows game player),
    hboth (engine.updateMut_shows game player)⟩

/-- A land of this production and a cache that has not been filled. -/
def unseenLand (production : ManaProduction) : GameState where
  cards := ⟨[some
    { id := ⟨0⟩
      owner := ⟨0⟩
      controller := ⟨0⟩
      types := [.land]
      definition :=
        { cache := { isManaSource := true, manaProduction := production } } }]⟩
  players := [{ id := ⟨0⟩ }]
  zones := { battlefield := [⟨0⟩] }
  turn := { activePlayer := ⟨0⟩ }
  manaCaches := [(⟨0⟩, .new ⟨0⟩)]

/-- A scan lists a dual land but does not ask the resolver, and the count does
not see that a land asks for mana itself. -/
theorem update_disagrees :
    ¬ (update {} (unseenLand { kind := .choice (.fromSlice [.red, .green]) })
      ⟨0⟩).Agrees { green := 1 } ∧
    ¬ (updateMut {} (unseenLand
      { kind := .fixed .white, activationCost := some { generic := 1 } })
        ⟨0⟩).2.Agrees { white := 1 } := by
  constructor
  · intro h
    revert h
    rw [Agrees]
    decide
  · intro h
    revert h
    rw [Agrees]
    decide

end ManaEngine

end DeepScry
