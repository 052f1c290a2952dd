/-
A puzzle loads as it is written: which card each entry becomes, where it lies,
and what the modifiers of the entry do to it.
-/
import DeepScry.PuzzleCards
import Mathlib.Data.List.Nodup

namespace DeepScry

/-- The call returns where there is room, and what it returns is a value with
the property. -/
structure Outcome.Yields {α : Type} (outcome : Outcome α) (room : Prop)
    (P : GameState → α → Prop) : Prop where
  returns : room → outcome ≠ none
  value : ∀ game result, outcome = some (game, result) →
    ∃ a, result = .ok a ∧ P game a

namespace Outcome.Yields

variable {α β : Type} {outcome : Outcome α} {room : Prop}
  {P : GameState → α → Prop}

theorem ok {game : GameState} {a : α} (ha : P game a) :
    (Outcome.ok game a).Yields room P where
  returns _ hnone := nomatch hnone
  value := by
    rintro _ _ ⟨⟩
    exact ⟨a, rfl, ha⟩

theorem andThen {next : GameState → α → Outcome β}
    {Q : GameState → β → Prop} (hfirst : outcome.Yields room P)
    (hnext : ∀ game a, P game a → (next game a).Yields room Q) :
    (outcome.andThen next).Yields room Q := by
  rcases houtcome : outcome with _ | ⟨game, result⟩
  · constructor
    · intro hroom
      exact absurd houtcome (hfirst.returns hroom)
    · rintro _ _ ⟨⟩
  · obtain ⟨a, rfl, ha⟩ := hfirst.value game result houtcome
    exact hnext game a ha

theorem mono {other : Prop} {Q : GameState → α → Prop}
    (hyields : outcome.Yields room P) (hroom : other → room)
    (hPQ : ∀ game a, P game a → Q game a) : outcome.Yields other Q where
  returns hother := hyields.returns (hroom hother)
  value game result houtcome := by
    obtain ⟨a, hresult, ha⟩ := hyields.value game result houtcome
    exact ⟨a, hresult, hPQ game a ha⟩

end Outcome.Yields

namespace Puzzle

/-- An entry with the player and the zone it is written under. -/
structure Written where
  player : PlayerId
  zone : Zone
  entry : CardDefinition

def Written.isIn (written : Written) (zone : Zone) (player : PlayerId) :
    Bool :=
  written.zone == zone && (zone.isShared || written.player == player)

/-- The entries of a player in the order of the loader. -/
def PlayerStateDefinition.written (state : PlayerStateDefinition)
    (player : PlayerId) : List Written :=
  state.hand.map (Written.mk player .hand) ++
    state.battlefield.map (Written.mk player .battlefield) ++
    state.graveyard.map (Written.mk player .graveyard) ++
    state.library.map (Written.mk player .library) ++
    state.exile.map (Written.mk player .exile)

def writtenFrom : Nat → List PlayerStateDefinition → List Written
  | _, [] => []
  | index, state :: rest =>
      state.written ⟨index⟩ ++ writtenFrom (index + 1) rest

def GameStateDefinition.written (state : GameStateDefinition) : List Written :=
  writtenFrom 0 state.players

/-- The cards of the entries written under a zone. -/
def cardsOf (placed : List (Written × CardId)) (zone : Zone)
    (player : PlayerId) : List CardId :=
  (placed.filter fun place => place.1.isIn zone player).map Prod.snd

/-- The `Id`s of the entries that have a card. -/
def idsOf (placed : List (Written × CardId)) : IdMap :=
  placed.foldl (fun ids place => ids.insert place.1.entry place.2)
    fun _ => none

/-- The database returns the named cards, and no lookup fails. -/
structure CardDatabase.Knows (db : CardDatabase)
    (entries : List CardDefinition) : Prop where
  card : ∀ entry ∈ entries, ∃ definition,
    db.getCard entry.name = .ok (some definition) ∧
      definition.name = entry.name
  token : ∀ script, ∃ token, db.getToken script = .ok token

/-- The first entries are loaded: each has a card of its own, in its zone. -/
structure Loaded (db : CardDatabase) (turn : UInt32)
    (placed : List (Written × CardId)) (game : GameState) : Prop where
  players : game.players.map Player.id = [⟨0⟩, ⟨1⟩]
  turn : game.turn.turnNumber = turn
  cards : ∀ place ∈ placed, ∃ definition,
    db.getCard place.1.entry.name = .ok (some definition) ∧
      game.card? place.2 = some (db.cardOf definition place.1.entry place.2
        place.1.player)
  distinct : (placed.map Prod.snd).Nodup
  zones : ∀ zone player, player = ⟨0⟩ ∨ player = ⟨1⟩ →
    game.zones.cardsIn zone player = some (cardsOf placed zone player)
  fresh : placed.length + 3 < UInt32.size →
    game.nextEntityId.toNat = placed.length + 3 ∧
      ∀ id : CardId, placed.length + 3 ≤ id.raw → game.card? id = none

section Loading

variable {db : CardDatabase} {turn : UInt32}
  {placed : List (Written × CardId)} {game : GameState}

theorem cardsOf_append (zone other : Zone) (player owner : PlayerId)
    (entry : CardDefinition) (card : CardId) :
    cardsOf (placed ++ [(⟨player, zone, entry⟩, card)]) other owner =
      if zone = other ∧ (zone.isShared = true ∨ player = owner) then
        cardsOf placed other owner ++ [card]
      else cardsOf placed other owner := by
  have hisIn : (Written.mk player zone entry).isIn other owner = true ↔
      zone = other ∧ (zone.isShared = true ∨ player = owner) := by
    rw [Written.isIn, Bool.and_eq_true, Bool.or_eq_true, beq_iff_eq,
      beq_iff_eq]
    exact and_congr_right fun heq => heq ▸ Iff.rfl
  rw [cardsOf, List.filter_append, List.map_append]
  by_cases hin : zone = other ∧ (zone.isShared = true ∨ player = owner)
  · rw [if_pos hin, List.filter_cons, if_pos (hisIn.mpr hin)]
    rfl
  · rw [if_neg hin, List.filter_cons,
      if_neg fun hsame => hin (hisIn.mp hsame)]
    exact List.append_nil _

theorem insert_isSome {α : Type} {store : EntityStore α} {id : Nat}
    (entity : α) (hfree : store.tryGet id = none) :
    (store.insert id entity).isSome = true := by
  rw [EntityStore.insert, hfree]
  rfl

/-- The card of an entry gets the next id. -/
theorem Loaded.create (hloaded : Loaded db turn placed game)
    (player : PlayerId) {entry : CardDefinition}
    (htoken : entry.isToken = false) {definition : DeepScry.CardDefinition}
    (hknown : db.getCard entry.name = .ok (some definition)) :
    (createCardFromDefinition db entry player game).Yields
      (placed.length + 3 < UInt32.size) fun created card => ∃ cards,
        game.cards.insert card.raw (db.cardOf definition entry card player) =
          some cards ∧
        card = ⟨game.nextEntityId.toNat⟩ ∧
        created = { game with
          nextEntityId := game.nextEntityId + 1
          cards := cards } := by
  rw [createCardFromDefinition, htoken, hknown, if_neg Bool.false_ne_true]
  dsimp only
  generalize hcreated : db.cardOf definition entry
    ⟨game.nextEntityId.toNat⟩ player = card
  cases hinsert : game.cards.insert game.nextEntityId.toNat card with
  | none =>
      constructor
      · intro hroom
        obtain ⟨hnext, hfree⟩ := hloaded.fresh hroom
        have hsome := insert_isSome card
          (hfree ⟨game.nextEntityId.toNat⟩ (Nat.le_of_eq hnext.symm))
        rw [hinsert] at hsome
        cases hsome
      · rintro _ _ ⟨⟩
  | some cards =>
      apply Outcome.Yields.ok
      exact ⟨cards, hcreated ▸ hinsert, rfl, rfl⟩

theorem Loaded.getPlayerZones (hloaded : Loaded db turn placed game)
    {player : PlayerId} (hplayer : player = ⟨0⟩ ∨ player = ⟨1⟩) :
    (game.zones.getPlayerZones player).isSome = true := by
  have hhand := hloaded.zones .hand player hplayer
  rw [Zones.cardsIn] at hhand
  · obtain ⟨zones, hzones, -⟩ := Option.bind_eq_some_iff.mp hhand
    rw [hzones]
    rfl
  · decide
  · decide

/-- One entry: its card is made, and added to its zone. -/
theorem Loaded.place (hloaded : Loaded db turn placed game)
    {player : PlayerId} (hplayer : player = ⟨0⟩ ∨ player = ⟨1⟩) (zone : Zone)
    {entry : CardDefinition} {definition : DeepScry.CardDefinition}
    (hknown : db.getCard entry.name = .ok (some definition))
    {cards : EntityStore Card}
    (hinsert : game.cards.insert game.nextEntityId.toNat (db.cardOf definition
      entry ⟨game.nextEntityId.toNat⟩ player) = some cards) :
    (addToZone zone player ⟨game.nextEntityId.toNat⟩ { game with
      nextEntityId := game.nextEntityId + 1
      cards := cards }).Yields True fun added _ =>
        Loaded db turn (placed ++
          [(⟨player, zone, entry⟩, ⟨game.nextEntityId.toNat⟩)]) added := by
  have hcards (id : CardId) := EntityStore.tryGet_insert hinsert id.raw
  have hfree : game.cards.tryGet game.nextEntityId.toNat = none := by
    rw [EntityStore.insert] at hinsert
    split at hinsert
    · cases hinsert
    · assumption
  have hnew : ∀ place ∈ placed, place.2 ≠ ⟨game.nextEntityId.toNat⟩ := by
    rintro place hplace heq
    obtain ⟨_, -, hcard⟩ := hloaded.cards place hplace
    rw [heq] at hcard
    change game.cards.tryGet game.nextEntityId.toNat = _ at hcard
    rw [hfree] at hcard
    cases hcard
  rw [addToZone, if_pos]
  · apply Outcome.Yields.ok
    constructor
    · exact hloaded.players
    · exact hloaded.turn
    · intro place hplace
      rcases List.mem_append.mp hplace with hold | hlast
      · obtain ⟨other, hother, hcard⟩ := hloaded.cards place hold
        refine ⟨other, hother, ?_⟩
        change cards.tryGet place.2.raw = _
        rw [hcards, if_neg]
        · exact hcard
        · intro heq
          exact hnew place hold (CardId.ext heq)
      · rw [List.mem_singleton] at hlast
        subst hlast
        refine ⟨definition, hknown, ?_⟩
        change cards.tryGet game.nextEntityId.toNat = _
        rw [hcards ⟨game.nextEntityId.toNat⟩, if_pos rfl]
    · rw [List.map_append, List.nodup_append]
      refine ⟨hloaded.distinct, List.nodup_singleton _, ?_⟩
      intro id hid other hother
      obtain ⟨place, hplace, rfl⟩ := List.mem_map.mp hid
      rw [List.mem_singleton.mp hother]
      exact hnew place hplace
    · intro other owner howner
      rw [Zones.cardsIn_modify_eq, cardsOf_append,
        hloaded.zones other owner howner]
      split <;> rfl
    · rw [List.length_append, List.length_singleton]
      intro hroom
      obtain ⟨hnext, hbeyond⟩ := hloaded.fresh (by omega)
      have hsucc : (game.nextEntityId + 1).toNat =
          placed.length + 1 + 3 := by
        rw [UInt32.toNat_add, hnext]
        exact Nat.mod_eq_of_lt (by
          change placed.length + 3 + 1 < UInt32.size
          omega)
      refine ⟨hsucc, ?_⟩
      intro id hid
      change cards.tryGet id.raw = none
      rw [hcards, if_neg (by omega)]
      exact hbeyond id (by omega)
  · rw [Bool.or_eq_true]
    exact .inr (hloaded.getPlayerZones hplayer)

/-- The written entries so far are loaded, and their `Id`s noted. -/
def LoadedUpTo (db : CardDatabase) (turn : UInt32) (done : List Written)
    (game : GameState) (ids : IdMap) : Prop :=
  ∃ placed, placed.map Prod.fst = done ∧ ids = idsOf placed ∧
    Loaded db turn placed game

/-- An entry the loader makes a card of. -/
def Ready (db : CardDatabase) (entry : CardDefinition) : Prop :=
  entry.isToken = false ∧
    ∃ definition, db.getCard entry.name = .ok (some definition)

variable {done : List Written} {ids : IdMap}

theorem LoadedUpTo.zone (hloaded : LoadedUpTo db turn done game ids)
    {player : PlayerId} (hplayer : player = ⟨0⟩ ∨ player = ⟨1⟩) (zone : Zone)
    {entries : List CardDefinition} (hready : ∀ entry ∈ entries,
      Ready db entry) :
    (loadZone db player zone entries ids game).Yields
      (done.length + entries.length + 3 ≤ UInt32.size)
      (LoadedUpTo db turn (done ++ entries.map (Written.mk player zone))) := by
  induction entries generalizing done ids game with
  | nil =>
      apply Outcome.Yields.ok
      rw [List.map_nil, List.append_nil]
      exact hloaded
  | cons entry rest ih =>
      obtain ⟨placed, rfl, rfl, hplaced⟩ := hloaded
      obtain ⟨htoken, definition, hknown⟩ := hready entry List.mem_cons_self
      rw [loadZone]
      apply Outcome.Yields.andThen
      · apply (hplaced.create player htoken hknown).mono
        · rw [List.length_map, List.length_cons]
          omega
        · intro game card hcreated
          exact hcreated
      · rintro created card ⟨cards, hinsert, rfl, rfl⟩
        apply Outcome.Yields.andThen
        · exact (hplaced.place hplayer zone hknown hinsert).mono
            (fun _ => trivial) fun _ _ hadded => hadded
        · intro added _ hadded
          have hnext : LoadedUpTo db turn
              (placed.map Prod.fst ++ [⟨player, zone, entry⟩]) added
              ((idsOf placed).insert entry ⟨game.nextEntityId.toNat⟩) := by
            refine ⟨_, ?_, ?_, hadded⟩
            · rw [List.map_append]
              rfl
            · rw [idsOf, idsOf, List.foldl_append]
              rfl
          have hrest := ih hnext fun other hother =>
            hready other (List.mem_cons_of_mem entry hother)
          rw [List.append_assoc] at hrest
          apply hrest.mono
          · rw [List.length_append, List.length_singleton, List.length_cons]
            omega
          · intro _ _ hdone
            exact hdone

/-- A loop over one zone, and what follows it. -/
theorem LoadedUpTo.zoneThen (hloaded : LoadedUpTo db turn done game ids)
    {player : PlayerId} (hplayer : player = ⟨0⟩ ∨ player = ⟨1⟩) {zone : Zone}
    {entries : List CardDefinition}
    (hready : ∀ entry ∈ entries, Ready db entry) {α : Type} {room : Prop}
    {Q : GameState → α → Prop} {next : GameState → IdMap → Outcome α}
    (hroom : room → done.length + entries.length + 3 ≤ UInt32.size)
    (hnext : ∀ game ids, LoadedUpTo db turn
      (done ++ entries.map (Written.mk player zone)) game ids →
        (next game ids).Yields room Q) :
    ((loadZone db player zone entries ids game).andThen next).Yields room Q :=
  ((hloaded.zone hplayer zone hready).mono hroom
    fun _ _ hzone => hzone).andThen hnext

theorem LoadedUpTo.player {index : Nat} (hindex : index = 0 ∨ index = 1)
    (hloaded : LoadedUpTo db turn done game ids)
    {state : PlayerStateDefinition}
    (hready : ∀ entry ∈ state.entries, Ready db entry) :
    (loadPlayer db index state ids game).Yields
      (done.length + state.entries.length + 3 ≤ UInt32.size)
      (LoadedUpTo db turn (done ++ state.written ⟨index⟩)) := by
  obtain ⟨placed, hdone, hids, hplaced⟩ := hloaded
  have hplayer : (⟨index⟩ : PlayerId) = ⟨0⟩ ∨ (⟨index⟩ : PlayerId) = ⟨1⟩ := by
    rcases hindex with rfl | rfl
    · exact .inl rfl
    · exact .inr rfl
  have hid : (game.players[index]?).map Player.id = some ⟨index⟩ := by
    rw [← List.getElem?_map, hplaced.players]
    rcases hindex with rfl | rfl <;> rfl
  obtain ⟨p, hp, hpid⟩ := Option.map_eq_some_iff.mp hid
  have hprepared : LoadedUpTo db turn done { game with
      players := game.players.modify index (applyPlayerState state) } ids := by
    refine ⟨placed, hdone, hids, ?_⟩
    exact { hplaced with
      players := by
        rw [← hplaced.players]
        apply List.ext_getElem?
        intro i
        rw [List.getElem?_map, List.getElem?_map, List.getElem?_modify]
        cases game.players[i]? with
        | none => rfl
        | some q =>
            dsimp only [Option.map_some]
            split <;> rfl }
  simp only [PlayerStateDefinition.entries, List.mem_append, or_imp,
    forall_and] at hready
  obtain ⟨⟨⟨⟨hhand, hbattlefield⟩, hgraveyard⟩, hlibrary⟩, hexile⟩ := hready
  have hlength : state.entries.length = state.hand.length +
      state.battlefield.length + state.graveyard.length +
      state.library.length + state.exile.length := by
    simp only [PlayerStateDefinition.entries, List.length_append]
  rw [loadPlayer, hp]
  dsimp only
  rw [hpid, hlength]
  apply hprepared.zoneThen hplayer hhand (by omega)
  intro game ids hloaded
  apply hloaded.zoneThen hplayer hbattlefield
  · rw [List.length_append, List.length_map]
    omega
  intro game ids hloaded
  apply hloaded.zoneThen hplayer hgraveyard
  · simp only [List.length_append, List.length_map]
    omega
  intro game ids hloaded
  apply hloaded.zoneThen hplayer hlibrary
  · simp only [List.length_append, List.length_map]
    omega
  intro game ids hloaded
  apply (hloaded.zone hplayer .exile hexile).mono
  · simp only [List.length_append, List.length_map]
    omega
  · intro game ids hloaded
    simp only [PlayerStateDefinition.written, List.append_assoc] at hloaded ⊢
    exact hloaded

theorem length_written (state : PlayerStateDefinition) (player : PlayerId) :
    (state.written player).length = state.entries.length := by
  simp only [PlayerStateDefinition.written, PlayerStateDefinition.entries,
    List.length_append, List.length_map]

theorem LoadedUpTo.playersFrom {states : List PlayerStateDefinition}
    {index : Nat} (hindex : index + states.length ≤ 2)
    (hloaded : LoadedUpTo db turn done game ids)
    (hready : ∀ entry ∈ states.flatMap PlayerStateDefinition.entries,
      Ready db entry) :
    (loadPlayers db index states ids game).Yields
      (done.length + (states.flatMap PlayerStateDefinition.entries).length +
        3 ≤ UInt32.size)
      (LoadedUpTo db turn (done ++ writtenFrom index states)) := by
  induction states generalizing index done ids game with
  | nil =>
      apply Outcome.Yields.ok
      rw [writtenFrom, List.append_nil]
      exact hloaded
  | cons state rest ih =>
      rw [List.length_cons] at hindex
      simp only [List.flatMap_cons, List.mem_append, or_imp, forall_and]
        at hready
      have hcurrent : index = 0 ∨ index = 1 := by omega
      rw [List.flatMap_cons, List.length_append, loadPlayers]
      apply Outcome.Yields.andThen
      · apply (hloaded.player hcurrent hready.1).mono
        · omega
        · exact fun _ _ hplayer => hplayer
      · intro game ids hplayer
        apply (ih (by omega) hplayer hready.2).mono
        · rw [List.length_append, length_written]
          omega
        · intro game ids hrest
          rw [List.append_assoc] at hrest
          exact hrest

end Loading

section Passes

variable {α : Type} {game : GameState}

/-- A pass over cards leaves zones and turn alone. -/
theorem foldl_board {f : GameState → α → GameState}
    (hf : ∀ game a, (f game a).zones = game.zones ∧
      (f game a).turn = game.turn) (l : List α) (game : GameState) :
    (l.foldl f game).zones = game.zones ∧ (l.foldl f game).turn = game.turn := by
  induction l generalizing game with
  | nil => exact ⟨rfl, rfl⟩
  | cons a rest ih =>
      obtain ⟨hzones, hturn⟩ := hf game a
      obtain ⟨hzones', hturn'⟩ := ih (f game a)
      exact ⟨hzones'.trans hzones, hturn'.trans hturn⟩

theorem card?_modifyCard (game : GameState) (id other : CardId)
    (f : Card → Card) : (game.modifyCard id f).card? other =
      if other = id then (game.card? other).map f else game.card? other := by
  rw [GameState.card?, GameState.modifyCard, EntityStore.tryGet_modify]
  by_cases heq : other = id
  · rw [if_pos heq, if_pos (congrArg CardId.raw heq.symm)]
    rfl
  · rw [if_neg heq, if_neg fun hraw => heq (CardId.ext hraw.symm)]
    rfl

theorem markEntry_markEntry (state : GameStateDefinition) (card : Card) :
    markEntry state (markEntry state card) = markEntry state card := by
  rw [markEntry.eq_def state card]
  split
  · next hcreature =>
    rw [markEntry, if_pos hcreature]
  · next hother =>
    rw [markEntry, if_neg hother]

theorem card?_markEntries (state : GameStateDefinition) (l : List CardId)
    (game : GameState) (id : CardId) :
    (l.foldl (fun game id => game.modifyCard id (markEntry state))
      game).card? id =
        if id ∈ l then (game.card? id).map (markEntry state)
        else game.card? id := by
  induction l generalizing game with
  | nil => rfl
  | cons first rest ih =>
      rw [List.foldl_cons, ih, card?_modifyCard]
      by_cases heq : id = first
      · have hmem : id ∈ first :: rest := by
          rw [heq]
          exact List.mem_cons_self
        rw [if_pos heq, if_pos hmem, Option.map_map]
        have hmark : markEntry state ∘ markEntry state = markEntry state :=
          funext (markEntry_markEntry state)
        rw [hmark, ite_self]
      · have hmem : id ∈ first :: rest ↔ id ∈ rest := by
          rw [List.mem_cons, or_iff_right heq]
        rw [if_neg heq]
        simp only [hmem]

/-- The last pass writes nothing but chosen players. -/
theorem card?_choose (choices : List (CardId × Option PlayerId))
    {game : GameState} {id : CardId} {card : Card}
    (hcard : game.card? id = some card) :
    ∃ chosen, (choices.foldl (fun game choice =>
      game.modifyCard choice.1 fun card =>
        { card with chosenPlayer := choice.2 }) game).card? id =
          some { card with chosenPlayer := chosen } := by
  induction choices generalizing game card with
  | nil => exact ⟨card.chosenPlayer, hcard⟩
  | cons choice rest ih =>
      by_cases heq : id = choice.1
      · have hfirst : (game.modifyCard choice.1 fun card =>
            { card with chosenPlayer := choice.2 }).card? id =
              some { card with chosenPlayer := choice.2 } := by
          rw [card?_modifyCard, if_pos heq, hcard]
          rfl
        obtain ⟨chosen, hrest⟩ := ih hfirst
        exact ⟨chosen, hrest⟩
      · have hfirst : (game.modifyCard choice.1 fun card =>
            { card with chosenPlayer := choice.2 }).card? id = some card := by
          rw [card?_modifyCard, if_neg heq, hcard]
        obtain ⟨chosen, hrest⟩ := ih hfirst
        exact ⟨chosen, hrest⟩

theorem attach_board (ids : IdMap) (game : GameState)
    (job : CardId × UInt32) : (attach ids game job).zones = game.zones ∧
      (attach ids game job).turn = game.turn := by
  rw [attach]
  split <;> exact ⟨rfl, rfl⟩

theorem card?_attach (ids : IdMap) (game : GameState)
    (job : CardId × UInt32) {id : CardId} {card : Card}
    (hcard : game.card? id = some card) :
    (attach ids game job).card? id =
      if id = job.1 then
        some { card with attachedTo := (ids job.2).or card.attachedTo }
      else some card := by
  rw [attach]
  cases ids job.2 with
  | none =>
      dsimp only
      rw [hcard, Option.none_or, ite_self]
  | some target =>
      dsimp only
      rw [card?_modifyCard, hcard]
      rfl

/-- The jobs in their order: a card with one `AttachedTo` goes to the card it
names, if there is one. -/
theorem card?_attachAll (ids : IdMap) {jobs : List (CardId × UInt32)}
    {game : GameState} {id : CardId} {card : Card}
    (hcard : game.card? id = some card) (hloose : card.attachedTo = none)
    (honly : ∀ job ∈ jobs, ∀ other ∈ jobs, job.1 = id → other.1 = id →
      job.2 = other.2) :
    ∃ host, (jobs.foldl (attach ids) game).card? id =
        some { card with attachedTo := host } ∧
      ∀ target, host = some target ↔
        ∃ job ∈ jobs, job.1 = id ∧ ids job.2 = some target := by
  induction jobs using List.reverseRecOn with
  | nil =>
      refine ⟨none, ?_, ?_⟩
      · rw [← hloose]
        exact hcard
      · intro target
        refine iff_of_false nofun ?_
        rintro ⟨_, hmem, -⟩
        cases hmem
  | append_singleton jobs job ih =>
      obtain ⟨host, hhost, hspec⟩ := ih fun first hfirst second hsecond =>
        honly first (List.mem_append_left _ hfirst) second
          (List.mem_append_left _ hsecond)
      have hlast := card?_attach ids _ job hhost
      rw [List.foldl_concat]
      have hcons (target : CardId) :
          (∃ other ∈ jobs ++ [job], other.1 = id ∧ ids other.2 = some target) ↔
            (∃ other ∈ jobs, other.1 = id ∧ ids other.2 = some target) ∨
              job.1 = id ∧ ids job.2 = some target := by
        simp only [List.mem_append, List.mem_singleton, or_and_right,
          exists_or, exists_eq_left]
      have hjob : job ∈ jobs ++ [job] :=
        List.mem_append_right _ (List.mem_singleton_self job)
      by_cases heq : id = job.1
      · rw [if_pos heq] at hlast
        refine ⟨_, hlast, ?_⟩
        intro target
        rw [hcons, ← hspec, Option.or_eq_some_iff]
        constructor
        · rintro (hnow | ⟨-, hbefore⟩)
          · exact .inr ⟨heq.symm, hnow⟩
          · exact .inl hbefore
        · rintro (hbefore | ⟨-, hnow⟩)
          · obtain ⟨other, hother, hid, hids⟩ := (hspec target).mp hbefore
            have hsame := honly other (List.mem_append_left _ hother) job
              hjob hid heq.symm
            rw [hsame] at hids
            exact .inl hids
          · exact .inl hnow
      · rw [if_neg heq] at hlast
        refine ⟨host, hlast, ?_⟩
        intro target
        rw [hspec, hcons]
        exact (or_iff_left fun hnow => heq hnow.1.symm).symm

end Passes

/-- All entries of one name agree on summoning sickness. -/
def GameStateDefinition.Agrees (state : GameStateDefinition)
    (entry : CardDefinition) : Prop :=
  ∀ other ∈ state.entries, other.name = entry.name →
    other.isSummonSick = entry.isSummonSick

/-- A permanent is as its own entry says.  Summoning sickness is read off the
names and the turn number, attachments off the `Id`s. -/
structure AsWritten (state : GameStateDefinition)
    (placed : List (Written × CardId)) (game : GameState)
    (definition : DeepScry.CardDefinition) (entry : CardDefinition)
    (card : Card) : Prop where
  tapped : card.tapped = entry.modifiers.contains .tapped
  counters : Counted card (counterTotals definition entry)
  sick : state.turn ≠ 0 → state.Agrees entry →
    game.hasSummoningSickness card =
      (card.isCreature && entry.isSummonSick && !card.hasKeyword .haste)
  attached : ∀ host, card.attachedTo = some host ↔
    entry.id ≠ none ∧ ∃ id, entry.attachedTo = some id ∧
      ∃ place ∈ placed, place.1.entry.id = some id ∧ place.2 = host

/-- Every zone lists the cards of its entries in their order, and every
permanent is as written. -/
structure LoadedAs (db : CardDatabase) (state : GameStateDefinition)
    (game : GameState) (placed : List (Written × CardId)) : Prop where
  entries : placed.map Prod.fst = state.written
  distinct : (placed.map Prod.snd).Nodup
  zones : ∀ zone player, player = ⟨0⟩ ∨ player = ⟨1⟩ →
    game.zones.cardsIn zone player = some (cardsOf placed zone player)
  cards : ∀ place ∈ placed, ∃ definition card,
    db.getCard place.1.entry.name = .ok (some definition) ∧
    game.card? place.2 = some card ∧
    card.name = place.1.entry.name ∧ card.owner = place.1.player ∧
    card.controller = place.1.player ∧
    (place.1.zone = .battlefield →
      AsWritten state placed game definition place.1.entry card)

section Finish

variable {db : CardDatabase} {state : GameStateDefinition}
  {placed : List (Written × CardId)} {game : GameState}

theorem eq_of_nodup_filterMap {α β : Type} {f : α → Option β} {l : List α}
    (hnodup : (l.filterMap f).Nodup) {a b : α} (ha : a ∈ l) (hb : b ∈ l)
    {key : β} (hfa : f a = some key) (hfb : f b = some key) : a = b := by
  rw [List.Nodup, List.pairwise_filterMap] at hnodup
  by_contra hne
  have hsymm : Std.Symm fun a b : α =>
      ∀ c, f a = some c → ∀ d, f b = some d → c ≠ d :=
    ⟨fun _ _ hab c hc d hd heq => hab d hd c hc heq.symm⟩
  exact hnodup.forall ha hb hne key hfa key hfb rfl

theorem idsOf_eq_some_iff
    (hids : (placed.filterMap fun place => place.1.entry.id).Nodup)
    (id : UInt32) (card : CardId) :
    idsOf placed id = some card ↔
      ∃ place ∈ placed, place.1.entry.id = some id ∧ place.2 = card := by
  induction placed using List.reverseRecOn with
  | nil =>
      refine iff_of_false nofun ?_
      rintro ⟨_, hmem, -⟩
      cases hmem
  | append_singleton placed last ih =>
      have hlast : last ∈ placed ++ [last] :=
        List.mem_append_right _ (List.mem_singleton_self last)
      have hsplit : (∃ place ∈ placed ++ [last],
          place.1.entry.id = some id ∧ place.2 = card) ↔
            (∃ place ∈ placed, place.1.entry.id = some id ∧ place.2 = card) ∨
              last.1.entry.id = some id ∧ last.2 = card := by
        simp only [List.mem_append, List.mem_singleton, or_and_right,
          exists_or, exists_eq_left]
      have hbefore := ih (by
        rw [List.filterMap_append] at hids
        exact hids.of_append_left)
      rw [hsplit, ← hbefore, idsOf, List.foldl_concat, IdMap.insert]
      cases hid : last.1.entry.id with
      | none =>
          exact (or_iff_left fun hnow => nomatch hnow.1).symm
      | some own =>
          dsimp only
          rw [Function.update_apply]
          by_cases heq : id = own
          · subst heq
            rw [if_pos rfl, Option.some_inj]
            constructor
            · exact fun hcard => .inr ⟨rfl, hcard⟩
            · rintro (hold | ⟨-, hcard⟩)
              · obtain ⟨place, hplace, hown, hcard⟩ := hbefore.mp hold
                have hsame := eq_of_nodup_filterMap hids
                  (List.mem_append_left _ hplace) hlast hown hid
                rw [← hcard, hsame]
              · exact hcard
          · rw [if_neg heq]
            refine (or_iff_left fun hnow => heq ?_).symm
            exact (Option.some.inj hnow.1).symm

theorem writtenFrom_entries (index : Nat)
    (states : List PlayerStateDefinition) :
    (writtenFrom index states).map Written.entry =
      states.flatMap PlayerStateDefinition.entries := by
  induction states generalizing index with
  | nil => rfl
  | cons state rest ih =>
      have hone (zone : Zone) (entries : List CardDefinition) :
          (entries.map (Written.mk ⟨index⟩ zone)).map Written.entry =
            entries := by
        rw [List.map_map]
        exact List.map_id entries
      rw [writtenFrom, List.map_append, ih, List.flatMap_cons]
      simp only [PlayerStateDefinition.written, PlayerStateDefinition.entries,
        List.map_append, hone]

/-- The entries of permanents. -/
theorem mem_battlefield_iff (index : Nat)
    (states : List PlayerStateDefinition) (entry : CardDefinition) :
    entry ∈ states.flatMap PlayerStateDefinition.battlefield ↔
      ∃ written ∈ writtenFrom index states, written.zone = .battlefield ∧
        written.entry = entry := by
  induction states generalizing index with
  | nil => simp [writtenFrom]
  | cons state rest ih =>
      have hhere : entry ∈ state.battlefield ↔
          ∃ written ∈ state.written ⟨index⟩, written.zone = .battlefield ∧
            written.entry = entry := by
        simp only [PlayerStateDefinition.written, List.mem_append,
          List.mem_map, or_and_right, exists_or]
        simp
      rw [List.flatMap_cons, List.mem_append, ih (index + 1), hhere,
        writtenFrom]
      simp only [List.mem_append, or_and_right, exists_or]

/-- A job comes from the entry of a permanent with an `Id`. -/
theorem mem_attachJobs_iff (hentries : placed.map Prod.fst = state.written)
    (hids : (placed.filterMap fun place => place.1.entry.id).Nodup)
    (card : CardId) (target : UInt32) :
    (card, target) ∈ attachJobs state (idsOf placed) ↔
      ∃ place ∈ placed, place.2 = card ∧ place.1.zone = .battlefield ∧
        place.1.entry.id ≠ none ∧
        place.1.entry.attachedTo = some target := by
  have hmem (entry : CardDefinition) :
      entry ∈ state.players.flatMap PlayerStateDefinition.battlefield ↔
        ∃ place ∈ placed, place.1.zone = .battlefield ∧
          place.1.entry = entry := by
    rw [mem_battlefield_iff 0]
    change (∃ written ∈ state.written, _) ↔ _
    rw [← hentries]
    simp only [List.mem_map]
    constructor
    · rintro ⟨_, ⟨place, hplace, rfl⟩, hwritten⟩
      exact ⟨place, hplace, hwritten⟩
    · rintro ⟨place, hplace, hwritten⟩
      exact ⟨_, ⟨place, hplace, rfl⟩, hwritten⟩
  rw [attachJobs, List.mem_filterMap]
  constructor
  · rintro ⟨entry, hentry, hjob⟩
    obtain ⟨own, hown, hrest⟩ := Option.bind_eq_some_iff.mp hjob
    obtain ⟨_, hattached, hcard⟩ := Option.bind_eq_some_iff.mp hrest
    obtain ⟨_, hfound, ⟨⟩⟩ := Option.map_eq_some_iff.mp hcard
    obtain ⟨place, hplace, hzone, rfl⟩ := (hmem entry).mp hentry
    obtain ⟨other, hother, hid, rfl⟩ :=
      (idsOf_eq_some_iff hids own _).mp hfound
    have hsame := eq_of_nodup_filterMap hids hother hplace hid hown
    subst hsame
    refine ⟨other, hplace, rfl, hzone, ?_, hattached⟩
    rw [hown]
    exact Option.some_ne_none own
  · rintro ⟨place, hplace, rfl, hzone, hid, hattached⟩
    obtain ⟨own, hown⟩ := Option.ne_none_iff_exists'.mp hid
    refine ⟨place.1.entry, (hmem _).mpr ⟨place, hplace, hzone, rfl⟩, ?_⟩
    rw [hown, hattached, Option.bind_some, Option.bind_some,
      (idsOf_eq_some_iff hids own place.2).mpr ⟨place, hplace, hown, rfl⟩]
    rfl

theorem saysSummonSick_eq {entry : CardDefinition}
    (hagrees : state.Agrees entry) (hentry : entry ∈ state.entries) :
    state.saysSummonSick entry.name = entry.isSummonSick := by
  rw [GameStateDefinition.saysSummonSick]
  cases hfind : state.entries.find? fun other => other.name == entry.name with
  | none =>
      rw [List.find?_eq_none] at hfind
      exact absurd (beq_iff_eq.mpr rfl) (hfind entry hentry)
  | some other =>
      have hname := List.find?_some
        (p := fun other : CardDefinition => other.name == entry.name) hfind
      exact hagrees other (List.mem_of_find?_eq_some hfind)
        (beq_iff_eq.mp hname)

/-- In a turn that has a turn before it, the mark tells the two apart. -/
theorem entered_markEntry {card : Card} (hturn : state.turn ≠ 0)
    (hcreature : card.types.contains .creature = true) :
    ((markEntry state card).turnEnteredBattlefield.any fun turn =>
      turn == state.turn) = state.saysSummonSick card.name := by
  rw [markEntry, if_pos hcreature]
  cases state.saysSummonSick card.name with
  | true => exact beq_self_eq_true state.turn
  | false =>
      change ((if state.turn = 0 then 0 else state.turn - 1) ==
        state.turn) = false
      rw [if_neg hturn, beq_eq_false_iff_ne]
      intro heq
      have hnat := congrArg UInt32.toNat heq
      have hpos : 0 < state.turn.toNat := by
        rw [Nat.pos_iff_ne_zero]
        exact fun hzero => hturn (UInt32.toNat.inj hzero)
      rw [UInt32.toNat_sub_of_le] at hnat
      · change state.turn.toNat - 1 = state.turn.toNat at hnat
        omega
      · rw [UInt32.le_iff_toNat_le]
        exact hpos

theorem markEntry_eq (state : GameStateDefinition) (card : Card) :
    markEntry state card = { card with
      turnEnteredBattlefield :=
        (markEntry state card).turnEnteredBattlefield } := by
  rw [markEntry]
  split <;> rfl

theorem any_and_const {α : Type} (entered : Option α) (p : α → Bool)
    (b : Bool) : (entered.any fun a => p a && b) = (entered.any p && b) := by
  cases entered <;> rfl

/-- The second pass on one card: it may get an entry turn, and it gets the
host its job names. -/
theorem Loaded.modifiers (hloaded : Loaded db state.turn placed game)
    (hentries : placed.map Prod.fst = state.written)
    (hids : (placed.filterMap fun place => place.1.entry.id).Nodup)
    {place : Written × CardId} (hplace : place ∈ placed)
    {base : Card} (hbase : game.card? place.2 = some base)
    (hloose : base.attachedTo = none) :
    ∃ entered host,
      (applyCardModifiers state (idsOf placed) game).card? place.2 =
        some { base with
          turnEnteredBattlefield := entered
          attachedTo := host } ∧
      (place.1.zone = .battlefield →
        entered = (markEntry state base).turnEnteredBattlefield ∧
        ∀ target, host = some target ↔
          place.1.entry.id ≠ none ∧ ∃ id, place.1.entry.attachedTo = some id ∧
            ∃ other ∈ placed, other.1.entry.id = some id ∧
              other.2 = target) := by
  have hsame : ∀ other ∈ placed, other.2 = place.2 → other = place :=
    fun other hother heq =>
      List.inj_on_of_nodup_map hloaded.distinct hother hplace heq
  have honly : ∀ job ∈ attachJobs state (idsOf placed),
      ∀ other ∈ attachJobs state (idsOf placed),
        job.1 = place.2 → other.1 = place.2 → job.2 = other.2 := by
    intro job hjob other hother hcard hcard'
    obtain ⟨first, hfirst, heq, -, -, hattached⟩ :=
      (mem_attachJobs_iff hentries hids job.1 job.2).mp hjob
    obtain ⟨second, hsecond, heq', -, -, hattached'⟩ :=
      (mem_attachJobs_iff hentries hids other.1 other.2).mp hother
    rw [hsame first hfirst (heq.trans hcard)] at hattached
    rw [hsame second hsecond (heq'.trans hcard')] at hattached'
    exact Option.some.inj (hattached.symm.trans hattached')
  have hbattlefield : place.1.zone = .battlefield →
      place.2 ∈ game.zones.battlefield := by
    intro hzone
    have hlist := hloaded.zones .battlefield ⟨0⟩ (.inl rfl)
    rw [Option.some.inj hlist]
    refine List.mem_map.mpr ⟨place, List.mem_filter.mpr ⟨hplace, ?_⟩, rfl⟩
    rw [Written.isIn, hzone]
    rfl
  obtain ⟨entered, hmarked, hentered⟩ : ∃ entered,
      (game.zones.battlefield.foldl
        (fun game id => game.modifyCard id (markEntry state))
        game).card? place.2 =
          some { base with turnEnteredBattlefield := entered } ∧
      (place.1.zone = .battlefield →
        entered = (markEntry state base).turnEnteredBattlefield) := by
    rw [card?_markEntries, hbase]
    by_cases hmem : place.2 ∈ game.zones.battlefield
    · refine ⟨_, ?_, fun _ => rfl⟩
      rw [if_pos hmem, ← markEntry_eq]
      rfl
    · refine ⟨base.turnEnteredBattlefield, if_neg hmem, ?_⟩
      exact fun hzone => absurd (hbattlefield hzone) hmem
  obtain ⟨host, hhost, hspec⟩ :=
    card?_attachAll (idsOf placed) hmarked hloose honly
  refine ⟨entered, host, hhost, fun hzone => ⟨hentered hzone, ?_⟩⟩
  intro target
  rw [hspec]
  constructor
  · rintro ⟨job, hjob, hcard, htarget⟩
    obtain ⟨other, hother, heq, -, hid, hattached⟩ :=
      (mem_attachJobs_iff hentries hids job.1 job.2).mp hjob
    rw [hsame other hother (heq.trans hcard)] at hid hattached
    exact ⟨hid, job.2, hattached,
      (idsOf_eq_some_iff hids job.2 target).mp htarget⟩
  · rintro ⟨hid, id, hattached, htarget⟩
    exact ⟨(place.2, id), (mem_attachJobs_iff hentries hids _ _).mpr
      ⟨place, hplace, rfl, hzone, hid, hattached⟩, rfl,
      (idsOf_eq_some_iff hids id target).mpr htarget⟩

/-- The passes after the loading keep the zones and the turn. -/
theorem finish_board (state : GameStateDefinition) (ids : IdMap)
    (game : GameState) :
    (choosePlayers (applyCardModifiers state ids game)).zones = game.zones ∧
      (choosePlayers (applyCardModifiers state ids game)).turn =
        game.turn := by
  obtain ⟨hzones, hturn⟩ := foldl_board
    (f := fun game id => game.modifyCard id (markEntry state))
    (fun _ _ => ⟨rfl, rfl⟩) game.zones.battlefield game
  obtain ⟨hzones', hturn'⟩ := foldl_board (attach_board ids)
    (attachJobs state ids) (game.zones.battlefield.foldl
      (fun game id => game.modifyCard id (markEntry state)) game)
  obtain ⟨hzones'', hturn''⟩ := foldl_board
    (f := fun game (choice : CardId × Option PlayerId) =>
      game.modifyCard choice.1 fun card =>
        { card with chosenPlayer := choice.2 })
    (fun _ _ => ⟨rfl, rfl⟩) (chosenPlayers (applyCardModifiers state ids game))
    (applyCardModifiers state ids game)
  exact ⟨hzones''.trans (hzones'.trans hzones),
    hturn''.trans (hturn'.trans hturn)⟩

/-- The passes after the loading leave every permanent as written. -/
theorem Loaded.finish (hloaded : Loaded db state.turn placed game)
    (hentries : placed.map Prod.fst = state.written)
    (hids : (state.entries.filterMap CardDefinition.id).Nodup)
    (hknows : db.Knows state.entries)
    (hfits : ∀ entry ∈ state.entries, ∀ kind,
      total entry.counts kind ≤ 255) :
    LoadedAs db state (choosePlayers (applyCardModifiers state
      (idsOf placed) game)) placed := by
  have hnames : placed.map (fun place => place.1.entry) = state.entries := by
    rw [GameStateDefinition.entries, ← writtenFrom_entries 0]
    change _ = state.written.map Written.entry
    rw [← hentries, List.map_map]
    rfl
  have hids' : (placed.filterMap fun place => place.1.entry.id).Nodup := by
    rw [← hnames, List.filterMap_map] at hids
    exact hids
  obtain ⟨hzones, hturn⟩ := finish_board state (idsOf placed) game
  refine ⟨hentries, hloaded.distinct, ?_, ?_⟩
  · intro zone player hplayer
    rw [hzones]
    exact hloaded.zones zone player hplayer
  · intro place hplace
    have hentry : place.1.entry ∈ state.entries := by
      rw [← hnames]
      exact List.mem_map_of_mem hplace
    obtain ⟨definition, hknown, hcard⟩ := hloaded.cards place hplace
    obtain ⟨named, hnamed, hname⟩ := hknows.card place.1.entry hentry
    rw [hknown] at hnamed
    cases hnamed
    have hbare := bare_cardOf db definition place.1.entry place.2
      place.1.player
    have hcreature : (db.cardOf definition place.1.entry place.2
        place.1.player).isCreature = definition.types.contains .creature :=
      (congrArg Card.isCreature hbare).trans (isCreature_instantiate db
        definition place.2 place.1.player)
    have htypes : (db.cardOf definition place.1.entry place.2
        place.1.player).types = definition.types :=
      congrArg (fun card => card.types) hbare
    have hcardName : (db.cardOf definition place.1.entry place.2
        place.1.player).name = definition.name :=
      congrArg (fun card => card.name) hbare
    obtain ⟨entered, host, hmodified, hbattlefield⟩ := hloaded.modifiers
      hentries hids' hplace hcard (congrArg (fun card => card.attachedTo) hbare)
    obtain ⟨chosen, hchosen⟩ := card?_choose (chosenPlayers
      (applyCardModifiers state (idsOf placed) game)) hmodified
    refine ⟨definition, _, hknown, hchosen, hcardName.trans hname,
      congrArg Card.owner hbare, congrArg Card.controller hbare, ?_⟩
    intro hzone
    obtain ⟨rfl, hattached⟩ := hbattlefield hzone
    constructor
    · exact tapped_cardOf db definition place.1.entry place.2 place.1.player
    · exact counted_cardOf db definition (hfits _ hentry) place.2
        place.1.player
    · intro hpositive hagrees
      have hsays := saysSummonSick_eq hagrees hentry
      rw [← hname, ← hcardName] at hsays
      rw [GameState.hasSummoningSickness, any_and_const, hturn,
        hloaded.turn]
      change ((db.cardOf definition place.1.entry place.2
        place.1.player).isCreature && _) = ((db.cardOf definition
          place.1.entry place.2 place.1.player).isCreature && _ && _)
      rw [Bool.and_assoc, hcreature]
      cases hcase : definition.types.contains .creature with
      | false => rfl
      | true =>
          have hentered := entered_markEntry hpositive
            ((congrArg (fun types => types.contains .creature) htypes).trans
              hcase)
          rw [Bool.true_and, Bool.true_and, hentered, ← hsays]
    · exact hattached

theorem tokenScripts_ok {names : List String}
    (hknown : ∀ name ∈ names, ∃ definition,
      db.getCard name = .ok (some definition)) :
    ∃ scripts, tokenScripts db names = .ok scripts := by
  induction names with
  | nil => exact ⟨[], rfl⟩
  | cons name rest ih =>
      obtain ⟨definition, hname⟩ := hknown name List.mem_cons_self
      obtain ⟨scripts, hscripts⟩ := ih fun other hother =>
        hknown other (List.mem_cons_of_mem name hother)
      refine ⟨db.extractTokenScripts definition ++ scripts, ?_⟩
      rw [tokenScripts, hname, hscripts]
      rfl

theorem loadTokens_yields
    (htoken : ∀ script, ∃ token, db.getToken script = .ok token)
    (scripts : List String) (game : GameState) (room : Prop) :
    (loadTokens db scripts game).Yields room fun loaded _ => ∃ tokens,
      loaded = { game with tokenDefinitions := tokens } := by
  induction scripts generalizing game with
  | nil => exact .ok ⟨game.tokenDefinitions, rfl⟩
  | cons script rest ih =>
      obtain ⟨token, hscript⟩ := htoken script
      rw [loadTokens, hscript]
      cases token with
      | none => exact ih game
      | some token =>
          apply (ih _).mono id
          rintro loaded - ⟨tokens, rfl⟩
          exact ⟨tokens, rfl⟩

/-- A game of two players without cards, in the turn of the puzzle. -/
theorem setTurn_yields (tokens : String → Option DeepScry.CardDefinition)
    (room : Prop) :
    (setTurn state { newTwoPlayer 20 with
      tokenDefinitions := tokens }).Yields room fun game _ =>
        LoadedUpTo db state.turn [] game fun _ => none := by
  have hempty (player : PlayerId) :
      LoadedUpTo db state.turn [] { newTwoPlayer 20 with
        tokenDefinitions := tokens
        turn := { (newTwoPlayer 20).turn with
          turnNumber := state.turn
          currentStep := state.activePhase
          activePlayer := player } } fun _ => none := by
    refine ⟨[], rfl, rfl, rfl, rfl, ?_, List.nodup_nil, ?_, ?_⟩
    · rintro _ ⟨⟩
    · rintro zone player (rfl | rfl) <;> cases zone <;> rfl
    · exact fun _ => ⟨rfl, fun _ _ => rfl⟩
  rw [setTurn]
  cases state.activePlayer with
  | player0 => exact .ok (hempty ⟨0⟩)
  | player1 => exact .ok (hempty ⟨1⟩)

/-- A puzzle without tokens whose cards are known loads as written. -/
theorem loadPuzzleIntoGame_asWritten (db : CardDatabase)
    (state : GameStateDefinition) (hknows : db.Knows state.entries)
    (htokens : ∀ entry ∈ state.entries, entry.isToken = false)
    (hids : (state.entries.filterMap CardDefinition.id).Nodup)
    (hfits : ∀ entry ∈ state.entries, ∀ kind,
      total entry.counts kind ≤ 255) :
    (loadPuzzleIntoGame db state).Yields
      (state.entries.length + 3 ≤ UInt32.size) fun game _ =>
        ∃ placed, LoadedAs db state game placed := by
  have hready : ∀ entry ∈ state.entries, Ready db entry := by
    intro entry hentry
    obtain ⟨definition, hknown, -⟩ := hknows.card entry hentry
    exact ⟨htokens entry hentry, definition, hknown⟩
  obtain ⟨scripts, hscripts⟩ : ∃ scripts, tokenScripts db
      ((state.entries.filter fun entry => !entry.isToken).map
        CardDefinition.name).dedup = .ok scripts := by
    apply tokenScripts_ok
    intro name hname
    obtain ⟨entry, hentry, rfl⟩ := List.mem_map.mp (List.mem_dedup.mp hname)
    exact (hready entry (List.mem_of_mem_filter hentry)).2
  rw [loadPuzzleIntoGame, hscripts]
  apply Outcome.Yields.andThen (loadTokens_yields hknows.token _ _ _)
  rintro _ - ⟨tokens, rfl⟩
  apply Outcome.Yields.andThen (setTurn_yields tokens _)
  rintro game - hempty
  apply Outcome.Yields.andThen
  · have hplayers : 0 + state.players.length ≤ 2 :=
      Nat.le_of_eq (state.two ▸ Nat.zero_add _)
    apply (hempty.playersFrom hplayers hready).mono
    · rw [List.length_nil, Nat.zero_add]
      exact id
    · exact fun _ _ hloaded => hloaded
  · rintro loaded ids ⟨placed, hentries, rfl, hloaded⟩
    exact .ok ⟨placed, hloaded.finish hentries hids hknows hfits⟩

end Finish

/-- A creature, a planeswalker and an Aura. -/
def sampleDatabase : CardDatabase where
  getCard name := .ok
    (if name = "Grizzly Bears" then
      some { name := "Grizzly Bears", types := [.creature] }
    else if name = "Jace" then
      some { name := "Jace", types := [.planeswalker], loyalty := some 3 }
    else if name = "Pacifism" then
      some { name := "Pacifism", types := [.enchantment] }
    else none)
  getToken _ := .ok none
  extractTokenScripts _ := []
  isIslandSanctuaryCard _ := false
  levelAbilities _ _ := []

/-- A sick creature with an Aura attached to it. -/
def pacifiedBears : GameStateDefinition where
  players :=
    [{ battlefield :=
        [{ name := "Grizzly Bears", id := some 1, modifiers := [.summonSick] }] },
      { battlefield :=
        [{ name := "Pacifism", id := some 2, modifiers := [.attachedTo 1] }] }]
  two := rfl

theorem pacifiedBears_asWritten :
    ∃ game, loadPuzzleIntoGame sampleDatabase pacifiedBears =
        some (game, .ok ()) ∧
      ∃ placed, LoadedAs sampleDatabase pacifiedBears game placed := by
  have hyields := loadPuzzleIntoGame_asWritten sampleDatabase pacifiedBears
    ⟨by simp [pacifiedBears, GameStateDefinition.entries,
        PlayerStateDefinition.entries, sampleDatabase],
      fun _ => ⟨none, rfl⟩⟩ (by decide) (by decide) (by
        intro entry hentry kind
        have hnone : entry.counts = [] := by
          revert entry
          decide
        rw [hnone]
        exact Nat.zero_le _)
  rcases hload : loadPuzzleIntoGame sampleDatabase pacifiedBears with
    - | ⟨game, result⟩
  · exact absurd hload (hyields.returns (by decide))
  · obtain ⟨_, rfl, hplaced⟩ := hyields.value game result hload
    exact ⟨game, rfl, hplaced⟩

/-- Two creatures of one name, a planeswalker, and an Aura without an `Id`. -/
def twoBears : GameStateDefinition where
  players :=
    [{ battlefield :=
        [{ name := "Grizzly Bears", modifiers := [.summonSick] },
          { name := "Grizzly Bears", id := some 1 },
          { name := "Jace" },
          { name := "Pacifism", modifiers := [.attachedTo 1] }] },
      {}]
  two := rfl

/-- A creature with two counters that cancel, before the first turn. -/
def earlyBears : GameStateDefinition where
  turn := 0
  players :=
    [{ battlefield :=
        [{ name := "Grizzly Bears"
           modifiers := [.counters [(.p1p1, 1), (.m1m1, 1)]] }] },
      {}]
  two := rfl

/-- The second creature is sick with the first, the planeswalker has its
printed loyalty, the Aura is not attached; before the first turn every
creature is sick, and the counters are gone. -/
theorem twoBears_not_asWritten :
    (∃ game, loadPuzzleIntoGame sampleDatabase twoBears =
        some (game, .ok ()) ∧
      (game.card? ⟨4⟩).map game.hasSummoningSickness = some true ∧
      (game.card? ⟨5⟩).map (fun card => card.getCounter .loyalty) = some 3 ∧
      (game.card? ⟨6⟩).map (fun card => card.attachedTo) = some none) ∧
    ∃ game, loadPuzzleIntoGame sampleDatabase earlyBears =
        some (game, .ok ()) ∧
      (game.card? ⟨3⟩).map game.hasSummoningSickness = some true ∧
      (game.card? ⟨3⟩).map (fun card => card.counters) = some [] :=
  ⟨⟨_, rfl, rfl, rfl, rfl⟩, ⟨_, rfl, rfl, rfl⟩⟩

end Puzzle

end DeepScry
