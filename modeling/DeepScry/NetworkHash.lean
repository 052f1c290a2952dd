/-
The two hashes that a server and its clients compare: the one that walks the
public fields of the view, and the one over the stripped text of the whole
state.  Only the second depends on which hidden cards have an entity.
-/
import DeepScry.Drawing
import DeepScry.GameState
import DeepScry.JsonText
import DeepScry.SortedMap
import Mathlib.Data.String.Basic

namespace Json

open SortedMap

/-- The object with these fields; serialization inserts them one after
another. -/
def object (fields : List (String × Json)) : Json :=
  .obj (insertAll [] fields)

end Json

namespace DeepScry.StateHash

open SortedMap Drawing

/-- `HashMode`: what a hash is for. -/
inductive HashMode where
  | replay
  | undoTest
  | network
deriving DecidableEq

/-- `EXCLUDED_FIELDS`. -/
def excludedFields : List String :=
  ["choice_id", "undo_log", "logger", "show_choice_menu", "output_mode",
    "output_format", "numeric_choices", "step_header_printed",
    "mana_state_version"]

/-- `EXCLUDED_FIELDS_UNDO_TEST`. -/
def excludedFieldsUndoTest : List String :=
  ["choice_id", "undo_log", "logger", "token_definitions",
    "show_choice_menu", "output_mode", "output_format", "numeric_choices",
    "step_header_printed", "mana_state_version"]

/-- `EXCLUDED_FIELDS_NETWORK`. -/
def excludedFieldsNetwork : List String :=
  ["choice_id", "undo_log", "logger", "token_definitions",
    "show_choice_menu", "output_mode", "output_format", "numeric_choices",
    "step_header_printed", "mana_state_version", "lands_played_this_turn",
    "cards_drawn_this_turn", "spells_cast_this_turn", "rng"]

/-- The list that `strip_fields_for_mode` passes on. -/
def HashMode.excluded : HashMode → List String
  | replay => excludedFields
  | undoTest => excludedFieldsUndoTest
  | network => excludedFieldsNetwork

/-- Empty the cards of a zone that is a hand or a library. -/
def hideCards (map : List (String × Json)) : List (String × Json) :=
  match lookup map "zone_type" with
  | some (.str zoneType) =>
      if zoneType = "Hand" ∨ zoneType = "Library" then
        SortedMap.insert "cards" (.arr []) map
      else map
  | _ => map

/-- What `strip_fields_recursive` does to the map of one object. -/
def editFields (mode : HashMode) (map : List (String × Json)) :
    List (String × Json) :=
  let kept := eraseAll mode.excluded map
  match mode with
  | .replay =>
      eraseAll ["lands_played_this_turn", "cards_drawn_this_turn",
        "spells_cast_this_turn"] kept
  | .undoTest => kept
  | .network => hideCards kept

mutual

/-- `strip_fields_recursive`.  The values are stripped before the map is
edited, for the sake of the recursion; `strip_obj` has the source's order. -/
def strip (mode : HashMode) : Json → Json
  | .obj map => .obj (editFields mode (stripValues mode map))
  | .arr items => .arr (stripItems mode items)
  | .null => .null
  | .bool value => .bool value
  | .num value => .num value
  | .str value => .str value

def stripItems (mode : HashMode) : List Json → List Json
  | [] => []
  | item :: rest => strip mode item :: stripItems mode rest

def stripValues (mode : HashMode) :
    List (String × Json) → List (String × Json)
  | [] => []
  | (key, value) :: rest => (key, strip mode value) :: stripValues mode rest

end

theorem stripItems_eq_map (mode : HashMode) (items : List Json) :
    stripItems mode items = items.map (strip mode) := by
  induction items with
  | nil => simp [stripItems]
  | cons item rest ih => simp [stripItems, ih]

theorem stripValues_eq_map (mode : HashMode) (map : List (String × Json)) :
    stripValues mode map =
      map.map fun field => (field.1, strip mode field.2) := by
  induction map with
  | nil => simp [stripValues]
  | cons field rest ih =>
      rcases field with ⟨key, value⟩
      simp [stripValues, ih]

theorem hideCards_map (mode : HashMode) (map : List (String × Json)) :
    hideCards (map.map fun field => (field.1, strip mode field.2)) =
      (hideCards map).map fun field => (field.1, strip mode field.2) := by
  have hempty : strip mode (.arr []) = .arr [] := by
    simp [strip, stripItems]
  have hinsert := insert_map (strip mode) "cards" (.arr []) map
  rw [hempty] at hinsert
  rw [hideCards, hideCards, lookup_map map fun _ => strip mode]
  cases lookup map "zone_type" with
  | none => rfl
  | some value =>
      cases value with
      | str zoneType =>
          simp only [Option.map_some, strip]
          by_cases hhidden : zoneType = "Hand" ∨ zoneType = "Library"
          · simp only [hhidden, ↓reduceIte, hinsert]
          · simp only [hhidden, ↓reduceIte]
      | _ => simp [strip]

theorem editFields_map (mode : HashMode) (map : List (String × Json)) :
    editFields mode (map.map fun field => (field.1, strip mode field.2)) =
      (editFields mode map).map fun field => (field.1, strip mode field.2) := by
  cases mode with
  | replay => simp only [editFields, eraseAll_map]
  | undoTest => simp only [editFields, eraseAll_map]
  | network => simp only [editFields, eraseAll_map, hideCards_map]

/-- As the source has it: the map is edited, then its values are stripped. -/
theorem strip_obj (mode : HashMode) (map : List (String × Json)) :
    strip mode (.obj map) =
      .obj ((editFields mode map).map fun field =>
        (field.1, strip mode field.2)) := by
  rw [strip, stripValues_eq_map, editFields_map]

/-- An object without a zone type loses its excluded fields only. -/
theorem editFields_of_no_zone {map : List (String × Json)}
    (hzone : lookup map "zone_type" = none) :
    editFields .network map = eraseAll excludedFieldsNetwork map := by
  have hkept : lookup (eraseAll excludedFieldsNetwork map) "zone_type" =
      none := by
    rw [lookup_eraseAll, hzone]
    split <;> rfl
  simp only [editFields, HashMode.excluded, hideCards, hkept]

/-- Two fields of one name that the stripping makes equal or takes out. -/
def SameField (field field' : String × Json) : Prop :=
  field.1 = field'.1 ∧ field.1 ≠ "zone_type" ∧
    (field.1 ∉ excludedFieldsNetwork →
      strip .network field.2 = strip .network field'.2)

theorem lookup_zone_type {fields fields' : List (String × Json)}
    (hfields : List.Forall₂ SameField fields fields') :
    lookup (insertAll [] fields) "zone_type" = none ∧
      lookup (insertAll [] fields') "zone_type" = none := by
  have hne : (∀ field ∈ fields, field.1 ≠ "zone_type") ∧
      ∀ field ∈ fields', field.1 ≠ "zone_type" := by
    induction hfields with
    | nil => simp
    | cons hfield _ ih =>
        simp only [List.forall_mem_cons]
        exact ⟨⟨hfield.2.1, ih.1⟩, hfield.1 ▸ hfield.2.1, ih.2⟩
  exact ⟨lookup_insertAll_of_ne hne.1, lookup_insertAll_of_ne hne.2⟩

/-- Objects with the same fields are stripped to the same object. -/
theorem strip_object_congr {fields fields' : List (String × Json)}
    (hfields : List.Forall₂ SameField fields fields') :
    strip .network (.object fields) = strip .network (.object fields') := by
  obtain ⟨hzone, hzone'⟩ := lookup_zone_type hfields
  rw [Json.object, Json.object, strip_obj, strip_obj,
    editFields_of_no_zone hzone, editFields_of_no_zone hzone']
  have hnil : Sorted ([] : List (String × Json)) := List.Pairwise.nil
  have hsorted := ((hnil.insertAll fields).eraseAll excludedFieldsNetwork).map
    (f := fun field => (field.1, strip .network field.2)) fun _ => rfl
  have hsorted' := ((hnil.insertAll fields').eraseAll
    excludedFieldsNetwork).map
    (f := fun field => (field.1, strip .network field.2)) fun _ => rfl
  have hlookup : ∀ name,
      lookup ((eraseAll excludedFieldsNetwork (insertAll [] fields)).map
        fun field => (field.1, strip .network field.2)) name =
      lookup ((eraseAll excludedFieldsNetwork (insertAll [] fields')).map
        fun field => (field.1, strip .network field.2)) name := by
    intro name
    rw [lookup_map _ fun _ => strip .network, lookup_map _ fun _ =>
      strip .network, lookup_eraseAll, lookup_eraseAll]
    by_cases hname : name ∈ excludedFieldsNetwork
    · simp only [hname, ↓reduceIte]
    · simp only [hname, ↓reduceIte]
      apply lookup_insertAll_congr rfl
      apply hfields.imp
      rintro field field' ⟨hkey, -, hvalue⟩
      exact ⟨hkey, fun heq => hvalue (heq ▸ hname)⟩
  rw [hsorted.ext hsorted' hlookup]

/-- `CardZone`, with a number for each id. -/
def cardZone (zoneType : String) (owner : PlayerId) (cards : List CardId) :
    Json :=
  .object [("zone_type", .str zoneType), ("owner", .num owner.raw),
    ("cards", .arr (cards.map fun id => .num id.raw))]

/-- `PlayerZones` with the player they belong to. -/
def playerZones (entry : PlayerId × PlayerZones) : Json :=
  .arr [.num entry.1.raw,
    .object [("library", cardZone "Library" entry.1 entry.2.library),
      ("hand", cardZone "Hand" entry.1 entry.2.hand),
      ("graveyard", cardZone "Graveyard" entry.1 entry.2.graveyard),
      ("exile", cardZone "Exile" entry.1 entry.2.exile),
      ("command", cardZone "Command" entry.1 entry.2.command)]]

theorem strip_cardZone_hidden {zoneType : String} (owner : PlayerId)
    (cards cards' : List CardId)
    (hhidden : zoneType = "Hand" ∨ zoneType = "Library") :
    strip .network (cardZone zoneType owner cards) =
      strip .network (cardZone zoneType owner cards') := by
  have hsorted : ∀ cards, cardZone zoneType owner cards =
      .obj [("cards", .arr (cards.map fun id => .num id.raw)),
        ("owner", .num owner.raw), ("zone_type", .str zoneType)] := by
    intro cards
    have hlt : "owner" < "zone_type" := by decide +kernel
    have hlt' : "cards" < "owner" := by decide +kernel
    simp [cardZone, Json.object, insertAll, SortedMap.insert, hlt, hlt']
  have hempty : ∀ cards, strip .network (cardZone zoneType owner cards) =
      .obj [("cards", .arr []), ("owner", .num owner.raw),
        ("zone_type", .str zoneType)] := by
    intro cards
    rw [hsorted, strip_obj]
    simp only [editFields, HashMode.excluded]
    rw [eraseAll_of_not_mem (by simp [excludedFieldsNetwork])]
    simp [hideCards, lookup, SortedMap.insert, hhidden, strip, stripItems]
  rw [hempty, hempty]

/-- A game state with the serialized fields that no other module reads. -/
structure HashedState extends GameState where
  /-- The owner of the battlefield and the stack. -/
  sharedOwner : PlayerId
  rememberedCards : List CardId := []
  rememberedPlayers : List PlayerId := []

/-- The derived serializers of the records inside a state. -/
structure Serde where
  card : Card → List (String × Json)
  player : Player → Json
  turn : TurnStructure → Json
  combat : CombatState → Json
  rng : Rng → Json
  undoLog : UndoLog → Json
  logger : GameLogger → Json
  persistentEffects : PersistentEffectStore → Json
  delayedTriggers : DelayedTriggerStore → Json

/-- One slot of the card store: an object, or nothing. -/
def Serde.slot (serde : Serde) : Option Card → Json
  | some card => .object (serde.card card)
  | none => .null

def optional {α : Type} (json : α → Json) : Option α → Json
  | some value => json value
  | none => .null

/-- The serialized fields of `GameState`. -/
def stateFields (serde : Serde) (game : HashedState) :
    List (String × Json) :=
  [("cards", .arr (game.cards.entities.map serde.slot)),
    ("players", .arr (game.players.map serde.player)),
    ("player_zones", .arr (game.zones.playerZones.map playerZones)),
    ("battlefield",
      cardZone "Battlefield" game.sharedOwner game.zones.battlefield),
    ("stack", cardZone "Stack" game.sharedOwner game.zones.stack),
    ("turn", serde.turn game.turn),
    ("combat", serde.combat game.combat),
    ("rng", serde.rng game.rng),
    ("next_entity_id", .num game.nextEntityId.toNat),
    ("undo_log", serde.undoLog game.undoLog),
    ("logger", serde.logger game.logger),
    ("mana_state_version", .num game.manaStateVersion.toNat),
    ("skip_reveals", .bool game.skipReveals),
    ("persistent_effects", serde.persistentEffects game.persistentEffects),
    ("delayed_triggers", serde.delayedTriggers game.delayedTriggers),
    ("remembered_cards",
      .arr (game.rememberedCards.map fun id => .num id.raw)),
    ("remembered_players",
      .arr (game.rememberedPlayers.map fun id => .num id.raw)),
    ("remembered_amount",
      optional (fun amount => .num amount.toNat) game.rememberedAmount),
    ("remembered_name", optional .str game.rememberedName),
    ("extra_turns", .arr (game.extraTurns.map fun id => .num id.raw)),
    ("extra_combat_phases", .num game.extraCombatPhases.toNat),
    ("is_shadow_game", .bool game.isShadowGame),
    ("is_commander_game", .bool game.isCommanderGame)]

/-- The hand and library sizes of the players from index `i` on. -/
def zoneSizes (i : Nat) :
    List (PlayerId × PlayerZones) → List (String × Json)
  | [] => []
  | entry :: rest =>
      ("p" ++ toString i ++ "_hand_size", .num entry.2.hand.length) ::
        ("p" ++ toString i ++ "_library_size",
          .num entry.2.library.length) :: zoneSizes (i + 1) rest

/-- `inject_zone_sizes`. -/
def injectZoneSizes (value : Json) (game : HashedState) : Json :=
  match value with
  | .obj map =>
      .obj (SortedMap.insert "_network_zone_sizes"
        (.object (zoneSizes 0 game.zones.playerZones)) map)
  | value => value

/-- The value that `compute_state_hash_with_mode` writes out. -/
def hashedValue (serde : Serde) (mode : HashMode) (game : HashedState) :
    Json :=
  let cleaned := strip mode (.object (stateFields serde game))
  match mode with
  | .network => injectZoneSizes cleaned game
  | .replay => cleaned
  | .undoTest => cleaned

/-- `compute_state_hash_with_mode`; `hash` is the hasher over the text. -/
def computeStateHashWithMode (serde : Serde) (hash : List Char → UInt64)
    (game : HashedState) (mode : HashMode) : UInt64 :=
  hash (hashedValue serde mode game).render

/-- `compute_network_state_hash`. -/
def computeNetworkStateHash (serde : Serde) (hash : List Char → UInt64)
    (game : HashedState) : UInt64 :=
  computeStateHashWithMode serde hash game .network

/-- One write to the hasher of the view. -/
inductive Write where
  | u8 (value : UInt8)
  | u32 (value : UInt32)
  | i32 (value : Int32)
  | u64 (value : UInt64)
deriving DecidableEq

/-- `Step::as_hash_u32`. -/
def asHashU32 : Step → UInt32
  | .untap => 0
  | .upkeep => 1
  | .draw => 2
  | .main1 => 3
  | .beginCombat => 4
  | .declareAttackers => 5
  | .declareBlockers => 6
  | .combatDamage => 7
  | .endCombat => 8
  | .main2 => 9
  | .end => 10
  | .cleanup => 11

def writeSize (size : Nat) : Write := .u64 size.toUInt64

def writeId (id : CardId) : Write := .u32 id.raw.toUInt32

/-- The public part of one player: life, sizes and graveyard. -/
def playerWrites (game : GameState) (player : PlayerId) : List Write :=
  let life := (game.getPlayer player).elim 0 Player.life
  let zones := (game.zones.getPlayerZones player).getD {}
  .i32 life :: writeSize zones.hand.length ::
    writeSize zones.library.length :: writeSize zones.graveyard.length ::
    zones.graveyard.map writeId

/-- A permanent: its id, whether it is tapped, and its controller if there is
a card. -/
def permanentWrites (game : GameState) (id : CardId) : List Write :=
  writeId id :: .u8 (if (game.card? id).any (·.tapped) then 1 else 0) ::
    match game.card? id with
    | some card => [.u32 card.controller.raw.toUInt32]
    | none => []

/-- What `compute_view_hash` writes to its hasher, in order. -/
def viewWrites (game : GameState) : List Write :=
  let battlefieldCards := ranked CardId.raw game.zones.battlefield
  [.u32 game.turn.turnNumber, .u32 game.turn.activePlayer.raw.toUInt32,
    .u32 (asHashU32 game.turn.currentStep),
    writeSize game.undoLog.actions.length] ++
  playerWrites game ⟨0⟩ ++ playerWrites game ⟨1⟩ ++
  (writeSize battlefieldCards.length ::
    battlefieldCards.flatMap (permanentWrites game)) ++
  (writeSize game.zones.stack.length :: game.zones.stack.map writeId)

/-- `compute_view_hash`; `finish` is the hasher over the writes. -/
def computeViewHash (finish : List Write → UInt64) (game : GameState) :
    UInt64 :=
  finish (viewWrites game)

/-- What both sides know of the zones of a player. -/
structure PublicZones where
  player : PlayerId
  handSize : Nat
  librarySize : Nat
  graveyard : List CardId
  exile : List CardId
  command : List CardId

def publicZones (entry : PlayerId × PlayerZones) : PublicZones where
  player := entry.1
  handSize := entry.2.hand.length
  librarySize := entry.2.library.length
  graveyard := entry.2.graveyard
  exile := entry.2.exile
  command := entry.2.command

/-- The card is in a zone that everyone sees. -/
def IsPublic (game : GameState) (id : CardId) : Prop :=
  id ∈ game.zones.battlefield ∨ id ∈ game.zones.stack ∨
    ∃ entry ∈ game.zones.playerZones, id ∈ entry.2.graveyard ∨
      id ∈ entry.2.exile ∨ id ∈ entry.2.command

/-- The card is in a hand or a library. -/
def IsHidden (game : GameState) (id : CardId) : Prop :=
  ∃ entry ∈ game.zones.playerZones,
    id ∈ entry.2.hand ∨ id ∈ entry.2.library

/-- A state without its cards and zones, without the contents of its logs and
without the random numbers, which only the server knows. -/
def common (game : HashedState) : HashedState :=
  { game with
    cards := {}
    zones := {}
    rng := ⟨0⟩
    undoLog := {}
    logger := {} }

/-- The states differ in the cards of hands and libraries only. -/
structure SamePublic (game game' : HashedState) : Prop where
  common : common game = common game'
  actionCount : game.undoLog.actions.length = game'.undoLog.actions.length
  battlefield : game.zones.battlefield = game'.zones.battlefield
  stack : game.zones.stack = game'.zones.stack
  zones : game.zones.playerZones.map publicZones =
    game'.zones.playerZones.map publicZones
  cards : ∀ id, IsPublic game.toGameState id ∨
    ¬IsHidden game.toGameState id ∧ ¬IsHidden game'.toGameState id →
    game.card? id = game'.card? id

/-- Neither hash tells the states apart, whatever the hasher is. -/
def HidesHidden (serde : Serde) (game game' : HashedState) : Prop :=
  (∀ finish, computeViewHash finish game.toGameState =
    computeViewHash finish game'.toGameState) ∧
  ∀ hash, computeNetworkStateHash serde hash game =
    computeNetworkStateHash serde hash game'

/-- Slot by slot, both stores are empty or hold cards with the same kept
fields. -/
def SameSlots (serde : Serde) (game game' : HashedState) : Prop :=
  game.cards.entities.map
      (Option.map fun card => strip .network (.object (serde.card card))) =
    game'.cards.entities.map
      (Option.map fun card => strip .network (.object (serde.card card)))

theorem find_publicZones {zones zones' : List (PlayerId × PlayerZones)}
    (hzones : zones.map publicZones = zones'.map publicZones)
    (player : PlayerId) :
    (zones.find? fun entry => entry.1 == player).map publicZones =
      (zones'.find? fun entry => entry.1 == player).map publicZones := by
  have hfound := congrArg
    (List.find? fun known => known.player == player) hzones
  rw [List.find?_map, List.find?_map] at hfound
  exact hfound

theorem playerWrites_eq {game game' : HashedState}
    (hpublic : SamePublic game game') (player : PlayerId) :
    playerWrites game.toGameState player =
      playerWrites game'.toGameState player := by
  have hplayers : game.players = game'.players :=
    congrArg (fun game => game.players) hpublic.common
  have hfound := find_publicZones hpublic.zones player
  simp only [playerWrites, GameState.getPlayer, hplayers,
    Zones.getPlayerZones]
  cases hentry : game.zones.playerZones.find?
      fun entry => entry.1 == player with
  | none =>
      rw [hentry] at hfound
      rw [Option.map_eq_none_iff.mp hfound.symm]
  | some entry =>
      rw [hentry] at hfound
      obtain ⟨entry', hentry', heq⟩ := Option.map_eq_some_iff.mp hfound.symm
      simp only [publicZones, PublicZones.mk.injEq] at heq
      obtain ⟨-, hhand, hlibrary, hgraveyard, -, -⟩ := heq
      simp [hentry', hhand, hlibrary, hgraveyard]

/-- The view hash sees nothing hidden. -/
theorem viewWrites_eq {game game' : HashedState}
    (hpublic : SamePublic game game') :
    viewWrites game.toGameState = viewWrites game'.toGameState := by
  have hturn : game.turn = game'.turn :=
    congrArg (fun game => game.turn) hpublic.common
  have hpermanents :
      (ranked CardId.raw game.zones.battlefield).flatMap
          (permanentWrites game.toGameState) =
        (ranked CardId.raw game.zones.battlefield).flatMap
          (permanentWrites game'.toGameState) := by
    apply List.flatMap_congr
    intro id hid
    have hcard := hpublic.cards id (Or.inl (Or.inl (mem_ranked.mp hid)))
    simp only [permanentWrites, hcard]
  simp only [viewWrites, hturn, hpublic.actionCount,
    playerWrites_eq hpublic, hpermanents]
  rw [hpublic.battlefield, hpublic.stack]

/-- The two hidden zones of an entry are stripped, so their cards do not
matter. -/
theorem strip_playerZones {entry entry' : PlayerId × PlayerZones}
    (hpublic : publicZones entry = publicZones entry') :
    strip .network (playerZones entry) =
      strip .network (playerZones entry') := by
  simp only [publicZones, PublicZones.mk.injEq] at hpublic
  obtain ⟨hplayer, -, -, hgraveyard, hexile, hcommand⟩ := hpublic
  have hlibrary := strip_cardZone_hidden entry'.1 entry.2.library
    entry'.2.library (Or.inr rfl)
  have hhand := strip_cardZone_hidden entry'.1 entry.2.hand entry'.2.hand
    (Or.inl rfl)
  have hzones : List.Forall₂ SameField
      [("library", cardZone "Library" entry.1 entry.2.library),
        ("hand", cardZone "Hand" entry.1 entry.2.hand),
        ("graveyard", cardZone "Graveyard" entry.1 entry.2.graveyard),
        ("exile", cardZone "Exile" entry.1 entry.2.exile),
        ("command", cardZone "Command" entry.1 entry.2.command)]
      [("library", cardZone "Library" entry'.1 entry'.2.library),
        ("hand", cardZone "Hand" entry'.1 entry'.2.hand),
        ("graveyard", cardZone "Graveyard" entry'.1 entry'.2.graveyard),
        ("exile", cardZone "Exile" entry'.1 entry'.2.exile),
        ("command", cardZone "Command" entry'.1 entry'.2.command)] := by
    simp [SameField, hplayer, hlibrary, hhand, hgraveyard, hexile, hcommand]
  have hobject := strip_object_congr hzones
  simp only [playerZones, strip, stripItems]
  rw [hobject, hplayer]

theorem zoneSizes_eq {zones zones' : List (PlayerId × PlayerZones)}
    (hzones : zones.map publicZones = zones'.map publicZones) (i : Nat) :
    zoneSizes i zones = zoneSizes i zones' := by
  induction zones generalizing zones' i with
  | nil =>
      cases zones' with
      | nil => rfl
      | cons entry' rest' => cases hzones
  | cons entry rest ih =>
      cases zones' with
      | nil => cases hzones
      | cons entry' rest' =>
          simp only [List.map_cons, List.cons.injEq] at hzones
          obtain ⟨hentry, hrest⟩ := hzones
          simp only [publicZones, PublicZones.mk.injEq] at hentry
          obtain ⟨-, hhand, hlibrary, -⟩ := hentry
          simp only [zoneSizes, hhand, hlibrary, ih hrest]

/-- A map that tells no more elements apart tells no more lists apart. -/
theorem map_eq_of_map_eq {α β γ : Type} {f : α → β} {g : α → γ}
    {l l' : List α} (h : l.map f = l'.map f)
    (hfg : ∀ a b, f a = f b → g a = g b) : l.map g = l'.map g := by
  induction l generalizing l' with
  | nil =>
      cases l' with
      | nil => rfl
      | cons b rest' => cases h
  | cons a rest ih =>
      cases l' with
      | nil => cases h
      | cons b rest' =>
          simp only [List.map_cons, List.cons.injEq] at h
          rw [List.map_cons, List.map_cons, hfg a b h.1, ih h.2]

theorem strip_slot_eq_iff (serde : Serde) (slot slot' : Option Card) :
    strip .network (serde.slot slot) = strip .network (serde.slot slot') ↔
      slot.map (fun card => strip .network (.object (serde.card card))) =
        slot'.map fun card => strip .network (.object (serde.card card)) := by
  cases slot <;> cases slot' <;> simp [Serde.slot, strip, Json.object]

theorem strip_slots_eq_iff (serde : Serde) (game game' : HashedState) :
    strip .network (.arr (game.cards.entities.map serde.slot)) =
        strip .network (.arr (game'.cards.entities.map serde.slot)) ↔
      SameSlots serde game game' := by
  simp only [strip, Json.arr.injEq, stripItems_eq_map, List.map_map]
  exact ⟨fun h => map_eq_of_map_eq h fun slot slot' =>
      (strip_slot_eq_iff serde slot slot').mp,
    fun h => map_eq_of_map_eq h fun slot slot' =>
      (strip_slot_eq_iff serde slot slot').mpr⟩

/-- With the same slots and the same public part, every field that the hash
keeps is the same. -/
theorem stateFields_same {serde : Serde} {game game' : HashedState}
    (hpublic : SamePublic game game') (hslots : SameSlots serde game game') :
    List.Forall₂ SameField (stateFields serde game)
      (stateFields serde game') := by
  have hcards := (strip_slots_eq_iff serde game game').mpr hslots
  have hzones : strip .network
        (.arr (game.zones.playerZones.map playerZones)) =
      strip .network (.arr (game'.zones.playerZones.map playerZones)) := by
    simp only [strip, Json.arr.injEq, stripItems_eq_map, List.map_map]
    exact map_eq_of_map_eq hpublic.zones fun _ _ => strip_playerZones
  have hcommon := hpublic.common
  simp only [common, HashedState.mk.injEq, GameState.mk.injEq] at hcommon
  simp [stateFields, SameField, excludedFieldsNetwork, hcommon, hcards,
    hzones, hpublic.battlefield, hpublic.stack]

/-- The fields of a state that are left for the network hash. -/
def keptFields (serde : Serde) (game : HashedState) :
    List (String × Json) :=
  (editFields .network (insertAll [] (stateFields serde game))).map
    fun field => (field.1, strip .network field.2)

theorem strip_state (serde : Serde) (game : HashedState) :
    strip .network (.object (stateFields serde game)) =
      .obj (keptFields serde game) :=
  strip_obj _ _

theorem hashedValue_network (serde : Serde) (game : HashedState) :
    hashedValue serde .network game =
      .obj (SortedMap.insert "_network_zone_sizes"
        (.object (zoneSizes 0 game.zones.playerZones))
        (keptFields serde game)) := by
  rw [hashedValue, strip_state]
  rfl

/-- The card store is among the kept fields. -/
theorem lookup_keptFields_cards (serde : Serde) (game : HashedState) :
    lookup (keptFields serde game) "cards" =
      some (strip .network (.arr (game.cards.entities.map serde.slot))) := by
  have hzone : lookup (insertAll [] (stateFields serde game))
      "zone_type" = none := by
    apply lookup_insertAll_of_ne
    simp [stateFields]
  have hcards : lookup (insertAll [] (stateFields serde game)) "cards" =
      some (.arr (game.cards.entities.map serde.slot)) := by
    rw [stateFields, insertAll_cons, lookup_insertAll_of_ne (by simp),
      lookup_insert, if_pos rfl]
  rw [keptFields, lookup_map _ fun _ => strip .network,
    editFields_of_no_zone hzone, lookup_eraseAll, hcards]
  simp [excludedFieldsNetwork]

theorem hashedValue_eq {serde : Serde} {game game' : HashedState}
    (hpublic : SamePublic game game') (hslots : SameSlots serde game game') :
    hashedValue serde .network game = hashedValue serde .network game' := by
  have hkept := strip_object_congr (stateFields_same hpublic hslots)
  rw [strip_state, strip_state, Json.obj.injEq] at hkept
  rw [hashedValue_network, hashedValue_network, hkept,
    zoneSizes_eq hpublic.zones]

theorem sameSlots_of_hashedValue {serde : Serde} {game game' : HashedState}
    (hvalue : hashedValue serde .network game =
      hashedValue serde .network game') : SameSlots serde game game' := by
  rw [hashedValue_network, hashedValue_network, Json.obj.injEq] at hvalue
  have hcards := congrArg (fun map => lookup map "cards") hvalue
  simp only [lookup_insert, lookup_keptFields_cards, String.reduceEq,
    ↓reduceIte, Option.some.injEq] at hcards
  exact (strip_slots_eq_iff serde game game').mp hcards

/-- A hash that singles out one text tells any other text from it. -/
theorem sameSlots_of_hidesHidden {serde : Serde} {game game' : HashedState}
    (hhides : HidesHidden serde game game') : SameSlots serde game game' := by
  have hhash := hhides.2 fun text =>
    if text = (hashedValue serde .network game).render then 1 else 0
  simp only [computeNetworkStateHash, computeStateHashWithMode,
    ↓reduceIte] at hhash
  have htext : (hashedValue serde .network game').render =
      (hashedValue serde .network game).render := by
    by_contra hne
    simp [hne] at hhash
  exact sameSlots_of_hashedValue (Json.render_injective htext.symm)

/-- For states with the same public part, the hashes hide the hidden cards
exactly when the stores hold the same cards, or none, in every slot: the view
hash always does, and the network hash writes out the entities of hidden cards
too. -/
theorem hidesHidden_iff (serde : Serde) (game game' : HashedState)
    (hpublic : SamePublic game game') :
    HidesHidden serde game game' ↔ SameSlots serde game game' := by
  constructor
  · exact sameSlots_of_hidesHidden
  · intro hslots
    constructor
    · intro finish
      rw [computeViewHash, computeViewHash, viewWrites_eq hpublic]
    · intro hash
      simp only [computeNetworkStateHash, computeStateHashWithMode,
        hashedValue_eq hpublic hslots]


/-- A game at its start, with the given cards and zones of the second
player. -/
def duel (entities : List (Option Card)) (zones : PlayerZones) :
    HashedState where
  sharedOwner := ⟨2⟩
  turn := { activePlayer := ⟨0⟩ }
  players := [{ id := ⟨0⟩ }, { id := ⟨1⟩ }]
  nextEntityId := 5
  cards := ⟨entities⟩
  zones := { playerZones := [(⟨0⟩, {}), (⟨1⟩, zones)] }

/-- A card of the second player. -/
def libraryCard (id : Nat) : Card where
  id := ⟨id⟩
  name := "Island"
  owner := ⟨1⟩
  controller := ⟨1⟩
  definition := {}

/-- A game whose two library cards everyone has, in the given order. -/
def revealedLibrary (order : List CardId) : HashedState :=
  duel [none, none, none, some (libraryCard 3), some (libraryCard 4)]
    { library := order }

/-- The order of the library does not show when both sides hold its cards. -/
theorem hidesHidden_shuffled :
    SamePublic (revealedLibrary [⟨3⟩, ⟨4⟩]) (revealedLibrary [⟨4⟩, ⟨3⟩]) ∧
      ∀ serde, HidesHidden serde (revealedLibrary [⟨3⟩, ⟨4⟩])
        (revealedLibrary [⟨4⟩, ⟨3⟩]) := by
  have hpublic : SamePublic (revealedLibrary [⟨3⟩, ⟨4⟩])
      (revealedLibrary [⟨4⟩, ⟨3⟩]) :=
    ⟨rfl, rfl, rfl, rfl, rfl, fun _ _ => rfl⟩
  exact ⟨hpublic, fun serde =>
    (hidesHidden_iff serde _ _ hpublic).mpr rfl⟩

/-- The server has the card on the library. -/
def server : HashedState :=
  duel [none, none, none, some (libraryCard 3)] { library := [⟨3⟩] }

/-- The client knows only its id. -/
def client : HashedState :=
  duel [none, none, none, none] { library := [⟨3⟩] }

theorem server_hidden : IsHidden server.toGameState ⟨3⟩ := by
  simp [IsHidden, server, duel]

theorem server_not_public : ¬IsPublic server.toGameState ⟨3⟩ := by
  simp [IsPublic, server, duel]

/-- The public parts are the same, and the network hashes are not. -/
theorem unrevealed_card_shows :
    SamePublic server client ∧
      ∀ serde, ¬HidesHidden serde server client := by
  constructor
  · refine ⟨rfl, rfl, rfl, rfl, rfl, ?_⟩
    rintro ⟨raw⟩ hknown
    match raw with
    | 0 => rfl
    | 1 => rfl
    | 2 => rfl
    | 3 =>
        rcases hknown with hpublic | hnot
        · exact absurd hpublic server_not_public
        · exact absurd server_hidden hnot.1
    | raw + 4 => rfl
  · intro serde hhides
    have hslots := sameSlots_of_hidesHidden hhides
    simp [SameSlots, server, client, duel] at hslots

end DeepScry.StateHash
