/-
Loading a puzzle: cards are made zone by zone for one player after the other,
then the modifiers that refer to other cards are applied.  A parsed entry is
given by its name, its `Id` and the other modifiers of its notation.
-/
import DeepScry.DelayedFiring

namespace DeepScry

namespace Puzzle

/-- The modifiers the loader looks at; `counters` lists the entries of the
parsed map in the order of iteration. -/
inductive CardModifier where
  | tapped
  | summonSick
  | counters (counts : List (CounterType × Int32))
  | attachedTo (id : UInt32)
  | chosenColor (colors : List String)
  | namedCard (names : List String)
  | token (script : String)
  | other (discriminant : Nat)
deriving DecidableEq

structure CardDefinition where
  name : String
  id : Option UInt32 := none
  modifiers : List CardModifier := []
deriving DecidableEq

structure PlayerStateDefinition where
  life : Int32 := 20
  landsPlayed : UInt32 := 0
  manaPool : List String := []
  hand : List CardDefinition := []
  battlefield : List CardDefinition := []
  graveyard : List CardDefinition := []
  library : List CardDefinition := []
  exile : List CardDefinition := []
  command : List CardDefinition := []

inductive PlayerRef where
  | player0
  | player1
deriving DecidableEq

def PlayerRef.index : PlayerRef → Nat
  | player0 => 0
  | player1 => 1

/-- The parser starts from two players and adds none. -/
structure GameStateDefinition where
  turn : UInt32 := 1
  activePlayer : PlayerRef := .player0
  activePhase : Step := .main1
  players : List PlayerStateDefinition
  two : players.length = 2

namespace CardDefinition

def isToken (entry : CardDefinition) : Bool :=
  entry.modifiers.any fun
    | .token _ => true
    | _ => false

def isSummonSick (entry : CardDefinition) : Bool :=
  entry.modifiers.any fun
    | .summonSick => true
    | _ => false

/-- The first `AttachedTo` of the entry. -/
def attachedTo (entry : CardDefinition) : Option UInt32 :=
  entry.modifiers.findSome? fun
    | .attachedTo id => some id
    | _ => none

/-- Whether the entry says anything of loyalty counters. -/
def hasExplicitLoyalty (entry : CardDefinition) : Bool :=
  entry.modifiers.any fun
    | .counters counts => counts.any fun count => count.1 == .loyalty
    | _ => false

end CardDefinition

namespace PlayerStateDefinition

/-- The entries the loader reads, in its order. -/
def entries (state : PlayerStateDefinition) : List CardDefinition :=
  state.hand ++ state.battlefield ++ state.graveyard ++ state.library ++
    state.exile

end PlayerStateDefinition

/-- The card database, and what it reads off the script of a card: its token
scripts, a replacement effect, and the abilities of level-up and class
keywords. -/
structure CardDatabase where
  getCard : String → Except MtgError (Option DeepScry.CardDefinition)
  getToken : String → Except MtgError (Option DeepScry.CardDefinition)
  extractTokenScripts : DeepScry.CardDefinition → List String
  isIslandSanctuaryCard : DeepScry.CardDefinition → Bool
  levelAbilities : DeepScry.CardDefinition → CardId → List ActivatedAbility

/-- `CardDefinition::instantiate`. -/
def CardDatabase.instantiate (db : CardDatabase)
    (definition : DeepScry.CardDefinition) (id : CardId) (owner : PlayerId) :
    Card :=
  let cache := { definition.freshCache with
    isIslandSanctuary := db.isIslandSanctuaryCard definition }
  let card : Card :=
    { id := id
      printedName := definition.name
      name := definition.name
      owner := owner
      controller := owner
      manaCost := definition.manaCost
      types := definition.types
      subtypes := definition.subtypes
      colors := definition.colors
      basePower := definition.power
      baseToughness := definition.toughness
      isLegendary := definition.isLegendary
      keywords := definition.keywords
      effects := definition.effects
      staticAbilities := definition.staticAbilities
      definition := { definition with cache := cache } }
  let abilities := card.printedAbilities card.toCardStateSnapshot ++
    db.levelAbilities definition id
  { card with
    activatedAbilities := abilities
    definition := { definition with
      cache := cache.updateFromAbilitiesWithName abilities definition.name } }

/-- Add one kind of counter, if the count is positive. -/
def addCount (card : Card) (count : CounterType × Int32) : Card :=
  if 0 < count.2 then card.addCounter count.1 count.2.toUInt32.toUInt8
  else card

def colorOfName : String → Option Color
  | "White" => some .white
  | "Blue" => some .blue
  | "Black" => some .black
  | "Red" => some .red
  | "Green" => some .green
  | _ => none

/-- A modifier of the first pass. -/
def applyModifier (card : Card) : CardModifier → Card
  | .tapped => { card with tapped := true }
  | .counters counts => counts.foldl addCount card
  | .chosenColor colors =>
      match colors.head?.bind colorOfName with
      | some color => { card with chosenColor := some color }
      | none => card
  | .namedCard names =>
      match names.head? with
      | some name => { card with chosenName := some name }
      | none => card
  | _ => card

/-- The card of an entry: its own modifiers, and the printed loyalty where the
entry names none. -/
def CardDatabase.cardOf (db : CardDatabase)
    (definition : DeepScry.CardDefinition) (entry : CardDefinition)
    (id : CardId) (owner : PlayerId) : Card :=
  let card := entry.modifiers.foldl applyModifier
    (db.instantiate definition id owner)
  if entry.hasExplicitLoyalty then card
  else
    match definition.loyalty with
    | some loyalty => card.addCounter .loyalty loyalty
    | none => card

/-- The cards the `Id`s of the entries stand for. -/
abbrev IdMap := UInt32 → Option CardId

def createCardFromDefinition (db : CardDatabase) (entry : CardDefinition)
    (owner : PlayerId) (game : GameState) : Outcome CardId :=
  if entry.isToken then
    .error game (.invalidAction "Token support not yet implemented")
  else
    match db.getCard entry.name with
    | .error e => .error game e
    | .ok none =>
        .error game (.invalidAction ("Card not found: " ++ entry.name))
    | .ok (some definition) =>
        let id : CardId := ⟨game.nextEntityId.toNat⟩
        match game.cards.insert id.raw (db.cardOf definition entry id owner)
          with
        | none => none
        | some cards =>
            .ok { game with
              nextEntityId := game.nextEntityId + 1
              cards := cards } id

/-- Note the `Id` of an entry. -/
def IdMap.insert (ids : IdMap) (entry : CardDefinition) (card : CardId) :
    IdMap :=
  match entry.id with
  | some id => Function.update ids id (some card)
  | none => ids

/-- Add a card to a zone of a player, or to the battlefield. -/
def addToZone (zone : Zone) (player : PlayerId) (card : CardId)
    (game : GameState) : Outcome Unit :=
  if zone = .battlefield || (game.zones.getPlayerZones player).isSome then
    .ok { game with
      zones := game.zones.modify zone player fun cards => cards ++ [card] } ()
  else .error game (.invalidAction "Player zones not found")

/-- One of the five loops over the entries of a player. -/
def loadZone (db : CardDatabase) (player : PlayerId) (zone : Zone) :
    List CardDefinition → IdMap → GameState → Outcome IdMap
  | [], ids, game => .ok game ids
  | entry :: rest, ids, game =>
      (createCardFromDefinition db entry player game).andThen
        fun created card =>
          (addToZone zone player card created).andThen fun added _ =>
            loadZone db player zone rest (ids.insert entry card) added

/-- One character of a mana token. -/
def addSymbol (pool : ManaPool) (symbol : Char) : ManaPool :=
  match symbol with
  | 'W' => pool.addColor .white
  | 'U' => pool.addColor .blue
  | 'B' => pool.addColor .black
  | 'R' => pool.addColor .red
  | 'G' => pool.addColor .green
  | 'C' => pool.addColor .colorless
  | _ => pool

/-- Life, lands played and floating mana. -/
def applyPlayerState (state : PlayerStateDefinition) (player : Player) :
    Player :=
  { player with
    life := state.life
    landsPlayedThisTurn := state.landsPlayed.toUInt8
    manaPool := state.manaPool.foldl
      (fun pool token => token.toList.foldl addSymbol pool)
      player.manaPool }

def loadPlayer (db : CardDatabase) (index : Nat)
    (state : PlayerStateDefinition) (ids : IdMap) (game : GameState) :
    Outcome IdMap :=
  match game.players[index]? with
  | none =>
      .error game (.invalidAction
        ("Player index out of bounds: " ++ toString index))
  | some player =>
      let prepared := { game with
        players := game.players.modify index (applyPlayerState state) }
      (loadZone db player.id .hand state.hand ids prepared).andThen
        fun game ids =>
      (loadZone db player.id .battlefield state.battlefield ids game).andThen
        fun game ids =>
      (loadZone db player.id .graveyard state.graveyard ids game).andThen
        fun game ids =>
      (loadZone db player.id .library state.library ids game).andThen
        fun game ids =>
      loadZone db player.id .exile state.exile ids game

def loadPlayers (db : CardDatabase) :
    Nat → List PlayerStateDefinition → IdMap → GameState → Outcome IdMap
  | _, [], ids, game => .ok game ids
  | index, state :: rest, ids, game =>
      (loadPlayer db index state ids game).andThen fun game ids =>
        loadPlayers db (index + 1) rest ids game

namespace GameStateDefinition

def entries (state : GameStateDefinition) : List CardDefinition :=
  state.players.flatMap PlayerStateDefinition.entries

/-- What the first entry of the same name says of summoning sickness. -/
def saysSummonSick (state : GameStateDefinition) (name : String) : Bool :=
  ((state.entries.find? fun entry => entry.name == name).map
    CardDefinition.isSummonSick).getD false

end GameStateDefinition

/-- A creature entered in this turn, or in the one before. -/
def markEntry (state : GameStateDefinition) (card : Card) : Card :=
  if card.types.contains .creature then
    { card with
      turnEnteredBattlefield :=
        if state.saysSummonSick card.name then some state.turn
        else some (if state.turn = 0 then 0 else state.turn - 1) }
  else card

/-- Which card is attached to which `Id`: both entries carry an `Id`. -/
def attachJobs (state : GameStateDefinition) (ids : IdMap) :
    List (CardId × UInt32) :=
  (state.players.flatMap fun player => player.battlefield).filterMap
    fun entry =>
      entry.id.bind fun own =>
        entry.attachedTo.bind fun target =>
          (ids own).map fun card => (card, target)

def attach (ids : IdMap) (game : GameState) (job : CardId × UInt32) :
    GameState :=
  match ids job.2 with
  | some target =>
      game.modifyCard job.1 fun card => { card with attachedTo := some target }
  | none => game

/-- The second pass. -/
def applyCardModifiers (state : GameStateDefinition) (ids : IdMap)
    (game : GameState) : GameState :=
  (attachJobs state ids).foldl (attach ids)
    (game.zones.battlefield.foldl
      (fun game id => game.modifyCard id (markEntry state)) game)

/-- The opponent with the most cards in hand, the lower id on a tie. -/
def pickChosenOpponent (game : GameState) (chooser : PlayerId) :
    Option PlayerId :=
  let hand (player : PlayerId) : Nat :=
    ((game.zones.getPlayerZones player).map fun zones =>
      zones.hand.length).getD 0
  ((game.players.map Player.id).filter fun player => player != chooser).foldl
    (fun best player =>
      match best with
      | none => some player
      | some other =>
          if hand other < hand player ||
            hand other == hand player && player.raw ≤ other.raw then
            some player
          else best)
    none

/-- The players chosen for permanents that ask for one. -/
def chosenPlayers (game : GameState) : List (CardId × Option PlayerId) :=
  game.zones.battlefield.filterMap fun id =>
    (game.card? id).bind fun card =>
      if card.definition.cache.etbChoosePlayer && card.chosenPlayer.isNone then
        some (id, pickChosenOpponent game card.controller)
      else none

def choosePlayers (game : GameState) : GameState :=
  (chosenPlayers game).foldl
    (fun game choice => game.modifyCard choice.1 fun card =>
      { card with chosenPlayer := choice.2 }) game

/-- The token scripts of the named cards. -/
def tokenScripts (db : CardDatabase) :
    List String → Except MtgError (List String)
  | [] => .ok []
  | name :: rest =>
      match db.getCard name with
      | .error e => .error e
      | .ok none => tokenScripts db rest
      | .ok (some definition) =>
          (tokenScripts db rest).map fun scripts =>
            db.extractTokenScripts definition ++ scripts

def loadTokens (db : CardDatabase) :
    List String → GameState → Outcome Unit
  | [], game => .ok game ()
  | script :: rest, game =>
      match db.getToken script with
      | .error e => .error game e
      | .ok none => loadTokens db rest game
      | .ok (some token) =>
          loadTokens db rest { game with
            tokenDefinitions :=
              Function.update game.tokenDefinitions script (some token) }

/-- `new_two_player`. -/
def newTwoPlayer (startingLife : Int32) : GameState where
  players :=
    [{ id := ⟨0⟩, life := startingLife }, { id := ⟨1⟩, life := startingLife }]
  zones := { playerZones := [(⟨0⟩, {}), (⟨1⟩, {})] }
  manaCaches :=
    [(⟨0⟩, ManaSourceCache.new ⟨0⟩), (⟨1⟩, ManaSourceCache.new ⟨1⟩)]
  turn := { activePlayer := ⟨0⟩ }
  nextEntityId := 3

/-- The turn, the step and the active player of the puzzle. -/
def setTurn (state : GameStateDefinition) (game : GameState) : Outcome Unit :=
  let timed := { game with
    turn := { game.turn with
      turnNumber := state.turn
      currentStep := state.activePhase } }
  match timed.players[state.activePlayer.index]? with
  | none =>
      .error timed (.invalidAction ("Invalid active player index: " ++
        toString state.activePlayer.index))
  | some player =>
      .ok { timed with
        turn := { timed.turn with activePlayer := player.id } } ()

def loadPuzzleIntoGame (db : CardDatabase) (state : GameStateDefinition) :
    Outcome Unit :=
  let game := newTwoPlayer 20
  let names := ((state.entries.filter fun entry => !entry.isToken).map
    CardDefinition.name).dedup
  match tokenScripts db names with
  | .error e => .error game e
  | .ok scripts =>
      (loadTokens db scripts.dedup game).andThen fun game _ =>
      (setTurn state game).andThen fun game _ =>
      (loadPlayers db 0 state.players (fun _ => none) game).andThen
        fun game ids =>
      .ok (choosePlayers (applyCardModifiers state ids game)) ()

end Puzzle

end DeepScry
