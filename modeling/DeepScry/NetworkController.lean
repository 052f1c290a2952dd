/-
The server's controller for one seat: it asks the client over the network and
reads the indices that come back.
-/
import DeepScry.LibraryOrder
import DeepScry.PersistentEffect
import DeepScry.Positions

namespace DeepScry

/-- What a player can do with priority. -/
inductive SpellAbility where
  | playLand (card : CardId)
  | castSpell (card : CardId)
  | activateAbility (card : CardId) (abilityIndex : Nat)
  | castFromExile (card : CardId) (alternativeCost : ManaCost)
      (effect : PersistentEffectId)
  | castFromCommand (card : CardId) (totalCost : ManaCost)
  | cycle (card : CardId) (cost : ManaCost) (searchType : Option String)
  | castFromGraveyard (card : CardId) (effect : PersistentEffectId)
      (addFinalityCounter : Bool)
  | castAdventure (card : CardId)
  | castFromHandWithAltCost (card : CardId) (alternativeCost : ManaCost)
  | castFromLibrary (card : CardId)
  | playLandFromLibrary (card : CardId)
deriving DecidableEq, Repr

def ChoiceResult.ofExcept {α : Type} : Except String α → ChoiceResult α
  | .ok value => .ok value
  | .error message => .error message

inductive ChoiceType where
  | priority (availableCount : Nat)
  | targets (spell : CardId) (targetCount : Nat)
  | manaSources (cost : ManaCost)
  | attackers (availableCount : Nat)
  | blockers (attackerCount blockerCount : Nat)
  | damageOrder (attacker : CardId) (blockerCount : Nat)
  | discard (count : Nat)
  | librarySearchByName (uniqueNames : List String) (nameCounts : List Nat)
      (filterDescription : String)
  | sacrifice (validCount count : Nat) (cardTypeDescription : String)
  | scry (count : Nat) (revealedCardIds : List CardId)
  | surveil (count : Nat) (revealedCardIds : List CardId)
  | modes (spell : CardId) (modeCount minModes : Nat) (canRepeat : Bool)
      (availableModes : Nat)
  | lethalDamageAssignment (attacker : CardId) (killableCount : Nat)
      (remainingPower : Int32)
  | remainingDamageAssignment (attacker : CardId) (blockerCount : Nat)
      (remainingDamage : Int32)
deriving DecidableEq

def ChoiceType.isLibrarySearch : ChoiceType → Bool
  | .librarySearchByName .. => true
  | _ => false

/-- A request for a choice; of the option texts only the number matters. -/
structure ChoiceRequest where
  choiceSeq : UInt32
  choiceType : ChoiceType
  optionCount : Nat
  abilities : Option (List (Option SpellAbility)) := none
  librarySearchCards : Option (List CardId) := none
deriving DecidableEq

structure ChoiceResponse where
  choiceSeq : UInt32
  choiceIndices : List Nat
  spellAbility : Option SpellAbility := none
  targetCardIds : Option (List CardId) := none
deriving DecidableEq

inductive NetworkError where
  | disconnected
  | sequenceMismatch (expected got : UInt32)
  | channelError (message : String)
  | desyncError (message : String)
deriving DecidableEq

def NetworkError.display : NetworkError → String
  | .disconnected => "Client disconnected"
  | .sequenceMismatch expected got =>
      "Sequence mismatch: expected " ++ toString expected ++ ", got " ++
        toString got
  | .channelError message => "Channel error: " ++ message
  | .desyncError message => "FATAL DESYNC: " ++ message

/-- The client behind the channels, as far as the server sees it. -/
abbrev Network := ChoiceRequest → Except String ChoiceResponse

structure NetworkController where
  player : PlayerId
  choiceSeq : UInt32 := 0
  sharedRevealIndex : Nat := 0
  pendingLibrarySearchCardIds : Option (List CardId) := none
deriving DecidableEq

/-- A call of the server's controller: the request it sends, if any, its state
afterwards and its answer. -/
structure Served (α : Type) where
  request : Option ChoiceRequest := none
  controller : NetworkController
  result : ChoiceResult α

namespace NetworkController

/-- The first index that is no option; of a library search only the first
index is looked at. -/
def invalidIndex (request : ChoiceRequest) (indices : List Nat) :
    Option Nat :=
  (if request.choiceType.isLibrarySearch then indices.take 1
    else indices).find? fun index => request.optionCount ≤ index

variable (self : NetworkController) (network : Network)

def requestChoice (request : ChoiceRequest) :
    Except NetworkError ChoiceResponse :=
  match network request with
  | .error message => .error (.channelError message)
  | .ok response =>
      if response.choiceSeq ≠ self.choiceSeq + 1 then
        .error (.sequenceMismatch (self.choiceSeq + 1) response.choiceSeq)
      else
        match invalidIndex request response.choiceIndices with
        | some index => .error (.desyncError
            ("DESYNC DETECTED: NetworkController " ++
              toString self.player.raw ++ " received invalid choice index " ++
              toString index ++ " (only " ++ toString request.optionCount ++
              " options available). Client sent indices " ++
              toString response.choiceIndices ++
              ". This indicates client/server state divergence - " ++
              "a fundamental bug that must be fixed, NOT papered over " ++
              "with clamping."))
        | none => .ok response

/-- The next request, without the parts that only some kinds have. -/
def request (choiceType : ChoiceType) (optionCount : Nat) : ChoiceRequest where
  choiceSeq := self.choiceSeq + 1
  choiceType := choiceType
  optionCount := optionCount

/-- Ask the client; a valid response moves the sequence on and is read. -/
def ask {α : Type} (request : ChoiceRequest)
    (read : ChoiceResponse → ChoiceResult α) : Served α :=
  match self.requestChoice network request with
  | .ok response =>
      { request := some request
        controller := { self with choiceSeq := self.choiceSeq + 1 }
        result := read response }
  | .error .disconnected =>
      { request := some request, controller := self, result := .exitGame }
  | .error e =>
      { request := some request, controller := self
        result := .error e.display }

/-- The first index that is out of range, or repeated where that is not
allowed. -/
def firstBad (optionCount : Nat) (canRepeat : Bool) (indices : List Nat) :
    Option Nat :=
  (indices.zipIdx.find? fun entry => optionCount ≤ entry.1 ||
    (!canRepeat && (indices.take entry.2).contains entry.1)).map Prod.fst

/-- The options at the indices. -/
def readOptions {α : Type} (options : List α) (message : Nat → String)
    (indices : List Nat) : ChoiceResult (List α) :=
  .ofExcept (Positions.collect (fun index =>
    match options[index]? with
    | some option => .ok (some option)
    | none => .error (message index)) indices)

def chooseSpellAbilityToPlay (available : List SpellAbility) :
    Served (Option SpellAbility) :=
  self.ask network
    { self.request (.priority available.length) (available.length + 1) with
      abilities := some (none :: available.map some) }
    fun response =>
      match response.choiceIndices.head? with
      | some 0 => .ok none
      | none => .error "attempt to subtract with overflow"
      | some (index + 1) =>
          match available[index]? with
          | none => .error ("FATAL DESYNC: Invalid ability index " ++
              toString index ++ " from network (available: " ++
              toString available.length ++ ")")
          | some ability =>
              match response.spellAbility with
              | some expected =>
                  if ability ≠ expected then
                    .error ("FATAL DESYNC: Choice mismatch - index " ++
                      toString (index + 1) ++ " selected " ++
                      toString (repr ability) ++ ", but client expected " ++
                      toString (repr expected))
                  else .ok (some ability)
              | none => .ok (some ability)

/-- Without targets the client is not asked. -/
def chooseTargets (spell : CardId) (validTargets : List CardId)
    (maxTargets : Nat) : Served (List CardId) :=
  if validTargets.isEmpty then { controller := self, result := .ok [] }
  else
    self.ask network (self.request (.targets spell maxTargets)
        validTargets.length) fun response =>
      readOptions validTargets (fun _ => "Invalid target index from network")
        response.choiceIndices

/-- One source only, whatever the client sends. -/
def chooseManaSourcesToPay (cost : ManaCost) (availableSources : List CardId) :
    Served (List CardId) :=
  self.ask network (self.request (.manaSources cost)
      availableSources.length) fun response =>
    match availableSources[response.choiceIndices.head?.getD 0]? with
    | some source => .ok [source]
    | none => .error "Invalid mana source index from network"

/-- Index 0 is "Done". -/
def chooseAttackers (availableCreatures : List CardId) :
    Served (List CardId) :=
  self.ask network (self.request (.attackers availableCreatures.length)
      (availableCreatures.length + 1)) fun response =>
      if response.choiceIndices = [] ∨ response.choiceIndices = [0] then .ok []
      else .ofExcept (Positions.collect (fun index =>
        match index with
        | 0 => .ok none
        | creature + 1 =>
            match availableCreatures[creature]? with
            | some attacker => .ok (some attacker)
            | none => .error ("Invalid attacker index " ++ toString index ++
                " from network")) response.choiceIndices)

/-- Index 0 is "Done", the others are the pairs, blocker by blocker. -/
def chooseBlockers (availableBlockers attackers : List CardId) :
    Served (List (CardId × CardId)) :=
  self.ask network (self.request
      (.blockers attackers.length availableBlockers.length)
      (availableBlockers.length * attackers.length + 1)) fun response =>
      if response.choiceIndices = [] ∨ response.choiceIndices = [0] then .ok []
      else .ofExcept (Positions.collect (fun index =>
        match index with
        | 0 => .ok none
        | pair + 1 =>
            match availableBlockers[pair / attackers.length]?,
              attackers[pair % attackers.length]? with
            | some blocker, some attacker => .ok (some (blocker, attacker))
            | _, _ => .error ("Invalid blocker index " ++ toString index ++
                " from network")) response.choiceIndices)

/-- A full order is taken as it is; else the first index goes to the front. -/
def chooseDamageAssignmentOrder (attacker : CardId) (blockers : List CardId) :
    Served (List CardId) :=
  self.ask network (self.request (.damageOrder attacker blockers.length)
      blockers.length) fun response =>
      if response.choiceIndices.length = blockers.length then
        readOptions blockers (fun index => "Invalid damage order index " ++
          toString index ++ " from network") response.choiceIndices
      else
        let front := response.choiceIndices.head?.getD 0
        match blockers[front]? with
        | some blocker => .ok (blocker :: blockers.eraseIdx front)
        | none => .error "Invalid damage order index from network"

/-- A card id is preferred to the index, and has to be an option. -/
def chooseOne (options : List CardId) (foreign : List CardId → String)
    (invalid : Nat → String) (response : ChoiceResponse) :
    ChoiceResult CardId :=
  let index := response.choiceIndices.head?.getD 0
  let byIndex := match options[index]? with
    | some option => ChoiceResult.ok option
    | none => .error (invalid index)
  match response.targetCardIds with
  | some (card :: rest) =>
      if options.contains card then .ok card
      else .error (foreign (card :: rest))
  | _ => byIndex

def chooseBlockerForLethalDamage (attacker : CardId)
    (killableBlockers : List (CardId × Int32)) (remainingPower : Int32) :
    Served CardId :=
  self.ask network (self.request (.lethalDamageAssignment attacker
      killableBlockers.length remainingPower) killableBlockers.length)
    (chooseOne (killableBlockers.map Prod.fst)
      (fun cards => "FATAL DESYNC: remote lethal-damage blocker " ++
        toString (cards.map CardId.raw) ++ " not in killable_blockers " ++
        toString (killableBlockers.map fun blocker => blocker.1.raw) ++
        " (combat-state divergence; index fallback removed — mtg-731)")
      fun index => "FATAL DESYNC: Invalid lethal damage blocker index " ++
        toString index ++ " (only " ++ toString killableBlockers.length ++
        " killable)")

def chooseBlockerForRemainingDamage (attacker : CardId)
    (remainingBlockers : List CardId) (remainingDamage : Int32) :
    Served CardId :=
  self.ask network (self.request (.remainingDamageAssignment attacker
      remainingBlockers.length remainingDamage) remainingBlockers.length)
    (chooseOne remainingBlockers
      (fun cards => "FATAL DESYNC: remote remaining-damage blocker " ++
        toString (cards.map CardId.raw) ++ " not in remaining_blockers " ++
        toString (remainingBlockers.map CardId.raw) ++
        " (combat-state divergence; index fallback removed — mtg-731)")
      fun index => "FATAL DESYNC: Invalid remaining damage blocker index " ++
        toString index ++ " (only " ++ toString remainingBlockers.length ++
        " blockers)")

def chooseCardsToDiscard (hand : List CardId) (count : Nat) :
    Served (List CardId) :=
  self.ask network (self.request (.discard count) hand.length) fun response =>
    readOptions hand (fun index => "Invalid discard index " ++
      toString index ++ " from network") response.choiceIndices

/-- The indices name the cards that leave the top; the others stay, stored
bottom-up. -/
def partitionRevealed {α : Type} (kind : String) (revealed : List CardId)
    (decide : List CardId → List CardId → α) (indices : List Nat) :
    ChoiceResult α :=
  match firstBad revealed.length false indices with
  | some index =>
      if revealed.length ≤ index then
        .error ("Invalid " ++ kind ++ " index " ++ toString index ++
          " (only " ++ toString revealed.length ++ " revealed)")
      else .error ("Duplicate " ++ kind ++ " index " ++ toString index)
  | none =>
      let top := revealed.zipIdx.filter fun entry => !indices.contains entry.2
      .ok (decide (top.map Prod.fst).reverse
        (indices.filterMap fun index => revealed[index]?))

def chooseScryOrder (revealed : List CardId) : Served ScryDecision :=
  self.ask network (self.request (.scry revealed.length revealed)
      revealed.length) fun response =>
    partitionRevealed "scry" revealed
      (fun top bottom => { top := top, bottom := bottom })
      response.choiceIndices

def chooseSurveil (revealed : List CardId) : Served SurveilDecision :=
  self.ask network (self.request (.surveil revealed.length revealed)
      revealed.length) fun response =>
    partitionRevealed "surveil" revealed
      (fun top graveyard => { top := top, graveyard := graveyard })
      response.choiceIndices

def setPendingLibrarySearchCardIds (cards : List CardId) :
    NetworkController :=
  { self with pendingLibrarySearchCardIds := some cards }

/-- Index 0 declines; the valid cards are given by their names. -/
def chooseFromLibrary (validCards : List String) : Served (Option Nat) :=
  let cleared := { self with pendingLibrarySearchCardIds := none }
  cleared.ask network
    { self.request (.librarySearchByName validCards
        (List.replicate validCards.length 1) "matching cards")
        (validCards.length + 1) with
      librarySearchCards := self.pendingLibrarySearchCardIds }
    fun response =>
      match response.choiceIndices.head?.getD 0 with
      | 0 => .ok none
      | name + 1 =>
          if name < validCards.length then .ok (some name)
          else .error "Invalid library search index from network"

/-- A permanent that is named twice counts once. -/
def choosePermanentsToSacrifice (validPermanents : List CardId) (count : Nat)
    (cardTypeDescription : String) : Served (List CardId) :=
  self.ask network (self.request (.sacrifice validPermanents.length count
      cardTypeDescription) validPermanents.length) fun response =>
    match readOptions validPermanents (fun index =>
        "Invalid sacrifice index " ++ toString index ++ " (max " ++
          toString (validPermanents.length - 1) ++ ")")
        response.choiceIndices with
    | .ok sacrifices => .ok (sacrifices.foldl (fun kept card =>
        if kept.contains card then kept else kept ++ [card]) [])
    | other => other

/-- Never asked of the client: everything untaps. -/
def choosePermanentsToNotUntap (_mayNotUntapPermanents : List CardId) :
    Served (List CardId) :=
  { controller := self, result := .ok [] }

def chooseModes (spell : CardId) (modeDescriptions : List String)
    (modeCount minModes : Nat) (canRepeat : Bool) : Served (List Nat) :=
  self.ask network (self.request (.modes spell modeCount minModes canRepeat
      modeDescriptions.length) modeDescriptions.length) fun response =>
    let modes := response.choiceIndices
    match firstBad modeDescriptions.length canRepeat modes with
    | some index =>
        if modeDescriptions.length ≤ index then
          .error ("Invalid mode index " ++ toString index ++ " (max " ++
            toString (modeDescriptions.length - 1) ++ ")")
        else
          .error ("Duplicate mode " ++ toString index ++
            " selected (repeats not allowed)")
    | none =>
        if modes.length < minModes then
          .error ("Too few modes selected: " ++ toString modes.length ++
            " (minimum " ++ toString minModes ++ ")")
        else if modeCount < modes.length then
          .error ("Too many modes selected: " ++ toString modes.length ++
            " (maximum " ++ toString modeCount ++ ")")
        else .ok modes

end NetworkController

end DeepScry
