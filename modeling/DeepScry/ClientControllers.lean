/-
The client's two controllers: one asks the player at this client and sends the
answer as indices, the other replays the choices of the opponent.
-/
import DeepScry.NetworkController

namespace DeepScry

/-- What the client keeps of a request. -/
structure ChoiceInfo where
  choiceSeq : UInt32
  abilities : Option (List (Option SpellAbility)) := none
  librarySearchNames : Option (List String) := none
deriving DecidableEq

def ChoiceRequest.info (request : ChoiceRequest) : ChoiceInfo where
  choiceSeq := request.choiceSeq
  abilities := request.abilities
  librarySearchNames :=
    match request.choiceType with
    | .librarySearchByName uniqueNames _ _ => some uniqueNames
    | _ => none

/-- The choice of a player as the other client gets it. -/
structure ChoicePayload where
  choiceIndices : List Nat
  spellAbility : Option SpellAbility := none
  librarySearchResult : Option CardId := none
  targetCardIds : Option (List CardId) := none
deriving DecidableEq

/-- The payload that the coordinator makes of a response. -/
def ChoiceRequest.payload (request : ChoiceRequest)
    (response : ChoiceResponse) : ChoicePayload where
  choiceIndices := response.choiceIndices
  spellAbility :=
    match request.choiceType with
    | .priority _ => (request.abilities.bind fun abilities =>
        abilities[response.choiceIndices.head?.getD 0]?).join
    | _ => none
  librarySearchResult :=
    match request.choiceType, response.choiceIndices.head?.getD 0 with
    | .librarySearchByName _ nameCounts _, name + 1 =>
        let baseOffset := (nameCounts.take name).sum
        let instanceIdx := response.choiceIndices[1]?.getD 0
        request.librarySearchCards.bind fun cards =>
          cards[baseOffset + instanceIdx]?
    | _, _ => none
  targetCardIds := response.targetCardIds

namespace NetworkLocalController

variable (info : ChoiceInfo)

/-- Only an answer is sent, not a request of the inner controller. -/
def send {α : Type} (answer : ChoiceResult α)
    (respond : α → ChoiceResponse) : Option ChoiceResponse :=
  match answer with
  | .ok value => some (respond value)
  | _ => none

/-- The positions of the chosen cards among the options. -/
def positions (options chosen : List CardId) : List Nat :=
  chosen.filterMap fun card => options.idxOf? card

def sendCards (options : List CardId) (answer : ChoiceResult (List CardId)) :
    Option ChoiceResponse :=
  send answer fun chosen =>
    { choiceSeq := info.choiceSeq, choiceIndices := positions options chosen }

def chooseSpellAbilityToPlay (available : List SpellAbility)
    (answer : ChoiceResult (Option SpellAbility)) : Option ChoiceResponse :=
  send answer fun choice =>
    let index := match choice with
      | none => 0
      | some ability => ((available.idxOf? ability).map (· + 1)).getD 0
    { choiceSeq := info.choiceSeq, choiceIndices := [index]
      spellAbility := choice }

def chooseTargets (validTargets : List CardId)
    (answer : ChoiceResult (List CardId)) : Option ChoiceResponse :=
  send answer fun targets =>
    { choiceSeq := info.choiceSeq
      choiceIndices := positions validTargets targets
      targetCardIds := some targets }

def chooseManaSourcesToPay (availableSources : List CardId)
    (answer : ChoiceResult (List CardId)) : Option ChoiceResponse :=
  sendCards info availableSources answer

/-- Index 0 is "Done". -/
def chooseAttackers (availableCreatures : List CardId)
    (answer : ChoiceResult (List CardId)) : Option ChoiceResponse :=
  send answer fun attackers =>
    let indices := attackers.filterMap fun attacker =>
      (availableCreatures.idxOf? attacker).map (· + 1)
    { choiceSeq := info.choiceSeq
      choiceIndices := if indices.isEmpty then [0] else indices }

/-- Index 0 is "Done", the others are the pairs, blocker by blocker. -/
def chooseBlockers (availableBlockers attackers : List CardId)
    (answer : ChoiceResult (List (CardId × CardId))) :
    Option ChoiceResponse :=
  send answer fun blocks =>
    let indices := blocks.filterMap fun block =>
      (Positions.pairIndex availableBlockers attackers block).map (· + 1)
    { choiceSeq := info.choiceSeq
      choiceIndices := if indices.isEmpty then [0] else indices }

def chooseDamageAssignmentOrder (blockers : List CardId)
    (answer : ChoiceResult (List CardId)) : Option ChoiceResponse :=
  sendCards info blockers answer

/-- One card, as an index and by its id. -/
def sendOne (options : List CardId) (answer : ChoiceResult CardId) :
    Option ChoiceResponse :=
  send answer fun card =>
    { choiceSeq := info.choiceSeq
      choiceIndices := [(options.idxOf? card).getD 0]
      targetCardIds := some [card] }

def chooseBlockerForLethalDamage (killableBlockers : List (CardId × Int32))
    (answer : ChoiceResult CardId) : Option ChoiceResponse :=
  sendOne info (killableBlockers.map Prod.fst) answer

def chooseBlockerForRemainingDamage (remainingBlockers : List CardId)
    (answer : ChoiceResult CardId) : Option ChoiceResponse :=
  sendOne info remainingBlockers answer

def chooseCardsToDiscard (hand : List CardId)
    (answer : ChoiceResult (List CardId)) : Option ChoiceResponse :=
  sendCards info hand answer

/-- The name index, where 0 declines, and an instance index that is always 0.
An inner controller that does not answer gets the first name. -/
def chooseFromLibrary (validCards : List String)
    (answer : ChoiceResult (Option Nat)) : Option ChoiceResponse :=
  let namesLen :=
    if validCards.isEmpty then
      (info.librarySearchNames.map List.length).getD 0
    else validCards.length
  let respond (name : Nat) : Option ChoiceResponse :=
    some { choiceSeq := info.choiceSeq, choiceIndices := [name, 0] }
  match answer with
  | .ok (some index) => respond (index + 1)
  | .ok none => respond 0
  | .exitGame => none
  | _ => respond (if namesLen = 0 then 0 else 1)

def choosePermanentsToSacrifice (validPermanents : List CardId)
    (answer : ChoiceResult (List CardId)) : Option ChoiceResponse :=
  sendCards info validPermanents answer

def choosePermanentsToNotUntap (mayNotUntapPermanents : List CardId)
    (answer : ChoiceResult (List CardId)) : Option ChoiceResponse :=
  sendCards info mayNotUntapPermanents answer

def chooseModes (answer : ChoiceResult (List Nat)) : Option ChoiceResponse :=
  send answer fun modes =>
    { choiceSeq := info.choiceSeq, choiceIndices := modes }

end NetworkLocalController

namespace RemoteController

variable (payload : ChoicePayload)

/-- The options at the indices; an index without an option is left out. -/
def readOptions (options : List CardId) : ChoiceResult (List CardId) :=
  .ok (payload.choiceIndices.filterMap fun index => options[index]?)

def chooseSpellAbilityToPlay (available : List SpellAbility) :
    ChoiceResult (Option SpellAbility) :=
  match payload.spellAbility with
  | some ability => .ok (some ability)
  | none =>
      match payload.choiceIndices.head?.getD 0 with
      | 0 => .ok none
      | index + 1 =>
          match available[index]? with
          | some ability => .ok (some ability)
          | none => .error ("DESYNC: RemoteController received invalid " ++
              "ability index " ++ toString (index + 1) ++ " (only " ++
              toString available.length ++ " available). This indicates " ++
              "client/server state divergence - a bug that must be fixed.")

/-- The card ids are taken as they are. -/
def chooseTargets (validTargets : List CardId) :
    ChoiceResult (List CardId) :=
  match payload.targetCardIds with
  | some cards => .ok cards
  | none => readOptions payload validTargets

def chooseManaSourcesToPay (availableSources : List CardId) :
    ChoiceResult (List CardId) :=
  readOptions payload availableSources

def chooseAttackers (availableCreatures : List CardId) :
    ChoiceResult (List CardId) :=
  if payload.choiceIndices.head? = some 0 then .ok []
  else .ok (payload.choiceIndices.filterMap fun index =>
    match index with
    | 0 => none
    | creature + 1 => availableCreatures[creature]?)

def chooseBlockers (availableBlockers attackers : List CardId) :
    ChoiceResult (List (CardId × CardId)) :=
  if payload.choiceIndices.head? = some 0 then .ok []
  else .ok (payload.choiceIndices.filterMap fun index =>
    match index with
    | 0 => none
    | pair + 1 =>
        (availableBlockers[pair / attackers.length]?).bind fun blocker =>
          (attackers[pair % attackers.length]?).map fun attacker =>
            (blocker, attacker))

def chooseDamageAssignmentOrder (blockers : List CardId) :
    ChoiceResult (List CardId) :=
  readOptions payload blockers

/-- A card id is preferred to the index, and has to be an option. -/
def chooseOne (options : List CardId) (foreign : List CardId → String)
    (invalid : Nat → String) : ChoiceResult CardId :=
  let index := payload.choiceIndices.head?.getD 0
  let byIndex := match options[index]? with
    | some option => ChoiceResult.ok option
    | none => .error (invalid index)
  match payload.targetCardIds with
  | some (card :: rest) =>
      if options.contains card then .ok card
      else .error (foreign (card :: rest))
  | _ => byIndex

def chooseBlockerForLethalDamage
    (killableBlockers : List (CardId × Int32)) : ChoiceResult CardId :=
  chooseOne payload (killableBlockers.map Prod.fst)
    (fun cards => "FATAL DESYNC: RemoteController lethal-damage blocker " ++
      toString (cards.map CardId.raw) ++ " not in killable_blockers " ++
      toString (killableBlockers.map fun blocker => blocker.1.raw) ++
      " (combat-state divergence; index fallback removed — mtg-731)")
    fun index => "DESYNC: RemoteController received invalid blocker index " ++
      toString index ++ " (only " ++ toString killableBlockers.length ++
      " killable blockers). This indicates client/server state divergence " ++
      "- a bug that must be fixed."

def chooseBlockerForRemainingDamage (remainingBlockers : List CardId) :
    ChoiceResult CardId :=
  chooseOne payload remainingBlockers
    (fun cards => "FATAL DESYNC: RemoteController remaining-damage blocker " ++
      toString (cards.map CardId.raw) ++ " not in remaining_blockers " ++
      toString (remainingBlockers.map CardId.raw) ++
      " (combat-state divergence; index fallback removed — mtg-731)")
    fun index => "DESYNC: RemoteController received invalid remaining " ++
      "blocker index " ++ toString index ++ " (only " ++
      toString remainingBlockers.length ++ " remaining). This indicates " ++
      "client/server state divergence - a bug that must be fixed."

def chooseCardsToDiscard (hand : List CardId) : ChoiceResult (List CardId) :=
  readOptions payload hand

def chooseFromLibrary : ChoiceResult (Option Nat) :=
  match payload.choiceIndices.head?.getD 0 with
  | 0 => .ok none
  | name + 1 => .ok (some name)

def choosePermanentsToSacrifice (validPermanents : List CardId) :
    ChoiceResult (List CardId) :=
  readOptions payload validPermanents

def choosePermanentsToNotUntap (mayNotUntapPermanents : List CardId) :
    ChoiceResult (List CardId) :=
  readOptions payload mayNotUntapPermanents

def chooseModes : ChoiceResult (List Nat) :=
  .ok payload.choiceIndices

end RemoteController

end DeepScry
