/-
The state-sync deltas of a network client.  They arrive in any order, are
logged by class, and a cursor per class feeds them to the shadow game.
-/
import DeepScry.ActionLog
import DeepScry.GameState

namespace DeepScry

inductive RevealReason where
  | draw
  | targeting
  | played
  | searched
  | effect
  | openingHand
  | tokenCreated
deriving DecidableEq

structure CardReveal where
  cardId : CardId
  name : String
  cardDef : Option CardDefinition := none

/-- One server-pushed change of the shadow game. -/
inductive StateSyncEntry where
  | revealCard (owner : PlayerId) (card : CardReveal) (reason : RevealReason)
  | libraryReorder (player : PlayerId) (newOrder : List CardId)
  | searchCandidates (searcher : PlayerId) (cards : List CardReveal)
  | digDecision (digger : PlayerId) (kept : List CardId)

def StateSyncEntry.isLibraryReorder : StateSyncEntry → Bool
  | .libraryReorder _ _ => true
  | _ => false

/-- The same delta, whatever the reason of a reveal. -/
def stateSyncEntriesEquivalent : StateSyncEntry → StateSyncEntry → Bool
  | .revealCard owner card _, .revealCard owner' card' _ =>
      owner == owner' && card.cardId == card'.cardId && card.name == card'.name
  | .libraryReorder player newOrder, .libraryReorder player' newOrder' =>
      player == player' && newOrder == newOrder'
  | .searchCandidates searcher cards, .searchCandidates searcher' cards' =>
      searcher == searcher' && cards.length == cards'.length &&
        (cards.zip cards').all fun (card, card') =>
          card.cardId == card'.cardId && card.name == card'.name
  | .digDecision digger kept, .digDecision digger' kept' =>
      digger == digger' && kept == kept'
  | _, _ => false

/-- The shadow game, with the field of its scratch space that a dig reads. -/
structure ShadowGame where
  game : GameState
  pendingDigAuthoritativeDecision : Option (List CardId) := none

/-- Adopt a library order; it is sent from top to bottom and stored from bottom
to top. -/
def ShadowGame.setLibrary (shadow : ShadowGame) (player : PlayerId)
    (newOrder : List CardId) : ShadowGame :=
  { shadow with
    game := { shadow.game with
      zones := shadow.game.zones.modifyPlayerZones player fun own =>
        { own with library := newOrder.reverse } } }

/-- Both logs with their cursors. -/
structure StateSyncBuffer where
  reorderLog : ActionLog StateSyncEntry := .new
  revealLog : ActionLog StateSyncEntry := .new
  lastAppliedReorderAc : Nat := 0
  lastAppliedRevealAc : Nat := 0
  anyRevealApplied : Bool := false
  initialLibraryOrders : List (PlayerId × List CardId) := []
  initialLibraryApplied : Bool := false

namespace StateSyncBuffer

/-- Log a delta under its action count; `none` is a panic. -/
def pushStateSyncAt (buf : StateSyncBuffer) (actionCount : Nat)
    (entry : StateSyncEntry) : Option StateSyncBuffer :=
  let isReorder := entry.isLibraryReorder
  let classCursor :=
    if isReorder then buf.lastAppliedReorderAc else buf.lastAppliedRevealAc
  let log := if isReorder then buf.reorderLog else buf.revealLog
  match log.get actionCount with
  | some existing =>
      -- A resend is dropped; two different deltas cannot share a position.
      if stateSyncEntriesEquivalent existing entry then some buf else none
  | none =>
      if classCursor ≤ actionCount then
        (log.insertSorted actionCount entry).map fun log =>
          if isReorder then { buf with reorderLog := log }
          else { buf with revealLog := log }
      else none

def addInitialLibraryOrder (buf : StateSyncBuffer) (player : PlayerId)
    (newOrder : List CardId) : StateSyncBuffer :=
  { buf with
    initialLibraryOrders :=
      SortedMap.insert player newOrder buf.initialLibraryOrders }

def reorderBound (buf : StateSyncBuffer) (targetAction : Nat) : Nat :=
  min targetAction (buf.reorderLog.frontier.getD 0)

def revealBound (buf : StateSyncBuffer) (watermark : Nat) : Nat :=
  min watermark (buf.revealLog.frontier.getD 0)

/-- The reorders that the next call applies. -/
def reorders (buf : StateSyncBuffer) (targetAction : Nat) :
    List (Nat × StateSyncEntry) :=
  buf.reorderLog.entries.filter fun (ac, _) =>
    decide (buf.lastAppliedReorderAc < ac) &&
      decide (ac ≤ buf.reorderBound targetAction)

/-- The reveals that the next call applies.  Action count 0 is only in reach
until the first of them is applied. -/
def reveals (buf : StateSyncBuffer) (watermark : Nat) :
    List (Nat × StateSyncEntry) :=
  buf.revealLog.entries.filter fun (ac, _) =>
    (!buf.anyRevealApplied || decide (buf.lastAppliedRevealAc < ac)) &&
      decide (ac ≤ buf.revealBound watermark)

/-- Apply the game-start library orders, once. -/
def applyInitialLibraryOrders (buf : StateSyncBuffer) (shadow : ShadowGame) :
    StateSyncBuffer × ShadowGame :=
  if buf.initialLibraryApplied then (buf, shadow)
  else
    ({ buf with initialLibraryApplied := true },
      buf.initialLibraryOrders.foldl
        (fun shadow (player, newOrder) => shadow.setLibrary player newOrder)
        shadow)

section Apply

variable (processCardReveal :
  GameState → PlayerId → CardReveal → RevealReason → GameState)

/-- The change of one reorder. -/
def applyReorder (shadow : ShadowGame) :
    Nat × StateSyncEntry → ShadowGame
  | (_, .libraryReorder player newOrder) => shadow.setLibrary player newOrder
  | _ => shadow

/-- The change of one entry of the reveal class. -/
def applyReveal (shadow : ShadowGame) : Nat × StateSyncEntry → ShadowGame
  | (_, .revealCard owner card reason) =>
      { shadow with game := processCardReveal shadow.game owner card reason }
  | (_, .searchCandidates searcher cards) =>
      { shadow with
        game := cards.foldl
          (fun game card => processCardReveal game searcher card .searched)
          shadow.game }
  | (_, .libraryReorder _ _) => shadow
  | (_, .digDecision _ kept) =>
      { shadow with pendingDigAuthoritativeDecision := some kept }

/-- The two passes over the logs; the count is of the applied entries. -/
def applyStateSyncUpToFrontier (buf : StateSyncBuffer) (shadow : ShadowGame)
    (watermark targetAction : Nat) : StateSyncBuffer × ShadowGame × Nat :=
  let (buf, shadow) := buf.applyInitialLibraryOrders shadow
  let reorders := buf.reorders targetAction
  let reveals := buf.reveals watermark
  if reorders.isEmpty && reveals.isEmpty then (buf, shadow, 0)
  else
    ({ buf with
        lastAppliedReorderAc :=
          max buf.lastAppliedReorderAc (buf.reorderBound targetAction)
        lastAppliedRevealAc :=
          max buf.lastAppliedRevealAc (buf.revealBound watermark)
        anyRevealApplied := !reveals.isEmpty || buf.anyRevealApplied },
      reveals.foldl (applyReveal processCardReveal)
        (reorders.foldl applyReorder shadow),
      reorders.length + reveals.length)

end Apply

def resetStateSyncCursor (buf : StateSyncBuffer) : StateSyncBuffer :=
  { buf with
    lastAppliedReorderAc := 0
    lastAppliedRevealAc := 0
    anyRevealApplied := false
    initialLibraryApplied := false }

/-- How far the reveals are applied; `⊥` before the first. -/
def revealCursor (buf : StateSyncBuffer) : WithBot Nat :=
  if buf.anyRevealApplied then WithBot.some buf.lastAppliedRevealAc else ⊥

end StateSyncBuffer

end DeepScry
