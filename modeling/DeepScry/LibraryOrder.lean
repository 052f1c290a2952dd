/-
Looking at the top of a library and putting the cards back: scry, surveil and
the shuffle.  The top of a library is the end of its list.
-/
import DeepScry.MoveCard

namespace DeepScry

/-- The answer to a scry, each part bottom first. -/
structure ScryDecision where
  top : List CardId
  bottom : List CardId
deriving DecidableEq

/-- Convert top-down to bottom-up so that pushing restores the order. -/
def ScryDecision.keepAllOnTop (revealed : List CardId) : ScryDecision :=
  ⟨revealed.reverse, []⟩

/-- The answer to a surveil; the graveyard part in the order it is put
there. -/
structure SurveilDecision where
  top : List CardId
  graveyard : List CardId
deriving DecidableEq

namespace PlayerZones

/-- Take the revealed cards out, put one part below and the other on top. -/
def applyScry (zones : PlayerZones) (revealed : List CardId)
    (decision : ScryDecision) : PlayerZones :=
  { zones with
    library := decision.bottom ++ revealed.foldl List.erase zones.library ++
      decision.top }

/-- Move one part to the graveyard, then put the other back on top. -/
def applySurveil (zones : PlayerZones) (decision : SurveilDecision) :
    PlayerZones :=
  { zones with
    library := decision.top.foldl List.erase
      (decision.graveyard.foldl List.erase zones.library) ++ decision.top
    graveyard := zones.graveyard ++ decision.graveyard }

end PlayerZones

namespace GameState

/-- Log the order that the following reorder is undone to. -/
def logLibraryReorder (game : GameState) (player : PlayerId)
    (includeGraveyard : Bool) : GameState :=
  match game.zones.getPlayerZones player with
  | some own =>
      game.logAction
        (.reorderLibrary player own.library
          (if includeGraveyard then some own.graveyard else none))
        game.logger.logCount
  | none => game

/-- The top cards of the library, the topmost first. -/
def scrySnapshotTopN (game : GameState) (player : PlayerId) (count : UInt8) :
    List CardId :=
  match game.zones.getPlayerZones player with
  | some own => own.library.reverse.take count.toNat
  | none => []

def surveilSnapshotTopN (game : GameState) (player : PlayerId)
    (count : UInt8) : List CardId :=
  game.scrySnapshotTopN player count

/-- The server queues the library for the clients under the length of the log,
if it is said to have changed. -/
def queueLibraryReorder (game : GameState) (player : PlayerId)
    (libraryActuallyChanged : Bool) : GameState :=
  if libraryActuallyChanged && !game.skipReveals && !game.isShadowGame then
    { game with
      pendingLibraryReorders := game.pendingLibraryReorders ++
        [(player, game.undoLog.actions.length)] }
  else game

theorem queueLibraryReorder_eq (game : GameState) (player : PlayerId)
    (changed : Bool) :
    ∃ pendingLibraryReorders, game.queueLibraryReorder player changed =
      { game with pendingLibraryReorders } := by
  rw [queueLibraryReorder]
  split
  · exact ⟨_, rfl⟩
  · exact ⟨game.pendingLibraryReorders, rfl⟩

/-- Report, log the old order, reorder; nothing without revealed cards. -/
def scryApplyDecision (game : GameState) (player : PlayerId)
    (revealed : List CardId) (decision : ScryDecision) : GameState :=
  if revealed.isEmpty then game
  else
    let logged := game.message.logLibraryReorder player false
    { logged with
      zones := logged.zones.modifyPlayerZones player fun own =>
        own.applyScry revealed decision
      : GameState }.queueLibraryReorder player (!decision.bottom.isEmpty)

def surveilApplyDecision (game : GameState) (player : PlayerId)
    (revealed : List CardId) (decision : SurveilDecision) : GameState :=
  if revealed.isEmpty then game
  else
    let logged := game.message.logLibraryReorder player true
    { logged with
      zones := logged.zones.modifyPlayerZones player fun own =>
        own.applySurveil decision
      : GameState }.queueLibraryReorder player (!decision.graveyard.isEmpty)

/-- The shuffle itself belongs to the random number library. -/
def shuffleLibrary (shuffle : Rng → List CardId → List CardId × Rng)
    (game : GameState) (player : PlayerId) : GameState :=
  match game.zones.getPlayerZones player with
  | some own =>
      let (shuffled, rng) := shuffle game.rng own.library
      ({ game with
        zones := game.zones.modifyPlayerZones player fun own =>
          { own with library := shuffled }
        rng := rng
        : GameState }.logAction
          (.shuffleLibrary player own.library (some ⟨some game.rng⟩))
          game.logger.logCount).queueLibraryReorder player true
  | none => game

end GameState

end DeepScry
