/-
The reveals that go out with a choice request: the server's controller reads
them off the undo log, backwards to the last choice of its player.
-/
import DeepScry.BackScan
import DeepScry.GameState
import DeepScry.MoveRun
import DeepScry.NetworkController

namespace DeepScry

structure CardRevealInfo where
  card : CardId
  owner : PlayerId
  fromZone : Zone
  toZone : Zone
  actionCount : Nat
deriving DecidableEq

def RevealTarget.shows (target : RevealTarget) (player : PlayerId) : Bool :=
  match target with
  | .all => true
  | .player shown => shown == player

/-- The last destination of a card in a stretch of the log. -/
def lastDestination (actions : List GameAction) (id : CardId) : Option Zone :=
  (actions.filterMap fun action =>
    match action with
    | .moveCard card _ toZone _ _ => if card = id then some toZone else none
    | _ => none).getLast?

namespace NetworkController

/-- The scan of the log, from its end. -/
def scanReveals (self : NetworkController)
    (info : CardId → Nat → CardRevealInfo) :
    List (GameAction × Nat) → List CardRevealInfo
  | [] => []
  | (action, forwardIdx) :: rest =>
      if forwardIdx < self.sharedRevealIndex then []
      else
        match action with
        | .choicePoint player _ _ =>
            if player = self.player then [] else self.scanReveals info rest
        | .revealCard card name revealedTo _ =>
            if revealedTo.shows self.player && name.isSome then
              info card forwardIdx :: self.scanReveals info rest
            else self.scanReveals info rest
        | _ => self.scanReveals info rest

def collectRevealsSinceLastChoice (self : NetworkController)
    (game : GameState) : List CardRevealInfo × NetworkController :=
  let actions := game.undoLog.actions
  let info (card : CardId) (forwardIdx : Nat) : CardRevealInfo :=
    { card := card
      owner := ((game.card? card).map fun c => c.owner).getD self.player
      fromZone := .library
      toZone := (lastDestination (actions.drop self.sharedRevealIndex)
        card).getD .hand
      actionCount := forwardIdx }
  let reveals := self.scanReveals info actions.zipIdx.reverse
  (reveals.reverse,
    if reveals.isEmpty then self
    else { self with sharedRevealIndex := actions.length })

end NetworkController

/-- The card that an action reveals to the player, by name. -/
def GameAction.revealedCard (player : PlayerId) : GameAction → Option CardId
  | .revealCard card name revealedTo _ =>
      if revealedTo.shows player && name.isSome then some card else none
  | _ => none

def GameAction.isChoiceOf (player : PlayerId) : GameAction → Bool
  | .choicePoint chooser _ _ => chooser == player
  | _ => false

/-- A log entry as a reveal, with its log index. -/
def revealEntry (player : PlayerId) (entry : GameAction × Nat) :
    Option (Nat × CardId) :=
  (entry.1.revealedCard player).map fun card => (entry.2, card)

/-- The named reveals that the player sees, from a log index on. -/
def revealsFrom (player : PlayerId) (actions : List GameAction)
    (start : Nat) : List (Nat × CardId) :=
  (actions.zipIdx.drop start).filterMap (revealEntry player)

/-- A collected reveal, with the log index it is stamped with. -/
def CardRevealInfo.stamp (reveal : CardRevealInfo) : Nat × CardId :=
  (reveal.actionCount, reveal.card)

/-- A game with the controller of one player: the log index up to which the
player was asked, and for each call the reveals it returned and the ones that
were due. -/
structure RevealSeat where
  game : GameState
  controller : NetworkController
  asked : Nat := controller.sharedRevealIndex
  returned : List (List CardRevealInfo) := []
  due : List (List (Nat × CardId)) := []

inductive RevealMove where
  | grow (later : GameState)
  | collect

namespace RevealSeat

def perform (seat : RevealSeat) : RevealMove → RevealSeat
  | .grow later => { seat with game := later }
  | .collect =>
      let (reveals, controller) :=
        seat.controller.collectRevealsSinceLastChoice seat.game
      let actions := seat.game.undoLog.actions
      { seat with
        controller := controller
        asked := max seat.asked actions.length
        returned := seat.returned ++ [reveals]
        due := seat.due ++
          [revealsFrom seat.controller.player actions seat.asked] }

/-- Every call returned what had been revealed since the call before, in order
and with the log indices. -/
def Complete (seat : RevealSeat) : Prop :=
  seat.returned.map (fun reveals => reveals.map CardRevealInfo.stamp) =
    seat.due

/-- No reveal since the last request is followed by a choice of the player. -/
def Timely (seat : RevealSeat) : Prop :=
  (seat.game.undoLog.actions.drop seat.asked).Pairwise fun action later =>
    (action.revealedCard seat.controller.player).isSome = true →
      later.isChoiceOf seat.controller.player = false

end RevealSeat

/-- The log only grows. -/
def revealMachine : Machine RevealSeat RevealMove where
  enabled seat move :=
    match move with
    | .grow later => ∃ actions, later.undoLog.actions =
        seat.game.undoLog.actions ++ actions
    | .collect => True
  perform := RevealSeat.perform

namespace NetworkController

variable {self : NetworkController}

/-- What a scan of the log does not stop at. -/
def keepsScanning (self : NetworkController) (entry : GameAction × Nat) :
    Bool :=
  decide (self.sharedRevealIndex ≤ entry.2) &&
    !entry.1.isChoiceOf self.player

theorem keepsScanning_of_lt {entry : GameAction × Nat}
    (hlt : entry.2 < self.sharedRevealIndex) :
    self.keepsScanning entry = false := by
  rw [keepsScanning, decide_eq_false (Nat.not_le.mpr hlt), Bool.false_and]

theorem keepsScanning_of_le {entry : GameAction × Nat}
    (hle : self.sharedRevealIndex ≤ entry.2) :
    self.keepsScanning entry = !entry.1.isChoiceOf self.player := by
  rw [keepsScanning, decide_eq_true hle, Bool.true_and]

/-- The scan in the source's words is a scan back to the first mark. -/
theorem scanReveals_reverse {info : CardId → Nat → CardRevealInfo}
    (hinfo : ∀ card forwardIdx,
      (info card forwardIdx).stamp = (forwardIdx, card))
    (entries : List (GameAction × Nat)) :
    (self.scanReveals info entries.reverse).map CardRevealInfo.stamp =
      (BackScan.scan self.keepsScanning (revealEntry self.player)
        entries).reverse := by
  induction entries using List.reverseRecOn with
  | nil => rfl
  | append_singleton entries entry ih =>
      rw [List.reverse_concat, BackScan.scan_concat]
      obtain ⟨action, forwardIdx⟩ := entry
      rw [scanReveals.eq_def]
      dsimp only
      split
      · next hlt =>
        rw [keepsScanning_of_lt (by exact hlt)]
        rfl
      · next hge =>
        rw [keepsScanning_of_le (by exact Nat.not_lt.mp hge)]
        have hother (hchoice : action.isChoiceOf self.player = false)
            (hreveal : action.revealedCard self.player = none) :
            (self.scanReveals info entries.reverse).map CardRevealInfo.stamp =
              (if (!action.isChoiceOf self.player) = true then
                BackScan.scan self.keepsScanning (revealEntry self.player)
                  entries ++ (revealEntry self.player
                    (action, forwardIdx)).toList
              else []).reverse := by
          rw [hchoice, revealEntry, hreveal, ih]
          simp
        cases action with
        | choicePoint player choiceId choice =>
            dsimp only
            by_cases hplayer : player = self.player
            · subst hplayer
              simp [GameAction.isChoiceOf]
            · rw [if_neg hplayer]
              exact hother (beq_eq_false_iff_ne.mpr hplayer) rfl
        | revealCard card name revealedTo oldMask =>
            dsimp only
            by_cases hshown : (revealedTo.shows self.player &&
                name.isSome) = true
            · rw [if_pos hshown, List.map_cons, ih, hinfo]
              simp [GameAction.isChoiceOf, revealEntry,
                GameAction.revealedCard, hshown]
            · rw [if_neg hshown]
              exact hother rfl (if_neg hshown)
        | _ => exact hother rfl rfl

/-- The collected reveals are those of a scan back to the player's last choice
or to the shared index. -/
theorem collect_stamps (self : NetworkController) (game : GameState) :
    (self.collectRevealsSinceLastChoice game).1.map CardRevealInfo.stamp =
      BackScan.scan self.keepsScanning (revealEntry self.player)
        game.undoLog.actions.zipIdx := by
  rw [collectRevealsSinceLastChoice]
  dsimp only
  rw [List.map_reverse, scanReveals_reverse, List.reverse_reverse]
  intro card forwardIdx
  rfl

theorem collect_controller (self : NetworkController)
    (game : GameState) :
    (self.collectRevealsSinceLastChoice game).2 =
      if (self.collectRevealsSinceLastChoice game).1.isEmpty then self
      else { self with sharedRevealIndex := game.undoLog.actions.length } := by
  rw [collectRevealsSinceLastChoice]
  simp only [List.isEmpty_reverse]

end NetworkController

namespace RevealSeat

variable {seat : RevealSeat}

/-- The invariant: a scan of what was there at the last request finds
nothing. -/
structure UpToDate (seat : RevealSeat) : Prop where
  complete : seat.Complete
  index : seat.controller.sharedRevealIndex ≤ seat.asked
  asked : seat.asked ≤ seat.game.undoLog.actions.length ∨
    seat.asked = seat.controller.sharedRevealIndex
  nothingLeft : BackScan.scan seat.controller.keepsScanning
    (revealEntry seat.controller.player)
    (seat.game.undoLog.actions.zipIdx.take seat.asked) = []

theorem mem_take_zipIdx {actions : List GameAction} {n : Nat}
    {entry : GameAction × Nat} (hentry : entry ∈ actions.zipIdx.take n) :
    entry.2 < n := by
  obtain ⟨i, hi, rfl⟩ := List.mem_take_iff_getElem.mp hentry
  rw [List.getElem_zipIdx, Nat.zero_add]
  exact (Nat.lt_min.mp hi).1

theorem mem_drop_zipIdx {actions : List GameAction} {n : Nat}
    {entry : GameAction × Nat} (hentry : entry ∈ actions.zipIdx.drop n) :
    n ≤ entry.2 := by
  obtain ⟨i, hi, rfl⟩ := List.mem_drop_iff_getElem.mp hentry
  rw [List.getElem_zipIdx, Nat.zero_add]
  exact Nat.le_add_right n i

/-- Below the shared index there is nothing to find. -/
theorem scan_below_index (controller : NetworkController)
    (actions : List GameAction) {n : Nat}
    (hn : n ≤ controller.sharedRevealIndex) :
    BackScan.scan controller.keepsScanning (revealEntry controller.player)
      (actions.zipIdx.take n) = [] := by
  apply BackScan.scan_eq_nil
  intro entry hentry
  exact NetworkController.keepsScanning_of_lt
    (Nat.lt_of_lt_of_le (mem_take_zipIdx hentry) hn)

/-- Nothing to find is marked. -/
theorem isChoiceOf_of_revealEntry {player : PlayerId}
    {entry : GameAction × Nat}
    (hreveal : (revealEntry player entry).isSome = true) :
    entry.1.isChoiceOf player = false := by
  obtain ⟨action, i⟩ := entry
  rw [revealEntry, Option.isSome_map] at hreveal
  cases action with
  | choicePoint => cases hreveal
  | _ => rfl

theorem UpToDate.grow (hseat : seat.UpToDate) {later : GameState}
    {actions : List GameAction} (hlog : later.undoLog.actions =
      seat.game.undoLog.actions ++ actions) :
    (seat.perform (.grow later)).UpToDate := by
  refine ⟨hseat.complete, hseat.index, ?_, ?_⟩
  · rcases hseat.asked with hle | heq
    · left
      change _ ≤ later.undoLog.actions.length
      rw [hlog, List.length_append]
      exact Nat.le_add_right_of_le hle
    · exact .inr heq
  · change BackScan.scan seat.controller.keepsScanning
      (revealEntry seat.controller.player)
      (later.undoLog.actions.zipIdx.take seat.asked) = []
    rcases hseat.asked with hle | heq
    · rw [hlog, List.zipIdx_append, List.take_append_of_le_length
        (by rw [List.length_zipIdx]; exact hle)]
      exact hseat.nothingLeft
    · exact scan_below_index _ _ (Nat.le_of_eq heq)

/-- A timely log, entry by entry. -/
theorem timely_iff (hindex : seat.controller.sharedRevealIndex ≤ seat.asked) :
    seat.Timely ↔ (seat.game.undoLog.actions.zipIdx.drop seat.asked).Pairwise
      fun entry later =>
        (revealEntry seat.controller.player entry).isSome = true →
          seat.controller.keepsScanning later = true := by
  have hactions : seat.game.undoLog.actions.drop seat.asked =
      (seat.game.undoLog.actions.zipIdx.drop seat.asked).map Prod.fst := by
    rw [List.map_drop, List.zipIdx_map_fst]
  rw [Timely, hactions, List.pairwise_map]
  apply List.Pairwise.iff_of_mem
  intro entry later _ hlater
  rw [revealEntry, Option.isSome_map, NetworkController.keepsScanning_of_le
    (Nat.le_trans hindex (mem_drop_zipIdx hlater)), Bool.not_eq_true']

/-- What a call returns is what is due, just when the log is timely. -/
theorem UpToDate.collect_iff (hseat : seat.UpToDate) :
    (seat.perform .collect).Complete ↔ seat.Timely := by
  have hcomplete : (seat.perform .collect).Complete ↔
      (seat.controller.collectRevealsSinceLastChoice seat.game).1.map
        CardRevealInfo.stamp =
      revealsFrom seat.controller.player seat.game.undoLog.actions
        seat.asked := by
    change (seat.returned ++ [_]).map _ = seat.due ++ [_] ↔ _
    rw [List.map_append, List.map_singleton, hseat.complete,
      List.append_cancel_left_eq, List.singleton_inj]
    exact Iff.rfl
  have hsplit := List.take_append_drop seat.asked
    seat.game.undoLog.actions.zipIdx
  rw [hcomplete, NetworkController.collect_stamps, timely_iff hseat.index]
  conv_lhs => rw [← hsplit]
  apply BackScan.scan_append_eq_iff _ hseat.nothingLeft
  intro entry hentry hreveal
  rw [NetworkController.keepsScanning_of_le
    (Nat.le_trans hseat.index (mem_drop_zipIdx hentry)),
    isChoiceOf_of_revealEntry hreveal]
  rfl

theorem UpToDate.collect (hseat : seat.UpToDate) (htimely : seat.Timely) :
    (seat.perform .collect).UpToDate := by
  have hcomplete := hseat.collect_iff.mpr htimely
  have htake : seat.game.undoLog.actions.zipIdx.take
      (max seat.asked seat.game.undoLog.actions.length) =
        seat.game.undoLog.actions.zipIdx := by
    apply List.take_of_length_le
    rw [List.length_zipIdx]
    exact Nat.le_max_right _ _
  have hstamps := NetworkController.collect_stamps
    seat.controller seat.game
  have hcontroller := NetworkController.collect_controller
    seat.controller seat.game
  by_cases hempty : (seat.controller.collectRevealsSinceLastChoice
      seat.game).1 = []
  · rw [hempty, List.isEmpty_nil, if_pos rfl] at hcontroller
    rw [hempty, List.map_nil] at hstamps
    have hsame : (seat.perform .collect).controller = seat.controller :=
      hcontroller
    refine ⟨hcomplete, ?_, ?_, ?_⟩
    · rw [hsame]
      exact Nat.le_trans hseat.index (Nat.le_max_left _ _)
    · rw [hsame]
      rcases hseat.asked with hle | heq
      · exact .inl (Nat.max_le.mpr ⟨hle, Nat.le_refl _⟩)
      · rcases Nat.le_total seat.asked seat.game.undoLog.actions.length
          with hle | hge
        · exact .inl (Nat.max_le.mpr ⟨hle, Nat.le_refl _⟩)
        · exact .inr ((Nat.max_eq_left hge).trans heq)
    · rw [hsame]
      exact (congrArg _ htake).trans hstamps.symm
  · have hnonempty : (seat.controller.collectRevealsSinceLastChoice
        seat.game).1.isEmpty = false :=
      Bool.eq_false_iff.mpr fun htrue => hempty (List.isEmpty_iff.mp htrue)
    rw [hnonempty, if_neg Bool.false_ne_true] at hcontroller
    have hindex : (seat.perform .collect).controller =
        { seat.controller with
          sharedRevealIndex := seat.game.undoLog.actions.length } :=
      hcontroller
    have hlength : seat.asked ≤ seat.game.undoLog.actions.length := by
      rcases hseat.asked with hle | heq
      · exact hle
      · apply Classical.byContradiction
        intro hnot
        have hlt := Nat.lt_of_not_le hnot
        have hnothing := scan_below_index seat.controller
          seat.game.undoLog.actions (Nat.le_of_eq heq)
        rw [List.take_of_length_le (by
          rw [List.length_zipIdx]
          exact Nat.le_of_lt hlt), ← hstamps, List.map_eq_nil_iff] at hnothing
        exact hempty hnothing
    refine ⟨hcomplete, ?_, ?_, ?_⟩
    · rw [hindex]
      exact Nat.le_max_right _ _
    · exact .inl (Nat.max_le.mpr ⟨hlength, Nat.le_refl _⟩)
    · rw [hindex]
      exact scan_below_index _ _
        (Nat.max_le.mpr ⟨hlength, Nat.le_refl _⟩)

end RevealSeat

/-- The condition on a move: what is collected has been revealed since the last
choice of the player. -/
def RevealMove.Timely (seat : RevealSeat) : RevealMove → Prop
  | .grow _ => True
  | .collect => seat.Timely

/-- No reveal is lost or repeated in a run just when, at every request, no
reveal since the request before is followed by a choice of the player. -/
theorem collectReveals_complete_iff (game : GameState)
    (controller : NetworkController) {moves : List RevealMove}
    (hruns : revealMachine.Runs { game := game, controller := controller }
      moves) :
    revealMachine.Always RevealSeat.Complete
        { game := game, controller := controller } moves ↔
      revealMachine.EachMove RevealMove.Timely
        { game := game, controller := controller } moves := by
  apply Machine.always_iff_eachMove
  · exact fun _ hseat => RevealSeat.UpToDate.complete hseat
  · intro seat move hseat henabled htimely
    cases move with
    | grow later =>
        obtain ⟨actions, hlog⟩ := henabled
        exact hseat.grow hlog
    | collect => exact hseat.collect htimely
  · intro seat move hseat _ hlate
    cases move with
    | grow later => exact absurd trivial hlate
    | collect =>
        intro hcomplete
        exact hlate (hseat.collect_iff.mp hcomplete)
  · exact ⟨rfl, Nat.le_refl _, .inr rfl,
      RevealSeat.scan_below_index _ _ (Nat.le_refl _)⟩
  · exact hruns

/-- A game that has logged these actions. -/
def loggedGame (actions : List GameAction) : GameState where
  turn := { activePlayer := ⟨0⟩ }
  undoLog :=
    { actions := actions
      logSizes := actions.map fun _ => 0
      sized := List.length_map _ }

/-- A choice, a reveal to everyone and one to the opponent, then two
requests. -/
theorem collectReveals_complete_after_choice :
    revealMachine.Always RevealSeat.Complete
      { game := loggedGame [], controller := { player := ⟨0⟩ } }
      [.grow (loggedGame [.choicePoint ⟨0⟩ 1 none,
        .revealCard ⟨3⟩ (some "Lightning Bolt") .all 0,
        .revealCard ⟨4⟩ (some "Island") (.player ⟨1⟩) 0]),
        .collect, .collect] := by
  apply (collectReveals_complete_iff _ _ _).mpr
  · refine ⟨trivial, ?_, ?_, trivial⟩
    · change List.Pairwise _ _
      decide
    · change List.Pairwise _ _
      decide
  · exact ⟨⟨_, rfl⟩, trivial, trivial, trivial⟩

/-- A reveal that is logged between a request and the choice point of its
answer is never collected. -/
theorem collectReveals_loses_reveal :
    revealMachine.Runs
      { game := loggedGame [], controller := { player := ⟨0⟩ } }
      [.collect, .grow (loggedGame [
        .revealCard ⟨3⟩ (some "Lightning Bolt") .all 0,
        .choicePoint ⟨0⟩ 1 none]), .collect, .collect] ∧
    ¬revealMachine.Always RevealSeat.Complete
      { game := loggedGame [], controller := { player := ⟨0⟩ } }
      [.collect, .grow (loggedGame [
        .revealCard ⟨3⟩ (some "Lightning Bolt") .all 0,
        .choicePoint ⟨0⟩ 1 none]), .collect, .collect] := by
  refine ⟨⟨trivial, ⟨_, rfl⟩, trivial, trivial, trivial⟩, ?_⟩
  rintro ⟨-, -, -, hcomplete, -⟩
  change _ = _ at hcomplete
  revert hcomplete
  decide

end DeepScry
