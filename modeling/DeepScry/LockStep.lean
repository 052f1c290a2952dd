/-
The game loops of server and client make the same calls to the controller of a
seat.  They stay in step as long as each call asks for a choice on both sides,
or on neither.
-/
import DeepScry.ClientControllers
import DeepScry.MoveRun

namespace DeepScry

/-- A choice the game loop asks the controller of a seat for. -/
inductive SeatCall where
  | chooseSpellAbilityToPlay (available : List SpellAbility)
  | chooseTargets (spell : CardId) (validTargets : List CardId)
      (minTargets maxTargets : Nat)
  | chooseManaSourcesToPay (cost : ManaCost) (availableSources : List CardId)
  | chooseXValue (spell : CardId) (maxX : UInt8)
  | choosePlayer (validPlayers : List PlayerId)
  | chooseAttackers (availableCreatures : List CardId)
  | chooseBlockers (availableBlockers attackers : List CardId)
  | chooseDamageAssignmentOrder (attacker : CardId) (blockers : List CardId)
  | chooseBlockerForLethalDamage (attacker : CardId)
      (killableBlockers : List (CardId × Int32)) (remainingPower : Int32)
  | chooseBlockerForRemainingDamage (attacker : CardId)
      (remainingBlockers : List CardId) (remainingDamage : Int32)
  | chooseCardsToDiscard (hand : List CardId) (count : Nat)
  | chooseScryOrder (revealed : List CardId)
  | chooseSurveil (revealed : List CardId)
  | chooseFromLibrary (validCards : List String)
  | choosePermanentsToSacrifice (validPermanents : List CardId) (count : Nat)
      (cardTypeDescription : String)
  | choosePermanentsToNotUntap (mayNotUntapPermanents : List CardId)
  | chooseModes (spell : CardId) (modeDescriptions : List String)
      (modeCount minModes : Nat) (canRepeat : Bool)
deriving DecidableEq

/-- The request of a call and the controller after it. -/
def Served.sent {α : Type} (served : Served α) :
    Option ChoiceRequest × NetworkController :=
  (served.request, served.controller)

namespace SeatCall

/-- The server's side of a call.  The value of X and the player are the
defaults of the trait. -/
def serve (self : NetworkController) (network : Network) :
    SeatCall → Option ChoiceRequest × NetworkController
  | .chooseSpellAbilityToPlay available =>
      (self.chooseSpellAbilityToPlay network available).sent
  | .chooseTargets spell validTargets _ maxTargets =>
      (self.chooseTargets network spell validTargets maxTargets).sent
  | .chooseManaSourcesToPay cost availableSources =>
      (self.chooseManaSourcesToPay network cost availableSources).sent
  | .chooseXValue _ _ => (none, self)
  | .choosePlayer _ => (none, self)
  | .chooseAttackers availableCreatures =>
      (self.chooseAttackers network availableCreatures).sent
  | .chooseBlockers availableBlockers attackers =>
      (self.chooseBlockers network availableBlockers attackers).sent
  | .chooseDamageAssignmentOrder attacker blockers =>
      (self.chooseDamageAssignmentOrder network attacker blockers).sent
  | .chooseBlockerForLethalDamage attacker killableBlockers remainingPower =>
      (self.chooseBlockerForLethalDamage network attacker killableBlockers
        remainingPower).sent
  | .chooseBlockerForRemainingDamage attacker remainingBlockers
      remainingDamage =>
      (self.chooseBlockerForRemainingDamage network attacker
        remainingBlockers remainingDamage).sent
  | .chooseCardsToDiscard hand count =>
      (self.chooseCardsToDiscard network hand count).sent
  | .chooseScryOrder revealed => (self.chooseScryOrder network revealed).sent
  | .chooseSurveil revealed => (self.chooseSurveil network revealed).sent
  | .chooseFromLibrary validCards =>
      (self.chooseFromLibrary network validCards).sent
  | .choosePermanentsToSacrifice validPermanents count description =>
      (self.choosePermanentsToSacrifice network validPermanents count
        description).sent
  | .choosePermanentsToNotUntap mayNotUntapPermanents =>
      (self.choosePermanentsToNotUntap mayNotUntapPermanents).sent
  | .chooseModes spell modeDescriptions modeCount minModes canRepeat =>
      (self.chooseModes network spell modeDescriptions modeCount minModes
        canRepeat).sent

/-- Whether the client's controller has a method of its own for the call.  Each
of these begins with `get_choice_info`; the others are the defaults of the
trait, which ask nobody. -/
def getsChoiceInfo : SeatCall → Bool
  | .chooseXValue _ _ => false
  | .choosePlayer _ => false
  | .chooseScryOrder _ => false
  | .chooseSurveil _ => false
  | _ => true

/-- The calls for which both sides are involved, or neither. -/
def Matched : SeatCall → Prop
  | .chooseTargets _ validTargets _ _ => validTargets ≠ []
  | .chooseScryOrder _ => False
  | .chooseSurveil _ => False
  | .choosePermanentsToNotUntap _ => False
  | _ => True

end SeatCall

/-- A call, with what the client answers; `prepared` where the game loop calls
`prepare_for_priority_choice` first. -/
structure SeatMove where
  call : SeatCall
  prepared : Bool
  network : Network

/-- The client's controller: the requests that have arrived, the one that was
taken ahead, the calls that are not finished and what the finished ones
consumed. -/
structure ClientSeat where
  localChoices : List ChoiceInfo := []
  pendingChoiceInfo : Option ChoiceInfo := none
  unfinished : List (SeatCall × Bool) := []
  consumed : List (Option ChoiceInfo) := []
deriving DecidableEq

namespace ClientSeat

/-- Take a request; `none` waits for one to arrive. -/
def takeLocalChoice (seat : ClientSeat) : Option (ChoiceInfo × ClientSeat) :=
  match seat.localChoices with
  | [] => none
  | info :: rest => some (info, { seat with localChoices := rest })

def getChoiceInfo (seat : ClientSeat) : Option (ChoiceInfo × ClientSeat) :=
  match seat.pendingChoiceInfo with
  | some info => some (info, { seat with pendingChoiceInfo := none })
  | none => seat.takeLocalChoice

def prepareChoiceInfo (seat : ClientSeat) : Option ClientSeat :=
  match seat.pendingChoiceInfo with
  | some _ => some seat
  | none => seat.takeLocalChoice.map fun taken =>
      { taken.2 with pendingChoiceInfo := some taken.1 }

/-- One call of the game loop, unless the client has to wait. -/
def handle (seat : ClientSeat) (call : SeatCall) (prepared : Bool) :
    Option ClientSeat :=
  (if prepared then seat.prepareChoiceInfo else some seat).bind fun seat =>
    if call.getsChoiceInfo then
      seat.getChoiceInfo.map fun taken =>
        { taken.2 with consumed := taken.2.consumed ++ [some taken.1] }
    else some { seat with consumed := seat.consumed ++ [none] }

/-- Handle the calls in their order, as far as the requests go. -/
def proceed (seat : ClientSeat) : List (SeatCall × Bool) → ClientSeat
  | [] => { seat with unfinished := [] }
  | (call, prepared) :: rest =>
      match seat.handle call prepared with
      | some handled => handled.proceed rest
      | none => { seat with unfinished := (call, prepared) :: rest }

end ClientSeat

/-- Both sides of a seat, with the requests the server issued call by call. -/
structure Seats where
  server : NetworkController
  issued : List (Option ChoiceRequest) := []
  client : ClientSeat := {}

namespace Seats

/-- A call on both sides. -/
def perform (seats : Seats) (move : SeatMove) : Seats :=
  let (request, server) := move.call.serve seats.server move.network
  let arrived := { seats.client with
    localChoices := seats.client.localChoices ++
      (request.map ChoiceRequest.info).toList }
  { server := server
    issued := seats.issued ++ [request]
    client := arrived.proceed
      (seats.client.unfinished ++ [(move.call, move.prepared)]) }

/-- The client has finished the same calls and has consumed, for each of them,
the request that the server issued for it, if any. -/
def InStep (seats : Seats) : Prop :=
  seats.client.consumed =
    seats.issued.map fun request => request.map ChoiceRequest.info

/-- Nothing is on the way or waited for. -/
structure Settled (seats : Seats) : Prop where
  inStep : seats.InStep
  localChoices : seats.client.localChoices = []
  pendingChoiceInfo : seats.client.pendingChoiceInfo = none
  unfinished : seats.client.unfinished = []

end Seats

def seatMachine : Machine Seats SeatMove where
  enabled _ _ := True
  perform := Seats.perform

/-- A call for which both sides are involved, or neither, and which is only
prepared for if they are. -/
structure SeatMove.Matched (move : SeatMove) : Prop where
  call : move.call.Matched
  prepared : move.prepared = true → move.call.getsChoiceInfo = true

theorem NetworkController.ask_sent {α : Type} (self : NetworkController)
    (network : Network) (request : ChoiceRequest)
    (read : ChoiceResponse → ChoiceResult α) :
    (self.ask network request read).sent.1.isSome = true := by
  rw [ask]
  split <;> rfl

/-- The server issues a request just when the client waits for one, for the
matched calls and no others. -/
theorem SeatCall.serve_isSome_eq_iff (call : SeatCall)
    (self : NetworkController) (network : Network) :
    (call.serve self network).1.isSome = call.getsChoiceInfo ↔
      call.Matched := by
  cases call with
  | chooseTargets spell validTargets minTargets maxTargets =>
      rw [serve, NetworkController.chooseTargets]
      cases validTargets with
      | nil => exact iff_of_false Bool.false_ne_true fun hne => hne rfl
      | cons target rest =>
          exact iff_of_true (NetworkController.ask_sent _ _ _ _)
            (List.cons_ne_nil target rest)
  | chooseXValue => exact iff_of_true rfl trivial
  | choosePlayer => exact iff_of_true rfl trivial
  | choosePermanentsToNotUntap => exact iff_of_false Bool.false_ne_true id
  | chooseScryOrder =>
      rw [serve, NetworkController.chooseScryOrder, NetworkController.ask_sent]
      exact iff_of_false Bool.true_eq_false.mp id
  | chooseSurveil =>
      rw [serve, NetworkController.chooseSurveil, NetworkController.ask_sent]
      exact iff_of_false Bool.true_eq_false.mp id
  | _ => exact iff_of_true (NetworkController.ask_sent _ _ _ _) trivial

namespace ClientSeat

variable {call : SeatCall} {prepared : Bool}
  (consumed : List (Option ChoiceInfo))

/-- A call that asks takes the one request that has arrived. -/
theorem proceed_of_request (hgets : call.getsChoiceInfo = true)
    (info : ChoiceInfo) :
    proceed { localChoices := [info], consumed := consumed }
        [(call, prepared)] = { consumed := consumed ++ [some info] } := by
  cases prepared <;>
    simp [proceed, handle, prepareChoiceInfo, getChoiceInfo, takeLocalChoice,
      hgets]

/-- A call that asks waits if no request has arrived. -/
theorem proceed_of_gets (hgets : call.getsChoiceInfo = true) :
    proceed { consumed := consumed } [(call, prepared)] =
      { unfinished := [(call, prepared)], consumed := consumed } := by
  cases prepared <;>
    simp [proceed, handle, prepareChoiceInfo, getChoiceInfo, takeLocalChoice,
      hgets]

theorem proceed_of_not_gets (hgets : call.getsChoiceInfo = false) :
    proceed { consumed := consumed } [(call, false)] =
      { consumed := consumed ++ [none] } := by
  simp [proceed, handle, hgets]

/-- Preparing for a call without a request waits. -/
theorem proceed_of_prepared :
    proceed { consumed := consumed } [(call, true)] =
      { unfinished := [(call, true)], consumed := consumed } := by
  simp [proceed, handle, prepareChoiceInfo, takeLocalChoice]

/-- A call that does not ask leaves the request lying. -/
theorem proceed_of_unasked (hgets : call.getsChoiceInfo = false)
    (info : ChoiceInfo) :
    (proceed { localChoices := [info], consumed := consumed }
      [(call, prepared)]).consumed = consumed ++ [none] := by
  cases prepared <;>
    simp [proceed, handle, prepareChoiceInfo, takeLocalChoice, hgets]

end ClientSeat

namespace Seats

variable {seats : Seats} {move : SeatMove}

/-- From a settled state the client has nothing but the call and the request
the server issues for it. -/
theorem Settled.perform_eq (hsettled : seats.Settled) :
    seats.perform move =
      { server := (move.call.serve seats.server move.network).2
        issued := seats.issued ++
          [(move.call.serve seats.server move.network).1]
        client := ClientSeat.proceed
          { localChoices := ((move.call.serve seats.server
              move.network).1.map ChoiceRequest.info).toList
            consumed := seats.issued.map fun request =>
              request.map ChoiceRequest.info }
          [(move.call, move.prepared)] } := by
  obtain ⟨server, issued, ⟨localChoices, pending, unfinished, consumed⟩⟩ :=
    seats
  obtain ⟨hinStep, hlocal, hpending, hunfinished⟩ := hsettled
  dsimp only [InStep] at hinStep hlocal hpending hunfinished
  subst hinStep hlocal hpending hunfinished
  rfl

/-- A matched call leaves the two sides settled. -/
theorem Settled.perform (hsettled : seats.Settled)
    (hmatched : move.Matched) : (seats.perform move).Settled := by
  have happend (request : Option ChoiceRequest) :
      seats.issued.map (fun request => request.map ChoiceRequest.info) ++
          [request.map ChoiceRequest.info] =
        (seats.issued ++ [request]).map fun request =>
          request.map ChoiceRequest.info := by
    rw [List.map_append, List.map_singleton]
  have hsome := (move.call.serve_isSome_eq_iff seats.server
    move.network).mpr hmatched.call
  have hprepared := hmatched.prepared
  rw [hsettled.perform_eq]
  generalize move.call.serve seats.server move.network = served at hsome ⊢
  obtain ⟨request, server⟩ := served
  generalize move.prepared = prepared at hprepared ⊢
  cases request with
  | some request =>
      rw [show ((some request).map ChoiceRequest.info).toList =
        [request.info] from rfl,
        ClientSeat.proceed_of_request _ hsome.symm]
      exact ⟨happend (some request), rfl, rfl, rfl⟩
  | none =>
      cases prepared with
      | true => exact absurd (hprepared rfl) (by rw [← hsome]; exact nofun)
      | false =>
          rw [show ((none : Option ChoiceRequest).map
            ChoiceRequest.info).toList = [] from rfl,
            ClientSeat.proceed_of_not_gets _ hsome.symm]
          exact ⟨happend none, rfl, rfl, rfl⟩

/-- Any other call leaves them out of step. -/
theorem Settled.not_inStep_perform (hsettled : seats.Settled)
    (hmatched : ¬move.Matched) : ¬(seats.perform move).InStep := by
  have hbehind {issued : List (Option ChoiceInfo)} {last : Option ChoiceInfo} :
      issued ≠ issued ++ [last] := by
    intro heq
    have hlength := congrArg List.length heq
    rw [List.length_append, List.length_singleton] at hlength
    exact Nat.succ_ne_self _ hlength.symm
  have hiff := move.call.serve_isSome_eq_iff seats.server move.network
  rw [hsettled.perform_eq, InStep]
  dsimp only
  generalize move.call.serve seats.server move.network = served at hiff ⊢
  obtain ⟨request, server⟩ := served
  rw [List.map_append, List.map_singleton]
  cases hgets : move.call.getsChoiceInfo with
  | true =>
      cases request with
      | some request =>
          rw [hgets] at hiff
          exact absurd ⟨hiff.mp rfl, fun _ => hgets⟩ hmatched
      | none =>
          rw [show ((none : Option ChoiceRequest).map
            ChoiceRequest.info).toList = [] from rfl,
            ClientSeat.proceed_of_gets _ hgets]
          exact hbehind
  | false =>
      cases request with
      | some request =>
          rw [show ((some request).map ChoiceRequest.info).toList =
            [request.info] from rfl, ClientSeat.proceed_of_unasked _ hgets]
          intro heq
          cases List.append_cancel_left heq
      | none =>
          rw [show ((none : Option ChoiceRequest).map
            ChoiceRequest.info).toList = [] from rfl]
          cases hprepared : move.prepared with
          | true =>
              rw [ClientSeat.proceed_of_prepared]
              exact hbehind
          | false =>
              rw [hgets] at hiff
              exact absurd ⟨hiff.mp rfl, fun htrue =>
                absurd (hprepared ▸ htrue) Bool.false_ne_true⟩ hmatched

end Seats

/-- Client and server stay in step throughout a run of calls just when every
call is matched. -/
theorem lockStep_iff (server : NetworkController) (moves : List SeatMove) :
    seatMachine.Always Seats.InStep { server := server } moves ↔
      ∀ move ∈ moves, move.Matched := by
  have hsettled : Seats.Settled { server := server } := ⟨rfl, rfl, rfl, rfl⟩
  have hruns := Machine.runs_of_enabled seatMachine
    (fun _ _ => trivial) { server := server } moves
  rw [← Machine.eachMove_iff_forall seatMachine]
  apply Machine.always_iff_eachMove
  · exact fun _ hsettled => Seats.Settled.inStep hsettled
  · exact fun _ _ hsettled _ hmatched => Seats.Settled.perform hsettled hmatched
  · exact fun _ _ hsettled _ hmatched =>
      Seats.Settled.not_inStep_perform hsettled hmatched
  · exact hsettled
  · exact hruns

/-- A scry of three cards: the server asks, the client answers by itself, and
the request is taken for the call that follows. -/
theorem scry_not_inStep :
    ¬seatMachine.Always Seats.InStep { server := { player := ⟨0⟩ } }
      [⟨.chooseScryOrder [⟨5⟩, ⟨6⟩, ⟨7⟩], false, fun _ => .error "no answer"⟩] ∧
    ((seatMachine.perform { server := { player := ⟨0⟩ } }
      ⟨.chooseScryOrder [⟨5⟩, ⟨6⟩, ⟨7⟩], false,
        fun _ => .error "no answer"⟩).client.handle
          (.chooseAttackers [⟨9⟩]) false).map (fun seat => seat.consumed) =
      some [none, some { choiceSeq := 1 }] := by
  refine ⟨?_, by decide⟩
  rintro ⟨-, hinStep⟩
  change [none] = _ at hinStep
  revert hinStep
  decide

end DeepScry
