/-
The choice windows of one client: between two requests the handler on the
server gathers facts, and the next request that is sent carries all of them.
-/
import DeepScry.ChoiceBuffer

namespace DeepScry

/-- What the handler sends.  Besides the buffer of a request there are eager
copies of the facts. -/
inductive ServerMessage where
  | cardRevealed (owner : PlayerId) (card : CardReveal)
      (reason : RevealReason) (actionCount : Option Nat)
  | searchCandidates (searcher : PlayerId) (cards : List CardReveal)
      (actionCount : Nat)
  | libraryReordered (player : PlayerId) (newOrder : List CardId)
      (actionCount : Nat)
  | digDecision (digger : PlayerId) (kept : List CardId) (actionCount : Nat)
  | choiceRequest (request : ChoiceRequest) (actionCount : Nat)
      (buffer : List (Nat × BufferedFact))

def ServerMessage.buffer : ServerMessage →
    Option (List (Nat × BufferedFact))
  | .choiceRequest _ _ buffer => some buffer
  | _ => none

/-- The handler of one client.  A choice that comes before the request it
answers is pending. -/
structure PlayerHandler where
  playerId : PlayerId
  pendingChoice : Option ChoiceResponse := none
  waitingForChoice : Option WindowRequest := none
  pendingChoiceFacts : List OpponentChoiceInfo := []
  pendingReorderFacts : List (PlayerId × List CardId × Nat) := []
  pendingDigFacts : List (PlayerId × List CardId × Nat) := []

namespace PlayerHandler

def pendingFacts (handler : PlayerHandler) : List (Nat × BufferedFact) :=
  reorderFacts handler.pendingReorderFacts ++
    digFacts handler.pendingDigFacts ++
    handler.pendingChoiceFacts.flatMap OpponentChoiceInfo.facts

/-- The eager copies of what a request brings along. -/
def eagerCopies (handler : PlayerHandler) (game : GameState)
    (request : WindowRequest) : List ServerMessage :=
  (request.reveals.filterMap fun info =>
    (buildCardReveal game info).map fun card =>
      .cardRevealed info.owner card (zoneToRevealReason info.toZone)
        (some info.actionCount)) ++
  if (searchedCards game request).isEmpty then []
  else [.searchCandidates handler.playerId (searchedCards game request)
    request.actionCount]

/-- The handler with a request from the coordinator: what it sends to the
client, and its answer to the coordinator if the choice is there already. -/
def onChoiceRequest (handler : PlayerHandler) (game : GameState)
    (request : WindowRequest) :
    PlayerHandler × List ServerMessage × Option ChoiceResponse :=
  let eager := handler.eagerCopies game request
  let buffer := assembleChoiceBuffer game request handler.playerId
    handler.pendingReorderFacts handler.pendingDigFacts
    handler.pendingChoiceFacts
  match handler.pendingChoice with
  | some pending =>
      -- The buffer goes nowhere; the pending facts stay for the next one.
      ({ handler with pendingChoice := none }, eager, some pending)
  | none =>
      ({ handler with
          waitingForChoice := some request
          pendingChoiceFacts := []
          pendingReorderFacts := []
          pendingDigFacts := [] },
        eager ++ [.choiceRequest request.toChoiceRequest request.actionCount
          buffer], none)

/-- A choice of the client, answered at once or kept. -/
def onSubmitChoice (handler : PlayerHandler) (response : ChoiceResponse) :
    PlayerHandler × Option ChoiceResponse :=
  if handler.waitingForChoice.isSome then
    ({ handler with waitingForChoice := none }, some response)
  else ({ handler with pendingChoice := some response }, none)

end PlayerHandler

namespace ClientLogs

def logDelta (logs : ClientLogs) (actionCount : Nat)
    (entry : StateSyncEntry) : Option ClientLogs :=
  (logs.stateSync.pushStateSyncAt actionCount entry).map fun stateSync =>
    { logs with stateSync }

/-- The reader of a client; `none` is a panic. -/
def read (logs : ClientLogs) : ServerMessage → Option ClientLogs
  | .cardRevealed owner card reason actionCount =>
      if logs.bufferIsAuthoritative then some logs
      else
        match actionCount with
        | some ac => logs.logDelta ac (.revealCard owner card reason)
        | none => some logs
  | .searchCandidates searcher cards ac =>
      if logs.bufferIsAuthoritative then some logs
      else logs.logDelta ac (.searchCandidates searcher cards)
  | .libraryReordered player newOrder ac =>
      if logs.bufferIsAuthoritative then some logs
      else if ac = 0 then
        some { logs with
          stateSync := logs.stateSync.addInitialLibraryOrder player newOrder }
      else logs.logDelta ac (.libraryReorder player newOrder)
  | .digDecision digger kept ac => logs.logDelta ac (.digDecision digger kept)
  | .choiceRequest _ _ buffer =>
      { logs with bufferIsAuthoritative := true }.applyChoiceBuffer buffer

end ClientLogs

/-- The handler, its client and the messages between them; besides, the facts
gathered so far, those of them that were gathered by the last request sent, the
cards to reveal that the game does not know, and the buffers sent and
received. -/
structure ChoiceWindow where
  handler : PlayerHandler
  answers : List ChoiceResponse := []
  wire : List ServerMessage := []
  client : ClientLogs := {}
  facts : List (Nat × BufferedFact) := []
  due : List (Nat × BufferedFact) := []
  unknown : List CardId := []
  sent : List (List (Nat × BufferedFact)) := []
  received : List (List (Nat × BufferedFact)) := []

/-- The cards that a request names and the game does not know. -/
def WindowRequest.unknown (request : WindowRequest) (game : GameState) :
    List CardId :=
  (request.reveals.map CardRevealInfo.card ++
    request.librarySearchCards.getD []).filter fun id =>
      (game.card? id).isNone

inductive WindowMove where
  | choiceRequest (game : GameState) (request : WindowRequest)
  | opponentMadeChoice (info : OpponentChoiceInfo)
  | libraryReordered (player : PlayerId) (newOrder : List CardId)
      (actionCount : Nat)
  | digDecision (digger : PlayerId) (kept : List CardId) (actionCount : Nat)
  | submitChoice (response : ChoiceResponse)
  | receive
  | apply (shadow : ShadowGame) (watermark targetAction : Nat)
  | rewind
  | takeChoice
  | replayChoices

namespace ChoiceWindow

variable (processCardReveal :
  GameState → PlayerId → CardReveal → RevealReason → GameState)

/-- One event on the server or one step of the client; `none` is a panic of the
client. -/
def perform (window : ChoiceWindow) : WindowMove → Option ChoiceWindow
  | .choiceRequest game request =>
      let facts := window.facts ++
        requestFacts game request window.handler.playerId
      let (handler, messages, answer) :=
        window.handler.onChoiceRequest game request
      some { window with
        handler := handler
        answers := window.answers ++ answer.toList
        wire := window.wire ++ messages
        facts := facts
        due := if answer.isSome then window.due else facts
        unknown := window.unknown ++ request.unknown game
        sent := window.sent ++ messages.filterMap ServerMessage.buffer }
  | .opponentMadeChoice info =>
      some { window with
        handler := { window.handler with
          pendingChoiceFacts := window.handler.pendingChoiceFacts ++ [info] }
        facts := window.facts ++ info.facts }
  | .libraryReordered player newOrder ac =>
      some { window with
        handler := { window.handler with
          pendingReorderFacts :=
            window.handler.pendingReorderFacts ++ [(player, newOrder, ac)] }
        wire := window.wire ++ [.libraryReordered player newOrder ac]
        facts := window.facts ++ reorderFacts [(player, newOrder, ac)] }
  | .digDecision digger kept ac =>
      some { window with
        handler := { window.handler with
          pendingDigFacts :=
            window.handler.pendingDigFacts ++ [(digger, kept, ac)] }
        wire := window.wire ++ [.digDecision digger kept ac]
        facts := window.facts ++ digFacts [(digger, kept, ac)] }
  | .submitChoice response =>
      let (handler, answer) := window.handler.onSubmitChoice response
      some { window with
        handler := handler
        answers := window.answers ++ answer.toList }
  | .receive =>
      match window.wire with
      | [] => some window
      | message :: wire =>
          (window.client.read message).map fun client =>
            { window with
              wire := wire
              client := client
              received := window.received ++ message.buffer.toList }
  | .apply shadow watermark targetAction =>
      some { window with
        client := { window.client with
          stateSync := (window.client.stateSync.applyStateSyncUpToFrontier
            processCardReveal shadow watermark targetAction).1 } }
  | .rewind =>
      some { window with
        client := { window.client with
          stateSync := window.client.stateSync.resetStateSyncCursor } }
  | .takeChoice =>
      some { window with
        client := { window.client with
          opponentChoices :=
            window.client.opponentChoices.takeOpponentChoice.1 } }
  | .replayChoices =>
      some { window with
        client := { window.client with
          opponentChoices :=
            window.client.opponentChoices.resetOpponentChoiceCursor } }

/-- Each card to reveal has an identity; what had been gathered at the last
request that was sent is in the buffers sent, each fact once and in ascending
order, and the rest waits; the client has logged each fact it received once. -/
structure AllCarried (window : ChoiceWindow) : Prop where
  known : window.unknown = []
  carried : window.sent.flatten.Perm window.due
  gathered : (window.due ++ window.handler.pendingFacts).Perm window.facts
  ascending : ∀ buffer ∈ window.sent,
    buffer.Pairwise fun fact later => fact.1 ≤ later.1
  delivered : window.received ++
    window.wire.filterMap ServerMessage.buffer = window.sent
  logged : ∀ buffer ∈ window.received, ∀ fact ∈ buffer,
    window.client.Logged fact

end ChoiceWindow

namespace ClientLogs

variable {logs after : ClientLogs} {fact : Nat × BufferedFact}

/-- A message that the client can read: it ignores it, or its logs take what
the message tells. -/
def Accepts (logs : ClientLogs) : ServerMessage → Prop
  | .cardRevealed owner card reason actionCount =>
      logs.bufferIsAuthoritative = true ∨ ∀ ac ∈ actionCount,
        logs.stateSync.Fits [(ac, .revealCard owner card reason)]
  | .searchCandidates searcher cards ac =>
      logs.bufferIsAuthoritative = true ∨
        logs.stateSync.Fits [(ac, .searchCandidates searcher cards)]
  | .libraryReordered player newOrder ac =>
      logs.bufferIsAuthoritative = true ∨ (ac ≠ 0 →
        logs.stateSync.Fits [(ac, .libraryReorder player newOrder)])
  | .digDecision digger kept ac =>
      logs.stateSync.Fits [(ac, .digDecision digger kept)]
  | .choiceRequest _ _ buffer => logs.Fits buffer

/-- The facts of a client stay logged while the logs only grow. -/
theorem Logged.mono (hlogged : logs.Logged fact)
    (hsync : ∀ delta, logs.stateSync.Holds delta →
      after.stateSync.Holds delta)
    (hchoices : ∀ entry, logs.opponentChoices.Holds entry →
      after.opponentChoices.Holds entry) : after.Logged fact := by
  rcases hlogged with ⟨delta, hdelta, hholds⟩ | ⟨entry, hentry, hholds⟩
  · exact .inl ⟨delta, hdelta, hsync delta hholds⟩
  · exact .inr ⟨entry, hentry, hchoices entry hholds⟩

theorem logDelta_of_fits {ac : Nat} {entry : StateSyncEntry}
    (hfits : logs.stateSync.Fits [(ac, entry)]) :
    ∃ after, logs.logDelta ac entry = some after ∧
      ∀ fact, logs.Logged fact → after.Logged fact := by
  obtain ⟨stateSync, hpush, hpushed⟩ :=
    StateSyncBuffer.pushStateSyncAt_of_fits hfits List.mem_cons_self
  refine ⟨{ logs with stateSync }, ?_, ?_⟩
  · rw [logDelta, hpush]
    rfl
  · intro fact hlogged
    exact hlogged.mono (fun _ => hpushed.keeps) (fun _ hholds => hholds)

/-- The client reads the message, has then logged what its buffer brings, and
loses nothing. -/
def Reads (logs : ClientLogs) (message : ServerMessage) : Prop :=
  ∃ after, logs.read message = some after ∧
    (∀ buffer ∈ message.buffer, ∀ fact ∈ buffer, after.Logged fact) ∧
    ∀ fact, logs.Logged fact → after.Logged fact

theorem reads_of_ignored {message : ServerMessage}
    (hread : logs.read message = some logs) (hnone : message.buffer = none) :
    logs.Reads message := by
  refine ⟨logs, hread, ?_, fun _ hlogged => hlogged⟩
  simp [hnone]

theorem reads_of_delta {message : ServerMessage} {ac : Nat}
    {entry : StateSyncEntry} (hfits : logs.stateSync.Fits [(ac, entry)])
    (hread : logs.read message = logs.logDelta ac entry)
    (hnone : message.buffer = none) : logs.Reads message := by
  obtain ⟨after, hlog, hkeeps⟩ := logDelta_of_fits hfits
  refine ⟨after, hread.trans hlog, ?_, hkeeps⟩
  simp [hnone]

theorem reads_of_accepts {message : ServerMessage}
    (haccepts : logs.Accepts message) : logs.Reads message := by
  cases message with
  | cardRevealed owner card reason actionCount =>
      cases hauth : logs.bufferIsAuthoritative with
      | true => exact reads_of_ignored (by simp [read, hauth]) rfl
      | false =>
          cases actionCount with
          | none => exact reads_of_ignored (by simp [read, hauth]) rfl
          | some ac =>
              have hfits := haccepts.resolve_left (by simp [hauth]) ac rfl
              exact reads_of_delta hfits (by simp [read, hauth]) rfl
  | searchCandidates searcher cards ac =>
      cases hauth : logs.bufferIsAuthoritative with
      | true => exact reads_of_ignored (by simp [read, hauth]) rfl
      | false =>
          have hfits := haccepts.resolve_left (by simp [hauth])
          exact reads_of_delta hfits (by simp [read, hauth]) rfl
  | libraryReordered player newOrder ac =>
      cases hauth : logs.bufferIsAuthoritative with
      | true => exact reads_of_ignored (by simp [read, hauth]) rfl
      | false =>
          by_cases hinitial : ac = 0
          · refine ⟨{ logs with
              stateSync := logs.stateSync.addInitialLibraryOrder player
                newOrder }, by simp [read, hauth, hinitial],
              by simp [ServerMessage.buffer], ?_⟩
            intro fact hlogged
            exact hlogged.mono (fun _ hholds => hholds)
              (fun _ hholds => hholds)
          · have hfits := haccepts.resolve_left (by simp [hauth]) hinitial
            exact reads_of_delta hfits (by simp [read, hauth, hinitial]) rfl
  | digDecision digger kept ac => exact reads_of_delta haccepts rfl rfl
  | choiceRequest request ac buffer =>
      have hfits : Fits { logs with bufferIsAuthoritative := true } buffer :=
        ⟨haccepts.midGame, haccepts.deltas, haccepts.choices⟩
      obtain ⟨after, happly, hlogged, hkeeps⟩ :=
        applyChoiceBuffer_of_fits hfits
      refine ⟨after, happly, ?_, fun fact h => hkeeps fact h⟩
      intro other hmem
      cases Option.mem_some_iff.mp hmem
      exact hlogged

end ClientLogs

/-- A buffer holds the facts of its request and the pending ones. -/
theorem assembleChoiceBuffer_perm (game : GameState) (request : WindowRequest)
    (handler : PlayerHandler) :
    (assembleChoiceBuffer game request handler.playerId
      handler.pendingReorderFacts handler.pendingDigFacts
      handler.pendingChoiceFacts).Perm
        (requestFacts game request handler.playerId ++
          handler.pendingFacts) := by
  refine (Drawing.ranked_perm _ _).trans ?_
  simp [PlayerHandler.pendingFacts]

theorem requestFacts_of_nothing {game : GameState} {request : WindowRequest}
    (hreveals : request.reveals = [])
    (hcards : request.librarySearchCards.getD [] = []) (searcher : PlayerId) :
    requestFacts game request searcher = [] := by
  simp [requestFacts, searchedCards, hreveals, hcards]

theorem PlayerHandler.eagerCopies_buffer (handler : PlayerHandler)
    (game : GameState) (request : WindowRequest) :
    (handler.eagerCopies game request).filterMap ServerMessage.buffer = [] := by
  rw [List.filterMap_eq_nil_iff]
  intro message hmem
  simp only [eagerCopies, List.mem_append, List.mem_filterMap,
    Option.map_eq_some_iff] at hmem
  rcases hmem with ⟨info, -, card, -, rfl⟩ | hmem
  · rfl
  · split at hmem
    · cases hmem
    · rw [List.mem_singleton.mp hmem]
      rfl

namespace ChoiceWindow

variable {processCardReveal :
  GameState → PlayerId → CardReveal → RevealReason → GameState}
  {window : ChoiceWindow}

/-- No request brings facts of its own while a choice is pending, its cards are
known, and the client can read what it receives. -/
def Orderly (window : ChoiceWindow) : WindowMove → Prop
  | .choiceRequest game request =>
      request.unknown game = [] ∧
        (window.handler.pendingChoice.isSome = true →
          request.reveals = [] ∧ request.librarySearchCards.getD [] = [])
  | .receive => ∀ message ∈ window.wire.head?, window.client.Accepts message
  | _ => True

/-- The client logs only grow while entries are applied or taken. -/
theorem holds_applied {buf : StateSyncBuffer} (shadow : ShadowGame)
    (watermark targetAction : Nat) (delta : Nat × StateSyncEntry)
    (hholds : buf.Holds delta) :
    (buf.applyStateSyncUpToFrontier processCardReveal shadow watermark
      targetAction).1.Holds delta := by
  rw [StateSyncBuffer.applyStateSyncUpToFrontier_buffer]
  split <;> exact hholds

theorem holds_taken {buf : OpponentChoiceBuffer} (entry : ChoiceEntry)
    (hholds : buf.Holds entry) : buf.takeOpponentChoice.1.Holds entry := by
  rw [OpponentChoiceBuffer.takeOpponentChoice]
  split <;> exact hholds

/-- A step of the client that keeps its logs. -/
theorem AllCarried.client_step (hcarried : window.AllCarried)
    {client : ClientLogs}
    (hkeeps : ∀ fact, window.client.Logged fact → client.Logged fact) :
    { window with client : ChoiceWindow }.AllCarried where
  known := hcarried.known
  carried := hcarried.carried
  gathered := hcarried.gathered
  ascending := hcarried.ascending
  delivered := hcarried.delivered
  logged buffer hbuffer fact hfact :=
    hkeeps fact (hcarried.logged buffer hbuffer fact hfact)

/-- A request that finds its answer pending sends no buffer. -/
theorem perform_request_pending (game : GameState) (request : WindowRequest)
    {pending : ChoiceResponse}
    (hpending : window.handler.pendingChoice = some pending) :
    window.perform processCardReveal (.choiceRequest game request) =
      some { window with
        handler := { window.handler with pendingChoice := none }
        answers := window.answers ++ [pending]
        wire := window.wire ++ window.handler.eagerCopies game request
        facts := window.facts ++
          requestFacts game request window.handler.playerId
        unknown := window.unknown ++ request.unknown game } := by
  simp [perform, PlayerHandler.onChoiceRequest, hpending,
    PlayerHandler.eagerCopies_buffer]

/-- Any other request sends all that was gathered. -/
theorem perform_request_sent (game : GameState) (request : WindowRequest)
    (hpending : window.handler.pendingChoice = none) :
    ∃ buffer, buffer.Perm
        (requestFacts game request window.handler.playerId ++
          window.handler.pendingFacts) ∧
      buffer.Pairwise (fun fact later => fact.1 ≤ later.1) ∧
      window.perform processCardReveal (.choiceRequest game request) =
        some { window with
          handler := { window.handler with
            waitingForChoice := some request
            pendingChoiceFacts := []
            pendingReorderFacts := []
            pendingDigFacts := [] }
          wire := window.wire ++ (window.handler.eagerCopies game request ++
            [.choiceRequest request.toChoiceRequest request.actionCount
              buffer])
          facts := window.facts ++
            requestFacts game request window.handler.playerId
          due := window.facts ++
            requestFacts game request window.handler.playerId
          unknown := window.unknown ++ request.unknown game
          sent := window.sent ++ [buffer] } := by
  refine ⟨_, assembleChoiceBuffer_perm game request window.handler,
    Drawing.ranked_sorted _ _, ?_⟩
  simp [perform, PlayerHandler.onChoiceRequest, hpending,
    PlayerHandler.eagerCopies_buffer, ServerMessage.buffer]

theorem AllCarried.request (hcarried : window.AllCarried) {game : GameState}
    {request : WindowRequest}
    (horderly : window.Orderly (.choiceRequest game request)) :
    ∃ after, window.perform processCardReveal (.choiceRequest game request) =
      some after ∧ after.AllCarried := by
  obtain ⟨hunknown, hearly⟩ := horderly
  have heager := window.handler.eagerCopies_buffer game request
  have hknown : window.unknown ++ request.unknown game = [] := by
    rw [hunknown, hcarried.known]
    rfl
  cases hpending : window.handler.pendingChoice with
  | some pending =>
      obtain ⟨hreveals, hcards⟩ := hearly (by rw [hpending]; rfl)
      have hnothing := @requestFacts_of_nothing game request hreveals hcards
        window.handler.playerId
      refine ⟨_, perform_request_pending game request hpending, hknown,
        hcarried.carried, ?_, hcarried.ascending, ?_, hcarried.logged⟩
      · rw [hnothing, List.append_nil]
        exact hcarried.gathered
      · dsimp only
        rw [List.filterMap_append, heager, List.append_nil]
        exact hcarried.delivered
  | none =>
      obtain ⟨buffer, hbuffer, hsorted, hperform⟩ :=
        @perform_request_sent processCardReveal window game request hpending
      refine ⟨_, hperform, hknown, ?_, ?_, ?_, ?_, hcarried.logged⟩
      · dsimp only
        rw [List.flatten_append, List.flatten_singleton]
        have hall := hcarried.carried.append
          (hbuffer.trans List.perm_append_comm)
        rw [← List.append_assoc] at hall
        exact hall.trans (hcarried.gathered.append_right _)
      · simp [PlayerHandler.pendingFacts, reorderFacts, digFacts]
      · intro other hmem
        rcases List.mem_append.mp hmem with hold | hnew
        · exact hcarried.ascending other hold
        · rw [List.mem_singleton.mp hnew]
          exact hsorted
      · dsimp only
        rw [List.filterMap_append, List.filterMap_append, heager,
          ← hcarried.delivered, List.append_assoc]
        rfl

/-- A fact that is gathered waits for the next request. -/
theorem AllCarried.gather (hcarried : window.AllCarried)
    (handler : PlayerHandler) {wire : List ServerMessage}
    (facts : List (Nat × BufferedFact))
    (hpending : handler.pendingFacts.Perm
      (window.handler.pendingFacts ++ facts))
    (hwire : wire.filterMap ServerMessage.buffer = []) :
    { window with
      handler := handler
      wire := window.wire ++ wire
      facts := window.facts ++ facts : ChoiceWindow }.AllCarried where
  known := hcarried.known
  carried := hcarried.carried
  gathered := by
    refine (hpending.append_left window.due).trans ?_
    rw [← List.append_assoc]
    exact hcarried.gathered.append_right facts
  ascending := hcarried.ascending
  delivered := by
    rw [List.filterMap_append, hwire, List.append_nil]
    exact hcarried.delivered
  logged := hcarried.logged

/-- A message that the client can read is received. -/
theorem AllCarried.receive (hcarried : window.AllCarried)
    (horderly : window.Orderly .receive) :
    ∃ after, window.perform processCardReveal .receive = some after ∧
      after.AllCarried := by
  have hdelivered := hcarried.delivered
  cases hwire : window.wire with
  | nil => exact ⟨window, by simp [perform, hwire], hcarried⟩
  | cons message wire =>
      rw [Orderly, hwire] at horderly
      obtain ⟨client, hread, hlogged, hkeeps⟩ :=
        ClientLogs.reads_of_accepts (horderly message rfl)
      rw [hwire] at hdelivered
      refine ⟨{ window with
          wire := wire
          client := client
          received := window.received ++ message.buffer.toList },
        by simp [perform, hwire, hread], hcarried.known, hcarried.carried,
        hcarried.gathered, hcarried.ascending, ?_, ?_⟩
      · rw [← hdelivered, List.append_assoc]
        cases hbuffer : message.buffer <;> simp [hbuffer]
      · intro buffer hmem
        rcases List.mem_append.mp hmem with hold | hnew
        · intro fact hfact
          exact hkeeps fact (hcarried.logged buffer hold fact hfact)
        · exact hlogged buffer (Option.mem_toList.mp hnew)

/-- An orderly step does not panic, and carries on. -/
theorem AllCarried.step (hcarried : window.AllCarried) {move : WindowMove}
    (horderly : window.Orderly move) :
    ∃ after, window.perform processCardReveal move = some after ∧
      after.AllCarried := by
  cases move with
  | choiceRequest game request => exact hcarried.request horderly
  | opponentMadeChoice info =>
      refine ⟨_, rfl, ?_⟩
      have hgather := hcarried.gather { window.handler with
        pendingChoiceFacts := window.handler.pendingChoiceFacts ++ [info] }
        info.facts (by simp [PlayerHandler.pendingFacts])
        (show [].filterMap ServerMessage.buffer = [] from rfl)
      simpa using hgather
  | libraryReordered player newOrder ac =>
      refine ⟨_, rfl, hcarried.gather _ _ ?_ rfl⟩
      simp only [PlayerHandler.pendingFacts, reorderFacts, List.map_append,
        List.append_assoc]
      refine List.Perm.append_left _ (List.perm_append_comm.trans ?_)
      rw [List.append_assoc]
  | digDecision digger kept ac =>
      refine ⟨_, rfl, hcarried.gather _ _ ?_ rfl⟩
      simp only [PlayerHandler.pendingFacts, digFacts, List.map_append,
        List.append_assoc]
      exact (List.perm_append_comm.append_left _).append_left _
  | submitChoice response =>
      refine ⟨_, rfl, ?_⟩
      have hpending : (window.handler.onSubmitChoice response).1.pendingFacts =
          window.handler.pendingFacts := by
        rw [PlayerHandler.onSubmitChoice]
        split <;> rfl
      refine ⟨hcarried.known, hcarried.carried, ?_, hcarried.ascending,
        hcarried.delivered, hcarried.logged⟩
      change (window.due ++
        (window.handler.onSubmitChoice response).1.pendingFacts).Perm _
      rw [hpending]
      exact hcarried.gathered
  | receive => exact hcarried.receive horderly
  | apply shadow watermark targetAction =>
      refine ⟨_, rfl, hcarried.client_step ?_⟩
      intro fact hlogged
      exact hlogged.mono (holds_applied shadow watermark targetAction)
        (fun _ hholds => hholds)
  | rewind =>
      refine ⟨_, rfl, hcarried.client_step ?_⟩
      intro fact hlogged
      exact hlogged.mono (fun _ hholds => hholds) (fun _ hholds => hholds)
  | takeChoice =>
      refine ⟨_, rfl, hcarried.client_step ?_⟩
      intro fact hlogged
      exact hlogged.mono (fun _ hholds => hholds) holds_taken
  | replayChoices =>
      refine ⟨_, rfl, hcarried.client_step ?_⟩
      intro fact hlogged
      exact hlogged.mono (fun _ hholds => hholds) (fun _ hholds => hholds)

/-- The windows of a client after any number of steps that are allowed. -/
inductive Reaches (processCardReveal :
      GameState → PlayerId → CardReveal → RevealReason → GameState)
    (Allowed : ChoiceWindow → WindowMove → Prop) : ChoiceWindow → Prop where
  | start (playerId : PlayerId) :
      Reaches processCardReveal Allowed { handler := { playerId } }
  | step {window after : ChoiceWindow}
      (hreaches : Reaches processCardReveal Allowed window)
      (move : WindowMove) (hallowed : Allowed window move)
      (hperform : window.perform processCardReveal move = some after) :
      Reaches processCardReveal Allowed after

theorem AllCarried.start (playerId : PlayerId) :
    AllCarried { handler := { playerId } } where
  known := rfl
  carried := .nil
  gathered := .nil
  ascending _ hmem := nomatch hmem
  delivered := rfl
  logged _ hmem := nomatch hmem

/-- In every state of an orderly run each fact is carried once, and logged once
where it was received; no orderly step panics. -/
theorem Reaches.allCarried
    (hreaches : Reaches processCardReveal Orderly window) :
    window.AllCarried ∧ ∀ move, window.Orderly move →
      ∃ after, window.perform processCardReveal move = some after := by
  have hcarried : window.AllCarried := by
    induction hreaches with
    | start playerId => exact .start playerId
    | step _ move hallowed hperform ih =>
        obtain ⟨after, hafter, hcarried⟩ :=
          @AllCarried.step processCardReveal _ ih _ hallowed
        cases hperform.symm.trans hafter
        exact hcarried
  refine ⟨hcarried, ?_⟩
  intro move horderly
  obtain ⟨after, hafter, -⟩ := hcarried.step horderly
  exact ⟨after, hafter⟩

end ChoiceWindow

open ChoiceWindow

/-- A request to pass priority, with some reveals. -/
def passRequest (reveals : List CardRevealInfo) : WindowRequest where
  choiceSeq := 1
  choiceType := .priority 0
  optionCount := 1
  actionCount := 5
  reveals := reveals

/-- The opponent passed. -/
def opponentPass : OpponentChoiceInfo where
  choiceSeq := 1
  player := ⟨1⟩
  choiceType := .priority 0
  description := "pass"
  actionCount := 4
  payload := { choiceIndices := [0] }

/-- A game with one card. -/
def oneCardGame : GameState where
  cards := ⟨[some { id := ⟨0⟩, owner := ⟨0⟩, controller := ⟨0⟩ }]⟩
  turn := { activePlayer := ⟨0⟩ }

/-- The card is drawn. -/
def drawnCard : CardRevealInfo where
  card := ⟨0⟩
  owner := ⟨0⟩
  fromZone := .library
  toZone := .hand
  actionCount := 3

theorem oneRequest_allCarried :
    ∃ window : ChoiceWindow, window.received ≠ [] ∧ window.AllCarried := by
  have hstart : Reaches (fun game _ _ _ => game) Orderly
      { handler := { playerId := ⟨0⟩ } } := .start ⟨0⟩
  have hpassed := hstart.step (.opponentMadeChoice opponentPass) trivial rfl
  have hasked := hpassed.step (.choiceRequest oneCardGame (passRequest []))
    ⟨rfl, fun _ => ⟨rfl, rfl⟩⟩ rfl
  have hread := hasked.step .receive ?_ rfl
  · exact ⟨_, by decide, hread.allCarried.1⟩
  · intro message hmem
    cases hmem
    refine ⟨?_, StateSyncBuffer.fits_nil _, ?_⟩
    · intro fact hmem player newOrder hreorder
      rw [List.mem_singleton.mp hmem] at hreorder
      cases hreorder
    · constructor
      · exact List.pairwise_singleton _ _
      · intro entry _ logged hlogged
        cases hlogged

/-- Once the client reads the buffers, a choice that comes before its request
makes the reveal of this request go missing. -/
theorem early_choice_drops_reveal :
    ∃ window : ChoiceWindow,
      Reaches (fun game _ _ _ => game) (fun _ _ => True) window ∧
        window.wire = [] ∧ window.handler.pendingFacts = [] ∧
        ¬window.AllCarried ∧
        ∃ fact ∈ window.facts, ¬window.client.Logged fact := by
  have hstart : Reaches (fun game _ _ _ => game) (fun _ _ => True)
      { handler := { playerId := ⟨0⟩ } } := .start ⟨0⟩
  have hfirst := hstart.step (.choiceRequest oneCardGame (passRequest []))
    trivial rfl
  have hread := hfirst.step .receive trivial rfl
  have hanswered := hread.step (.submitChoice ⟨1, [0], none, none⟩) trivial rfl
  have hearly := hanswered.step (.submitChoice ⟨2, [0], none, none⟩) trivial rfl
  have hasked := hearly.step
    (.choiceRequest oneCardGame (passRequest [drawnCard])) trivial rfl
  have hignored := hasked.step .receive trivial rfl
  have hnext := hignored.step (.choiceRequest oneCardGame (passRequest []))
    trivial rfl
  have hlast := hnext.step .receive trivial rfl
  refine ⟨_, hlast, rfl, rfl, ?_, _, List.mem_singleton_self _, ?_⟩
  · intro hcarried
    exact absurd hcarried.carried.length_eq (by decide)
  · rintro (⟨delta, hdelta, hholds⟩ | ⟨entry, hentry, -⟩)
    · cases hdelta
      obtain ⟨existing, -, hget⟩ := ActionLog.get_of_onceAt hholds
      cases hget
    · cases hentry

end DeepScry
