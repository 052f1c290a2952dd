/-
The catch-up buffer of a choice request: how the server fills it with what it
gathered for one client, and how the client files it in its logs.
-/
import DeepScry.Drawing
import DeepScry.OpponentChoices
import DeepScry.RevealCollection
import DeepScry.StateSyncRun

namespace DeepScry

/-- A fact that the client needs to follow the game to its next choice. -/
inductive BufferedFact where
  | reveal (owner : PlayerId) (card : CardReveal) (reason : RevealReason)
  | libraryReorder (player : PlayerId) (newOrder : List CardId)
  | searchCandidates (searcher : PlayerId) (cards : List CardReveal)
  | choice (choiceSeq : UInt32) (choiceType : ChoiceType)
      (description : String) (payload : ChoicePayload)
  | digDecision (digger : PlayerId) (kept : List CardId)

/-- A choice of one player, broadcast to the other. -/
structure OpponentChoiceInfo where
  choiceSeq : UInt32
  player : PlayerId
  choiceType : ChoiceType
  description : String
  actionCount : Nat
  payload : ChoicePayload

/-- A request with what was revealed for it and where in the game it stands. -/
structure WindowRequest extends ChoiceRequest where
  actionCount : Nat
  reveals : List CardRevealInfo := []

section Assemble

/-- The identity of a card of the game. -/
def GameState.cardReveal (game : GameState) (id : CardId) :
    Option CardReveal :=
  (game.card? id).map fun card =>
    { cardId := id
      name := card.name
      cardDef := game.cardDefinitions card.name }

def buildCardReveal (game : GameState) (info : CardRevealInfo) :
    Option CardReveal :=
  game.cardReveal info.card

def zoneToRevealReason : Zone → RevealReason
  | .hand => .draw
  | .battlefield => .played
  | .stack => .played
  | .graveyard => .effect
  | .exile => .effect
  | .library => .searched
  | .command => .effect

variable (game : GameState) (request : WindowRequest)

/-- The candidates of a library search that can be named. -/
def searchedCards : List CardReveal :=
  (request.librarySearchCards.getD []).filterMap game.cardReveal

/-- What a request brings along: its reveals, each at its own position, and the
candidates of its search as one fact. -/
def requestFacts (searcher : PlayerId) : List (Nat × BufferedFact) :=
  (request.reveals.filterMap fun info =>
    (buildCardReveal game info).map fun card =>
      (info.actionCount, .reveal info.owner card
        (zoneToRevealReason info.toZone))) ++
  if (searchedCards game request).isEmpty then []
  else [(request.actionCount,
    .searchCandidates searcher (searchedCards game request))]

def reorderFacts (reorders : List (PlayerId × List CardId × Nat)) :
    List (Nat × BufferedFact) :=
  reorders.map fun (player, newOrder, ac) =>
    (ac, .libraryReorder player newOrder)

def digFacts (digDecisions : List (PlayerId × List CardId × Nat)) :
    List (Nat × BufferedFact) :=
  digDecisions.map fun (digger, kept, ac) => (ac, .digDecision digger kept)

/-- A choice, and a nameless reveal if it took a card out of a library. -/
def OpponentChoiceInfo.facts (info : OpponentChoiceInfo) :
    List (Nat × BufferedFact) :=
  (info.actionCount, .choice info.choiceSeq info.choiceType info.description
    info.payload) ::
  match info.payload.librarySearchResult with
  | some id => [(info.actionCount,
      .reveal info.player { cardId := id, name := "" } .searched)]
  | none => []

def assembleChoiceBuffer (searcher : PlayerId)
    (reorders digDecisions : List (PlayerId × List CardId × Nat))
    (choices : List OpponentChoiceInfo) : List (Nat × BufferedFact) :=
  Drawing.ranked Prod.fst
    (requestFacts game request searcher ++ reorderFacts reorders ++
      digFacts digDecisions ++ choices.flatMap OpponentChoiceInfo.facts)

end Assemble

/-- The delta of the state-sync log; a choice has none. -/
def BufferedFact.delta : BufferedFact → Option StateSyncEntry
  | .reveal owner card reason => some (.revealCard owner card reason)
  | .libraryReorder player newOrder => some (.libraryReorder player newOrder)
  | .searchCandidates searcher cards => some (.searchCandidates searcher cards)
  | .choice .. => none
  | .digDecision digger kept => some (.digDecision digger kept)

/-- The entry of the opponent-choice log; only a choice has one. -/
def BufferedFact.choiceEntry (actionCount : Nat) :
    BufferedFact → Option ChoiceEntry
  | .choice choiceSeq _ description payload =>
      some { choiceSeq, actionCount, description, payload }
  | _ => none

/-- The logs of a client; before its first request it still reads the eager
copies of the facts. -/
structure ClientLogs where
  stateSync : StateSyncBuffer := {}
  opponentChoices : OpponentChoiceBuffer := {}
  bufferIsAuthoritative : Bool := false

namespace StateSyncBuffer

/-- Log one fact that is no choice; a reorder at 0 is an initial order. -/
def pushFact (buf : StateSyncBuffer) :
    Nat × BufferedFact → Option StateSyncBuffer
  | (ac, .libraryReorder player newOrder) =>
      if ac = 0 then some (buf.addInitialLibraryOrder player newOrder)
      else buf.pushStateSyncAt ac (.libraryReorder player newOrder)
  | (ac, fact) =>
      match fact.delta with
      | some entry => buf.pushStateSyncAt ac entry
      | none => some buf

end StateSyncBuffer

def OpponentChoiceBuffer.pushFact (buf : OpponentChoiceBuffer)
    (fact : Nat × BufferedFact) : Option OpponentChoiceBuffer :=
  match fact.2.choiceEntry fact.1 with
  | some entry => buf.pushOpponentChoice entry
  | none => some buf

/-- `apply_choice_buffer`: every delta is logged before the first choice;
`none` is a panic. -/
def ClientLogs.applyChoiceBuffer (logs : ClientLogs)
    (buffer : List (Nat × BufferedFact)) : Option ClientLogs := do
  let stateSync ← buffer.foldlM StateSyncBuffer.pushFact logs.stateSync
  let opponentChoices ←
    buffer.foldlM OpponentChoiceBuffer.pushFact logs.opponentChoices
  some { logs with stateSync, opponentChoices }

theorem stateSyncEntriesEquivalent_self (entry : StateSyncEntry) :
    stateSyncEntriesEquivalent entry entry = true := by
  cases entry with
  | revealCard owner card reason => simp [stateSyncEntriesEquivalent]
  | libraryReorder player newOrder => simp [stateSyncEntriesEquivalent]
  | digDecision digger kept => simp [stateSyncEntriesEquivalent]
  | searchCandidates searcher cards =>
      have hsame : (cards.zip cards).all (fun pair =>
          pair.1.cardId == pair.2.cardId && pair.1.name == pair.2.name) =
            true := by
        rw [List.all_eq_true]
        intro pair hmem
        induction cards with
        | nil => simp at hmem
        | cons card cards ih =>
            rw [List.zip_cons_cons, List.mem_cons] at hmem
            rcases hmem with rfl | hmem
            · simp
            · exact ih hmem
      simpa [stateSyncEntriesEquivalent] using hsame

namespace ActionLog

variable {T : Type}

/-- The log has exactly one entry at this position, which is as told. -/
def OnceAt (log : ActionLog T) (key : Nat) (P : T → Prop) : Prop :=
  ∃ entry, P entry ∧
    log.entries.filter (fun logged => logged.1 == key) = [(key, entry)]

theorem onceAt_of_get {log : ActionLog T} {key : Nat} {entry : T}
    (hget : log.get key = some entry) {P : T → Prop} (htold : P entry) :
    log.OnceAt key P := by
  refine ⟨entry, htold, ?_⟩
  have hmem : (key, entry) ∈ log.entries.filter fun logged =>
      logged.1 == key := by
    rw [List.mem_filter]
    exact ⟨get_eq_some_iff.mp hget, by simp⟩
  have hsorted := log.ascending.filter fun logged => logged.1 == key
  have hkeys : ∀ logged ∈ log.entries.filter (fun logged => logged.1 == key),
      logged.1 = key := by
    intro logged hlogged
    simpa using (List.mem_filter.mp hlogged).2
  revert hmem hsorted hkeys
  generalize log.entries.filter (fun logged => logged.1 == key) = found
  intro hmem hsorted hkeys
  rcases found with - | ⟨first, - | ⟨second, rest⟩⟩
  · cases hmem
  · rw [List.mem_singleton.mp hmem]
  · have hlt := List.rel_of_pairwise_cons hsorted List.mem_cons_self
    have hfirst := hkeys first (by simp)
    have hsecond := hkeys second (by simp)
    omega

theorem get_of_insertSorted {log log' : ActionLog T} {key : Nat} {entry : T}
    (hinsert : log.insertSorted key entry = some log') (other : Nat) :
    log'.get other = if key = other then some entry else log.get other := by
  rw [get, insertSorted_eq_some hinsert, SortedMap.lookup_insert]
  rfl

theorem insertSorted_of_get {log : ActionLog T} {key : Nat}
    (hnone : log.get key = none) (entry : T) :
    ∃ log', log.insertSorted key entry = some log' := by
  rw [insertSorted, hnone]
  exact ⟨_, rfl⟩

theorem get_of_onceAt {log : ActionLog T} {key : Nat} {P : T → Prop}
    (honce : log.OnceAt key P) :
    ∃ entry, P entry ∧ log.get key = some entry := by
  obtain ⟨entry, htold, hfound⟩ := honce
  refine ⟨entry, htold, get_eq_some_iff.mpr ?_⟩
  have hmem : (key, entry) ∈ log.entries.filter fun logged =>
      logged.1 == key := by
    rw [hfound]
    exact List.mem_singleton_self _
  exact (List.mem_filter.mp hmem).1

end ActionLog

namespace StateSyncBuffer

/-- The log of the class of a delta. -/
def logOf (buf : StateSyncBuffer) (entry : StateSyncEntry) :
    ActionLog StateSyncEntry :=
  if entry.isLibraryReorder then buf.reorderLog else buf.revealLog

/-- How far the class of a delta is applied. -/
def cursorOf (buf : StateSyncBuffer) (entry : StateSyncEntry) : Nat :=
  if entry.isLibraryReorder then buf.lastAppliedReorderAc
  else buf.lastAppliedRevealAc

/-- A batch of deltas that a client can log: at each position one delta, which
is there already or is not behind the cursor. -/
structure Fits (buf : StateSyncBuffer) (deltas : List (Nat × StateSyncEntry)) :
    Prop where
  apart : deltas.Pairwise fun delta later =>
    delta.2.isLibraryReorder = later.2.isLibraryReorder →
      delta.1 = later.1 → stateSyncEntriesEquivalent delta.2 later.2 = true
  resent : ∀ delta ∈ deltas, ∀ existing,
    (buf.logOf delta.2).get delta.1 = some existing →
      stateSyncEntriesEquivalent existing delta.2 = true
  ahead : ∀ delta ∈ deltas, (buf.logOf delta.2).get delta.1 = none →
    buf.cursorOf delta.2 ≤ delta.1

theorem fits_nil (buf : StateSyncBuffer) : buf.Fits [] where
  apart := .nil
  resent _ hmem := nomatch hmem
  ahead _ hmem := nomatch hmem

/-- What a push that does not panic leaves. -/
structure Pushed (buf after : StateSyncBuffer) (delta : Nat × StateSyncEntry) :
    Prop where
  cursor : ∀ entry, after.cursorOf entry = buf.cursorOf entry
  get : ∀ entry key, (after.logOf entry).get key =
    if entry.isLibraryReorder = delta.2.isLibraryReorder ∧ delta.1 = key then
      some (((buf.logOf delta.2).get delta.1).getD delta.2)
    else (buf.logOf entry).get key

variable {buf after : StateSyncBuffer} {delta other : Nat × StateSyncEntry}
  {deltas : List (Nat × StateSyncEntry)}

theorem pushStateSyncAt_of_fits
    (hfits : buf.Fits deltas) (hmem : delta ∈ deltas) :
    ∃ after, buf.pushStateSyncAt delta.1 delta.2 = some after ∧
      buf.Pushed after delta := by
  have hresent := hfits.resent delta hmem
  have hahead := hfits.ahead delta hmem
  obtain ⟨key, entry⟩ := delta
  cases hget : (buf.logOf entry).get key with
  | some existing =>
      refine ⟨buf, ?_, fun _ => rfl, ?_⟩
      · have heq := hresent existing hget
        rw [logOf] at hget
        simp only [pushStateSyncAt, hget, heq, if_true]
      · intro other key'
        dsimp only
        split
        · next hsame =>
          obtain ⟨hclass, rfl⟩ := hsame
          rw [hget, logOf, hclass]
          exact hget
        · rfl
  | none =>
      obtain ⟨log, hinsert⟩ := ActionLog.insertSorted_of_get hget entry
      have hcursor := hahead hget
      have hlog := ActionLog.get_of_insertSorted hinsert
      rw [logOf] at hget hinsert hlog
      rw [cursorOf] at hcursor
      cases hclass : entry.isLibraryReorder with
      | true =>
          simp only [hclass, if_true] at hget hinsert hlog hcursor
          refine ⟨{ buf with reorderLog := log }, ?_, fun _ => rfl, ?_⟩
          · simp only [pushStateSyncAt, hclass, if_true, hget, hcursor,
              hinsert, Option.map_some]
          · intro other key'
            cases hother : other.isLibraryReorder <;>
              simp [logOf, hclass, hother, hlog, hget]
      | false =>
          simp only [hclass, Bool.false_eq_true, if_false]
            at hget hinsert hlog hcursor
          refine ⟨{ buf with revealLog := log }, ?_, fun _ => rfl, ?_⟩
          · simp only [pushStateSyncAt, hclass, Bool.false_eq_true, if_false,
              hget, hcursor, if_true, hinsert, Option.map_some]
          · intro other key'
            cases hother : other.isLibraryReorder <;>
              simp [logOf, hclass, hother, hlog, hget]

/-- The delta is in the log of its class exactly once. -/
def Holds (buf : StateSyncBuffer) (delta : Nat × StateSyncEntry) : Prop :=
  (buf.logOf delta.2).OnceAt delta.1 fun existing =>
    stateSyncEntriesEquivalent existing delta.2 = true

theorem logOf_congr {entry entry' : StateSyncEntry}
    (hclass : entry.isLibraryReorder = entry'.isLibraryReorder) :
    buf.logOf entry = buf.logOf entry' := by
  rw [logOf, logOf, hclass]

theorem Pushed.holds (hfits : buf.Fits (delta :: deltas))
    (hpushed : buf.Pushed after delta) : after.Holds delta := by
  have hget := hpushed.get delta.2 delta.1
  rw [if_pos ⟨rfl, rfl⟩] at hget
  refine ActionLog.onceAt_of_get hget ?_
  cases hbefore : (buf.logOf delta.2).get delta.1 with
  | some existing =>
      exact hfits.resent delta List.mem_cons_self existing hbefore
  | none => exact stateSyncEntriesEquivalent_self delta.2

theorem Pushed.keeps (hpushed : buf.Pushed after delta)
    (hholds : buf.Holds other) : after.Holds other := by
  obtain ⟨existing, hsame, hget⟩ := ActionLog.get_of_onceAt hholds
  have hafter := hpushed.get other.2 other.1
  split at hafter
  · next hplace =>
    obtain ⟨hclass, hkey⟩ := hplace
    rw [← logOf_congr hclass, hkey, hget] at hafter
    exact ActionLog.onceAt_of_get hafter hsame
  · exact ActionLog.onceAt_of_get (hafter.trans hget) hsame

theorem Pushed.fits_rest (hfits : buf.Fits (delta :: deltas))
    (hpushed : buf.Pushed after delta) : after.Fits deltas := by
  obtain ⟨hfirst, hapart⟩ := List.pairwise_cons.mp hfits.apart
  refine ⟨hapart, ?_, ?_⟩
  · intro later hmem existing hget
    rw [hpushed.get] at hget
    have hresent := hfits.resent later (List.mem_cons_of_mem delta hmem)
    split at hget
    · next hplace =>
      obtain ⟨hclass, hkey⟩ := hplace
      cases hbefore : (buf.logOf delta.2).get delta.1 with
      | some old =>
          rw [hbefore, Option.getD_some, Option.some_inj] at hget
          subst hget
          apply hresent
          rw [logOf_congr hclass, ← hkey]
          exact hbefore
      | none =>
          rw [hbefore, Option.getD_none, Option.some_inj] at hget
          subst hget
          exact hfirst later hmem hclass.symm hkey
    · exact hresent existing hget
  · intro later hmem hget
    rw [hpushed.get] at hget
    split at hget
    · cases hget
    · rw [hpushed.cursor]
      exact hfits.ahead later (List.mem_cons_of_mem delta hmem) hget

end StateSyncBuffer

/-- A fact as a delta at its position. -/
def factDelta (fact : Nat × BufferedFact) : Option (Nat × StateSyncEntry) :=
  fact.2.delta.map fun entry => (fact.1, entry)

/-- No library reorder stands at 0. -/
def MidGame (facts : List (Nat × BufferedFact)) : Prop :=
  ∀ fact ∈ facts, ∀ player newOrder,
    fact.2 = .libraryReorder player newOrder → fact.1 ≠ 0

namespace StateSyncBuffer

variable {buf : StateSyncBuffer}

theorem pushFact_eq {fact : Nat × BufferedFact} (hgame : MidGame [fact]) :
    buf.pushFact fact =
      match factDelta fact with
      | some delta => buf.pushStateSyncAt delta.1 delta.2
      | none => some buf := by
  obtain ⟨ac, fact⟩ := fact
  cases fact with
  | libraryReorder player newOrder =>
      have hne := hgame _ (List.mem_singleton_self _) player newOrder rfl
      exact if_neg hne
  | _ => rfl

/-- A batch of facts that fits is logged, and nothing that was logged is
lost. -/
theorem foldlM_pushFact {facts : List (Nat × BufferedFact)}
    (hgame : MidGame facts) (hfits : buf.Fits (facts.filterMap factDelta)) :
    ∃ after, facts.foldlM pushFact buf = some after ∧
      (∀ delta ∈ facts.filterMap factDelta, after.Holds delta) ∧
      ∀ delta, buf.Holds delta → after.Holds delta := by
  induction facts generalizing buf with
  | nil => exact ⟨buf, rfl, by simp, fun _ hholds => hholds⟩
  | cons fact facts ih =>
      have hfirst : MidGame [fact] := by
        intro other hmem
        rw [List.mem_singleton.mp hmem]
        exact hgame fact List.mem_cons_self
      have hrest : MidGame facts := fun other hmem =>
        hgame other (List.mem_cons_of_mem fact hmem)
      have hpush := @pushFact_eq buf fact hfirst
      rw [List.foldlM_cons]
      cases hdelta : factDelta fact with
      | none =>
          rw [hdelta] at hpush
          rw [List.filterMap_cons_none hdelta] at hfits ⊢
          rw [hpush]
          exact ih hrest hfits
      | some delta =>
          rw [hdelta] at hpush
          rw [List.filterMap_cons_some hdelta] at hfits ⊢
          obtain ⟨next, hnext, hpushed⟩ :=
            pushStateSyncAt_of_fits hfits List.mem_cons_self
          obtain ⟨after, hafter, hholds, hkeeps⟩ :=
            ih hrest (hpushed.fits_rest hfits)
          refine ⟨after, ?_, ?_, ?_⟩
          · rw [hpush.trans hnext]
            exact hafter
          · rw [List.forall_mem_cons]
            exact ⟨hkeeps delta (hpushed.holds hfits), hholds⟩
          · intro other hother
            exact hkeeps other (hpushed.keeps hother)

end StateSyncBuffer

namespace OpponentChoiceBuffer

variable {buf after : OpponentChoiceBuffer} {entry : ChoiceEntry}

/-- A batch of choices that a client can log: their numbers ascend, from above
the logged ones. -/
structure Fits (buf : OpponentChoiceBuffer) (entries : List ChoiceEntry) :
    Prop where
  ascending : entries.Pairwise fun entry later =>
    entry.choiceSeq < later.choiceSeq
  beyond : ∀ entry ∈ entries, ∀ logged ∈ buf.log.entries,
    logged.1 < entry.choiceSeq.toNat

/-- The choice is in the log exactly once. -/
def Holds (buf : OpponentChoiceBuffer) (entry : ChoiceEntry) : Prop :=
  buf.log.OnceAt entry.choiceSeq.toNat fun logged => logged = entry

theorem holds_of_mem
    (hmem : (entry.choiceSeq.toNat, entry) ∈ buf.log.entries) :
    buf.Holds entry :=
  ActionLog.onceAt_of_get (ActionLog.get_eq_some_iff.mpr hmem) rfl

theorem mem_of_holds (hholds : buf.Holds entry) :
    (entry.choiceSeq.toNat, entry) ∈ buf.log.entries := by
  obtain ⟨logged, rfl, hget⟩ := ActionLog.get_of_onceAt hholds
  exact ActionLog.get_eq_some_iff.mp hget

theorem pushOpponentChoice_of_beyond
    (hbeyond : ∀ logged ∈ buf.log.entries, logged.1 < entry.choiceSeq.toNat) :
    ∃ after, buf.pushOpponentChoice entry = some after ∧
      after.log.entries =
        buf.log.entries ++ [(entry.choiceSeq.toNat, entry)] := by
  have hget : buf.log.get entry.choiceSeq.toNat = none := by
    rw [Option.eq_none_iff_forall_ne_some]
    intro old hold
    exact absurd (hbeyond _ (ActionLog.get_eq_some_iff.mp hold))
      (Nat.lt_irrefl _)
  have hlast : ∀ last ∈ buf.log.entries.getLast?,
      last.1 < entry.choiceSeq.toNat :=
    fun last hlast => hbeyond last (List.mem_of_getLast? hlast)
  refine ⟨{ buf with log := ⟨_, buf.log.ascending.concat hlast⟩ }, ?_, rfl⟩
  rw [pushOpponentChoice]
  simp only [hget, ActionLog.push, dif_pos hlast, Option.map_some]

/-- A fact as an entry of the opponent-choice log. -/
def entryOf (fact : Nat × BufferedFact) : Option ChoiceEntry :=
  fact.2.choiceEntry fact.1

theorem foldlM_pushFact {facts : List (Nat × BufferedFact)}
    (hfits : buf.Fits (facts.filterMap entryOf)) :
    ∃ after, facts.foldlM pushFact buf = some after ∧
      (∀ entry ∈ facts.filterMap entryOf, after.Holds entry) ∧
      ∀ entry, buf.Holds entry → after.Holds entry := by
  induction facts generalizing buf with
  | nil => exact ⟨buf, rfl, by simp, fun _ hholds => hholds⟩
  | cons fact facts ih =>
      have hpush : buf.pushFact fact =
          match entryOf fact with
          | some entry => buf.pushOpponentChoice entry
          | none => some buf := rfl
      rw [List.foldlM_cons]
      cases hentry : entryOf fact with
      | none =>
          rw [hentry] at hpush
          rw [List.filterMap_cons_none hentry] at hfits ⊢
          rw [hpush]
          exact ih hfits
      | some entry =>
          rw [hentry] at hpush
          rw [List.filterMap_cons_some hentry] at hfits ⊢
          obtain ⟨next, hnext, hentries⟩ := pushOpponentChoice_of_beyond
            (hfits.beyond entry List.mem_cons_self)
          obtain ⟨hfirst, hascending⟩ := List.pairwise_cons.mp hfits.ascending
          have hrest : next.Fits (facts.filterMap entryOf) := by
            refine ⟨hascending, ?_⟩
            intro later hmem logged hlogged
            rw [hentries, List.mem_append, List.mem_singleton] at hlogged
            rcases hlogged with hlogged | rfl
            · exact hfits.beyond later (List.mem_cons_of_mem entry hmem) logged
                hlogged
            · exact UInt32.lt_iff_toNat_lt.mp (hfirst later hmem)
          have hgrown {logged : ChoiceEntry} (hholds : buf.Holds logged) :
              next.Holds logged := by
            apply holds_of_mem
            rw [hentries]
            exact List.mem_append_left _ (mem_of_holds hholds)
          have hnew : next.Holds entry := by
            apply holds_of_mem
            rw [hentries]
            simp
          obtain ⟨after, hafter, hholds, hkeeps⟩ := ih hrest
          refine ⟨after, ?_, ?_, ?_⟩
          · rw [hpush.trans hnext]
            exact hafter
          · rw [List.forall_mem_cons]
            exact ⟨hkeeps entry hnew, hholds⟩
          · intro logged hlogged
            exact hkeeps logged (hgrown hlogged)

end OpponentChoiceBuffer

namespace ClientLogs

variable {logs : ClientLogs} {buffer : List (Nat × BufferedFact)}

/-- A buffer that the logs of a client can take. -/
structure Fits (logs : ClientLogs) (buffer : List (Nat × BufferedFact)) :
    Prop where
  midGame : MidGame buffer
  deltas : logs.stateSync.Fits (buffer.filterMap factDelta)
  choices : logs.opponentChoices.Fits
    (buffer.filterMap OpponentChoiceBuffer.entryOf)

/-- The fact is in the state-sync log or in the opponent-choice log, once. -/
def Logged (logs : ClientLogs) (fact : Nat × BufferedFact) : Prop :=
  (∃ delta, factDelta fact = some delta ∧ logs.stateSync.Holds delta) ∨
    ∃ entry, OpponentChoiceBuffer.entryOf fact = some entry ∧
      logs.opponentChoices.Holds entry

/-- A buffer that fits is logged, fact by fact. -/
theorem applyChoiceBuffer_of_fits (hfits : logs.Fits buffer) :
    ∃ after, logs.applyChoiceBuffer buffer = some after ∧
      (∀ fact ∈ buffer, after.Logged fact) ∧
      ∀ fact, logs.Logged fact → after.Logged fact := by
  obtain ⟨stateSync, hsync, hdeltas, hkeptDeltas⟩ :=
    StateSyncBuffer.foldlM_pushFact hfits.midGame hfits.deltas
  obtain ⟨opponentChoices, hchoices, hentries, hkeptEntries⟩ :=
    OpponentChoiceBuffer.foldlM_pushFact hfits.choices
  refine ⟨{ logs with stateSync, opponentChoices }, ?_, ?_, ?_⟩
  · rw [applyChoiceBuffer, hsync, Option.bind_eq_bind, Option.bind_some,
      hchoices]
    rfl
  · intro fact hmem
    cases hdelta : factDelta fact with
    | some delta =>
        exact .inl ⟨delta, hdelta,
          hdeltas delta (List.mem_filterMap.mpr ⟨fact, hmem, hdelta⟩)⟩
    | none =>
        cases hentry : OpponentChoiceBuffer.entryOf fact with
        | some entry =>
            exact .inr ⟨entry, hentry,
              hentries entry (List.mem_filterMap.mpr ⟨fact, hmem, hentry⟩)⟩
        | none =>
            obtain ⟨ac, fact⟩ := fact
            cases fact <;> cases hdelta
            cases hentry
  · rintro fact (⟨delta, hdelta, hholds⟩ | ⟨entry, hentry, hholds⟩)
    · exact .inl ⟨delta, hdelta, hkeptDeltas delta hholds⟩
    · exact .inr ⟨entry, hentry, hkeptEntries entry hholds⟩

end ClientLogs

end DeepScry
