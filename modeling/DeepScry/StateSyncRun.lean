/-
Runs of the state-sync log.  As long as no new delta lands on the cursor of its
class, each delta that comes within its bound is applied once.
-/
import DeepScry.StateSync

namespace DeepScry

open LogReader

namespace StateSyncBuffer

variable {buf buf' : StateSyncBuffer}

/-- A new delta that arrives behind the cursor of its class; before the first
reveal is applied there is no such cursor for reveals. -/
def Beyond (buf : StateSyncBuffer) (actionCount : Nat)
    (entry : StateSyncEntry) : Prop :=
  if entry.isLibraryReorder then buf.lastAppliedReorderAc < actionCount
  else buf.anyRevealApplied = true → buf.lastAppliedRevealAc < actionCount

instance (buf : StateSyncBuffer) (actionCount : Nat)
    (entry : StateSyncEntry) : Decidable (buf.Beyond actionCount entry) :=
  inferInstanceAs (Decidable (ite _ _ _))

/-- The delta was logged before. -/
def Resent (buf : StateSyncBuffer) (actionCount : Nat)
    (entry : StateSyncEntry) : Prop :=
  ((if entry.isLibraryReorder then buf.reorderLog else buf.revealLog).get
    actionCount).isSome

theorem reorders_eq_window (targetAction : Nat) :
    buf.reorders targetAction =
      window (WithBot.some buf.lastAppliedReorderAc)
        (WithBot.some (buf.reorderBound targetAction)) buf.reorderLog.entries := by
  simp only [reorders, window, WithBot.coe_lt_coe, WithBot.coe_le_coe]

theorem reveals_eq_window (watermark : Nat) :
    buf.reveals watermark =
      window buf.revealCursor (WithBot.some (buf.revealBound watermark))
        buf.revealLog.entries := by
  rw [reveals, window, revealCursor]
  cases buf.anyRevealApplied <;>
    simp [WithBot.coe_lt_coe, WithBot.coe_le_coe, WithBot.bot_lt_coe]

theorem revealCursor_lt_iff {entry : StateSyncEntry} {actionCount : Nat}
    (hreveal : entry.isLibraryReorder = false) :
    buf.revealCursor < (WithBot.some actionCount) ↔
      buf.Beyond actionCount entry := by
  rw [Beyond, hreveal, revealCursor]
  cases buf.anyRevealApplied <;> simp

/-- What a push does that does not panic. -/
theorem pushStateSyncAt_cases {actionCount : Nat} {entry : StateSyncEntry}
    (hpush : buf.pushStateSyncAt actionCount entry = some buf') :
    (buf' = buf ∧ buf.Resent actionCount entry) ∨
    (entry.isLibraryReorder = true ∧ buf.lastAppliedReorderAc ≤ actionCount ∧
      ¬buf.Resent actionCount entry ∧
      ∃ log, buf.reorderLog.insertSorted actionCount entry = some log ∧
        buf' = { buf with reorderLog := log }) ∨
    (entry.isLibraryReorder = false ∧ buf.lastAppliedRevealAc ≤ actionCount ∧
      ¬buf.Resent actionCount entry ∧
      ∃ log, buf.revealLog.insertSorted actionCount entry = some log ∧
        buf' = { buf with revealLog := log }) := by
  rw [pushStateSyncAt] at hpush
  rw [Resent]
  cases hclass : entry.isLibraryReorder <;>
    simp only [hclass, Bool.false_eq_true, ↓reduceIte] at hpush ⊢ <;>
    split at hpush
  · next hget =>
    split at hpush
    · cases hpush
      exact Or.inl ⟨rfl, by rw [hget]; rfl⟩
    · cases hpush
  · next hget =>
    split at hpush
    · next hcursor =>
      obtain ⟨log, hinsert, rfl⟩ := Option.map_eq_some_iff.mp hpush
      exact Or.inr (Or.inr ⟨trivial, hcursor, by rw [hget]; decide, log,
        hinsert, rfl⟩)
    · cases hpush
  · next hget =>
    split at hpush
    · cases hpush
      exact Or.inl ⟨rfl, by rw [hget]; rfl⟩
    · cases hpush
  · next hget =>
    split at hpush
    · next hcursor =>
      obtain ⟨log, hinsert, rfl⟩ := Option.map_eq_some_iff.mp hpush
      exact Or.inr (Or.inl ⟨trivial, hcursor, by rw [hget]; decide, log,
        hinsert, rfl⟩)
    · cases hpush

theorem applyInitialLibraryOrders_eq (shadow : ShadowGame) :
    (buf.applyInitialLibraryOrders shadow).1 =
      { buf with initialLibraryApplied := true } := by
  rw [applyInitialLibraryOrders]
  split
  · next happlied => rw [← happlied]
  · rfl

section Apply

variable (processCardReveal :
  GameState → PlayerId → CardReveal → RevealReason → GameState)

/-- The windows are what the call applies to the shadow game, and counts. -/
theorem applyStateSyncUpToFrontier_shadow (shadow : ShadowGame)
    (watermark targetAction : Nat) :
    (buf.applyStateSyncUpToFrontier processCardReveal shadow watermark
      targetAction).2 =
      ((buf.reveals watermark).foldl (applyReveal processCardReveal)
        ((buf.reorders targetAction).foldl applyReorder
          (buf.applyInitialLibraryOrders shadow).2),
        (buf.reorders targetAction).length +
          (buf.reveals watermark).length) := by
  have hreorders :
      (buf.applyInitialLibraryOrders shadow).1.reorders targetAction =
        buf.reorders targetAction := by
    rw [applyInitialLibraryOrders_eq]
    rfl
  have hreveals :
      (buf.applyInitialLibraryOrders shadow).1.reveals watermark =
        buf.reveals watermark := by
    rw [applyInitialLibraryOrders_eq]
    rfl
  simp only [applyStateSyncUpToFrontier, hreorders, hreveals]
  split
  · next hempty =>
    rw [Bool.and_eq_true, List.isEmpty_iff, List.isEmpty_iff] at hempty
    rw [hempty.1, hempty.2]
    rfl
  · rfl

/-- Where the call leaves the cursors. -/
theorem applyStateSyncUpToFrontier_buffer (shadow : ShadowGame)
    (watermark targetAction : Nat) :
    (buf.applyStateSyncUpToFrontier processCardReveal shadow watermark
      targetAction).1 =
      if buf.reorders targetAction = [] ∧ buf.reveals watermark = [] then
        { buf with initialLibraryApplied := true }
      else
        { buf with
          initialLibraryApplied := true
          lastAppliedReorderAc :=
            max buf.lastAppliedReorderAc (buf.reorderBound targetAction)
          lastAppliedRevealAc :=
            max buf.lastAppliedRevealAc (buf.revealBound watermark)
          anyRevealApplied :=
            !(buf.reveals watermark).isEmpty || buf.anyRevealApplied } := by
  have hinitial := @applyInitialLibraryOrders_eq buf shadow
  rw [applyStateSyncUpToFrontier]
  generalize buf.applyInitialLibraryOrders shadow = started at hinitial
  obtain ⟨buf', shadow'⟩ := started
  cases hinitial
  simp only [Bool.and_eq_true, List.isEmpty_iff]
  split
  · next hempty => exact (if_pos hempty).symm
  · next hsome => exact (if_neg hsome).symm

end Apply

/-- The deltas within a bound of the caller are those within the bound of the
call: none lies past the frontier. -/
theorem due_eq_upTo (log : ActionLog StateSyncEntry) (bound : Nat) :
    (log.entries.filter fun (ac, _) => decide (ac ≤ bound)) =
      upTo (WithBot.some (min bound (log.frontier.getD 0)))
        log.entries := by
  apply List.filter_congr
  intro delta hmem
  apply decide_eq_decide.mpr
  rw [WithBot.coe_le_coe, le_min_iff]
  exact ⟨fun hle => ⟨hle, ActionLog.le_frontier hmem⟩, And.left⟩

end StateSyncBuffer

/-- A client in the middle of a run.  The last four fields record, since the
last reset, the deltas of each class that were applied, and those that were
within their bound at a call that applies. -/
structure SyncRun where
  buffer : StateSyncBuffer := {}
  maxReceivedChoiceAc : Nat := 0
  shadow : ShadowGame
  appliedReorders : List (Nat × StateSyncEntry) := []
  appliedReveals : List (Nat × StateSyncEntry) := []
  dueReorders : List (Nat × StateSyncEntry) := []
  dueReveals : List (Nat × StateSyncEntry) := []

/-- `engine` is whatever else happens to the shadow game. -/
inductive SyncOp where
  | push (actionCount : Nat) (entry : StateSyncEntry)
  | addInitialLibraryOrder (player : PlayerId) (newOrder : List CardId)
  | noteReceivedChoiceAc (actionCount : Nat)
  | applyUpTo (targetAction : Nat)
  | reset
  | engine (change : ShadowGame → ShadowGame)

section Runs

variable (processCardReveal :
  GameState → PlayerId → CardReveal → RevealReason → GameState)

/-- One call; `none` is a panic. -/
def SyncOp.apply (run : SyncRun) : SyncOp → Option SyncRun
  | .push actionCount entry =>
      (run.buffer.pushStateSyncAt actionCount entry).map fun buffer =>
        { run with buffer := buffer }
  | .addInitialLibraryOrder player newOrder =>
      some { run with
        buffer := run.buffer.addInitialLibraryOrder player newOrder }
  | .noteReceivedChoiceAc actionCount =>
      some { run with
        maxReceivedChoiceAc := max run.maxReceivedChoiceAc actionCount }
  | .applyUpTo targetAction =>
      let result :=
        run.buffer.applyStateSyncUpToFrontier processCardReveal run.shadow
          run.maxReceivedChoiceAc targetAction
      some { run with
        buffer := result.1
        shadow := result.2.1
        appliedReorders :=
          run.appliedReorders ++ run.buffer.reorders targetAction
        appliedReveals :=
          run.appliedReveals ++ run.buffer.reveals run.maxReceivedChoiceAc
        dueReorders := run.dueReorders ++
          run.buffer.reorderLog.entries.filter fun (ac, _) =>
            decide (ac ≤ targetAction)
        dueReveals := run.dueReveals ++
          run.buffer.revealLog.entries.filter fun (ac, _) =>
            decide (ac ≤ run.maxReceivedChoiceAc) }
  | .reset =>
      some { run with
        buffer := run.buffer.resetStateSyncCursor
        appliedReorders := []
        appliedReveals := []
        dueReorders := []
        dueReveals := [] }
  | .engine change => some { run with shadow := change run.shadow }

/-- No new delta lands on the cursor of its class. -/
def SyncOp.Regular (run : SyncRun) : SyncOp → Prop
  | .push actionCount entry =>
      run.buffer.Resent actionCount entry ∨
        run.buffer.Beyond actionCount entry
  | _ => True

/-- Runs without a panic whose calls are all `ok`. -/
inductive SyncReaches (ok : SyncRun → SyncOp → Prop) : SyncRun → Prop where
  | start (shadow : ShadowGame) : SyncReaches ok { shadow := shadow }
  | step {run run' : SyncRun} (hreaches : SyncReaches ok run) (op : SyncOp)
      (hok : ok run op) (happly : op.apply processCardReveal run = some run') :
      SyncReaches ok run'

end Runs

namespace SyncRun

/-- Every delta within its bound was applied once, and the deltas of each class
in ascending order. -/
structure AppliedOnce (run : SyncRun) : Prop where
  reorders : ∀ delta ∈ run.dueReorders, delta ∈ run.appliedReorders ∧
    (run.appliedReorders.map Prod.fst).count delta.1 = 1
  reveals : ∀ delta ∈ run.dueReveals, delta ∈ run.appliedReveals ∧
    (run.appliedReveals.map Prod.fst).count delta.1 = 1
  reordersAscend : SortedMap.Sorted run.appliedReorders
  revealsAscend : SortedMap.Sorted run.appliedReveals

/-- What holds along a run: each class is a reader of its log. -/
structure InStep (run : SyncRun) : Prop where
  reorders : Reads run.buffer.reorderLog.entries
    (WithBot.some run.buffer.lastAppliedReorderAc) run.appliedReorders
    run.dueReorders
  reveals : Reads run.buffer.revealLog.entries run.buffer.revealCursor
    run.appliedReveals run.dueReveals
  positive : ∀ delta ∈ run.buffer.reorderLog.entries, 0 < delta.1
  cursor_le : run.buffer.lastAppliedRevealAc ≤
    run.buffer.revealBound run.maxReceivedChoiceAc

variable {run run' : SyncRun}

theorem InStep.appliedOnce (hinstep : run.InStep) : run.AppliedOnce where
  reorders _ hmem :=
    hinstep.reorders.once run.buffer.reorderLog.ascending hmem
  reveals _ hmem := hinstep.reveals.once run.buffer.revealLog.ascending hmem
  reordersAscend := hinstep.reorders.sorted run.buffer.reorderLog.ascending
  revealsAscend := hinstep.reveals.sorted run.buffer.revealLog.ascending

theorem InStep.start (shadow : ShadowGame) :
    InStep { shadow := shadow } := by
  refine ⟨.start ?_, .start ?_, ?_, Nat.zero_le _⟩ <;>
    intro delta hmem <;> cases hmem

theorem InStep.reset (hinstep : run.InStep) :
    InStep { run with
      buffer := run.buffer.resetStateSyncCursor
      appliedReorders := []
      appliedReveals := []
      dueReorders := []
      dueReveals := [] } := by
  refine ⟨.start fun delta hmem => ?_, .start fun delta _ => ?_,
    hinstep.positive, Nat.zero_le _⟩
  · exact WithBot.coe_lt_coe.mpr (hinstep.positive delta hmem)
  · exact WithBot.bot_lt_coe delta.1

/-- A push behind the cursor. -/
theorem InStep.push (hinstep : run.InStep) {actionCount : Nat}
    {entry : StateSyncEntry} {buffer : StateSyncBuffer}
    (hregular : run.buffer.Resent actionCount entry ∨
      run.buffer.Beyond actionCount entry)
    (hpush : run.buffer.pushStateSyncAt actionCount entry = some buffer) :
    InStep { run with buffer := buffer } := by
  rcases StateSyncBuffer.pushStateSyncAt_cases hpush with
    ⟨rfl, -⟩ | ⟨hclass, -, hnew, log, hinsert, rfl⟩ |
      ⟨hclass, -, hnew, log, hinsert, rfl⟩
  · exact hinstep
  · have hbeyond := hregular.resolve_left hnew
    rw [StateSyncBuffer.Beyond, if_pos hclass] at hbeyond
    have hentries := ActionLog.insertSorted_eq_some hinsert
    have hkept := fun delta => @ActionLog.subset_of_insertSorted _ _ _ _ _
      hinsert delta
    rw [hentries] at hkept
    refine ⟨?_, hinstep.reveals, fun delta hmem => ?_, hinstep.cursor_le⟩
    · change Reads log.entries _ _ _
      rw [hentries]
      exact hinstep.reorders.insert (WithBot.coe_lt_coe.mpr hbeyond) entry hkept
    · rw [hentries] at hmem
      rcases SortedMap.mem_insert hmem with rfl | hold
      · exact Nat.zero_lt_of_lt hbeyond
      · exact hinstep.positive delta hold
  · have hbeyond := (StateSyncBuffer.revealCursor_lt_iff hclass).mpr
      (hregular.resolve_left hnew)
    have hentries := ActionLog.insertSorted_eq_some hinsert
    have hkept := fun delta => @ActionLog.subset_of_insertSorted _ _ _ _ _
      hinsert delta
    have hfrontier := ActionLog.frontier_mono hkept
    rw [hentries] at hkept
    refine ⟨hinstep.reorders, ?_, hinstep.positive, ?_⟩
    · change Reads log.entries _ _ _
      rw [hentries]
      exact hinstep.reveals.insert hbeyond entry hkept
    · exact hinstep.cursor_le.trans (min_le_min_left _ hfrontier)

/-- One call that applies. -/
theorem InStep.applyUpTo (hinstep : run.InStep)
    {processCardReveal :
      GameState → PlayerId → CardReveal → RevealReason → GameState}
    {targetAction : Nat}
    (happly : (SyncOp.applyUpTo targetAction).apply processCardReveal run =
      some run') : run'.InStep := by
  have hreorders := hinstep.reorders.read run.buffer.reorderLog.ascending
    (WithBot.some (run.buffer.reorderBound targetAction))
  have hreveals := hinstep.reveals.read run.buffer.revealLog.ascending
    (WithBot.some (run.buffer.revealBound run.maxReceivedChoiceAc))
  have hreordersIdle := hinstep.reorders.idle run.buffer.reorderLog.ascending
    (WithBot.some (run.buffer.reorderBound targetAction))
  have hrevealsIdle := hinstep.reveals.idle run.buffer.revealLog.ascending
    (WithBot.some (run.buffer.revealBound run.maxReceivedChoiceAc))
  rw [← StateSyncBuffer.reorders_eq_window, StateSyncBuffer.reorderBound,
    ← StateSyncBuffer.due_eq_upTo] at hreorders hreordersIdle
  rw [← StateSyncBuffer.reveals_eq_window, StateSyncBuffer.revealBound,
    ← StateSyncBuffer.due_eq_upTo] at hreveals hrevealsIdle
  obtain rfl := Option.some.inj happly
  have hbuffer := @StateSyncBuffer.applyStateSyncUpToFrontier_buffer
    run.buffer processCardReveal run.shadow run.maxReceivedChoiceAc targetAction
  by_cases hempty : run.buffer.reorders targetAction = [] ∧
      run.buffer.reveals run.maxReceivedChoiceAc = []
  · rw [if_pos hempty] at hbuffer
    simp only [hbuffer, hempty.1, hempty.2, List.append_nil]
    exact ⟨hreordersIdle hempty.1, hrevealsIdle hempty.2, hinstep.positive,
      hinstep.cursor_le⟩
  · rw [if_neg hempty] at hbuffer
    simp only [hbuffer]
    have hbound : (max run.buffer.lastAppliedRevealAc
        (run.buffer.revealBound run.maxReceivedChoiceAc) : Nat) =
          run.buffer.revealBound run.maxReceivedChoiceAc :=
      max_eq_right hinstep.cursor_le
    refine ⟨hreorders, ?_, hinstep.positive, hbound.le⟩
    rw [hbound, StateSyncBuffer.revealCursor]
    rw [StateSyncBuffer.revealCursor] at hreveals hrevealsIdle
    cases hany : run.buffer.anyRevealApplied with
    | true =>
        simp only [hany, ↓reduceIte] at hreveals
        rw [Bool.or_true, if_pos rfl]
        have hcursor := WithBot.coe_le_coe.mpr hinstep.cursor_le
        rw [StateSyncBuffer.revealBound] at hcursor
        rwa [max_eq_right hcursor] at hreveals
    | false =>
        simp only [hany, Bool.false_eq_true, ↓reduceIte, bot_sup_eq]
          at hreveals hrevealsIdle
        rw [Bool.or_false]
        cases hwindow : run.buffer.reveals run.maxReceivedChoiceAc with
        | nil =>
            rw [List.append_nil]
            exact hrevealsIdle hwindow
        | cons delta rest =>
            rw [hwindow] at hreveals
            exact hreveals

/-- Each call keeps a client in step. -/
theorem InStep.step (hinstep : run.InStep)
    {processCardReveal :
      GameState → PlayerId → CardReveal → RevealReason → GameState}
    {op : SyncOp} (hregular : op.Regular run)
    (happly : op.apply processCardReveal run = some run') : run'.InStep := by
  cases op with
  | push actionCount entry =>
      obtain ⟨buffer, hpush, rfl⟩ := Option.map_eq_some_iff.mp happly
      exact hinstep.push hregular hpush
  | addInitialLibraryOrder player newOrder =>
      obtain rfl := Option.some.inj happly
      exact ⟨hinstep.reorders, hinstep.reveals, hinstep.positive,
        hinstep.cursor_le⟩
  | noteReceivedChoiceAc actionCount =>
      obtain rfl := Option.some.inj happly
      have hraised := hinstep.cursor_le.trans
        (min_le_min_right (run.buffer.revealLog.frontier.getD 0)
          (le_max_left run.maxReceivedChoiceAc actionCount))
      exact ⟨hinstep.reorders, hinstep.reveals, hinstep.positive, hraised⟩
  | applyUpTo targetAction => exact hinstep.applyUpTo happly
  | reset =>
      obtain rfl := Option.some.inj happly
      exact hinstep.reset
  | engine change =>
      obtain rfl := Option.some.inj happly
      exact ⟨hinstep.reorders, hinstep.reveals, hinstep.positive,
        hinstep.cursor_le⟩

end SyncRun

variable {processCardReveal :
  GameState → PlayerId → CardReveal → RevealReason → GameState}

theorem SyncReaches.inStep {run : SyncRun}
    (hreaches : SyncReaches processCardReveal
      (fun run op => op.Regular run) run) : run.InStep := by
  induction hreaches with
  | start shadow => exact .start shadow
  | step _ op hregular happly ih => exact ih.step hregular happly

namespace SyncRun

variable {run pushed : SyncRun}

/-- A new delta on the cursor is within its bound at the next call, and is left
out. -/
theorem InStep.not_appliedOnce (hinstep : run.InStep) {actionCount : Nat}
    {entry : StateSyncEntry}
    (hpush : (SyncOp.push actionCount entry).apply processCardReveal run =
      some pushed)
    (hirregular : ¬(SyncOp.push actionCount entry).Regular run) :
    ∃ applied, (SyncOp.applyUpTo actionCount).apply processCardReveal pushed =
      some applied ∧ ¬applied.AppliedOnce := by
  obtain ⟨hresent, hbeyond⟩ := not_or.mp hirregular
  obtain ⟨buffer, hbuffer, rfl⟩ := Option.map_eq_some_iff.mp hpush
  refine ⟨_, rfl, fun honce => ?_⟩
  rw [StateSyncBuffer.Resent] at hresent
  rw [StateSyncBuffer.Beyond] at hbeyond
  rcases StateSyncBuffer.pushStateSyncAt_cases hbuffer with
    ⟨-, hsent⟩ | ⟨hclass, -, -, log, hinsert, rfl⟩ |
      ⟨hclass, hcursor, -, log, hinsert, rfl⟩
  · exact hresent hsent
  · rw [if_pos hclass] at hresent hbeyond
    have hmem := ActionLog.mem_of_insertSorted hinsert
    have hdue : (actionCount, entry) ∈ run.dueReorders ++
        log.entries.filter fun (ac, _) => decide (ac ≤ actionCount) :=
      List.mem_append_right _
        (List.mem_filter.mpr ⟨hmem, decide_eq_true (le_refl actionCount)⟩)
    rcases List.mem_append.mp (honce.reorders _ hdue).1 with hold | hnew
    · rw [hinstep.reorders.applied] at hold
      exact hresent (Option.isSome_of_mem
        (ActionLog.get_eq_some_iff.mpr (mem_upTo.mp hold).1))
    · rw [StateSyncBuffer.reorders_eq_window] at hnew
      exact hbeyond (WithBot.coe_lt_coe.mp (mem_window.mp hnew).2.1)
  · rw [if_neg (Bool.eq_false_iff.mp hclass)] at hresent hbeyond
    obtain ⟨hany, hon⟩ := Classical.not_imp.mp hbeyond
    -- The cursor is one of the positions that the watermark has passed.
    have hwatermark : actionCount ≤ run.maxReceivedChoiceAc :=
      (not_lt.mp hon).trans (hinstep.cursor_le.trans (min_le_left _ _))
    have hmem := ActionLog.mem_of_insertSorted hinsert
    have hdue : (actionCount, entry) ∈ run.dueReveals ++
        log.entries.filter fun (ac, _) =>
          decide (ac ≤ run.maxReceivedChoiceAc) :=
      List.mem_append_right _
        (List.mem_filter.mpr ⟨hmem, decide_eq_true hwatermark⟩)
    rcases List.mem_append.mp (honce.reveals _ hdue).1 with hold | hnew
    · rw [hinstep.reveals.applied] at hold
      exact hresent (Option.isSome_of_mem
        (ActionLog.get_eq_some_iff.mpr (mem_upTo.mp hold).1))
    · rw [StateSyncBuffer.reveals_eq_window] at hnew
      have hlt := (mem_window.mp hnew).2.1
      rw [StateSyncBuffer.revealCursor, if_pos hany] at hlt
      exact hon (WithBot.coe_lt_coe.mp hlt)

end SyncRun

/-- A shadow game at the start. -/
def openingShadow : ShadowGame :=
  { game := { turn := { activePlayer := ⟨0⟩ } } }

end DeepScry
