/-
The buffer of the opponent's choices: entries keyed by their sequence number,
and a cursor that a replay sets back to zero.
-/
import DeepScry.ActionLog
import DeepScry.ClientControllers
import DeepScry.MoveRun

namespace DeepScry

/-- The key of an entry is its sequence number. -/
structure ChoiceEntry where
  choiceSeq : UInt32
  actionCount : Nat
  description : String
  payload : ChoicePayload
deriving DecidableEq

/-- `cursor` is the highest key handed out; `terminal` says that the
connection is closed. -/
structure OpponentChoiceBuffer where
  log : ActionLog ChoiceEntry := .new
  cursor : Nat := 0
  terminal : Bool := false

/-- What a take returns: an entry, nothing, or it waits. -/
inductive TakenChoice where
  | entry (entry : ChoiceEntry)
  | disconnected
  | waiting
deriving DecidableEq

namespace OpponentChoiceBuffer

/-- Append an entry; one that is there already is dropped, and two different
choices under one key panic. -/
def pushOpponentChoice (buf : OpponentChoiceBuffer) (entry : ChoiceEntry) :
    Option OpponentChoiceBuffer :=
  let key := entry.choiceSeq.toNat
  match buf.log.get key with
  | some existing =>
      if existing.payload.choiceIndices = entry.payload.choiceIndices then
        some buf
      else none
  | none => (buf.log.push key entry).map fun log => { buf with log := log }

/-- The first entry behind the cursor. -/
def next (buf : OpponentChoiceBuffer) : Option (Nat × ChoiceEntry) :=
  buf.log.entries.find? fun entry => decide (buf.cursor < entry.1)

def takeOpponentChoice (buf : OpponentChoiceBuffer) :
    OpponentChoiceBuffer × TakenChoice :=
  match buf.next with
  | some (seq, entry) => ({ buf with cursor := seq }, .entry entry)
  | none => (buf, if buf.terminal then .disconnected else .waiting)

def resetOpponentChoiceCursor (buf : OpponentChoiceBuffer) :
    OpponentChoiceBuffer :=
  { buf with cursor := 0 }

end OpponentChoiceBuffer

inductive ChoiceMove where
  | push (entry : ChoiceEntry)
  | take
  | reset
  | disconnect

/-- The buffer, with the distinct entries pushed to it and the entries taken
since the last reset. -/
structure ChoiceReplay where
  buffer : OpponentChoiceBuffer := {}
  pushed : List ChoiceEntry := []
  taken : List ChoiceEntry := []

namespace ChoiceReplay

def perform (replay : ChoiceReplay) : ChoiceMove → ChoiceReplay
  | .push entry =>
      { replay with
        buffer := (replay.buffer.pushOpponentChoice entry).getD replay.buffer
        pushed := if entry ∈ replay.pushed then replay.pushed
          else replay.pushed ++ [entry] }
  | .take =>
      match replay.buffer.takeOpponentChoice with
      | (buffer, .entry entry) =>
          { replay with buffer := buffer, taken := replay.taken ++ [entry] }
      | (buffer, _) => { replay with buffer := buffer }
  | .reset =>
      { replay with
        buffer := replay.buffer.resetOpponentChoiceCursor
        taken := [] }
  | .disconnect =>
      { replay with buffer := { replay.buffer with terminal := true } }

/-- A push is a re-delivery, or its sequence number is above all others. -/
def Enabled (replay : ChoiceReplay) : ChoiceMove → Prop
  | .push entry => entry ∈ replay.pushed ∨
      ∀ old ∈ replay.pushed, old.choiceSeq < entry.choiceSeq
  | _ => True

/-- The entries taken are the first ones in the order of their sequence
numbers, and a take that returns none has none left. -/
structure Exact (replay : ChoiceReplay) : Prop where
  ordered : replay.pushed.Pairwise fun entry entry' =>
    entry.choiceSeq < entry'.choiceSeq
  initial : replay.taken <+: replay.pushed
  complete : (∀ entry, replay.buffer.takeOpponentChoice.2 ≠ .entry entry) →
    replay.taken = replay.pushed

end ChoiceReplay

def choiceMachine : Machine ChoiceReplay ChoiceMove where
  enabled := ChoiceReplay.Enabled
  perform := ChoiceReplay.perform

/-- Every key is positive, and the entries up to the cursor are taken. -/
structure Keyed (replay : ChoiceReplay) : Prop where
  pushed : replay.pushed = replay.buffer.log.entries.map Prod.snd
  keys : ∀ entry ∈ replay.buffer.log.entries,
    entry.1 = entry.2.choiceSeq.toNat
  positive : ∀ entry ∈ replay.buffer.log.entries, 0 < entry.1
  taken : replay.taken =
    (LogReader.upTo (WithBot.some replay.buffer.cursor)
      replay.buffer.log.entries).map Prod.snd
  cursor : replay.buffer.cursor = 0 ∨
    ∃ entry ∈ replay.buffer.log.entries, entry.1 = replay.buffer.cursor

namespace OpponentChoiceBuffer

theorem next_eq (buf : OpponentChoiceBuffer) :
    buf.next = buf.log.entries.find? fun entry =>
      decide (WithBot.some buf.cursor < WithBot.some entry.1) := by
  simp only [WithBot.coe_lt_coe]
  rfl

end OpponentChoiceBuffer

section Keyed

variable {replay : ChoiceReplay} {entry : ChoiceEntry}

theorem Keyed.start : Keyed {} where
  pushed := rfl
  keys _ hmem := nomatch hmem
  positive _ hmem := nomatch hmem
  taken := rfl
  cursor := .inl rfl

/-- Without a zero key, the replay is exact. -/
theorem Keyed.exact (hkeyed : Keyed replay) : replay.Exact := by
  have hsorted := replay.buffer.log.ascending
  constructor
  · rw [hkeyed.pushed, List.pairwise_map]
    apply hsorted.imp_of_mem
    intro first second hfirst hsecond hlt
    rw [hkeyed.keys first hfirst, hkeyed.keys second hsecond] at hlt
    exact UInt32.lt_iff_toNat_lt.mpr hlt
  · rw [hkeyed.taken, hkeyed.pushed]
    exact (LogReader.upTo_initial hsorted _).map Prod.snd
  · intro hnothing
    have hnone : replay.buffer.next = none := by
      cases hnext : replay.buffer.next with
      | none => rfl
      | some found =>
          have htake := hnothing found.2
          rw [OpponentChoiceBuffer.takeOpponentChoice, hnext] at htake
          exact absurd rfl htake
    rw [OpponentChoiceBuffer.next_eq] at hnone
    rw [hkeyed.taken, hkeyed.pushed, LogReader.upTo_of_find?_none hnone]

theorem Keyed.take (hkeyed : Keyed replay) :
    Keyed (replay.perform .take) := by
  rw [ChoiceReplay.perform, OpponentChoiceBuffer.takeOpponentChoice]
  cases hnext : replay.buffer.next with
  | none =>
      dsimp only
      split
      · next hentry =>
        split at hentry <;> cases hentry
      · next hother =>
        cases hother
        exact hkeyed
  | some found =>
      have hsorted := replay.buffer.log.ascending
      rw [OpponentChoiceBuffer.next_eq] at hnext
      have hmem := List.mem_of_find?_eq_some hnext
      have hlt : WithBot.some replay.buffer.cursor < WithBot.some found.1 :=
        of_decide_eq_true (List.find?_some
          (p := fun entry : Nat × ChoiceEntry =>
            decide (WithBot.some replay.buffer.cursor < WithBot.some entry.1)) hnext)
      refine ⟨hkeyed.pushed, hkeyed.keys, hkeyed.positive, ?_,
        .inr ⟨found, hmem, rfl⟩⟩
      have hwindow := LogReader.window_of_find? hsorted hnext
      have hread : LogReader.upTo (WithBot.some replay.buffer.cursor)
          replay.buffer.log.entries ++ LogReader.window
            (WithBot.some replay.buffer.cursor) (WithBot.some found.1)
            replay.buffer.log.entries =
          LogReader.upTo (max (WithBot.some replay.buffer.cursor)
            (WithBot.some found.1)) replay.buffer.log.entries :=
        LogReader.upTo_append_window hsorted
      rw [hwindow, max_eq_right hlt.le] at hread
      dsimp only
      rw [hkeyed.taken, ← hread, List.map_append]
      rfl

/-- A cursor is below every new key. -/
theorem Keyed.cursor_lt (hkeyed : Keyed replay) (hpositive : entry.choiceSeq ≠ 0)
    (habove : ∀ old ∈ replay.pushed, old.choiceSeq < entry.choiceSeq) :
    replay.buffer.cursor < entry.choiceSeq.toNat := by
  rcases hkeyed.cursor with hzero | ⟨old, hold, heq⟩
  · rw [hzero, Nat.pos_iff_ne_zero]
    exact fun heq => hpositive (UInt32.toNat.inj heq)
  · rw [← heq, hkeyed.keys old hold, ← UInt32.lt_iff_toNat_lt]
    apply habove
    rw [hkeyed.pushed]
    exact List.mem_map_of_mem hold

theorem Keyed.get_of_mem (hkeyed : Keyed replay)
    (hmem : entry ∈ replay.pushed) :
    replay.buffer.log.get entry.choiceSeq.toNat = some entry := by
  rw [hkeyed.pushed] at hmem
  obtain ⟨old, hold, rfl⟩ := List.mem_map.mp hmem
  rw [ActionLog.get_eq_some_iff, ← hkeyed.keys old hold]
  exact hold

/-- A push of a new entry appends it. -/
theorem Keyed.perform_push (hkeyed : Keyed replay)
    (hnew : entry ∉ replay.pushed)
    (habove : ∀ old ∈ replay.pushed, old.choiceSeq < entry.choiceSeq) :
    ∃ log, log.entries =
        replay.buffer.log.entries ++ [(entry.choiceSeq.toNat, entry)] ∧
      replay.perform (.push entry) =
        { buffer := { replay.buffer with log := log }
          pushed := replay.pushed ++ [entry]
          taken := replay.taken } := by
  have hbelow : ∀ old ∈ replay.buffer.log.entries,
      old.1 < entry.choiceSeq.toNat := by
    intro old hold
    rw [hkeyed.keys old hold, ← UInt32.lt_iff_toNat_lt]
    apply habove
    rw [hkeyed.pushed]
    exact List.mem_map_of_mem hold
  have hget : replay.buffer.log.get entry.choiceSeq.toNat = none := by
    rw [Option.eq_none_iff_forall_ne_some]
    intro old hold
    exact absurd (hbelow _ (ActionLog.get_eq_some_iff.mp hold))
      (Nat.lt_irrefl _)
  have hlast : ∀ last ∈ replay.buffer.log.entries.getLast?,
      last.1 < entry.choiceSeq.toNat :=
    fun last hlast => hbelow last (List.mem_of_getLast? hlast)
  refine ⟨⟨_, replay.buffer.log.ascending.concat hlast⟩, rfl, ?_⟩
  rw [ChoiceReplay.perform, OpponentChoiceBuffer.pushOpponentChoice, hget,
    if_neg hnew, ActionLog.push, dif_pos hlast]
  rfl

/-- A push of a positive key. -/
theorem Keyed.push (hkeyed : Keyed replay)
    (henabled : replay.Enabled (.push entry))
    (hpositive : entry.choiceSeq ≠ 0) :
    Keyed (replay.perform (.push entry)) := by
  by_cases hmem : entry ∈ replay.pushed
  · rw [ChoiceReplay.perform, OpponentChoiceBuffer.pushOpponentChoice,
      hkeyed.get_of_mem hmem, if_pos hmem]
    dsimp only
    rw [if_pos rfl]
    exact hkeyed
  · have habove := henabled.resolve_left hmem
    have hbeyond := hkeyed.cursor_lt hpositive habove
    obtain ⟨log, hentries, hpush⟩ := hkeyed.perform_push hmem habove
    have hsplit {other : Nat × ChoiceEntry} (hother : other ∈ log.entries) :
        other ∈ replay.buffer.log.entries ∨
          other = (entry.choiceSeq.toNat, entry) := by
      rw [hentries, List.mem_append, List.mem_singleton] at hother
      exact hother
    rw [hpush]
    constructor
    · rw [hentries, hkeyed.pushed, List.map_append]
      rfl
    · intro other hother
      rcases hsplit hother with hold | rfl
      · exact hkeyed.keys other hold
      · rfl
    · intro other hother
      rcases hsplit hother with hold | rfl
      · exact hkeyed.positive other hold
      · exact Nat.zero_lt_of_lt hbeyond
    · dsimp only
      have hunread : ¬(WithBot.some entry.choiceSeq.toNat ≤
          WithBot.some replay.buffer.cursor) :=
        not_le.mpr (WithBot.coe_lt_coe.mpr hbeyond)
      rw [hentries, LogReader.upTo, List.filter_append, List.filter_cons,
        if_neg fun hle => hunread (of_decide_eq_true hle), hkeyed.taken,
        List.filter_nil, List.append_nil]
      rfl
    · rcases hkeyed.cursor with hzero | ⟨old, hold, heq⟩
      · exact .inl hzero
      · refine .inr ⟨old, ?_, heq⟩
        rw [hentries]
        exact List.mem_append_left _ hold

theorem Keyed.reset (hkeyed : Keyed replay) :
    Keyed (replay.perform .reset) where
  pushed := hkeyed.pushed
  keys := hkeyed.keys
  positive := hkeyed.positive
  taken := by
    have hnone : LogReader.upTo (WithBot.some (0 : Nat))
        replay.buffer.log.entries = [] := by
      apply List.filter_eq_nil_iff.mpr
      intro entry hentry hle
      have hkey := WithBot.coe_le_coe.mp (of_decide_eq_true hle)
      exact absurd (hkeyed.positive entry hentry) (Nat.not_lt.mpr hkey)
    exact (congrArg (List.map Prod.snd) hnone).symm
  cursor := .inl rfl

/-- A zero key is only pushed to an empty buffer, and is never taken. -/
theorem Keyed.push_zero (hkeyed : Keyed replay)
    (henabled : replay.Enabled (.push entry)) (hzero : entry.choiceSeq = 0) :
    ¬(replay.perform (.push entry)).Exact := by
  have hempty : replay.buffer.log.entries = [] := by
    apply List.eq_nil_iff_forall_not_mem.mpr
    intro old hold
    have hpushed : old.2 ∈ replay.pushed := by
      rw [hkeyed.pushed]
      exact List.mem_map_of_mem hold
    rcases henabled with hmem | habove
    · have hpositive := hkeyed.positive _
        (ActionLog.get_eq_some_iff.mp (hkeyed.get_of_mem hmem))
      rw [hzero] at hpositive
      exact absurd hpositive (Nat.lt_irrefl 0)
    · have hlt := habove old.2 hpushed
      rw [hzero] at hlt
      exact absurd hlt UInt32.not_lt_zero
  have hcursor : replay.buffer.cursor = 0 := by
    apply hkeyed.cursor.resolve_right
    rintro ⟨old, hold, -⟩
    rw [hempty] at hold
    cases hold
  have hpushed := hkeyed.pushed
  have htaken := hkeyed.taken
  rw [hempty] at hpushed htaken
  have hnew : entry ∉ replay.pushed := by
    rw [hpushed]
    exact List.not_mem_nil
  obtain ⟨log, hentries, hpush⟩ :=
    hkeyed.perform_push hnew (henabled.resolve_left hnew)
  rw [hpush]
  intro hexact
  have hall : replay.taken = replay.pushed ++ [entry] := by
    apply hexact.complete
    intro taken
    rw [OpponentChoiceBuffer.takeOpponentChoice, OpponentChoiceBuffer.next,
      hentries, hempty, hcursor, hzero]
    change (if _ then TakenChoice.disconnected else .waiting) ≠ _
    split <;> exact nofun
  rw [htaken, hpushed] at hall
  cases hall

end Keyed

/-- The opponent's choices are replayed exactly, as long as no sequence number
is zero. -/
theorem opponent_choices_exact_iff {moves : List ChoiceMove}
    (hruns : choiceMachine.Runs {} moves) :
    choiceMachine.Always ChoiceReplay.Exact {} moves ↔
      ∀ entry, .push entry ∈ moves → entry.choiceSeq ≠ 0 := by
  have hexact (replay : ChoiceReplay) (hkeyed : Keyed replay) :
      replay.Exact := hkeyed.exact
  rw [Machine.always_iff_eachMove
    (C := fun _ move => ∀ entry, move = .push entry → entry.choiceSeq ≠ 0)
    hexact ?_ ?_ Keyed.start hruns,
    Machine.eachMove_iff_forall]
  · constructor
    · intro hall entry hmem
      exact hall _ hmem entry rfl
    · rintro hall _ hmem entry rfl
      exact hall entry hmem
  · intro replay move hkeyed henabled hcond
    cases move with
    | push entry => exact hkeyed.push henabled (hcond entry rfl)
    | take => exact hkeyed.take
    | reset => exact hkeyed.reset
    | disconnect =>
        exact ⟨hkeyed.pushed, hkeyed.keys, hkeyed.positive, hkeyed.taken,
          hkeyed.cursor⟩
  · intro replay move hkeyed henabled hcond
    rw [not_forall] at hcond
    obtain ⟨entry, hpush⟩ := hcond
    rw [Classical.not_imp, Classical.not_not] at hpush
    obtain ⟨rfl, hzero⟩ := hpush
    exact hkeyed.push_zero henabled hzero

/-- Passing priority, as the choice with a given number. -/
def passChoice (choiceSeq : UInt32) : ChoiceEntry where
  choiceSeq := choiceSeq
  actionCount := 0
  description := "pass"
  payload := { choiceIndices := [0] }

/-- A choice that is taken, and taken again after a rewind that delivers it
again. -/
theorem rewound_choices_exact :
    choiceMachine.Always ChoiceReplay.Exact {}
      [.push (passChoice 1), .take, .reset, .push (passChoice 1), .take,
        .push (passChoice 2)] := by
  apply (opponent_choices_exact_iff ?_).mpr
  · intro entry hmem
    simp only [List.mem_cons, ChoiceMove.push.injEq, reduceCtorEq,
      List.not_mem_nil, false_or, or_false] at hmem
    rcases hmem with rfl | rfl | rfl <;> decide
  · refine ⟨.inr (fun _ hold => nomatch hold), trivial, trivial,
      .inl (by decide), trivial, .inr (by decide), trivial⟩

/-- The choice with the number zero is not taken. -/
theorem zero_choice_not_taken :
    choiceMachine.Runs {} [.push (passChoice 0), .take] ∧
      ¬choiceMachine.Always ChoiceReplay.Exact {}
        [.push (passChoice 0), .take] := by
  constructor
  · exact ⟨.inr (fun _ hold => nomatch hold), trivial, trivial⟩
  · rintro ⟨-, -, hexact⟩
    have hall := hexact.complete (by
      intro entry htake
      cases htake)
    cases hall

end DeepScry
