/-
Undoing registrations and firings of delayed triggers.  In every run the
undo log leads back to the same triggers and the same counter; the order of
the list comes back as well when only the last trigger of the list ever fires.
-/
import DeepScry.DelayedTrigger
import DeepScry.UndoHistory
import Mathlib.Data.List.Perm.Basic

namespace DeepScry

open UndoHistory

namespace DelayedTriggerStore

/-- Ids are distinct and below the counter. -/
structure WellFormed (store : DelayedTriggerStore) : Prop where
  nodup : (store.triggers.map DelayedTrigger.id).Nodup
  fresh : ∀ t ∈ store.triggers, t.id.raw < store.nextId

theorem new_wellFormed : new.WellFormed := by
  constructor <;> simp [new]

/-- Equal up to the order of the list. -/
def Similar (store other : DelayedTriggerStore) : Prop :=
  store.triggers.Perm other.triggers ∧ store.nextId = other.nextId

theorem WellFormed.of_similar {store other : DelayedTriggerStore}
    (hsim : store.Similar other) (hwell : other.WellFormed) :
    store.WellFormed := by
  obtain ⟨hperm, hnext⟩ := hsim
  constructor
  · exact (hperm.map DelayedTrigger.id).nodup_iff.mpr hwell.nodup
  · intro t ht
    rw [hnext]
    exact hwell.fresh t (hperm.mem_iff.mp ht)

/-- At most one trigger has a given id. -/
theorem WellFormed.pairwise {store : DelayedTriggerStore}
    (hwell : store.WellFormed) (id : DelayedTriggerId) :
    store.triggers.Pairwise fun a b =>
      (a.id == id) = true → (b.id == id) = true → False := by
  have hne := hwell.nodup
  rw [List.nodup_iff_pairwise_ne, List.pairwise_map] at hne
  refine hne.imp fun hab ha hb => hab ?_
  rw [beq_iff_eq] at ha hb
  rw [ha, hb]

theorem remove_similar {store other : DelayedTriggerStore}
    (hwell : other.WellFormed) (hsim : store.Similar other)
    (id : DelayedTriggerId) :
    (store.remove id).2.Similar (other.remove id).2 ∧
      (store.remove id).1.isSome = (other.remove id).1.isSome := by
  have hpair := (hwell.of_similar hsim).pairwise id
  refine ⟨⟨hsim.1.eraseP _ hpair, hsim.2⟩, ?_⟩
  rw [Bool.eq_iff_iff]
  simp only [remove, List.find?_isSome]
  constructor
  · rintro ⟨t, ht, hid⟩
    exact ⟨t, hsim.1.mem_iff.mp ht, hid⟩
  · rintro ⟨t, ht, hid⟩
    exact ⟨t, hsim.1.mem_iff.mpr ht, hid⟩

theorem undoAdd_snd (store : DelayedTriggerStore) (id : DelayedTriggerId) :
    (store.undoAdd id).2 =
      ⟨(store.remove id).2.triggers,
        if (store.remove id).1.isSome && id.raw + 1 == store.nextId then
          id.raw
        else store.nextId⟩ := by
  unfold undoAdd
  by_cases hnewest : ((store.remove id).1.isSome &&
      id.raw + 1 == store.nextId) = true
  · have hrest : (store.remove id).2.nextId = store.nextId := rfl
    simp only [hrest, hnewest, ↓reduceIte]
  · have hrest : (store.remove id).2.nextId = store.nextId := rfl
    simp only [hrest, hnewest]
    rfl

theorem undoAdd_similar {store other : DelayedTriggerStore}
    (hwell : other.WellFormed) (hsim : store.Similar other)
    (id : DelayedTriggerId) :
    (store.undoAdd id).2.Similar (other.undoAdd id).2 := by
  obtain ⟨⟨hperm, -⟩, hsome⟩ := remove_similar hwell hsim id
  rw [undoAdd_snd, undoAdd_snd, hsome, hsim.2]
  exact ⟨hperm, rfl⟩

theorem restore_similar {store other : DelayedTriggerStore}
    (hsim : store.Similar other) (trigger : DelayedTrigger) :
    (store.restore trigger).Similar (other.restore trigger) := by
  refine ⟨hsim.1.append_right _, ?_⟩
  simp only [restore, hsim.2]

/-- The id that `add` hands out is in use by no trigger. -/
theorem WellFormed.find_next {store : DelayedTriggerStore}
    (hwell : store.WellFormed) :
    ∀ t ∈ store.triggers, ¬ (t.id == ⟨store.nextId⟩) = true := by
  intro t ht heq
  rw [beq_iff_eq] at heq
  have hlt := hwell.fresh t ht
  rw [heq] at hlt
  exact absurd hlt (UInt32.lt_irrefl _)

/-- Undoing a registration is exact. -/
theorem undoAdd_add {store : DelayedTriggerStore} (hwell : store.WellFormed)
    (trigger : DelayedTrigger) :
    ((store.add trigger).2.undoAdd (store.add trigger).1).2 = store := by
  have hnone := hwell.find_next
  have hfind : ((store.add trigger).2.remove (store.add trigger).1).1 =
      some { trigger with id := ⟨store.nextId⟩ } := by
    simp only [add, remove, List.find?_append]
    rw [List.find?_eq_none.mpr hnone]
    simp
  have herase : ((store.add trigger).2.remove (store.add trigger).1).2.triggers =
      store.triggers := by
    simp only [add, remove]
    rw [List.eraseP_append_right _ hnone]
    simp
  rw [undoAdd_snd, hfind, herase]
  simp [add]

theorem add_wellFormed {store : DelayedTriggerStore}
    (hwell : store.WellFormed) (hroom : store.nextId ≠ 4294967295)
    (trigger : DelayedTrigger) : (store.add trigger).2.WellFormed := by
  have hsucc : (store.nextId + 1).toNat = store.nextId.toNat + 1 := by
    have hlt := store.nextId.toNat_lt
    have hne : store.nextId.toNat ≠ 4294967295 := by
      intro heq
      exact hroom (UInt32.toNat_inj.mp heq)
    rw [UInt32.toNat_add]
    change (_ + 1) % 4294967296 = _
    omega
  constructor
  · simp only [add, List.map_append, List.map_cons, List.map_nil]
    rw [List.nodup_append]
    refine ⟨hwell.nodup, by simp, ?_⟩
    intro id hid id' hid' heq
    obtain ⟨t, ht, rfl⟩ := List.mem_map.mp hid
    have hnext := List.mem_singleton.mp hid'
    exact hwell.find_next t ht (by rw [beq_iff_eq, heq, hnext])
  · intro t ht
    simp only [add, List.mem_append, List.mem_singleton] at ht ⊢
    rw [UInt32.lt_iff_toNat_lt, hsucc]
    rcases ht with hold | rfl
    · have := UInt32.lt_iff_toNat_lt.mp (hwell.fresh t hold)
      omega
    · exact Nat.lt_succ_self _

theorem remove_wellFormed {store : DelayedTriggerStore}
    (hwell : store.WellFormed) (id : DelayedTriggerId) :
    (store.remove id).2.WellFormed := by
  constructor
  · exact (List.eraseP_sublist.map DelayedTrigger.id).nodup hwell.nodup
  · intro t ht
    exact hwell.fresh t (List.mem_of_mem_eraseP ht)

/-- A removed trigger stood somewhere in the list, as its first with the id. -/
theorem remove_spec {store : DelayedTriggerStore} {id : DelayedTriggerId}
    {trigger : DelayedTrigger}
    (hremove : (store.remove id).1 = some trigger) :
    ∃ pre post, store.triggers = pre ++ trigger :: post ∧
      trigger.id = id ∧ (store.remove id).2.triggers = pre ++ post := by
  obtain ⟨hid, pre, post, heq, hpre⟩ :=
    List.find?_eq_some_iff_append.mp hremove
  refine ⟨pre, post, heq, by simpa using hid, ?_⟩
  simp only [remove, heq]
  rw [List.eraseP_append_right _ (by simpa using hpre)]
  simp [hid]

theorem restore_remove {store : DelayedTriggerStore} {id : DelayedTriggerId}
    {trigger : DelayedTrigger} {pre post : List DelayedTrigger}
    (hwell : store.WellFormed)
    (hsplit : store.triggers = pre ++ trigger :: post)
    (hrest : (store.remove id).2.triggers = pre ++ post) :
    (store.remove id).2.restore trigger =
      ⟨pre ++ post ++ [trigger], store.nextId⟩ := by
  have hlt : trigger.id.raw < store.nextId :=
    hwell.fresh trigger (by simp [hsplit])
  have hnext : (store.remove id).2.nextId = store.nextId := rfl
  simp only [restore, hrest, hnext]
  rw [if_neg]
  exact UInt32.not_le.mpr hlt

/-- Restoring a fired trigger brings back the same triggers. -/
theorem restore_remove_similar {store : DelayedTriggerStore}
    {id : DelayedTriggerId} {trigger : DelayedTrigger}
    (hwell : store.WellFormed)
    (hremove : (store.remove id).1 = some trigger) :
    ((store.remove id).2.restore trigger).Similar store := by
  obtain ⟨pre, post, hsplit, -, hrest⟩ := remove_spec hremove
  rw [restore_remove hwell hsplit hrest]
  refine ⟨?_, rfl⟩
  have hcomm : (post ++ [trigger]).Perm (trigger :: post) :=
    List.perm_append_comm
  rw [hsplit, List.append_assoc]
  exact hcomm.append_left pre

/-- Restoring a fired trigger is exact just when it was the last of the list. -/
theorem restore_remove_eq_iff {store : DelayedTriggerStore}
    {id : DelayedTriggerId} {trigger : DelayedTrigger}
    (hwell : store.WellFormed)
    (hremove : (store.remove id).1 = some trigger) :
    (store.remove id).2.restore trigger = store ↔
      store.triggers.getLast? = some trigger := by
  obtain ⟨pre, post, hsplit, -, hrest⟩ := remove_spec hremove
  have hstore : store = ⟨pre ++ trigger :: post, store.nextId⟩ := by
    rw [← hsplit]
  rw [restore_remove hwell hsplit hrest]
  constructor
  · intro heq
    rw [← heq]
    simp
  · intro hlast
    rcases List.eq_nil_or_concat post with rfl | ⟨rest, last, rfl⟩
    · rw [hstore]
      simp
    · rw [hsplit] at hlast
      have hsame : last = trigger := by
        simpa [List.getLast?_append, List.getLast?_cons] using hlast
      have hnodup := hwell.nodup
      rw [hsplit, hsame] at hnodup
      simp [List.nodup_append] at hnodup

/-! ### Runs -/

/-- The log entries: `RegisterDelayedTrigger` and `FireDelayedTrigger`. -/
inductive Entry where
  | register (id : DelayedTriggerId)
  | fire (trigger : DelayedTrigger)

def undoEntry : Entry → DelayedTriggerStore → DelayedTriggerStore
  | .register id, store => (store.undoAdd id).2
  | .fire trigger, store => store.restore trigger

inductive Step where
  | add (trigger : DelayedTrigger)
  | fire (id : DelayedTriggerId)
  | undo

/-- A store with its undo log; next to each entry stands the store before it,
which only the statements look at. -/
structure Session where
  store : DelayedTriggerStore
  history : List (Entry × DelayedTriggerStore)

def Session.start : Session := ⟨new, []⟩

def Session.step (s : Session) : Step → Session
  | .add trigger =>
      let (id, store) := s.store.add trigger
      ⟨store, (.register id, s.store) :: s.history⟩
  | .fire id =>
      match s.store.remove id with
      | (some trigger, store) => ⟨store, (.fire trigger, s.store) :: s.history⟩
      | (none, _) => s
  | .undo =>
      match s.history with
      | [] => s
      | (entry, _) :: rest => ⟨undoEntry entry s.store, rest⟩

/-- Undo the newest `k` operations, in reverse order. -/
def Session.undoLast (s : Session) (k : Nat) : DelayedTriggerStore :=
  undoAll undoEntry ((s.history.take k).map Prod.fst) s.store

/-- The id counter has room for another registration. -/
def Session.HasRoom (s : Session) : Step → Prop
  | .add _ => s.store.nextId ≠ 4294967295
  | .fire _ => True
  | .undo => True

/-- The counter has room, and what fires stands last in the list. -/
def Session.Orderly (s : Session) : Step → Prop
  | .add _ => s.store.nextId ≠ 4294967295
  | .fire id => ∀ trigger, (s.store.remove id).1 = some trigger →
      s.store.triggers.getLast? = some trigger
  | .undo => True

/-- The sessions reached by steps that all meet a condition. -/
inductive Session.Reached (ok : Session → Step → Prop) : Session → Prop where
  | start : Reached ok Session.start
  | step {s : Session} {action : Step} (hs : Reached ok s)
      (hok : ok s action) : Reached ok (s.step action)

theorem similar_respects : Respects undoEntry Similar WellFormed where
  refl store := ⟨List.Perm.refl _, rfl⟩
  trans h h' := ⟨h.1.trans h'.1, h.2.trans h'.2⟩
  inv hsim hwell := hwell.of_similar hsim
  undo entry _ _ hwell hsim := by
    cases entry with
    | register id => exact undoAdd_similar hwell hsim id
    | fire trigger => exact restore_similar hsim trigger

/-- What one operation does to the store and which entry it logs. -/
inductive Performs (store : DelayedTriggerStore) :
    Step → Entry → DelayedTriggerStore → Prop where
  | add (trigger : DelayedTrigger) :
      Performs store (.add trigger) (.register (store.add trigger).1)
        (store.add trigger).2
  | fire {id : DelayedTriggerId} {trigger : DelayedTrigger}
      (hremove : (store.remove id).1 = some trigger) :
      Performs store (.fire id) (.fire trigger) (store.remove id).2

theorem step_cases (s : Session) (action : Step) :
    s.step action = s ∨
      (∃ entry after, Performs s.store action entry after ∧
        s.step action = ⟨after, (entry, s.store) :: s.history⟩) ∨
      ∃ entry before rest, s.history = (entry, before) :: rest ∧
        s.step action = ⟨undoEntry entry s.store, rest⟩ := by
  cases action with
  | add trigger => exact Or.inr (Or.inl ⟨_, _, .add trigger, rfl⟩)
  | fire id =>
      cases hremove : (s.store.remove id).1 with
      | none =>
          refine Or.inl ?_
          simp only [Session.step]
          rw [show s.store.remove id = (none, (s.store.remove id).2) from
            Prod.ext hremove rfl]
      | some trigger =>
          refine Or.inr (Or.inl ⟨_, _, .fire hremove, ?_⟩)
          simp only [Session.step]
          rw [show s.store.remove id = (some trigger, (s.store.remove id).2)
            from Prod.ext hremove rfl]
  | undo =>
      cases hhistory : s.history with
      | nil =>
          refine Or.inl ?_
          simp only [Session.step, hhistory]
      | cons head rest =>
          obtain ⟨entry, before⟩ := head
          refine Or.inr (Or.inr ⟨entry, before, rest, rfl, ?_⟩)
          simp only [Session.step, hhistory]

theorem Performs.wellFormed {s : Session} {action : Step} {entry : Entry}
    {after : DelayedTriggerStore}
    (hperf : Performs s.store action entry after)
    (hwell : s.store.WellFormed) (hroom : s.HasRoom action) :
    after.WellFormed := by
  cases hperf with
  | add trigger => exact add_wellFormed hwell hroom trigger
  | fire hremove => exact remove_wellFormed hwell _

theorem Performs.undo_similar {s : Session} {action : Step} {entry : Entry}
    {after : DelayedTriggerStore}
    (hperf : Performs s.store action entry after)
    (hwell : s.store.WellFormed) :
    (undoEntry entry after).Similar s.store := by
  cases hperf with
  | add trigger =>
      rw [undoEntry, undoAdd_add hwell]
      exact ⟨List.Perm.refl _, rfl⟩
  | fire hremove => exact restore_remove_similar hwell hremove

theorem Performs.undo_eq {s : Session} {action : Step} {entry : Entry}
    {after : DelayedTriggerStore}
    (hperf : Performs s.store action entry after)
    (hwell : s.store.WellFormed) (horderly : s.Orderly action) :
    undoEntry entry after = s.store := by
  cases hperf with
  | add trigger => exact undoAdd_add hwell trigger
  | fire hremove =>
      exact (restore_remove_eq_iff hwell hremove).mpr (horderly _ hremove)

theorem recorded_similar {s : Session} (hs : s.Reached Session.HasRoom) :
    Recorded undoEntry Similar WellFormed s.store s.history := by
  induction hs with
  | start => exact .nil new_wellFormed
  | @step s action _ hroom ih =>
      rcases step_cases s action with heq | ⟨entry, after, hperf, heq⟩ |
        ⟨entry, before, rest, hhistory, heq⟩
      · rwa [heq]
      · rw [heq]
        exact .cons (hperf.wellFormed ih.inv hroom)
          (hperf.undo_similar ih.inv) ih
      · rw [heq]
        rw [hhistory] at ih
        exact ih.undo_head similar_respects

/-- In every run, undoing brings back the same triggers and counter; only the
order of the list may differ. -/
theorem undoLast_similar {s : Session} (hs : s.Reached Session.HasRoom)
    (k : Nat) (hk : k < s.history.length) :
    (s.undoLast (k + 1)).Similar (s.history.get ⟨k, hk⟩).2 :=
  (recorded_similar hs).undoAll similar_respects k hk

theorem Session.Reached.hasRoom {s : Session} (hs : s.Reached Session.Orderly) :
    s.Reached Session.HasRoom := by
  induction hs with
  | start => exact .start
  | @step s action _ horderly ih =>
      refine .step ih ?_
      cases action with
      | add trigger => exact horderly
      | fire id => trivial
      | undo => trivial

theorem recorded_eq {s : Session} (hs : s.Reached Session.Orderly) :
    Recorded undoEntry Eq (fun _ => True) s.store s.history := by
  induction hs with
  | start => exact .nil trivial
  | @step s action hs horderly ih =>
      have hwell := (recorded_similar hs.hasRoom).inv
      rcases step_cases s action with heq | ⟨entry, after, hperf, heq⟩ |
        ⟨entry, before, rest, hhistory, heq⟩
      · rwa [heq]
      · rw [heq]
        exact .cons trivial (hperf.undo_eq hwell horderly) ih
      · rw [heq]
        rw [hhistory] at ih
        exact ih.undo_head (respects_eq undoEntry)

/-- In a run where only the last trigger of the list ever fires, undoing the
newest operations leads back to the store before them. -/
theorem undoLast_eq {s : Session} (hs : s.Reached Session.Orderly)
    (k : Nat) (hk : k < s.history.length) :
    s.undoLast (k + 1) = (s.history.get ⟨k, hk⟩).2 :=
  (recorded_eq hs).undoAll (respects_eq undoEntry) k hk

/-- A trigger that sacrifices its card when it leaves the battlefield. -/
def sacrificeTrigger (card : Nat) : DelayedTrigger where
  id := ⟨0⟩
  trackedCard := ⟨card⟩
  sourceCard := ⟨card⟩
  controller := ⟨0⟩
  triggerCondition := .zoneChange [.battlefield] []
  effect := .sacrifice

def twoTriggers : Session :=
  (Session.start.step (.add (sacrificeTrigger 10))).step
    (.add (sacrificeTrigger 11))

theorem twoTriggers_reached : twoTriggers.Reached Session.Orderly :=
  .step (.step .start (by simp [Session.Orderly, Session.start, new]))
    (by simp [Session.Orderly, Session.step, Session.start, new, add])

/-- Two registrations and a firing of the second, all undone. -/
theorem undoLast_eq_twoTriggers :
    (twoTriggers.step (.fire ⟨2⟩)).undoLast 3 = new :=
  undoLast_eq (.step twoTriggers_reached
    (by
      intro trigger hremove
      have hlast : (twoTriggers.store.remove ⟨2⟩).1 =
          twoTriggers.store.triggers.getLast? := by decide
      rw [← hlast, hremove])) 2 (by decide)

/-- Firing the older of two triggers and undoing it swaps the two. -/
theorem undoLast_not_eq :
    ¬ ∀ s : Session, s.Reached (fun _ _ => True) →
      ∀ (k : Nat) (hk : k < s.history.length),
        s.undoLast (k + 1) = (s.history.get ⟨k, hk⟩).2 := by
  intro hall
  have hreached : (twoTriggers.step (.fire ⟨1⟩)).Reached fun _ _ => True :=
    .step (.step (.step .start trivial) trivial) trivial
  exact absurd (hall _ hreached 0 (by decide)) (by decide)

end DelayedTriggerStore

end DeepScry
