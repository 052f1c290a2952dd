/-
The maps of the combat state: attackers, what each blocker blocks, and who
blocks each attacker.  Declarations, removals, undos and the clear, in any
order, keep the two block maps inverse to each other as long as no attacker
that is blocked leaves combat alone.
-/
import DeepScry.Permanents
import DeepScry.SortedMap

namespace DeepScry

open SortedMap

namespace CombatState

def declareAttacker (combat : CombatState) (attacker : CardId)
    (defendingPlayer : PlayerId) : CombatState :=
  { combat with
    attackers := insert attacker defendingPlayer combat.attackers
    combatActive := true }

/-- Push a blocker onto the entry of an attacker, making it first if
needed. -/
def pushBlocker (blocker : CardId)
    (attackerBlockers : List (CardId × List CardId)) (attacker : CardId) :
    List (CardId × List CardId) :=
  insert attacker ((lookup attackerBlockers attacker).getD [] ++ [blocker])
    attackerBlockers

def declareBlocker (combat : CombatState) (blocker : CardId)
    (attackers : List CardId) : CombatState :=
  { combat with
    blockers := insert blocker attackers combat.blockers
    attackerBlockers := attackers.foldl (pushBlocker blocker)
      combat.attackerBlockers }

/-- The blocker lists the attacker. -/
def Blocks (combat : CombatState) (blocker attacker : CardId) : Prop :=
  ∃ attackers, lookup combat.blockers blocker = some attackers ∧
    attacker ∈ attackers

/-- The attacker lists the blocker. -/
def BlockedBy (combat : CombatState) (attacker blocker : CardId) : Prop :=
  ∃ blockers, lookup combat.attackerBlockers attacker = some blockers ∧
    blocker ∈ blockers

/-- The block maps are inverse to each other, and only attackers are
blocked. -/
structure MutuallyInverse (combat : CombatState) : Prop where
  inverse : ∀ blocker attacker,
    combat.Blocks blocker attacker ↔ combat.BlockedBy attacker blocker
  attacking : ∀ blocker attacker, combat.Blocks blocker attacker →
    (lookup combat.attackers attacker).isSome = true

/-- Each map is in key order. -/
structure InOrder (combat : CombatState) : Prop where
  attackers : Sorted combat.attackers
  blockers : Sorted combat.blockers
  attackerBlockers : Sorted combat.attackerBlockers

theorem ext_of_lookup {combat other : CombatState} (horder : combat.InOrder)
    (horder' : other.InOrder)
    (hattackers : ∀ k, lookup combat.attackers k = lookup other.attackers k)
    (hblockers : ∀ k, lookup combat.blockers k = lookup other.blockers k)
    (hreverse : ∀ k, lookup combat.attackerBlockers k =
      lookup other.attackerBlockers k)
    (hactive : combat.combatActive = other.combatActive) :
    combat = other := by
  have h₁ := horder.attackers.ext horder'.attackers hattackers
  have h₂ := horder.blockers.ext horder'.blockers hblockers
  have h₃ := horder.attackerBlockers.ext horder'.attackerBlockers hreverse
  cases combat
  cases other
  cases h₁
  cases h₂
  cases h₃
  cases hactive
  rfl

section Push

variable (blocker : CardId) (m : List (CardId × List CardId))

theorem sorted_foldl_pushBlocker (attackers : List CardId)
    {m : List (CardId × List CardId)} (hsorted : Sorted m) :
    Sorted (attackers.foldl (pushBlocker blocker) m) := by
  induction attackers generalizing m with
  | nil => exact hsorted
  | cons attacker rest ih => exact ih (hsorted.insert _ _)

/-- Each attacker of the list gets the blocker at the end of its entry. -/
theorem lookup_foldl_pushBlocker {attackers : List CardId}
    (hnodup : attackers.Nodup) (k : CardId) :
    lookup (attackers.foldl (pushBlocker blocker) m) k =
      if k ∈ attackers then some ((lookup m k).getD [] ++ [blocker])
      else lookup m k := by
  induction attackers generalizing m with
  | nil => rfl
  | cons attacker rest ih =>
      obtain ⟨hnot, hrest⟩ := List.nodup_cons.mp hnodup
      rw [List.foldl_cons, ih _ hrest, pushBlocker, lookup_insert]
      by_cases hk : attacker = k
      · subst hk
        simp [hnot]
      · simp only [if_neg hk, List.mem_cons, Ne.symm hk, false_or]

/-- What `unblock` leaves of an entry. -/
def prune (entry : List CardId) : Option (List CardId) :=
  let rest := entry.filter fun other => other != blocker
  if rest.isEmpty then none else some rest

theorem unblock_eq (attacker : CardId) :
    unblock blocker m attacker = m.filterMap fun entry =>
      (if entry.1 = attacker then prune blocker entry.2
        else some entry.2).map (entry.1, ·) := by
  rw [unblock]
  congr 1
  funext entry
  by_cases hentry : entry.1 = attacker
  · simp only [hentry, beq_self_eq_true, ↓reduceIte, prune]
    split <;> rfl
  · simp only [beq_eq_false_iff_ne.mpr hentry, Bool.false_eq_true, ↓reduceIte,
      if_neg hentry, Option.map_some]

theorem sorted_foldl_unblock (attackers : List CardId)
    {m : List (CardId × List CardId)} (hsorted : Sorted m) :
    Sorted (attackers.foldl (unblock blocker) m) := by
  induction attackers generalizing m with
  | nil => exact hsorted
  | cons attacker rest ih =>
      apply ih
      rw [unblock_eq]
      exact hsorted.filterMap
        (f := fun k entry => if k = attacker then prune blocker entry
          else some entry)

theorem lookup_foldl_unblock {attackers : List CardId}
    (hnodup : attackers.Nodup) {m : List (CardId × List CardId)}
    (hsorted : Sorted m) (k : CardId) :
    lookup (attackers.foldl (unblock blocker) m) k =
      if k ∈ attackers then (lookup m k).bind (prune blocker)
      else lookup m k := by
  induction attackers generalizing m with
  | nil => rfl
  | cons attacker rest ih =>
      obtain ⟨hnot, hrest⟩ := List.nodup_cons.mp hnodup
      have hone := sorted_foldl_unblock blocker [attacker] hsorted
      rw [List.foldl_cons, List.foldl_nil] at hone
      rw [List.foldl_cons, ih hrest hone, unblock_eq,
        hsorted.lookup_filterMap fun k entry => if k = attacker
          then prune blocker entry else some entry]
      by_cases hk : attacker = k
      · subst hk
        simp [hnot]
      · simp [Ne.symm hk]

end Push

end CombatState

/-- A declaration as the log keeps it. -/
inductive Declaration where
  | attacker (card : CardId) (prevCombatActive : Bool)
  | blocker (card : CardId) (attackers : List CardId)
deriving DecidableEq

namespace Declaration

def undo (combat : CombatState) : Declaration → CombatState
  | attacker card prevCombatActive =>
      combat.undoDeclareAttacker card prevCombatActive
  | blocker card attackers => combat.undoDeclareBlocker card attackers

def action : Declaration → GameAction
  | attacker card prevCombatActive => .declareAttacker card prevCombatActive
  | blocker card attackers => .declareBlocker card attackers

/-- The undo of the logged action. -/
theorem undo_action (declaration : Declaration) (game : GameState) :
    (declaration.action.undo game).1.combat =
      declaration.undo game.combat := by
  cases declaration <;> rfl

end Declaration

/-- Combat with the declarations that are not undone, newest first. -/
structure CombatRun where
  combat : CombatState := {}
  declared : List Declaration := []

inductive CombatOp where
  | declareAttacker (attacker : CardId) (defendingPlayer : PlayerId)
  | declareBlocker (blocker : CardId) (attackers : List CardId)
  | removeFromCombat (card : CardId)
  | undo
  | clear
deriving DecidableEq

namespace CombatOp

def apply (run : CombatRun) : CombatOp → CombatRun
  | declareAttacker attacker defendingPlayer =>
      ⟨run.combat.declareAttacker attacker defendingPlayer,
        .attacker attacker run.combat.combatActive :: run.declared⟩
  | declareBlocker blocker attackers =>
      ⟨run.combat.declareBlocker blocker attackers,
        .blocker blocker attackers :: run.declared⟩
  | removeFromCombat card =>
      ⟨run.combat.removeFromCombat card, run.declared⟩
  | undo =>
      match run.declared with
      | declaration :: rest => ⟨declaration.undo run.combat, rest⟩
      | [] => run
  | clear => ⟨.clear, run.declared⟩

/-- Each attacker is listed once, and the blocker is not declared yet. -/
def Allowed (run : CombatRun) : CombatOp → Prop
  | declareBlocker blocker attackers =>
      attackers.Nodup ∧ lookup run.combat.blockers blocker = none
  | _ => True

/-- An attacker is declared once, only attackers are blocked and none of them
has an entry that a removal left empty, and no attacker that another creature
blocks is removed. -/
def Regular (run : CombatRun) : CombatOp → Prop
  | declareAttacker attacker _ => lookup run.combat.attackers attacker = none
  | declareBlocker _ attackers => ∀ attacker ∈ attackers,
      (lookup run.combat.attackers attacker).isSome = true ∧
        lookup run.combat.attackerBlockers attacker ≠ some []
  | removeFromCombat card => ∀ blocker, blocker ≠ card →
      ¬run.combat.Blocks blocker card
  | undo => True
  | clear => True

/-- Undoing a declaration right after it restores combat exactly. -/
def UndoneRightAfter (run : CombatRun) (op : CombatOp) : Prop :=
  match op with
  | declareAttacker _ _ | declareBlocker _ _ =>
      (undo.apply (op.apply run)).combat = run.combat
  | _ => True

end CombatOp

namespace CombatState

section Relations

variable {combat : CombatState} {blocker attacker : CardId}

theorem blocks_declareBlocker (b : CardId) (attackers : List CardId) :
    (combat.declareBlocker b attackers).Blocks blocker attacker ↔
      if b = blocker then attacker ∈ attackers
      else combat.Blocks blocker attacker := by
  simp only [Blocks, declareBlocker, lookup_insert]
  split
  · simp
  · rfl

theorem blockedBy_declareBlocker (b : CardId) {attackers : List CardId}
    (hnodup : attackers.Nodup) :
    (combat.declareBlocker b attackers).BlockedBy attacker blocker ↔
      (attacker ∈ attackers ∧ blocker = b) ∨
        combat.BlockedBy attacker blocker := by
  simp only [BlockedBy, declareBlocker, lookup_foldl_pushBlocker b _ hnodup]
  by_cases hmem : attacker ∈ attackers
  · simp only [hmem, ↓reduceIte, true_and, Option.some.injEq,
      exists_eq_left', List.mem_append, List.mem_singleton]
    cases lookup combat.attackerBlockers attacker <;> simp [or_comm]
  · simp only [hmem, ↓reduceIte, false_and, false_or]

theorem blocks_removeFromCombat (card : CardId) :
    (combat.removeFromCombat card).Blocks blocker attacker ↔
      blocker ≠ card ∧ combat.Blocks blocker attacker := by
  have hlookup : lookup (combat.removeFromCombat card).blockers blocker =
      if card = blocker then none else lookup combat.blockers blocker :=
    lookup_erase combat.blockers card blocker
  rw [Blocks, hlookup]
  by_cases heq : card = blocker
  · simp [heq]
  · simp only [if_neg heq, Ne.symm heq, ne_eq, not_false_eq_true, true_and]
    rfl

theorem lookup_attackerBlockers_removeFromCombat (card k : CardId) :
    lookup (combat.removeFromCombat card).attackerBlockers k =
      if card = k then none
      else (lookup combat.attackerBlockers k).map fun blockers =>
        blockers.filter fun other => other != card := by
  have hmap := lookup_map (erase card combat.attackerBlockers)
    (fun _ blockers => blockers.filter fun other => other != card) k
  rw [lookup_erase] at hmap
  refine hmap.trans ?_
  split <;> rfl

theorem blockedBy_removeFromCombat (card : CardId) :
    (combat.removeFromCombat card).BlockedBy attacker blocker ↔
      attacker ≠ card ∧ blocker ≠ card ∧
        combat.BlockedBy attacker blocker := by
  rw [BlockedBy, lookup_attackerBlockers_removeFromCombat]
  by_cases heq : card = attacker
  · simp [heq]
  · simp only [if_neg heq, Ne.symm heq, ne_eq, not_false_eq_true, true_and,
      BlockedBy, Option.map_eq_some_iff]
    constructor
    · rintro ⟨_, ⟨blockers, hblockers, rfl⟩, hmem⟩
      obtain ⟨hmem, hne⟩ := List.mem_filter.mp hmem
      exact ⟨by simpa using hne, blockers, hblockers, hmem⟩
    · rintro ⟨hne, blockers, hblockers, hmem⟩
      exact ⟨_, ⟨blockers, hblockers, rfl⟩,
        List.mem_filter.mpr ⟨hmem, by simpa using hne⟩⟩

theorem blocks_undoDeclareBlocker (b : CardId) (attackers : List CardId) :
    (combat.undoDeclareBlocker b attackers).Blocks blocker attacker ↔
      blocker ≠ b ∧ combat.Blocks blocker attacker := by
  have hlookup : lookup (combat.undoDeclareBlocker b attackers).blockers
      blocker = if b = blocker then none else lookup combat.blockers blocker :=
    lookup_erase combat.blockers b blocker
  rw [Blocks, hlookup]
  by_cases heq : b = blocker
  · simp [heq]
  · simp only [if_neg heq, Ne.symm heq, ne_eq, not_false_eq_true, true_and]
    rfl

theorem mem_prune {b other : CardId} {entry : List CardId} :
    (∃ rest, prune b entry = some rest ∧ other ∈ rest) ↔
      other ≠ b ∧ other ∈ entry := by
  rw [prune]
  constructor
  · rintro ⟨rest, hrest, hmem⟩
    split at hrest
    · cases hrest
    · cases hrest
      obtain ⟨hmem, hne⟩ := List.mem_filter.mp hmem
      exact ⟨by simpa using hne, hmem⟩
  · rintro ⟨hne, hmem⟩
    have hfilter : other ∈ entry.filter fun other => other != b :=
      List.mem_filter.mpr ⟨hmem, by simpa using hne⟩
    rw [if_neg]
    · exact ⟨_, rfl, hfilter⟩
    · rw [List.isEmpty_iff]
      exact List.ne_nil_of_mem hfilter

theorem lookup_undoDeclareBlocker (horder : combat.InOrder) (b : CardId)
    {attackers : List CardId} (hnodup : attackers.Nodup) (k : CardId) :
    lookup (combat.undoDeclareBlocker b attackers).attackerBlockers k =
      if k ∈ attackers then
        (lookup combat.attackerBlockers k).bind (prune b)
      else lookup combat.attackerBlockers k :=
  lookup_foldl_unblock b hnodup horder.attackerBlockers k

theorem blockedBy_undoDeclareBlocker (horder : combat.InOrder) (b : CardId)
    {attackers : List CardId} (hnodup : attackers.Nodup) :
    (combat.undoDeclareBlocker b attackers).BlockedBy attacker blocker ↔
      (attacker ∈ attackers → blocker ≠ b) ∧
        combat.BlockedBy attacker blocker := by
  rw [BlockedBy, lookup_undoDeclareBlocker horder b hnodup]
  by_cases hmem : attacker ∈ attackers
  · simp only [hmem, ↓reduceIte, true_implies, BlockedBy]
    cases lookup combat.attackerBlockers attacker with
    | none => simp
    | some entry => simpa using mem_prune
  · simp only [hmem, ↓reduceIte, false_implies, true_and]
    rfl

end Relations

namespace InOrder

variable {combat : CombatState} (horder : combat.InOrder)
include horder

theorem declareAttacker (attacker : CardId) (player : PlayerId) :
    (combat.declareAttacker attacker player).InOrder :=
  ⟨horder.attackers.insert _ _, horder.blockers, horder.attackerBlockers⟩

theorem declareBlocker (blocker : CardId) (attackers : List CardId) :
    (combat.declareBlocker blocker attackers).InOrder :=
  ⟨horder.attackers, horder.blockers.insert _ _,
    sorted_foldl_pushBlocker blocker attackers horder.attackerBlockers⟩

theorem removeFromCombat (card : CardId) :
    (combat.removeFromCombat card).InOrder :=
  ⟨horder.attackers.erase _, horder.blockers.erase _,
    (horder.attackerBlockers.erase _).map fun _ => rfl⟩

theorem undo (declaration : Declaration) :
    (declaration.undo combat).InOrder := by
  rcases declaration with ⟨card, prev⟩ | ⟨card, attackers⟩
  · exact ⟨horder.attackers.erase _, horder.blockers,
      horder.attackerBlockers⟩
  · exact ⟨horder.attackers, horder.blockers.erase _,
      sorted_foldl_unblock card attackers horder.attackerBlockers⟩

end InOrder

end CombatState

namespace CombatRun

open CombatState CombatOp

/-- The declaration of a blocker is on record, and nothing newer declares the
blocker again or an attacker that it blocks. -/
def OnRecord (run : CombatRun) (blocker : CardId)
    (attackers : List CardId) : Prop :=
  ∃ newer older, run.declared = newer ++ .blocker blocker attackers :: older ∧
    (∀ others, .blocker blocker others ∉ newer) ∧
    ∀ attacker ∈ attackers, ∀ prev, .attacker attacker prev ∉ newer

/-- The invariant of a run. -/
structure Wired (run : CombatRun) : Prop where
  order : run.combat.InOrder
  maps : run.combat.MutuallyInverse
  onRecord : ∀ blocker attackers,
    lookup run.combat.blockers blocker = some attackers →
      run.OnRecord blocker attackers
  nodup : ∀ blocker attackers, .blocker blocker attackers ∈ run.declared →
    attackers.Nodup

theorem OnRecord.cons {combat combat' : CombatState}
    {declared : List Declaration} {blocker : CardId}
    {attackers : List CardId}
    (hrecord : OnRecord ⟨combat, declared⟩ blocker attackers)
    {declaration : Declaration}
    (hblocker : ∀ others, declaration ≠ .blocker blocker others)
    (hattacker : ∀ attacker ∈ attackers, ∀ prev,
      declaration ≠ .attacker attacker prev) :
    OnRecord ⟨combat', declaration :: declared⟩ blocker attackers := by
  obtain ⟨newer, older, heq, hblockers, hattackers⟩ := hrecord
  refine ⟨declaration :: newer, older, ?_, ?_, ?_⟩
  · exact congrArg (declaration :: ·) heq
  · intro others hmem
    rcases List.mem_cons.mp hmem with hhead | hmem
    · exact hblocker others hhead.symm
    · exact hblockers others hmem
  · intro attacker hattacker' prev hmem
    rcases List.mem_cons.mp hmem with hhead | hmem
    · exact hattacker attacker hattacker' prev hhead.symm
    · exact hattackers attacker hattacker' prev hmem

/-- Unless it is the newest, a declaration stays on record when the newest one
is popped; then the newest declares neither the blocker nor what it blocks. -/
theorem OnRecord.pop {combat combat' : CombatState}
    {declaration : Declaration} {rest : List Declaration} {blocker : CardId}
    {attackers : List CardId}
    (hrecord : OnRecord ⟨combat, declaration :: rest⟩ blocker attackers) :
    declaration = .blocker blocker attackers ∨
      ((∀ others, declaration ≠ .blocker blocker others) ∧
        (∀ attacker ∈ attackers, ∀ prev,
          declaration ≠ .attacker attacker prev) ∧
        OnRecord ⟨combat', rest⟩ blocker attackers) := by
  obtain ⟨newer, older, heq, hblockers, hattackers⟩ := hrecord
  rcases newer with - | ⟨head, newer⟩
  · left
    exact (List.cons.inj heq).1
  · right
    obtain ⟨rfl, hrest⟩ := List.cons.inj heq
    refine ⟨?_, ?_, newer, older, hrest, ?_, ?_⟩
    · rintro others rfl
      exact hblockers others List.mem_cons_self
    · rintro attacker hattacker prev rfl
      exact hattackers attacker hattacker prev List.mem_cons_self
    · intro others hmem
      exact hblockers others (List.mem_cons_of_mem _ hmem)
    · intro attacker hattacker prev hmem
      exact hattackers attacker hattacker prev (List.mem_cons_of_mem _ hmem)

variable {run : CombatRun}

/-- A blocker that is not declared is listed by no attacker. -/
theorem not_blockedBy_of_lookup (hmaps : run.combat.MutuallyInverse)
    {blocker : CardId} (hnew : lookup run.combat.blockers blocker = none)
    (attacker : CardId) : ¬run.combat.BlockedBy attacker blocker := by
  rw [← hmaps.inverse]
  rintro ⟨attackers, hlookup, -⟩
  rw [hnew] at hlookup
  cases hlookup

theorem Wired.declareAttacker (hwired : run.Wired) {attacker : CardId}
    (hnew : lookup run.combat.attackers attacker = none)
    (player : PlayerId) :
    ((CombatOp.declareAttacker attacker player).apply run).Wired := by
  have hattacking : ∀ blocker other, run.combat.Blocks blocker other →
      other ≠ attacker := by
    rintro blocker other hblocks rfl
    have hsome := hwired.maps.attacking blocker other hblocks
    rw [hnew] at hsome
    cases hsome
  refine ⟨hwired.order.declareAttacker attacker player,
    ⟨hwired.maps.inverse, ?_⟩, ?_, ?_⟩
  · intro blocker other hblocks
    change (lookup (insert attacker player run.combat.attackers)
      other).isSome = true
    rw [lookup_insert, if_neg (hattacking blocker other hblocks).symm]
    exact hwired.maps.attacking blocker other hblocks
  · intro blocker attackers hlookup
    apply (hwired.onRecord blocker attackers hlookup).cons
    · intro others heq
      cases heq
    · rintro other hother prev heq
      cases heq
      exact hattacking blocker attacker ⟨attackers, hlookup, hother⟩ rfl
  · intro blocker attackers hmem
    rcases List.mem_cons.mp hmem with heq | hmem
    · cases heq
    · exact hwired.nodup blocker attackers hmem

theorem Wired.declareBlocker (hwired : run.Wired) {blocker : CardId}
    {attackers : List CardId} (hnodup : attackers.Nodup)
    (hnew : lookup run.combat.blockers blocker = none)
    (hattacking : ∀ attacker ∈ attackers,
      (lookup run.combat.attackers attacker).isSome = true) :
    ((CombatOp.declareBlocker blocker attackers).apply run).Wired := by
  refine ⟨hwired.order.declareBlocker blocker attackers, ⟨?_, ?_⟩, ?_, ?_⟩
  · intro other attacker
    refine (blocks_declareBlocker blocker attackers).trans ?_
    refine Iff.trans ?_ (blockedBy_declareBlocker blocker hnodup).symm
    by_cases heq : blocker = other
    · subst heq
      have hnot := not_blockedBy_of_lookup hwired.maps hnew attacker
      simp [hnot]
    · simp only [if_neg heq, Ne.symm heq, and_false, false_or]
      exact hwired.maps.inverse other attacker
  · intro other attacker hblocks
    have hblocks := (blocks_declareBlocker blocker attackers).mp hblocks
    split at hblocks
    · exact hattacking attacker hblocks
    · exact hwired.maps.attacking other attacker hblocks
  · intro other others hlookup
    change lookup (insert blocker attackers run.combat.blockers) other =
      some others at hlookup
    rw [lookup_insert] at hlookup
    split at hlookup
    · next heq =>
      subst heq
      cases hlookup
      exact ⟨[], run.declared, rfl, by simp, by simp⟩
    · next hne =>
      apply (hwired.onRecord other others hlookup).cons
      · rintro others' heq
        cases heq
        exact hne rfl
      · rintro attacker - prev heq
        cases heq
  · intro other others hmem
    rcases List.mem_cons.mp hmem with heq | hmem
    · cases heq
      exact hnodup
    · exact hwired.nodup other others hmem

theorem Wired.removeFromCombat (hwired : run.Wired) {card : CardId}
    (hfree : ∀ blocker, blocker ≠ card → ¬run.combat.Blocks blocker card) :
    ((CombatOp.removeFromCombat card).apply run).Wired := by
  have hne : ∀ blocker attacker, blocker ≠ card →
      run.combat.Blocks blocker attacker → attacker ≠ card := by
    rintro blocker attacker hblocker hblocks rfl
    exact hfree blocker hblocker hblocks
  refine ⟨hwired.order.removeFromCombat card, ⟨?_, ?_⟩, ?_, hwired.nodup⟩
  · intro blocker attacker
    refine (blocks_removeFromCombat card).trans ?_
    refine Iff.trans ?_ (blockedBy_removeFromCombat card).symm
    rw [← hwired.maps.inverse]
    constructor
    · rintro ⟨hblocker, hblocks⟩
      exact ⟨hne blocker attacker hblocker hblocks, hblocker, hblocks⟩
    · rintro ⟨-, hblocker, hblocks⟩
      exact ⟨hblocker, hblocks⟩
  · intro blocker attacker hblocks
    obtain ⟨hblocker, hblocks⟩ := (blocks_removeFromCombat card).mp hblocks
    change (lookup (erase card run.combat.attackers) attacker).isSome = true
    rw [lookup_erase, if_neg (hne blocker attacker hblocker hblocks).symm]
    exact hwired.maps.attacking blocker attacker hblocks
  · intro blocker attackers hlookup
    change lookup (erase card run.combat.blockers) blocker = some attackers
      at hlookup
    rw [lookup_erase] at hlookup
    split at hlookup
    · cases hlookup
    · exact hwired.onRecord blocker attackers hlookup

theorem Wired.clear (hwired : run.Wired) :
    (CombatOp.clear.apply run).Wired := by
  have hnone : ∀ blocker attacker,
      ¬(CombatOp.clear.apply run).combat.Blocks blocker attacker := by
    rintro blocker attacker ⟨attackers, hlookup, -⟩
    cases hlookup
  refine ⟨⟨.nil, .nil, .nil⟩, ⟨fun blocker attacker => ?_, ?_⟩, ?_,
    hwired.nodup⟩
  · constructor
    · intro hblocks
      exact absurd hblocks (hnone blocker attacker)
    · rintro ⟨blockers, hlookup, -⟩
      cases hlookup
  · intro blocker attacker hblocks
    exact absurd hblocks (hnone blocker attacker)
  · intro blocker attackers hlookup
    cases hlookup

/-- Undoing the newest declaration: what is still blocked was declared
before. -/
theorem Wired.undo {combat : CombatState} {declaration : Declaration}
    {rest : List Declaration}
    (hwired : Wired ⟨combat, declaration :: rest⟩) :
    Wired ⟨declaration.undo combat, rest⟩ := by
  have hnodup : ∀ blocker attackers,
      Declaration.blocker blocker attackers ∈ rest → attackers.Nodup :=
    fun blocker attackers hmem =>
      hwired.nodup blocker attackers (List.mem_cons_of_mem _ hmem)
  rcases declaration with ⟨card, prev⟩ | ⟨card, attackers⟩
  · have hpop : ∀ blocker attackers,
        lookup combat.blockers blocker = some attackers →
          card ∉ attackers ∧
            OnRecord ⟨combat.undoDeclareAttacker card prev, rest⟩ blocker
              attackers := by
      intro blocker attackers hlookup
      rcases (hwired.onRecord blocker attackers hlookup).pop with
        heq | ⟨-, hattackers, hrecord⟩
      · cases heq
      · exact ⟨fun hmem => hattackers card hmem prev rfl, hrecord⟩
    refine ⟨hwired.order.undo (.attacker card prev),
      ⟨hwired.maps.inverse, ?_⟩, ?_, hnodup⟩
    · rintro blocker attacker ⟨attackers, hlookup, hmem⟩
      have hne : card ≠ attacker := by
        rintro rfl
        exact (hpop blocker attackers hlookup).1 hmem
      change (lookup (erase card combat.attackers) attacker).isSome = true
      rw [lookup_erase, if_neg hne]
      exact hwired.maps.attacking blocker attacker ⟨attackers, hlookup, hmem⟩
    · intro blocker attackers hlookup
      exact (hpop blocker attackers hlookup).2
  · have hattackers : attackers.Nodup :=
      hwired.nodup card attackers List.mem_cons_self
    -- The blocker blocks just what its newest declaration lists.
    have hlisted : ∀ others, lookup combat.blockers card = some others →
        others = attackers := by
      intro others hlookup
      have hpop := @OnRecord.pop _ combat _ _ _ _
        (hwired.onRecord card others hlookup)
      rcases hpop with heq | ⟨hblockers, -, -⟩
      · cases heq
        rfl
      · exact absurd rfl (hblockers attackers)
    refine ⟨hwired.order.undo (.blocker card attackers), ⟨?_, ?_⟩, ?_, hnodup⟩
    · intro blocker attacker
      refine (blocks_undoDeclareBlocker card attackers).trans ?_
      refine Iff.trans ?_
        (blockedBy_undoDeclareBlocker hwired.order card hattackers).symm
      rw [← hwired.maps.inverse]
      constructor
      · rintro ⟨hne, hblocks⟩
        exact ⟨fun _ => hne, hblocks⟩
      · rintro ⟨hne, hblocks⟩
        refine ⟨?_, hblocks⟩
        rintro rfl
        obtain ⟨others, hlookup, hmem⟩ := hblocks
        rw [hlisted others hlookup] at hmem
        exact hne hmem rfl
    · intro blocker attacker hblocks
      exact hwired.maps.attacking blocker attacker
        ((blocks_undoDeclareBlocker card attackers).mp hblocks).2
    · intro blocker others hlookup
      change lookup (erase card combat.blockers) blocker = some others
        at hlookup
      rw [lookup_erase] at hlookup
      split at hlookup
      · cases hlookup
      · next hne =>
        rcases (hwired.onRecord blocker others hlookup).pop with
          heq | ⟨-, -, hrecord⟩
        · cases heq
          exact absurd rfl hne
        · exact hrecord

/-- Each regular operation keeps the invariant. -/
theorem Wired.apply (hwired : run.Wired) {op : CombatOp}
    (hallowed : op.Allowed run) (hregular : op.Regular run) :
    (op.apply run).Wired := by
  cases op with
  | declareAttacker attacker player =>
      exact hwired.declareAttacker hregular player
  | declareBlocker blocker attackers =>
      exact hwired.declareBlocker hallowed.1 hallowed.2
        fun attacker hmem => (hregular attacker hmem).1
  | removeFromCombat card => exact hwired.removeFromCombat hregular
  | undo =>
      rcases run with ⟨combat, - | ⟨declaration, rest⟩⟩
      · exact hwired
      · exact hwired.undo
  | clear => exact hwired.clear

/-- Taking the blocker out of an entry that it was just pushed onto. -/
theorem prune_push {blocker : CardId} {entry : Option (List CardId)}
    (hnot : ∀ blockers, entry = some blockers → blocker ∉ blockers)
    (hnonempty : entry ≠ some []) :
    prune blocker (entry.getD [] ++ [blocker]) = entry := by
  have hkeep : (entry.getD [] ++ [blocker]).filter
      (fun other => other != blocker) = entry.getD [] := by
    rw [List.filter_append, List.filter_eq_self.mpr]
    · simp
    · intro other hother
      rcases entry with - | blockers
      · cases hother
      · rw [bne_iff_ne]
        rintro rfl
        exact hnot blockers rfl hother
  rw [prune, hkeep]
  rcases entry with - | - | ⟨first, rest⟩
  · rfl
  · exact absurd rfl hnonempty
  · rfl

/-- A regular declaration is undone exactly. -/
theorem Wired.undoneRightAfter (hwired : run.Wired) {op : CombatOp}
    (hallowed : op.Allowed run) (hregular : op.Regular run) :
    op.UndoneRightAfter run := by
  cases op with
  | declareAttacker attacker player =>
      have herase := erase_insert hwired.order.attackers hregular player
      change { run.combat with
        attackers := erase attacker
          (insert attacker player run.combat.attackers) } = run.combat
      rw [herase]
  | declareBlocker blocker attackers =>
      have hdeclared := hwired.order.declareBlocker blocker attackers
      apply ext_of_lookup (hdeclared.undo (.blocker blocker attackers))
        hwired.order
      · exact fun k => rfl
      · intro k
        have herase := erase_insert hwired.order.blockers hallowed.2 attackers
        exact congrArg (fun m => lookup m k) herase
      · intro k
        refine (lookup_undoDeclareBlocker hdeclared blocker hallowed.1
          k).trans ?_
        have hpushed := lookup_foldl_pushBlocker blocker
          run.combat.attackerBlockers hallowed.1 k
        change lookup (run.combat.declareBlocker blocker
          attackers).attackerBlockers k = _ at hpushed
        rw [hpushed]
        by_cases hmem : k ∈ attackers
        · simp only [if_pos hmem, Option.bind_some]
          apply prune_push
          · intro blockers hlookup hblocker
            exact not_blockedBy_of_lookup hwired.maps hallowed.2 k
              ⟨blockers, hlookup, hblocker⟩
          · exact (hregular k hmem).2
        · simp only [if_neg hmem]
      · rfl
  | removeFromCombat card => trivial
  | undo => trivial
  | clear => trivial

/-- The condition is needed: an operation after which the maps are inverse and
that is undone exactly is regular. -/
theorem Wired.regular (hwired : run.Wired) {op : CombatOp}
    (hallowed : op.Allowed run)
    (hmaps : (op.apply run).combat.MutuallyInverse)
    (hundone : op.UndoneRightAfter run) : op.Regular run := by
  cases op with
  | declareAttacker attacker player =>
      have hattackers := congrArg
        (fun combat : CombatState => lookup combat.attackers attacker) hundone
      exact hattackers.symm.trans ((lookup_erase ..).trans (if_pos rfl))
  | declareBlocker blocker attackers =>
      intro attacker hmem
      constructor
      · apply hmaps.attacking blocker attacker
        exact (blocks_declareBlocker blocker attackers).mpr
          (by rwa [if_pos rfl])
      · intro hempty
        have hdeclared := hwired.order.declareBlocker blocker attackers
        have hreverse := congrArg
          (fun combat : CombatState => lookup combat.attackerBlockers attacker)
          hundone
        have hpruned := lookup_undoDeclareBlocker hdeclared blocker
          hallowed.1 attacker
        have hpushed := lookup_foldl_pushBlocker blocker
          run.combat.attackerBlockers hallowed.1 attacker
        change lookup (run.combat.declareBlocker blocker
          attackers).attackerBlockers attacker = _ at hpushed
        rw [hpushed, if_pos hmem, if_pos hmem, hempty] at hpruned
        have hcontra := hpruned.symm.trans (hreverse.trans hempty)
        simp [prune] at hcontra
  | removeFromCombat card =>
      intro blocker hne hblocks
      have hstill := (blocks_removeFromCombat card).mpr ⟨hne, hblocks⟩
      have hreverse := (hmaps.inverse blocker card).mp hstill
      exact ((blockedBy_removeFromCombat card).mp hreverse).1 rfl
  | undo => trivial
  | clear => trivial

/-- The states that operations with a property reach from empty combat. -/
inductive Reaches (ok : CombatRun → CombatOp → Prop) : CombatRun → Prop where
  | start : Reaches ok {}
  | step {run : CombatRun} (hreaches : Reaches ok run) (op : CombatOp)
      (hok : ok run op) : Reaches ok (op.apply run)

theorem Reaches.wired
    (hreaches : Reaches (fun run op => op.Allowed run ∧ op.Regular run)
      run) : run.Wired := by
  induction hreaches with
  | start =>
      refine ⟨⟨.nil, .nil, .nil⟩, ⟨fun blocker attacker => ?_, ?_⟩, ?_, ?_⟩
      · constructor
        · rintro ⟨attackers, hlookup, -⟩
          cases hlookup
        · rintro ⟨blockers, hlookup, -⟩
          cases hlookup
      · rintro blocker attacker ⟨attackers, hlookup, -⟩
        cases hlookup
      · intro blocker attackers hlookup
        cases hlookup
      · intro blocker attackers hmem
        cases hmem
  | step _ op hok ih => exact ih.apply hok.1 hok.2

/-- In a run of regular operations the maps are inverse in every state, and
just the regular operations keep it so and are undone exactly. -/
theorem combat_maps_inverse
    (hreaches : Reaches (fun run op => op.Allowed run ∧ op.Regular run)
      run) :
    run.combat.MutuallyInverse ∧
      ∀ op : CombatOp, op.Allowed run →
        ((op.apply run).combat.MutuallyInverse ∧ op.UndoneRightAfter run ↔
          op.Regular run) := by
  have hwired := hreaches.wired
  refine ⟨hwired.maps, fun op hallowed => ⟨?_, fun hregular => ?_⟩⟩
  · rintro ⟨hmaps, hundone⟩
    exact hwired.regular hallowed hmaps hundone
  · exact ⟨(hwired.apply hallowed hregular).maps,
      hwired.undoneRightAfter hallowed hregular⟩

/-- An attacker and its blocker, then a second blocker is declared and
undone. -/
theorem combat_maps_inverse_two_blockers :
    (CombatOp.declareBlocker ⟨3⟩ [⟨1⟩]).UndoneRightAfter
      ((CombatOp.declareBlocker ⟨2⟩ [⟨1⟩]).apply
        ((CombatOp.declareAttacker ⟨1⟩ ⟨0⟩).apply {})) := by
  have hreaches := (Reaches.start :
    Reaches (fun run op => op.Allowed run ∧ op.Regular run) {}).step
      (.declareAttacker ⟨1⟩ ⟨0⟩) ⟨trivial, rfl⟩ |>.step
      (.declareBlocker ⟨2⟩ [⟨1⟩])
      ⟨⟨by decide, rfl⟩, fun attacker hmem => by
        rw [List.mem_singleton.mp hmem]
        exact ⟨by decide, by decide⟩⟩
  have hiff := (combat_maps_inverse hreaches).2 (.declareBlocker ⟨3⟩ [⟨1⟩])
    ⟨by decide, by decide⟩
  refine (hiff.mpr fun attacker hmem => ?_).2
  rw [List.mem_singleton.mp hmem]
  exact ⟨by decide, by decide⟩

/-- Removing a blocked attacker leaves it on the list of its blocker, and a
removed blocker leaves an entry that the undo of the next one takes away. -/
theorem combat_maps_not_inverse :
    (∃ run, Reaches (fun run op => op.Allowed run) run ∧
      ¬run.combat.MutuallyInverse) ∧
    ∃ run, Reaches (fun run op => op.Allowed run) run ∧
      ∃ op : CombatOp, op.Allowed run ∧ ¬op.UndoneRightAfter run := by
  have hblocked := (Reaches.start :
    Reaches (fun run op => op.Allowed run) {}).step
      (.declareAttacker ⟨1⟩ ⟨0⟩) trivial |>.step
      (.declareBlocker ⟨2⟩ [⟨1⟩]) ⟨by decide, rfl⟩
  refine ⟨⟨_, hblocked.step (.removeFromCombat ⟨1⟩) trivial, ?_⟩,
    ⟨_, hblocked.step (.removeFromCombat ⟨2⟩) trivial,
      .declareBlocker ⟨3⟩ [⟨1⟩], ⟨by decide, by decide⟩, fun hundone =>
        absurd (congrArg CombatState.attackerBlockers hundone) (by decide)⟩⟩
  intro hmaps
  have hattacking := hmaps.attacking ⟨2⟩ ⟨1⟩ ⟨[⟨1⟩], rfl, by decide⟩
  revert hattacking
  decide

end CombatRun

end DeepScry
