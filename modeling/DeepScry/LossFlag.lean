/-
Life changes and commander damage with the actions they log, and what undoing
them does to the flag of a lost game.  No action logs the flag; each undo
derives it again from the causes it knows.
-/
import DeepScry.Permanents
import DeepScry.UndoFrame

namespace DeepScry

open FirstMatch

namespace Player

def gainLife (player : Player) (amount : Int32) : Player :=
  { player with life := player.life + amount }

/-- `commander_damage_from`: the first entry of the player, or zero. -/
def commanderDamageFrom (player : Player) (fromPlayer : PlayerId) : UInt16 :=
  ((player.commanderDamageTaken.find? fun entry =>
    entry.1 == fromPlayer).map Prod.snd).getD 0

/-- Add to the entry of a player, or make one; says whether it is at 21. -/
def recordCommanderDamage (player : Player) (fromPlayer : PlayerId)
    (damage : UInt16) : Player × Bool :=
  match player.commanderDamageTaken.find? fun entry =>
      entry.1 == fromPlayer with
  | some entry =>
      ({ player with
          commanderDamageTaken := modifyFirst
            (fun entry => entry.1 == fromPlayer)
            (fun entry => (entry.1, Saturating.add16 entry.2 damage))
            player.commanderDamageTaken },
        21 ≤ Saturating.add16 entry.2 damage)
  | none =>
      ({ player with
          commanderDamageTaken :=
            player.commanderDamageTaken ++ [(fromPlayer, damage)] },
        21 ≤ damage)

/-- Some commander dealt 21 damage or more. -/
def lostToCommander (player : Player) : Bool :=
  player.commanderDamageTaken.any fun entry => 21 ≤ entry.2

end Player

namespace GameState

/-- Change a player and log it; a missing player is an error. -/
def changeLife (game : GameState) (player : PlayerId)
    (write : Player → Player) (reports : Bool) (delta : Player → Int32) :
    Outcome Unit :=
  match game.getPlayer player with
  | some p =>
      let changed := game.modifyPlayer player write
      .ok ((if reports then changed.message else changed).logAction
        (.modifyLife player (delta p)) game.logger.logCount) ()
  | none => .error game (.entityNotFound player.raw)

def executeGainLife (game : GameState) (player : PlayerId) (amount : Int32) :
    Outcome Unit :=
  game.changeLife player (fun p => p.gainLife amount) (0 < amount)
    fun _ => amount

def executeLoseLife (game : GameState) (player : PlayerId) (amount : Int32) :
    Outcome Unit :=
  game.changeLife player (fun p => p.loseLife amount) true fun _ => -amount

/-- Setting the life total leaves the flag alone. -/
def executeSetLife (game : GameState) (player : PlayerId) (amount : Int32) :
    Outcome Unit :=
  game.changeLife player (fun p => { p with life := amount }) true
    fun p => amount - p.life

/-- Combat damage of a commander: count it, log it, and at 21 the game is
lost. -/
def dealCommanderDamage (game : GameState) (target : PlayerId)
    (attackerOwner : PlayerId) (damage : UInt16) : GameState :=
  match game.getPlayer target with
  | some p =>
      let (recorded, lethal) := p.recordCommanderDamage attackerOwner damage
      let logged := (game.modifyPlayer target fun p =>
        (p.recordCommanderDamage attackerOwner damage).1).logAction
          (.setCommanderDamage target attackerOwner
            (p.commanderDamageFrom attackerOwner)
            (recorded.commanderDamageFrom attackerOwner))
          game.logger.logCount
      if lethal then
        logged.message.modifyPlayer target fun p => { p with hasLost := true }
      else logged
  | none => game

end GameState

/-- The logged changes that may lose the game. -/
inductive LossOp where
  | gainLife (amount : Int32)
  | loseLife (amount : Int32)
  | setLife (amount : Int32)
  | payLifeAsEnters (amount : Int32)
  | commanderDamage (attackerOwner : PlayerId) (damage : UInt16)
deriving DecidableEq

namespace LossOp

def apply (game : GameState) (player : PlayerId) : LossOp → Outcome Unit
  | gainLife amount => game.executeGainLife player amount
  | loseLife amount => game.executeLoseLife player amount
  | setLife amount => game.executeSetLife player amount
  | payLifeAsEnters amount => .ok (game.payLife player amount) ()
  | commanderDamage attackerOwner damage =>
      .ok (game.dealCommanderDamage player attackerOwner damage) ()

/-- What the operation does to the player. -/
def effect : LossOp → Player → Player
  | gainLife amount, p => p.gainLife amount
  | loseLife amount, p => p.loseLife amount
  | setLife amount, p => { p with life := amount }
  | payLifeAsEnters amount, p => p.loseLife amount
  | commanderDamage attackerOwner damage, p =>
      let (recorded, lethal) := p.recordCommanderDamage attackerOwner damage
      { recorded with hasLost := recorded.hasLost || lethal }

/-- The action it logs. -/
def action (player : PlayerId) (p : Player) : LossOp → GameAction
  | gainLife amount => .modifyLife player amount
  | loseLife amount => .modifyLife player (-amount)
  | setLife amount => .modifyLife player (amount - p.life)
  | payLifeAsEnters amount => .modifyLife player amount
  | commanderDamage attackerOwner damage =>
      .setCommanderDamage player attackerOwner
        (p.commanderDamageFrom attackerOwner)
        ((p.recordCommanderDamage attackerOwner damage).1.commanderDamageFrom
          attackerOwner)

/-- The player loses by a cause that the undo of the operation looks at.  The
undo of a payment takes the amount a second time. -/
def causeHolds (p : Player) : LossOp → Bool
  | gainLife _ | loseLife _ | setLife _ => p.life ≤ 0
  | payLifeAsEnters amount => p.life - amount - amount ≤ 0
  | commanderDamage _ _ => p.life ≤ 0 || p.lostToCommander

/-- The operation sets the flag of a player. -/
def loses (p : Player) : LossOp → Bool
  | gainLife _ | setLife _ => false
  | loseLife amount | payLifeAsEnters amount => p.life - amount ≤ 0
  | commanderDamage attackerOwner damage =>
      21 ≤ Saturating.add16 (p.commanderDamageFrom attackerOwner) damage

/-- The flag agrees with the causes the undo looks at, or it is still unset
and the operation does not set it. -/
def Restorable (p : Player) (op : LossOp) : Prop :=
  if op.causeHolds p then p.hasLost = true ∨ op.loses p = false
  else p.hasLost = false

instance (p : Player) (op : LossOp) : Decidable (op.Restorable p) :=
  inferInstanceAs (Decidable (if op.causeHolds p then
    p.hasLost = true ∨ op.loses p = false else p.hasLost = false))

end LossOp

namespace Player

variable {p : Player} {fromPlayer : PlayerId} {damage : UInt16}

theorem recordCommanderDamage_snd :
    (p.recordCommanderDamage fromPlayer damage).2 =
      decide (21 ≤ Saturating.add16 (p.commanderDamageFrom fromPlayer)
        damage) := by
  rw [recordCommanderDamage, commanderDamageFrom]
  cases p.commanderDamageTaken.find? fun entry => entry.1 == fromPlayer with
  | some entry => rfl
  | none =>
      have hzero : Saturating.add16 0 damage = damage := by
        rw [Saturating.add16, if_pos]
        · exact UInt16.zero_add damage
        · simpa using damage.toNat_lt
      simp [hzero]

theorem recordCommanderDamage_fields :
    (p.recordCommanderDamage fromPlayer damage).1.id = p.id ∧
      (p.recordCommanderDamage fromPlayer damage).1.life = p.life ∧
      (p.recordCommanderDamage fromPlayer damage).1.hasLost = p.hasLost := by
  rw [recordCommanderDamage]
  split <;> exact ⟨rfl, rfl, rfl⟩

/-- A key that stands once holds the damage that the lookup finds. -/
theorem eq_commanderDamageFrom
    (hnodup : (p.commanderDamageTaken.map Prod.fst).Nodup)
    {entry : PlayerId × UInt16} (hentry : entry ∈ p.commanderDamageTaken)
    (hkey : entry.1 = fromPlayer) :
    entry.2 = p.commanderDamageFrom fromPlayer := by
  rw [commanderDamageFrom]
  generalize p.commanderDamageTaken = entries at hnodup hentry
  induction entries with
  | nil => cases hentry
  | cons head rest ih =>
      obtain ⟨hnot, hrest⟩ := List.nodup_cons.mp hnodup
      rw [List.find?_cons]
      rcases List.mem_cons.mp hentry with rfl | hmem
      · simp [hkey]
      · have hne : head.1 ≠ fromPlayer := by
          rintro heq
          apply hnot
          rw [heq, ← hkey]
          exact List.mem_map_of_mem hmem
        rw [beq_eq_false_iff_ne.mpr hne]
        exact ih hrest hmem

/-- The entries that the undo of commander damage leaves. -/
theorem undoCommanderDamage_taken
    (hnodup : (p.commanderDamageTaken.map Prod.fst).Nodup) :
    (GameState.undoCommanderDamage fromPlayer
      (p.commanderDamageFrom fromPlayer)
      (p.recordCommanderDamage fromPlayer damage).1).lostToCommander =
        p.lostToCommander := by
  have hfiltered : p.commanderDamageFrom fromPlayer = 0 →
      (p.commanderDamageTaken.filter fun entry =>
        entry.1 != fromPlayer).any (fun entry => 21 ≤ entry.2) =
        p.lostToCommander := by
    intro hzero
    rw [lostToCommander, Bool.eq_iff_iff, List.any_eq_true, List.any_eq_true]
    constructor
    · rintro ⟨entry, hentry, hlarge⟩
      exact ⟨entry, List.mem_of_mem_filter hentry, hlarge⟩
    · rintro ⟨entry, hentry, hlarge⟩
      refine ⟨entry, List.mem_filter.mpr ⟨hentry, ?_⟩, hlarge⟩
      rw [bne_iff_ne]
      intro hkey
      rw [eq_commanderDamageFrom hnodup hentry hkey, hzero] at hlarge
      revert hlarge
      decide
  cases hfind : p.commanderDamageTaken.find? fun entry =>
      entry.1 == fromPlayer with
  | some entry =>
      have hfrom : p.commanderDamageFrom fromPlayer = entry.2 := by
        rw [commanderDamageFrom, hfind]
        rfl
      have hrestored : modifyFirst (fun entry => entry.1 == fromPlayer)
          (fun e : PlayerId × UInt16 => (e.1, entry.2))
          (p.recordCommanderDamage fromPlayer damage).1.commanderDamageTaken =
          p.commanderDamageTaken := by
        rw [recordCommanderDamage, hfind]
        dsimp only
        rw [modifyFirst_modifyFirst]
        · apply modifyFirst_eq_self
          intro found hfound
          rw [hfind] at hfound
          cases hfound
          rfl
        · exact fun _ => rfl
      rw [hfrom] at hfiltered ⊢
      rw [GameState.undoCommanderDamage, hrestored, lostToCommander]
      dsimp only
      split
      · next hzero => exact hfiltered hzero
      · rfl
  | none =>
      have hfrom : p.commanderDamageFrom fromPlayer = 0 := by
        rw [commanderDamageFrom, hfind]
        rfl
      have hrest : (p.commanderDamageTaken.filter fun entry =>
          entry.1 != fromPlayer) = p.commanderDamageTaken := by
        rw [List.filter_eq_self]
        intro entry hentry
        have hnone := List.find?_eq_none.mp hfind entry hentry
        simpa using hnone
      have hrestored : (modifyFirst (fun entry => entry.1 == fromPlayer)
          (fun e : PlayerId × UInt16 => (e.1, (0 : UInt16)))
          (p.recordCommanderDamage fromPlayer
            damage).1.commanderDamageTaken).filter
              (fun entry => entry.1 != fromPlayer) =
          p.commanderDamageTaken := by
        rw [recordCommanderDamage, hfind, filter_modifyFirst_of_disjoint]
        · rw [List.filter_append, hrest]
          simp
        · intro entry hentry
          simpa using hentry
      rw [hfrom, GameState.undoCommanderDamage, if_pos rfl, hrestored]
      rfl

end Player

namespace LossOp

open GameState

/-- What the undo of the logged action does to the player. -/
def reverse (p : Player) : LossOp → Player → Player
  | gainLife amount, q =>
      { q with
        life := q.life - amount
        hasLost := q.hasLost && !(0 < q.life - amount) }
  | loseLife amount, q =>
      { q with
        life := q.life - -amount
        hasLost := q.hasLost && !(0 < q.life - -amount) }
  | setLife amount, q =>
      { q with
        life := q.life - (amount - p.life)
        hasLost := q.hasLost && !(0 < q.life - (amount - p.life)) }
  | payLifeAsEnters amount, q =>
      { q with
        life := q.life - amount
        hasLost := q.hasLost && !(0 < q.life - amount) }
  | commanderDamage attackerOwner _, q =>
      undoCommanderDamage attackerOwner
        (p.commanderDamageFrom attackerOwner) q

theorem decide_pos (life : Int32) :
    (!decide (0 < life)) = decide (life ≤ 0) := by
  rw [Bool.eq_iff_iff]
  simp

/-- The flag that the operation and its undo leave: set if it was set or the
operation set it, and a cause still holds. -/
theorem hasLost_reverse_effect (op : LossOp) {p : Player}
    (hnodup : (p.commanderDamageTaken.map Prod.fst).Nodup) :
    (op.reverse p (op.effect p)).hasLost =
      ((p.hasLost || op.loses p) && op.causeHolds p) := by
  cases op with
  | gainLife amount =>
      have hlife : p.life + amount - amount = p.life :=
        Int32.add_sub_cancel p.life amount
      simp only [reverse, effect, Player.gainLife, hlife, decide_pos, loses,
        causeHolds, Bool.or_false]
  | loseLife amount =>
      have hlife : p.life - amount - -amount = p.life := by
        rw [Int32.sub_neg, Int32.sub_add_cancel]
      simp only [reverse, effect, Player.loseLife, hlife, decide_pos, loses,
        causeHolds]
  | setLife amount =>
      have hlife : amount - (amount - p.life) = p.life := by
        grind
      simp only [reverse, effect, hlife, decide_pos, loses, causeHolds,
        Bool.or_false]
  | payLifeAsEnters amount =>
      change ((p.hasLost || decide (p.life - amount ≤ 0)) &&
        !decide (0 < p.life - amount - amount)) = _
      rw [decide_pos]
      rfl
  | commanderDamage attackerOwner damage =>
      obtain ⟨-, hlife, hlost⟩ := @Player.recordCommanderDamage_fields
        p attackerOwner damage
      have htaken := @Player.undoCommanderDamage_taken
        p attackerOwner damage hnodup
      have hlethal := @Player.recordCommanderDamage_snd
        p attackerOwner damage
      change (((p.recordCommanderDamage attackerOwner damage).1.hasLost ||
          (p.recordCommanderDamage attackerOwner damage).2) &&
        !(decide (0 < (p.recordCommanderDamage attackerOwner
            damage).1.life) &&
          !(undoCommanderDamage attackerOwner
            (p.commanderDamageFrom attackerOwner)
            (p.recordCommanderDamage attackerOwner
              damage).1).lostToCommander)) = _
      rw [hlife, hlost, htaken, hlethal, Bool.not_and, decide_pos,
        Bool.not_not]
      rfl

/-- The flag comes back exactly when the operation is restorable. -/
theorem hasLost_restored_iff (op : LossOp) {p : Player}
    (hnodup : (p.commanderDamageTaken.map Prod.fst).Nodup) :
    (op.reverse p (op.effect p)).hasLost = p.hasLost ↔ op.Restorable p := by
  rw [hasLost_reverse_effect op hnodup, Restorable]
  cases op.causeHolds p <;> cases p.hasLost <;> cases op.loses p <;> decide

/-- What the operation does to a game with the player in it. -/
theorem apply_of_some (op : LossOp) {game : GameState} {player : PlayerId}
    {p : Player} (hplayer : game.getPlayer player = some p) :
    ∃ after priorLogSize, op.apply game player = .ok after () ∧
      after.players = (game.modifyPlayer player op.effect).players ∧
      after.undoLog = game.undoLog.log (op.action player p) priorLogSize := by
  have hlife (write : Player → Player) (reports : Bool)
      (delta : Player → Int32) :
      ∃ after priorLogSize,
        game.changeLife player write reports delta = .ok after () ∧
        after.players = (game.modifyPlayer player write).players ∧
        after.undoLog = game.undoLog.log (.modifyLife player (delta p))
          priorLogSize := by
    refine ⟨_, game.logger.logCount, by rw [changeLife, hplayer], ?_, ?_⟩
    · cases reports <;> rfl
    · cases reports <;> rfl
  cases op with
  | gainLife amount =>
      exact hlife (fun p => p.gainLife amount) (0 < amount) fun _ => amount
  | loseLife amount =>
      exact hlife (fun p => p.loseLife amount) true fun _ => -amount
  | setLife amount =>
      exact hlife (fun p => { p with life := amount }) true
        fun p => amount - p.life
  | payLifeAsEnters amount =>
      refine ⟨_, game.logger.logCount, rfl, ?_, ?_⟩
      · rw [payLife]
        split <;> rfl
      · rw [payLife]
        split <;> rfl
  | commanderDamage attackerOwner damage =>
      refine ⟨_, game.logger.logCount, rfl, ?_, ?_⟩
      · have heffect : (game.modifyPlayer player
            (effect (.commanderDamage attackerOwner damage))).players =
            (game.modifyPlayer player fun q =>
              { (q.recordCommanderDamage attackerOwner damage).1 with
                hasLost :=
                  (q.recordCommanderDamage attackerOwner damage).1.hasLost ||
                  (p.recordCommanderDamage attackerOwner damage).2 }).players := by
          apply modifyFirst_congr
          intro found hfound
          cases hplayer.symm.trans hfound
          rfl
        rw [heffect, dealCommanderDamage, hplayer]
        dsimp only
        split
        · next hlethal =>
          refine (modifyFirst_modifyFirst (fun q => ?_) _ _).trans ?_
          · rw [Player.recordCommanderDamage_fields.1]
          · apply modifyFirst_congr
            intro found _
            simp [hlethal]
        · next hlethal =>
          apply modifyFirst_congr
          intro found _
          simp [Bool.eq_false_of_not_eq_true hlethal]
      · rw [dealCommanderDamage, hplayer]
        dsimp only
        split <;> rfl

theorem id_effect (op : LossOp) (q : Player) : (op.effect q).id = q.id := by
  cases op with
  | commanderDamage attackerOwner damage =>
      exact Player.recordCommanderDamage_fields.1
  | _ => rfl

/-- The undo of the logged action, in a game with the player in it. -/
theorem players_undo_action (op : LossOp) {game : GameState}
    {player : PlayerId} (p : Player)
    (hsome : (game.getPlayer player).isSome = true) :
    ((op.action player p).undo game).1.players =
      (game.modifyPlayer player (op.reverse p)).players := by
  obtain ⟨found, hfound⟩ := Option.isSome_iff_exists.mp hsome
  cases op <;>
    simp only [action, GameAction.undo, undoPlayer, hfound] <;>
    rfl

/-- Apply, then undo: the player is what the two make of it. -/
theorem getPlayer_undo (op : LossOp) {game after : GameState}
    {player : PlayerId} {p : Player} {result : Except MtgError Unit}
    (henabled : game.undoLog.enabled = true)
    (hplayer : game.getPlayer player = some p)
    (happly : op.apply game player = some (after, result)) :
    after.undo.2.getPlayer player = some (op.reverse p (op.effect p)) := by
  obtain ⟨applied, priorLogSize, heq, hplayers, hlog⟩ :=
    op.apply_of_some hplayer
  rw [heq] at happly
  cases happly
  have hactions : after.undoLog.actions =
      game.undoLog.actions ++ [op.action player p] := by
    rw [hlog, UndoLog.log, if_pos henabled]
  obtain ⟨-, htableau⟩ := undo_of_log_append hactions
  have hafter : after.getPlayer player = some (op.effect p) := by
    rw [getPlayer, hplayers]
    refine (find?_modifyFirst (fun q => ?_) game.players).trans ?_
    · rw [id_effect]
    · rw [show game.players.find? (fun q => q.id == player) = some p from
        hplayer, Option.map_some]
  have hundone : after.undo.2.players =
      (after.modifyPlayer player (op.reverse p)).players := by
    rw [← op.players_undo_action p (by rw [hafter]; rfl)]
    exact congrArg Tableau.players htableau
  rw [getPlayer, hundone]
  refine (find?_modifyFirst (fun q => ?_) after.players).trans ?_
  · cases op <;> rfl
  · rw [show after.players.find? (fun q => q.id == player) =
      some (op.effect p) from hafter, Option.map_some]

end LossOp

/-- The states that logged changes, undos and anything else that leaves the
commander damage alone reach from a game without commander damage. -/
inductive LossReached : GameState → Prop where
  | start {game : GameState} (henabled : game.undoLog.enabled = true)
      (hfresh : ∀ q ∈ game.players, q.commanderDamageTaken = []) :
      LossReached game
  | step {game after : GameState} {result : Except MtgError Unit}
      (hreached : LossReached game) (op : LossOp) (player : PlayerId)
      (happly : op.apply game player = some (after, result)) :
      LossReached after
  | undo {game : GameState} (hreached : LossReached game) :
      LossReached game.undo.2
  | other {game after : GameState} (hreached : LossReached game)
      (henabled : after.undoLog.enabled = true)
      (hsame : after.players.map Player.commanderDamageTaken =
        game.players.map Player.commanderDamageTaken) : LossReached after

namespace GameState

/-- Each player has one entry for each commander's owner. -/
def SeparateEntries (players : List Player) : Prop :=
  ∀ q ∈ players, (q.commanderDamageTaken.map Prod.fst).Nodup

theorem SeparateEntries.modifyFirst {players : List Player}
    (hseparate : SeparateEntries players) {p : Player → Bool}
    {f : Player → Player}
    (hf : ∀ q, (q.commanderDamageTaken.map Prod.fst).Nodup →
      ((f q).commanderDamageTaken.map Prod.fst).Nodup) :
    SeparateEntries (modifyFirst p f players) :=
  forall_mem_modifyFirst (fun q _ => hf q) hseparate

theorem nodup_recordCommanderDamage {q : Player}
    (hnodup : (q.commanderDamageTaken.map Prod.fst).Nodup)
    (fromPlayer : PlayerId) (damage : UInt16) :
    ((q.recordCommanderDamage fromPlayer damage).1.commanderDamageTaken.map
      Prod.fst).Nodup := by
  rw [Player.recordCommanderDamage]
  cases hfind : q.commanderDamageTaken.find? fun entry =>
      entry.1 == fromPlayer with
  | some entry =>
      dsimp only
      rwa [map_modifyFirst]
      intro entry
      rfl
  | none =>
      dsimp only
      rw [List.map_append, List.nodup_append]
      refine ⟨hnodup, by simp, ?_⟩
      rintro key hkey other hother rfl
      obtain ⟨entry, hentry, rfl⟩ := List.mem_map.mp hkey
      have hnone := List.find?_eq_none.mp hfind entry hentry
      simp at hother
      simp [hother] at hnone

theorem nodup_undoCommanderDamage {q : Player}
    (hnodup : (q.commanderDamageTaken.map Prod.fst).Nodup)
    (fromPlayer : PlayerId) (oldDamage : UInt16) :
    ((undoCommanderDamage fromPlayer oldDamage q).commanderDamageTaken.map
      Prod.fst).Nodup := by
  have hrestored : ((FirstMatch.modifyFirst
      (fun entry => entry.1 == fromPlayer)
      (fun entry : PlayerId × UInt16 => (entry.1, oldDamage))
      q.commanderDamageTaken).map Prod.fst).Nodup := by
    rwa [map_modifyFirst]
    intro entry
    rfl
  rw [undoCommanderDamage]
  dsimp only
  split
  · exact hrestored.sublist (List.filter_sublist.map _)
  · exact hrestored

theorem separateEntries_undoAction (action : GameAction) {game : GameState}
    (hseparate : SeparateEntries game.players) :
    SeparateEntries (action.undo game).1.players := by
  cases action with
  | setCommanderDamage player fromPlayer oldDamage newDamage =>
      simp only [GameAction.undo, undoPlayer]
      split
      · apply hseparate.modifyFirst
        intro q hnodup
        exact nodup_undoCommanderDamage hnodup fromPlayer oldDamage
      · exact hseparate
  | _ =>
      simp only [GameAction.undo, undoCard, undoPlayer, undoRng, undoMove,
        undoReveal]
      repeat' (first
        | exact hseparate
        | apply hseparate.modifyFirst
          intro q hnodup
          exact hnodup
        | split)

theorem undo_enabled_players {game : GameState} :
    game.undo.2.undoLog.enabled = game.undoLog.enabled ∧
      (SeparateEntries game.players → SeparateEntries game.undo.2.players) := by
  cases hpop : game.undoLog.pop with
  | none =>
      rw [undo, hpop]
      exact ⟨rfl, fun hseparate => hseparate⟩
  | some popped =>
      obtain ⟨⟨action, logSize⟩, rest⟩ := popped
      obtain ⟨-, -, henabled, -⟩ := UndoLog.pop_eq_some hpop
      obtain ⟨manaCaches, spellTargets, hundo⟩ := undo_of_pop hpop
      rw [hundo]
      constructor
      · have hlog := action.undo_undoLog { game with undoLog := rest }
        exact (congrArg UndoLog.enabled hlog).trans henabled
      · intro hseparate
        exact @separateEntries_undoAction action
          { game with undoLog := rest } hseparate

theorem separateEntries_step (op : LossOp) {game after : GameState}
    {player : PlayerId} {result : Except MtgError Unit}
    (happly : op.apply game player = some (after, result))
    (hseparate : SeparateEntries game.players) :
    after.undoLog.enabled = game.undoLog.enabled ∧
      SeparateEntries after.players := by
  cases hplayer : game.getPlayer player with
  | some p =>
      obtain ⟨applied, priorLogSize, heq, hplayers, hlog⟩ :=
        op.apply_of_some hplayer
      rw [heq] at happly
      cases happly
      constructor
      · rw [hlog, UndoLog.log]
        split <;> rfl
      · rw [hplayers]
        apply hseparate.modifyFirst
        intro q hnodup
        cases op with
        | commanderDamage attackerOwner damage =>
            exact nodup_recordCommanderDamage hnodup attackerOwner damage
        | _ => exact hnodup
  | none =>
      have hself : (game.modifyPlayer player op.effect).players =
          game.players := by
        apply modifyFirst_eq_self
        intro found hfound
        cases hplayer.symm.trans hfound
      cases op with
      | payLifeAsEnters amount =>
          cases happly
          rw [payLife]
          constructor
          · dsimp only [logAction, UndoLog.log]
            split <;> split <;> rfl
          · split <;> exact hself ▸ hseparate
      | _ =>
          simp only [LossOp.apply, executeGainLife, executeLoseLife,
            executeSetLife, changeLife, dealCommanderDamage, hplayer] at happly
          cases happly
          exact ⟨rfl, hseparate⟩

end GameState

open GameState

theorem LossReached.invariant {game : GameState}
    (hreached : LossReached game) :
    game.undoLog.enabled = true ∧ SeparateEntries game.players := by
  induction hreached with
  | start henabled hfresh =>
      refine ⟨henabled, fun q hq => ?_⟩
      rw [hfresh q hq]
      exact List.nodup_nil
  | step _ op player happly ih =>
      obtain ⟨henabled, hseparate⟩ := separateEntries_step op happly ih.2
      exact ⟨henabled.trans ih.1, hseparate⟩
  | undo _ ih =>
      exact ⟨undo_enabled_players.1.trans ih.1, undo_enabled_players.2 ih.2⟩
  | other _ henabled hsame ih =>
      refine ⟨henabled, fun q hq => ?_⟩
      have hmem : q.commanderDamageTaken ∈
          List.map Player.commanderDamageTaken _ := List.mem_map_of_mem hq
      rw [hsame] at hmem
      obtain ⟨q', hq', heq⟩ := List.mem_map.mp hmem
      rw [← heq]
      exact ih.2 q' hq'

/-- In every reached state, undoing a logged change right away gives the flag
back exactly when the change is restorable. -/
theorem hasLost_restored_by_undo {game after : GameState} {player : PlayerId}
    {p : Player} {result : Except MtgError Unit}
    (hreached : LossReached game)
    (hplayer : game.getPlayer player = some p) (op : LossOp)
    (happly : op.apply game player = some (after, result)) :
    (after.undo.2.getPlayer player).map Player.hasLost = some p.hasLost ↔
      op.Restorable p := by
  obtain ⟨henabled, hseparate⟩ := hreached.invariant
  have hnodup := hseparate p (List.mem_of_find?_eq_some hplayer)
  rw [op.getPlayer_undo henabled hplayer happly, Option.map_some,
    Option.some.injEq]
  exact op.hasLost_restored_iff hnodup

/-- One player at twenty life. -/
def lonePlayer : GameState where
  players := [{ id := ⟨0⟩ }]
  turn := { activePlayer := ⟨0⟩ }

theorem hasLost_restored_lethal :
    ∃ after, (LossOp.loseLife 20).apply lonePlayer ⟨0⟩ = .ok after () ∧
      (after.getPlayer ⟨0⟩).map Player.hasLost = some true ∧
      (after.undo.2.getPlayer ⟨0⟩).map Player.hasLost = some false := by
  have hreached : LossReached lonePlayer := by
    apply LossReached.start rfl
    intro q hq
    rw [List.mem_singleton.mp hq]
  exact ⟨_, rfl, by decide,
    (hasLost_restored_by_undo (p := { id := ⟨0⟩ }) hreached rfl
      (.loseLife 20) rfl).mpr (by decide)⟩

/-- Lost to a commander at full life; then undoing the loss of one life takes
the flag away. -/
theorem hasLost_not_restored :
    ∃ lost after, LossReached lost ∧
      (LossOp.commanderDamage ⟨1⟩ 21).apply lonePlayer ⟨0⟩ = .ok lost () ∧
      (LossOp.loseLife 1).apply lost ⟨0⟩ = .ok after () ∧
      (lost.getPlayer ⟨0⟩).map Player.hasLost = some true ∧
      (after.undo.2.getPlayer ⟨0⟩).map Player.hasLost = some false := by
  have hreached : LossReached lonePlayer := by
    apply LossReached.start rfl
    intro q hq
    rw [List.mem_singleton.mp hq]
  exact ⟨_, _, hreached.step (.commanderDamage ⟨1⟩ 21) ⟨0⟩ rfl, rfl, rfl,
    by decide, by decide⟩

end DeepScry
