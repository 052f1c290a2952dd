/-
What a payment may change: the cards, where they are, and the life and mana of
the players.  Undoing an action acts on these alone, and a step is undone when
its actions bring them back.
-/
import DeepScry.MoveUndo

namespace DeepScry

/-- The life total and the mana pool of a player. -/
def Player.account (player : Player) : PlayerId × Int32 × ManaPool :=
  (player.id, player.life, player.manaPool)

/-- Cards, zones, life totals and pools of a game. -/
@[ext]
structure Ledger where
  cards : EntityStore Card
  zones : Zones
  accounts : List (PlayerId × Int32 × ManaPool)

def GameState.ledger (game : GameState) : Ledger where
  cards := game.cards
  zones := game.zones
  accounts := game.players.map Player.account

/-- The ledger of a tableau. -/
def Tableau.ledger (tableau : Tableau) : Ledger where
  cards := tableau.cards
  zones := tableau.zones
  accounts := tableau.players.map Player.account

namespace GameState

section Congruence

variable {game other : GameState} (heq : game.ledger = other.ledger)
include heq

/-- A change of a player that acts on the account. -/
theorem ledger_modifyPlayer (player : PlayerId) {f : Player → Player}
    {g : PlayerId × Int32 × ManaPool → PlayerId × Int32 × ManaPool}
    (hf : ∀ p, (f p).account = g p.account) :
    (game.modifyPlayer player f).ledger =
      (other.modifyPlayer player f).ledger := by
  have hmap (players : List Player) :
      (FirstMatch.modifyFirst (fun p : Player => p.id == player) f
        players).map Player.account =
      FirstMatch.modifyFirst (fun account => account.1 == player) g
        (players.map Player.account) := by
    induction players with
    | nil => rfl
    | cons p rest ih =>
        have hid : (p.account.1 == player) = (p.id == player) := rfl
        rw [FirstMatch.modifyFirst, List.map_cons, FirstMatch.modifyFirst, hid]
        split
        · rw [List.map_cons, hf]
        · rw [List.map_cons, ih]
  rw [ledger, ledger, Ledger.mk.injEq] at heq ⊢
  exact ⟨heq.1, heq.2.1, by
    rw [modifyPlayer, modifyPlayer, hmap, hmap, heq.2.2]⟩

theorem getPlayer_isSome_congr (player : PlayerId) :
    (game.getPlayer player).isSome = (other.getPlayer player).isSome := by
  have hfind (players : List Player) :
      (players.find? fun p => p.id == player).isSome =
        (players.map Player.account).any fun account =>
          account.1 == player := by
    rw [List.isSome_find?, List.any_map]
    rfl
  have haccounts : game.players.map Player.account =
      other.players.map Player.account := congrArg Ledger.accounts heq
  rw [getPlayer, getPlayer, hfind, hfind, haccounts]

theorem ledger_undoPlayer (player : PlayerId) (action : String)
    {f : Player → Player}
    {g : PlayerId × Int32 × ManaPool → PlayerId × Int32 × ManaPool}
    (hf : ∀ p, (f p).account = g p.account) :
    (game.undoPlayer player action f).1.ledger =
      (other.undoPlayer player action f).1.ledger := by
  have hsome := getPlayer_isSome_congr heq player
  rw [undoPlayer, undoPlayer]
  cases hgame : game.getPlayer player <;>
    cases hother : other.getPlayer player <;>
      rw [hgame, hother] at hsome
  · exact heq
  · cases hsome
  · cases hsome
  · exact ledger_modifyPlayer heq player hf

/-- Equal ledgers are undone to equal ledgers. -/
theorem undo_ledger (action : GameAction) :
    (action.undo game).1.ledger = (action.undo other).1.ledger := by
  have hcards : game.cards = other.cards := congrArg Ledger.cards heq
  have hzones : game.zones = other.zones := congrArg Ledger.zones heq
  have haccounts : game.players.map Player.account =
      other.players.map Player.account := congrArg Ledger.accounts heq
  cases action with
  | modifyLife player delta =>
      exact ledger_undoPlayer heq player _
        (g := fun account => (account.1, account.2.1 - delta, account.2.2))
        fun _ => rfl
  | addMana player mana =>
      exact ledger_undoPlayer heq player _
        (g := fun account => (account.1, account.2.1,
          { white := Saturating.sub8 account.2.2.white mana.white
            blue := Saturating.sub8 account.2.2.blue mana.blue
            black := Saturating.sub8 account.2.2.black mana.black
            red := Saturating.sub8 account.2.2.red mana.red
            green := Saturating.sub8 account.2.2.green mana.green
            colorless :=
              Saturating.sub8 account.2.2.colorless mana.colorless }))
        fun _ => rfl
  | emptyManaPool player prev =>
      exact ledger_undoPlayer heq player _
        (g := fun account => (account.1, account.2.1, prev)) fun _ => rfl
  | setManaPool player prev =>
      exact ledger_modifyPlayer heq player
        (g := fun account => (account.1, account.2.1, prev)) fun _ => rfl
  | setLandsPlayedThisTurn player oldValue newValue =>
      exact ledger_undoPlayer heq player _ (g := fun account => account)
        fun _ => rfl
  | setSpellsCastThisTurn player oldValue newValue =>
      exact ledger_undoPlayer heq player _ (g := fun account => account)
        fun _ => rfl
  | setCardsDrawnThisTurn player oldValue newValue =>
      exact ledger_undoPlayer heq player _ (g := fun account => account)
        fun _ => rfl
  | setCommanderCastCount player oldValue newValue =>
      exact ledger_undoPlayer heq player _ (g := fun account => account)
        fun _ => rfl
  | setCommanderDamage player fromPlayer oldDamage newDamage =>
      exact ledger_undoPlayer heq player _ (g := fun account => account)
        fun _ => rfl
  | setSkipUntapNextTurn player oldValue newValue =>
      exact ledger_modifyPlayer heq player (g := fun account => account)
        fun _ => rfl
  | setCantCastSpells player oldValue =>
      exact ledger_modifyPlayer heq player (g := fun account => account)
        fun _ => rfl
  | setSourcePreventionShields player prev =>
      exact ledger_modifyPlayer heq player (g := fun account => account)
        fun _ => rfl
  | setCombatManaPool player prev =>
      exact ledger_modifyPlayer heq player (g := fun account => account)
        fun _ => rfl
  | _ =>
      simp only [GameAction.undo, undoCard, undoRng, undoMove, undoReveal,
        modifyCard, incrementManaVersion, card?, ledger, hcards, hzones]
      repeat' (first | rfl | split | rw [haccounts] | rw [hcards] | rw [hzones])

theorem undoAll_ledger (actions : List GameAction) :
    (undoAll actions game).ledger = (undoAll actions other).ledger := by
  induction actions with
  | nil => exact heq
  | cons action rest ih => exact undo_ledger ih action

end Congruence

/-- The actions logged since bring the ledger back. -/
def Undone (before after : GameState) : Prop :=
  ∃ actions, Logs before after actions ∧
    (undoAll actions after).ledger = before.ledger

namespace Undone

variable {before middle after : GameState}

theorem of_ledger (henabled : after.undoLog.enabled = true)
    (hlog : after.undoLog = before.undoLog)
    (hledger : after.ledger = before.ledger) : Undone before after :=
  ⟨[], ⟨henabled, by rw [hlog, List.append_nil]⟩, hledger⟩

theorem enabled (hundone : Undone before after) :
    after.undoLog.enabled = true := by
  obtain ⟨_, hlogs, -⟩ := hundone
  exact hlogs.enabled

theorem trans (hfirst : Undone before middle)
    (hsecond : Undone middle after) : Undone before after := by
  obtain ⟨older, holder, hundoOlder⟩ := hfirst
  obtain ⟨newer, hnewer, hundoNewer⟩ := hsecond
  refine ⟨older ++ newer, holder.trans hnewer, ?_⟩
  rw [undoAll_append, undoAll_ledger hundoNewer, hundoOlder]

/-- A step next to the ledger and the log. -/
theorem aside (hundone : Undone before middle)
    (hlog : after.undoLog = middle.undoLog)
    (hledger : after.ledger = middle.ledger) : Undone before after :=
  hundone.trans (.of_ledger (hlog ▸ hundone.enabled) hlog hledger)

theorem message (hundone : Undone before after) :
    Undone before after.message :=
  hundone.aside rfl rfl

/-- Undoing back to the height of the log before gives the ledger back exactly
if the actions logged since do. -/
theorem undoTo_iff {actions : List GameAction}
    (hlogs : Logs before after actions) :
    (after.undoTo before.undoLog.actions.length).ledger = before.ledger ↔
      (undoAll actions after).ledger = before.ledger := by
  obtain ⟨-, htableau⟩ := undoTo_tableau hlogs.actions
  have hledger : (after.undoTo before.undoLog.actions.length).ledger =
      (undoAll actions after).ledger := congrArg Tableau.ledger htableau
  rw [hledger]

theorem undoTo (hundone : Undone before after) :
    (after.undoTo before.undoLog.actions.length).ledger = before.ledger := by
  obtain ⟨actions, hlogs, hundo⟩ := hundone
  exact (undoTo_iff hlogs).mpr hundo

end Undone

end GameState

end DeepScry
