/-
The placeholder player of an effect, in a spell, in a trigger and in a chapter
of a Saga.
-/
import DeepScry.Fizzle
import DeepScry.TriggerPlaceholders

namespace DeepScry

/-- `resolve_saga_effect_controller`. -/
def resolveSagaEffectController (controller : PlayerId)
    (opponent : Option PlayerId) : SpellEffect → SpellEffect
  | .onPlayer effect player =>
      match effect with
      | .drawCards _ | .drawCardsXPaid | .gainLife _ | .loseLife _
      | .discardCards _ _ _ _ | .mill _ | .forceSacrifice _ _ | .setLife _ =>
          .onPlayer effect
            (if player.isPlaceholder then controller else player)
      | effect => .onPlayer effect player
  | .dealDamage (.player player) amount =>
      .dealDamage (.player (if player.isPlaceholder then
        opponent.getD controller else player)) amount
  | effect => effect

namespace GameState

/-- An effect of a chapter with the controller of the Saga filled in, who is
read again for each effect. -/
def chapterEffect (game : GameState) (saga : CardId) (effect : SpellEffect) :
    SpellEffect :=
  match game.card? saga with
  | some card => resolveSagaEffectController card.controller
      (game.playerIds.find? fun player => player != card.controller) effect
  | none => effect

end GameState

/-- `fire_saga_chapter`, for the effects that are read off the chapter. -/
def SpellMethods.fireSagaChapter (methods : SpellMethods) (saga : CardId) :
    List SpellEffect → GameState → Outcome Unit
  | [], game => .ok game ()
  | effect :: rest, game =>
      (methods.executeEffect game (game.chapterEffect saga effect)).andThen
        fun game _ => methods.fireSagaChapter saga rest game

/-- The effects for one player that a spell and a chapter may have. -/
inductive OnePlayerEffect where
  | drawCards (count : UInt8)
  | gainLife (amount : Int32)
  | loseLife (amount : Int32)
  | discardCards (count : UInt8)
      (rememberDiscarded optional rememberDiscardingPlayers : Bool)
  | mill (count : UInt8)
  | forceSacrifice (sacType : String) (count : UInt8)
  | setLife (amount : Int32)
  | dealDamage (amount : Int32)

namespace OnePlayerEffect

def ofSpell (player : PlayerId) : OnePlayerEffect → SpellEffect
  | drawCards count => .onPlayer (.drawCards count) player
  | gainLife amount => .onPlayer (.gainLife amount) player
  | loseLife amount => .onPlayer (.loseLife amount) player
  | discardCards count rememberDiscarded optional rememberPlayers =>
      .onPlayer (.discardCards count rememberDiscarded optional
        rememberPlayers) player
  | mill count => .onPlayer (.mill count) player
  | forceSacrifice sacType count =>
      .onPlayer (.forceSacrifice sacType count) player
  | setLife amount => .onPlayer (.setLife amount) player
  | dealDamage amount => .dealDamage (.player player) amount

/-- As the effect of a trigger; two kinds are not resolved there. -/
def ofTrigger (player : PlayerId) : OnePlayerEffect → Option TriggerEffect
  | drawCards count => some (.onPlayer (.drawCards count) player)
  | gainLife amount => some (.onPlayer (.gainLife amount) player)
  | loseLife amount => some (.onPlayer (.loseLife amount) player)
  | discardCards count rememberDiscarded optional rememberPlayers =>
      some (.onPlayer (.discardCards count rememberDiscarded optional
        rememberPlayers) player)
  | mill count => some (.onPlayer (.mill count) player)
  | dealDamage amount => some (.dealDamage (.player player) amount)
  | forceSacrifice _ _ | setLife _ => none

/-- The kinds that a spell and a chapter do not mean for the same player. -/
def isContested : OnePlayerEffect → Bool
  | loseLife _ | forceSacrifice _ _ | dealDamage _ => true
  | _ => false

def isDamage : OnePlayerEffect → Bool
  | dealDamage _ => true
  | _ => false

end OnePlayerEffect

/-- The player an effect is resolved to. -/
def SpellEffect.player? : SpellEffect → Option PlayerId
  | onPlayer _ player => some player
  | dealDamage (.player player) _ => some player
  | _ => none

def TriggerEffect.player? : TriggerEffect → Option PlayerId
  | onPlayer _ player => some player
  | dealDamage (.player player) _ => some player
  | _ => none

/-- What surrounds an effect when it is resolved. -/
structure Surroundings where
  queries : ResolutionQueries
  game : GameState
  sourceCardId : Option CardId
  cursor : TargetCursor
  trigger : TriggerContext
  saga : CardId

namespace Surroundings

variable (s : Surroundings)

/-- Without targets, for the controller and the opponent of the trigger. -/
def spellContext : SpellContext where
  chosenTargets := []
  cardOwner := s.trigger.controller
  opponentId := s.trigger.opponent
  sourceCardId := s.sourceCardId

def spellPlayer (effect : OnePlayerEffect) (player : PlayerId) :
    Option PlayerId :=
  (s.queries.resolveEffectTarget s.game s.spellContext
    (effect.ofSpell player) s.cursor).1.player?

def sagaPlayer (effect : OnePlayerEffect) (player : PlayerId) :
    Option PlayerId :=
  (resolveSagaEffectController s.trigger.controller s.trigger.opponent
    (effect.ofSpell player)).player?

/-- The placeholder is the same player wherever the effect comes from, and an
effect of a chapter for all players is executed for each of them. -/
structure MeansOnePlayer (effect : OnePlayerEffect) (player : PlayerId) :
    Prop where
  triggers : player.isPlaceholder → ∀ triggered,
    effect.ofTrigger player = some triggered →
      (resolveEffectPlaceholder s.trigger triggered).player? =
        s.spellPlayer effect player
  chapters : player.isPlaceholder →
    s.sagaPlayer effect player = s.spellPlayer effect player
  expands : player.isAllPlayers → ∀ methods : SpellMethods,
    methods.fireSagaChapter s.saga [effect.ofSpell player] s.game =
      methods.runEffects ((effect.ofSpell player).expandAllPlayers
        s.game.playerIds) s.game

/-- A placeholder that is contested has no other player to mean than the
controller, and an effect for all players is damage, which is not expanded, or
the marker is the only player there is. -/
structure Uncontested (effect : OnePlayerEffect) (player : PlayerId) :
    Prop where
  placeholder : player.isPlaceholder → effect.isContested →
    s.trigger.opponent.getD s.trigger.controller = s.trigger.controller
  allPlayers : player.isAllPlayers → effect.isDamage = false →
    s.game.playerIds = [player]

variable {s} {effect : OnePlayerEffect}

theorem spellPlayer_placeholder :
    s.spellPlayer effect ⟨0⟩ = some (match effect with
      | .loseLife _ | .forceSacrifice _ _ =>
          s.trigger.opponent.getD s.trigger.controller
      | _ => s.trigger.controller) := by
  cases effect <;> rfl

theorem sagaPlayer_placeholder :
    s.sagaPlayer effect ⟨0⟩ = some (match effect with
      | .dealDamage _ => s.trigger.opponent.getD s.trigger.controller
      | _ => s.trigger.controller) := by
  cases effect <;> rfl

theorem triggerPlayer_placeholder {triggered : TriggerEffect}
    (htriggered : effect.ofTrigger ⟨0⟩ = some triggered) :
    (resolveEffectPlaceholder s.trigger triggered).player? =
      s.spellPlayer effect ⟨0⟩ := by
  cases effect <;> cases htriggered <;> rfl

theorem sagaPlayer_eq_iff :
    s.sagaPlayer effect ⟨0⟩ = s.spellPlayer effect ⟨0⟩ ↔
      (effect.isContested →
        s.trigger.opponent.getD s.trigger.controller =
          s.trigger.controller) := by
  rw [spellPlayer_placeholder, sagaPlayer_placeholder, Option.some_inj]
  cases effect with
  | loseLife | forceSacrifice =>
      exact ⟨fun h _ => h.symm, fun h => (h rfl).symm⟩
  | dealDamage => exact ⟨fun h _ => h, fun h => h rfl⟩
  | _ => exact iff_of_true rfl nofun

end Surroundings

/-- A chapter leaves the marker for all players as it is. -/
theorem GameState.chapterEffect_of_allPlayers (game : GameState)
    (saga : CardId) (effect : OnePlayerEffect) :
    game.chapterEffect saga (effect.ofSpell ⟨4294967294⟩) =
      effect.ofSpell ⟨4294967294⟩ := by
  rw [chapterEffect]
  cases game.card? saga with
  | none => rfl
  | some card => cases effect <;> rfl

namespace SpellMethods

/-- Whoever executes the effects, they run as one effect does only if they are
that effect. -/
theorem runEffects_eq_iff (game : GameState) (effect : SpellEffect)
    (effects : List SpellEffect) :
    (∀ methods : SpellMethods, methods.runEffects [effect] game =
      methods.runEffects effects game) ↔ effects = [effect] := by
  refine ⟨fun hruns => ?_, fun heq => heq ▸ fun _ => rfl⟩
  obtain ⟨source, hsource⟩ :
      ∃ source, some source ≠ game.currentDamageSource := by
    cases game.currentDamageSource with
    | none => exact ⟨⟨0⟩, nofun⟩
    | some id =>
        refine ⟨⟨id.raw + 1⟩, fun hsame => ?_⟩
        have hraw := congrArg CardId.raw (Option.some.inj hsame)
        exact absurd hraw (Nat.succ_ne_self _)
  -- Only that effect can be executed, and only once.
  classical
  let once : SpellMethods :=
    { idle with
      executeEffect := fun now first =>
        if now.currentDamageSource = game.currentDamageSource ∧
            first = effect then
          .ok { now with currentDamageSource := some source } ()
        else .error now .needInput }
  have hfirst : once.runEffects [effect] game =
      some ({ game with currentDamageSource := some source }, .ok ()) := by
    simp [runEffects, once, Outcome.andThen, Outcome.ok]
  rw [hruns once] at hfirst
  cases effects with
  | nil =>
      have hsame := congrArg (fun outcome : Outcome Unit =>
        outcome.map fun after => after.1.currentDamageSource) hfirst
      exact absurd (Option.some.inj hsame).symm hsource
  | cons first rest =>
      obtain ⟨middle, _, hexecuted, hrest⟩ := Outcome.andThen_eq_ok.mp hfirst
      dsimp only [once] at hexecuted
      split at hexecuted
      · next hdone =>
        cases rest with
        | nil => rw [hdone.2]
        | cons second rest =>
            obtain ⟨_, _, hagain, -⟩ := Outcome.andThen_eq_ok.mp hrest
            cases hexecuted
            dsimp only [once] at hagain
            rw [if_neg fun hfresh => hsource hfresh.1] at hagain
            cases hagain
      · cases hexecuted

end SpellMethods

namespace Surroundings

variable (s : Surroundings) (effect : OnePlayerEffect) (player : PlayerId)

theorem fireSagaChapter_allPlayers (methods : SpellMethods) :
    methods.fireSagaChapter s.saga [effect.ofSpell ⟨4294967294⟩] s.game =
      methods.runEffects [effect.ofSpell ⟨4294967294⟩] s.game := by
  rw [SpellMethods.fireSagaChapter, GameState.chapterEffect_of_allPlayers]
  rfl

theorem expandAllPlayers_ofSpell (players : List PlayerId) :
    (effect.ofSpell ⟨4294967294⟩).expandAllPlayers players =
      if effect.isDamage then [effect.ofSpell ⟨4294967294⟩]
      else players.map effect.ofSpell := by
  cases effect <;> rfl

theorem ofSpell_injective : Function.Injective effect.ofSpell := by
  intro player other heq
  have hplayer := congrArg SpellEffect.player? heq
  cases effect <;> exact Option.some.inj hplayer

/-- A placeholder is one player and an effect for all is executed for each of
them just when the effect is not contested. -/
theorem meansOnePlayer_iff :
    s.MeansOnePlayer effect player ↔ s.Uncontested effect player := by
  have hplaceholder {player : PlayerId} (h : player.isPlaceholder = true) :
      player = ⟨0⟩ := congrArg PlayerId.mk (eq_of_beq h)
  have hallPlayers {player : PlayerId} (h : player.isAllPlayers = true) :
      player = ⟨4294967294⟩ := congrArg PlayerId.mk (eq_of_beq h)
  have hexpands : (∀ methods : SpellMethods,
      methods.fireSagaChapter s.saga [effect.ofSpell ⟨4294967294⟩] s.game =
        methods.runEffects ((effect.ofSpell ⟨4294967294⟩).expandAllPlayers
          s.game.playerIds) s.game) ↔
      (effect.isDamage = false → s.game.playerIds = [⟨4294967294⟩]) := by
    simp only [s.fireSagaChapter_allPlayers, SpellMethods.runEffects_eq_iff,
      expandAllPlayers_ofSpell]
    cases hdamage : effect.isDamage with
    | true => exact iff_of_true rfl nofun
    | false =>
        rw [if_neg Bool.false_ne_true, imp_iff_right rfl]
        exact (List.map_injective_iff.mpr (ofSpell_injective effect)).eq_iff
          (b := [⟨4294967294⟩])
  constructor
  · intro hmeans
    refine ⟨fun h => ?_, fun h => ?_⟩
    · obtain rfl := hplaceholder h
      exact sagaPlayer_eq_iff.mp (hmeans.chapters h)
    · obtain rfl := hallPlayers h
      exact hexpands.mp (hmeans.expands h)
  · intro huncontested
    refine ⟨fun h triggered htriggered => ?_, fun h => ?_, fun h => ?_⟩
    · obtain rfl := hplaceholder h
      exact triggerPlayer_placeholder htriggered
    · obtain rfl := hplaceholder h
      exact sagaPlayer_eq_iff.mpr (huncontested.placeholder h)
    · obtain rfl := hallPlayers h
      exact hexpands.mpr (huncontested.allPlayers h)

/-- A chapter of player 0 against player 1. -/
def chapter : Surroundings where
  queries := SpellMethods.idle.toResolutionQueries
  game :=
    { players := [{ id := ⟨0⟩ }, { id := ⟨1⟩ }]
      turn := { activePlayer := ⟨0⟩ } }
  sourceCardId := none
  cursor := {}
  trigger := { triggerSource := ⟨1⟩, controller := ⟨0⟩, opponent := some ⟨1⟩ }
  saga := ⟨1⟩

/-- The player who loses life in a chapter is not the one of a spell, and no
player draws a card that all players draw. -/
theorem not_meansOnePlayer :
    ¬ chapter.MeansOnePlayer (.loseLife 2) ⟨0⟩ ∧
      ¬ chapter.MeansOnePlayer (.drawCards 1) ⟨4294967294⟩ := by
  constructor
  · intro hmeans
    have hplayers := hmeans.chapters rfl
    revert hplayers
    decide
  · intro hmeans
    have hone := (SpellMethods.runEffects_eq_iff chapter.game _ _).mp
      fun methods => (fireSagaChapter_allPlayers chapter (.drawCards 1)
        methods).symm.trans (hmeans.expands rfl methods)
    exact absurd (congrArg List.length hone) (by decide)

end Surroundings

end DeepScry
