/-
What a damage step leaves alone while damage is dealt out: it uses up shields
and writes to the logs, and whatever continuous effects look at stays.
-/
import DeepScry.CombatExchange

namespace DeepScry

open DamageAssignment FirstMatch

/-- No answer of the controller asks for an undo. -/
def DamageController.NeverUndoes (controller : DamageController) : Prop :=
  (∀ game attacker options remaining n,
    controller.chooseBlockerForLethalDamage game attacker options remaining ≠
      .undoRequest n) ∧
  ∀ game attacker options remaining n,
    controller.chooseBlockerForRemainingDamage game attacker options
      remaining ≠ .undoRequest n

namespace GameState

/-- Both games look the same to continuous effects. -/
def SameBoard (game other : GameState) : Prop :=
  other.board = game.board

theorem SameBoard.refl (game : GameState) : game.SameBoard game := rfl

theorem SameBoard.trans {game middle other : GameState}
    (h : game.SameBoard middle) (h' : middle.SameBoard other) :
    game.SameBoard other :=
  Eq.trans h' h

section Reads

variable {game other : GameState} (hsame : game.SameBoard other)

include hsame

theorem SameBoard.cards : other.cards = game.cards := by
  have hboard : other.board.cards = game.board.cards := by rw [hsame]
  exact hboard

theorem SameBoard.zones : other.zones = game.zones := by
  have hboard : other.board.zones = game.board.zones := by rw [hsame]
  exact hboard

theorem SameBoard.combat : other.combat = game.combat := by
  have hboard : other.board.combat = game.board.combat := by rw [hsame]
  exact hboard

theorem SameBoard.turn : other.turn = game.turn := by
  have hboard : other.board.turn = game.board.turn := by rw [hsame]
  exact hboard

theorem SameBoard.getCard (id : CardId) : other.getCard id = game.getCard id := by
  rw [GameState.getCard, hsame.cards, GameState.getCard]

theorem SameBoard.getAttachedAuras (id : CardId) :
    other.getAttachedAuras id = game.getAttachedAuras id := by
  simp only [GameState.getAttachedAuras, hsame.zones, hsame.getCard]

theorem SameBoard.getAttachedEquipment (id : CardId) :
    other.getAttachedEquipment id = game.getAttachedEquipment id := by
  simp only [GameState.getAttachedEquipment, hsame.zones, hsame.getCard]

theorem SameBoard.isColorPreventedByAura (target source : CardId) :
    other.isColorPreventedByAura target source =
      game.isColorPreventedByAura target source := by
  simp only [GameState.isColorPreventedByAura, colorsOf, hsame.getCard,
    hsame.getAttachedAuras]

theorem SameBoard.combatDamagePrevented (id : CardId) :
    other.combatDamagePrevented id = game.combatDamagePrevented id := by
  rw [GameState.combatDamagePrevented, hsame.getCard,
    GameState.combatDamagePrevented]

variable (effects : StaticEffects)

theorem SameBoard.getPtBreakdown (id : CardId) :
    other.getPtBreakdown effects id = game.getPtBreakdown effects id := by
  simp only [GameState.getPtBreakdown, hsame.getCard,
    show other.board = game.board from hsame]

theorem SameBoard.combatPower (id : CardId) (card : Card) :
    other.combatPower effects id card = game.combatPower effects id card := by
  simp only [GameState.combatPower, getEffectivePower, hsame.getPtBreakdown]

theorem SameBoard.staticConditionMet (condition : StaticCondition)
    (controller : PlayerId) :
    other.staticConditionMet effects condition controller =
      game.staticConditionMet effects condition controller := by
  cases condition with
  | playerTurn => simp only [GameState.staticConditionMet, hsame.turn]
  | notPlayerTurn => simp only [GameState.staticConditionMet, hsame.turn]
  | controlsPresent filter zone minCount =>
      simp only [GameState.staticConditionMet,
        show other.board = game.board from hsame]

end Reads

mutual

theorem SameBoard.selectorApplies {game other : GameState}
    (hsame : game.SameBoard other) (effects : StaticEffects)
    (creatureId sourceId : CardId)
    (creature source : Card) (selector : AffectedSelector) :
    other.selectorApplies effects creatureId sourceId creature source
        selector =
      game.selectorApplies effects creatureId sourceId creature source
        selector := by
  cases selector with
  | any selectors =>
      exact hsame.anyApplies effects creatureId sourceId creature source selectors
  | other tag =>
      simp only [GameState.selectorApplies,
        show other.board = game.board from hsame]
  | creatureEnchantedBy =>
      simp only [GameState.selectorApplies, hsame.getAttachedAuras]
  | creatureEquippedBy =>
      simp only [GameState.selectorApplies, hsame.getAttachedEquipment]
  | selfWhenAttacking =>
      simp only [GameState.selectorApplies, isAttacking, hsame.combat]
  | landsYouControl | allLands | landEnchantedBy | self | creaturesYouControl
  | creaturesYouControlOther | allCreatures | creaturesWithPowerGe _
  | creatureTypeOtherYouControl _ | creatureTypesOtherYouControl _
  | allCreaturesOfType _ => rfl

theorem SameBoard.anyApplies {game other : GameState}
    (hsame : game.SameBoard other) (effects : StaticEffects)
    (creatureId sourceId : CardId)
    (creature source : Card) (selectors : List AffectedSelector) :
    GameState.selectorApplies.anyApplies effects other creatureId sourceId
        creature source selectors =
      GameState.selectorApplies.anyApplies effects game creatureId sourceId
        creature source selectors := by
  cases selectors with
  | nil => rfl
  | cons selector rest =>
      rw [GameState.selectorApplies.anyApplies,
        hsame.selectorApplies effects creatureId sourceId creature source
          selector,
        hsame.anyApplies effects creatureId sourceId creature source rest,
        GameState.selectorApplies.anyApplies]

end

section Keywords

variable {game other : GameState} (hsame : game.SameBoard other)
  (effects : StaticEffects)

include hsame

theorem SameBoard.getGrantedKeywords (id : CardId) :
    other.getGrantedKeywords effects id = game.getGrantedKeywords effects id := by
  have hadd : other.addGranted effects = game.addGranted effects := by
    funext creatureId sourceId creature source granted ability
    cases ability with
    | grantKeyword affected keyword condition =>
        have happlies : other.grantApplies effects creatureId sourceId
            creature source affected =
              game.grantApplies effects creatureId sourceId creature source
                affected := by
          cases affected <;>
            simp only [grantApplies, hsame.selectorApplies]
        simp only [addGranted, hsame.staticConditionMet, happlies]
    | _ => rfl
  simp only [GameState.getGrantedKeywords, hsame.getCard, hsame.zones, hadd]

theorem SameBoard.hasKeywordWithEffects (id : CardId) (keyword : Keyword) :
    other.hasKeywordWithEffects effects id keyword =
      game.hasKeywordWithEffects effects id keyword := by
  rw [GameState.hasKeywordWithEffects, hsame.getCard,
    hsame.getGrantedKeywords, GameState.hasKeywordWithEffects]

theorem SameBoard.dealsDamageThisStep (firstStrikeStep : Bool) (id : CardId) :
    other.dealsDamageThisStep effects firstStrikeStep id =
      game.dealsDamageThisStep effects firstStrikeStep id := by
  simp only [GameState.dealsDamageThisStep, hsame.hasKeywordWithEffects]

end Keywords

section Steps

variable (game : GameState)

theorem sameBoard_message : game.SameBoard game.message := rfl

theorem sameBoard_logger (logger : GameLogger) :
    game.SameBoard { game with logger := logger } := rfl

theorem applySourcePreventionShields_sameBoard (target : PlayerId)
    (source : Option CardId) (amount : Int32) :
    game.SameBoard
      (game.applySourcePreventionShields target source amount).1 := by
  rw [applySourcePreventionShields.eq_def]
  split
  · rfl
  · split
    · rfl
    · split
      · rfl
      · split
        · rfl
        · -- Only the shields of one player change.
          have hplayers (shields : List DamagePreventionShield) :
              (modifyFirst (fun player => player.id == target)
                (fun p => { p with sourcePreventionShields := shields })
                game.players).map (fun player =>
                  { player with sourcePreventionShields := [] }) =
                game.players.map fun player =>
                  { player with sourcePreventionShields := [] } := by
            apply map_modifyFirst
            intro _
            rfl
          simp only
          split <;> exact congrArg
            (fun players => { game.board with players := players })
            (hplayers _)

theorem hitPlayer_sameBoard (attacker : CardId) (player : PlayerId)
    (amount : Int32) :
    game.SameBoard (game.hitPlayer attacker player amount).1 := by
  have hshields := game.applySourcePreventionShields_sameBoard player
    (some attacker) amount
  rw [hitPlayer]
  simp only
  split
  · exact hshields
  · exact hshields

/-- Dealing assigned damage only writes messages. -/
theorem dealAssigned_frame (attacker : CardId) (deathtouch : Bool)
    (remaining : Int32) (assignments : Assignment) :
    ∃ logger, (dealAssigned attacker deathtouch game remaining
      assignments).1 = { game with logger := logger } := by
  induction assignments generalizing game remaining with
  | nil => exact ⟨game.logger, rfl⟩
  | cons entry rest ih =>
      obtain ⟨blocker, damage⟩ := entry
      rw [dealAssigned]
      split
      · split
        · exact ih game.message remaining
        · exact ih game.message (remaining - damage)
      · exact ih game remaining

theorem dealInOrder_frame (attacker : CardId)
    (deathtouch trample alone : Bool) (remaining : Int32)
    (blockers : List CardId) :
    ∃ logger, (dealInOrder attacker deathtouch trample alone game remaining
      blockers).1 = { game with logger := logger } := by
  induction blockers generalizing game remaining with
  | nil => exact ⟨game.logger, rfl⟩
  | cons blocker rest ih =>
      rw [dealInOrder]
      split
      · exact ⟨game.logger, rfl⟩
      · split
        · exact ⟨game.logger, rfl⟩
        · simp only
          generalize (if (alone && !trample) = true then remaining
            else min remaining _) = damage
          split
          · split
            · exact ih game.message (remaining - damage)
            · have hrest := ih game.message (remaining - damage)
              generalize dealInOrder attacker deathtouch trample alone
                game.message (remaining - damage) rest = dealt at hrest
              rcases dealt with ⟨dealtGame, _ | _⟩
              · exact hrest
              · exact hrest
          · exact ih game remaining

variable (effects : StaticEffects) (firstStrikeStep : Bool)

theorem strikeBack_frame (attacker : CardId) (blockers : List CardId) :
    ∃ logger, (strikeBack effects firstStrikeStep attacker game
      blockers).1 = { game with logger := logger } := by
  induction blockers generalizing game with
  | nil => exact ⟨game.logger, rfl⟩
  | cons blocker rest ih =>
      rw [strikeBack]
      split
      · exact ih game
      · split
        · exact ⟨game.logger, rfl⟩
        · split
          · exact ih game
          · simp only
            split
            · split
              · exact ih game.message
              · have hrest := ih game.message
                generalize strikeBack effects firstStrikeStep attacker
                  game.message rest = struck at hrest
                rcases struck with ⟨struckGame, _ | _⟩
                · exact hrest
                · exact hrest
            · exact ih game

theorem finishExchange_sameBoard (attacker : CardId) (record : DamageRecord) :
    game.SameBoard
      (game.finishExchange effects firstStrikeStep attacker record).1 := by
  obtain ⟨logger, hstruck⟩ := game.strikeBack_frame effects firstStrikeStep
    attacker (game.combat.getBlockers attacker)
  rw [finishExchange]
  generalize strikeBack effects firstStrikeStep attacker game _ = struck
    at hstruck
  rcases struck with ⟨struckGame, _ | _⟩ <;>
  · cases hstruck
    rfl

theorem exchangePlanned_sameBoard (attacker : CardId) (power : Int32)
    (assignments : Assignment) :
    game.SameBoard (game.exchangePlanned effects firstStrikeStep attacker
      power assignments).1 := by
  obtain ⟨logger, hdealt⟩ := game.dealAssigned_frame attacker
    (game.hasKeywordWithEffects effects attacker .deathtouch) power
    assignments
  rw [exchangePlanned]
  generalize dealAssigned attacker _ game power assignments = dealt at hdealt
  obtain ⟨dealtGame, left, hits⟩ := dealt
  simp only at hdealt
  have hsame : game.SameBoard dealtGame := by
    rw [hdealt]
    exact game.sameBoard_logger logger
  simp only
  split
  · split
    · next player _ =>
      have hplayer := dealtGame.hitPlayer_sameBoard attacker player left
      generalize dealtGame.hitPlayer attacker player left = hit at hplayer
      rcases hit with ⟨hitGame, _ | playerHit⟩
      · exact hsame.trans hplayer
      · exact (hsame.trans hplayer).trans
          (hitGame.finishExchange_sameBoard effects firstStrikeStep attacker _)
    · exact hsame.trans
        (dealtGame.finishExchange_sameBoard effects firstStrikeStep attacker _)
  · exact hsame.trans
      (dealtGame.finishExchange_sameBoard effects firstStrikeStep attacker _)

theorem exchangeSimple_sameBoard (attacker : CardId) (power : Int32) :
    game.SameBoard
      (game.exchangeSimple effects firstStrikeStep attacker power).1 := by
  obtain ⟨logger, hdealt⟩ := game.dealInOrder_frame attacker
    (game.hasKeywordWithEffects effects attacker .deathtouch)
    (game.hasKeywordWithEffects effects attacker .trample)
    ((game.combat.getBlockers attacker).length == 1) power
    (game.combat.getBlockers attacker)
  rw [exchangeSimple]
  generalize dealInOrder attacker _ _ _ game power _ = dealt at hdealt
  obtain ⟨dealtGame, result⟩ := dealt
  simp only at hdealt
  have hsame : game.SameBoard dealtGame := by
    rw [hdealt]
    exact game.sameBoard_logger logger
  rcases result with e | ⟨left, hits⟩
  · exact hsame
  · simp only
    split
    · split
      · exact (hsame.trans dealtGame.sameBoard_message).trans
          (dealtGame.message.finishExchange_sameBoard effects firstStrikeStep
            attacker _)
      · exact hsame.trans (dealtGame.finishExchange_sameBoard effects
          firstStrikeStep attacker _)
    · exact hsame.trans (dealtGame.finishExchange_sameBoard effects
        firstStrikeStep attacker _)

theorem strikePlayer_sameBoard (attacker : CardId) (power : Int32) :
    game.SameBoard (game.strikePlayer attacker power).1 := by
  rw [strikePlayer]
  split
  · exact game.hitPlayer_sameBoard attacker _ power
  · rfl

theorem exchange_sameBoard (plan : DamageAssignmentPlan) (attacker : CardId) :
    game.SameBoard
      (game.exchange effects firstStrikeStep plan attacker).1 := by
  rw [exchange]
  split
  · rfl
  · split
    · rfl
    · simp only
      split
      · rfl
      · split
        · split
          · exact game.exchangePlanned_sameBoard effects firstStrikeStep
              attacker _ _
          · exact game.exchangeSimple_sameBoard effects firstStrikeStep
              attacker _
        · exact game.strikePlayer_sameBoard attacker _

/-- The second pass leaves the board as it was. -/
theorem exchangeAll_sameBoard (plan : DamageAssignmentPlan)
    (attackers : List CardId) :
    game.SameBoard
      (exchangeAll effects firstStrikeStep plan game attackers).1 := by
  induction attackers generalizing game with
  | nil => rfl
  | cons attacker rest ih =>
      have hfirst := game.exchange_sameBoard effects firstStrikeStep plan
        attacker
      rw [exchangeAll]
      generalize game.exchange effects firstStrikeStep plan attacker =
        exchanged at hfirst
      rcases exchanged with ⟨next, e | record⟩
      · exact hfirst
      · have hrest := hfirst.trans (ih next)
        simp only
        generalize exchangeAll effects firstStrikeStep plan next rest =
          others at hrest
        rcases others with ⟨_, _ | _⟩
        · exact hrest
        · exact hrest

end Steps

section Planning

/-- Whatever the outcome, the game is as before. -/
def Keeps {α : Type} (game : GameState) (outcome : Outcome α) : Prop :=
  ∀ next result, outcome = some (next, result) → next = game

theorem keeps_ok {α : Type} (game : GameState) (value : α) :
    game.Keeps (.ok game value) := by
  intro next result hout
  cases hout
  rfl

theorem keeps_error {α : Type} (game : GameState) (e : MtgError) :
    game.Keeps (α := α) (.error game e) := by
  intro next result hout
  cases hout
  rfl

theorem Keeps.andThen {α β : Type} {game : GameState} {outcome : Outcome α}
    {next : GameState → α → Outcome β} (houtcome : game.Keeps outcome)
    (hnext : ∀ value, game.Keeps (next game value)) :
    game.Keeps (outcome.andThen next) := by
  intro last result hlast
  rcases outcome with _ | ⟨middle, e | value⟩
  · cases hlast
  · cases hlast
    exact houtcome _ _ rfl
  · obtain rfl := houtcome _ _ rfl
    exact hnext value last result hlast

theorem keeps_withAnswer {game : GameState} {owner : PlayerId}
    {answer : ChoiceResult CardId} {next : CardId → Outcome Assignment}
    (hanswer : ∀ n, answer ≠ .undoRequest n)
    (hnext : ∀ id, game.Keeps (next id)) :
    game.Keeps (game.withAnswer owner answer next) := by
  cases answer with
  | ok id => exact hnext id
  | undoRequest n => exact absurd rfl (hanswer n)
  | exitGame => exact game.keeps_error _
  | error message => exact game.keeps_error _
  | needInput => exact game.keeps_error _

theorem keeps_chooseAssignment (game : GameState)
    {controller : DamageController} (hnever : controller.NeverUndoes)
    (attacker : CardId) (owner : PlayerId) (hasTrample : Bool)
    (remaining : Int32) (blockers : List (CardId × Option Int32))
    (result : Assignment) :
    game.Keeps (game.chooseAssignment controller attacker owner hasTrample
      remaining blockers result) := by
  induction hlength : blockers.length using Nat.strong_induction_on
    generalizing blockers remaining result with
  | h n ih =>
      subst hlength
      rw [chooseAssignment]
      split
      · exact game.keeps_ok _
      · split
        · split
          · exact game.keeps_ok _
          · apply keeps_withAnswer
            · intro n
              exact hnever.2 _ _ _ _ n
            · intro id
              exact game.keeps_ok _
        · next blocker lethal hkillable =>
          apply ih _ _ _ _ _ rfl
          apply length_without_of_killable
          rw [hkillable]
          exact List.mem_singleton_self _
        · next first second others hkillable =>
          apply keeps_withAnswer
          · intro n
            exact hnever.1 _ _ _ _ n
          · intro id
            split
            · next chosen lethal hchosen =>
              apply ih _ _ _ _ _ rfl
              apply length_without_of_killable
              rw [hkillable]
              exact mem_of_find hchosen
            · intro next result hout
              cases hout

variable (effects : StaticEffects)

theorem keeps_smartDamageAssignment (game : GameState)
    {controller : DamageController} (hnever : controller.NeverUndoes)
    (attacker : CardId) (blockers : List CardId) :
    game.Keeps
      (game.smartDamageAssignment effects attacker blockers controller) := by
  rw [smartDamageAssignment]
  split
  · exact game.keeps_error _
  · simp only
    split
    · exact game.keeps_ok _
    · exact game.keeps_chooseAssignment hnever _ _ _ _ _ _

/-- Controllers that never undo leave the game alone while they plan. -/
theorem keeps_planDamage (game : GameState)
    {attackerController blockerController : DamageController}
    (hattacker : attackerController.NeverUndoes)
    (hblocker : blockerController.NeverUndoes) (attackers : List CardId) :
    game.Keeps (planDamage effects attackerController blockerController game
      attackers) := by
  induction attackers with
  | nil => exact game.keeps_ok _
  | cons attacker rest ih =>
      rw [planDamage]
      simp only
      split
      · split
        · exact game.keeps_error _
        · next card _ =>
          have hcontroller : DamageController.NeverUndoes
              (if card.owner = attackerController.playerId then
                attackerController else blockerController) := by
            split
            · exact hattacker
            · exact hblocker
          apply Keeps.andThen
          · exact game.keeps_smartDamageAssignment effects hcontroller _ _
          · intro assignment
            apply Keeps.andThen ih
            intro plan
            exact game.keeps_ok _
      · exact ih

end Planning

end GameState

end DeepScry
