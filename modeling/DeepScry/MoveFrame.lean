/-
Relations between the states before and after a step that the small writes of
a move keep.  Each stage of a move is followed here once for all of them.
-/
import DeepScry.MoveStages

namespace DeepScry

/-- Every state the call can leave, also after an error. -/
def Outcome.Ensures {α : Type} (outcome : Outcome α)
    (P : GameState → Prop) : Prop :=
  ∀ game result, outcome = some (game, result) → P game

namespace Outcome.Ensures

variable {α β : Type} {P : GameState → Prop}

theorem ok {game : GameState} (hgame : P game) (value : α) :
    (Outcome.ok game value).Ensures P := by
  rintro after result ⟨⟩
  exact hgame

theorem error {game : GameState} (hgame : P game) (e : MtgError) :
    (Outcome.error game e : Outcome α).Ensures P := by
  rintro after result ⟨⟩
  exact hgame

theorem andThen {outcome : Outcome α} {next : GameState → α → Outcome β}
    (hfirst : outcome.Ensures P)
    (hnext : ∀ game value, P game → (next game value).Ensures P) :
    (outcome.andThen next).Ensures P := by
  rcases outcome with - | ⟨game, e | value⟩
  · rintro after result ⟨⟩
  · rintro after result ⟨⟩
    exact hfirst game _ rfl
  · exact hnext game value (hfirst game _ rfl)

theorem mono {outcome : Outcome α} {Q : GameState → Prop}
    (hensures : outcome.Ensures P) (himp : ∀ game, P game → Q game) :
    outcome.Ensures Q :=
  fun game result heq => himp game (hensures game result heq)

end Outcome.Ensures

/-- The actions that a move logs for its reveals, choices and payments. -/
def GameAction.isMinor : GameAction → Bool
  | revealCard _ _ _ _ => true
  | setRevealedToMask _ _ _ => true
  | setChosenColor _ _ => true
  | setChosenPlayer _ _ => true
  | setChosenMode _ _ => true
  | setChosenName _ _ => true
  | setStoredInt _ _ => true
  | modifyLife _ _ => true
  | _ => false

/-- A card without what its reveals, attachment and choices wrote. -/
def Card.steady (card : Card) : Card :=
  { card with
    revealedToMask := 0
    attachedTo := none
    chosenColor := none
    chosenPlayer := none
    chosenMode := none
    chosenName := none
    storedInt := none }

namespace GameState

/-- Cards, log, zones and delayed triggers are left alone. -/
structure Aside (before after : GameState) : Prop where
  cards : after.cards = before.cards
  undoLog : after.undoLog = before.undoLog
  zones : after.zones = before.zones
  delayedTriggers : after.delayedTriggers = before.delayedTriggers

/-- A relation that holds across actions of a class and card writes that a
view does not see. -/
structure MoveFrame {α : Type} (quiet : GameAction → Bool) (view : Card → α)
    (R : GameState → GameState → Prop) : Prop where
  refl : ∀ game, R game game
  trans : ∀ {first second third}, R first second → R second third →
    R first third
  logAction : ∀ game {action}, quiet action = true → ∀ priorLogSize,
    R game (game.logAction action priorLogSize)
  modifyCard : ∀ game id {f : Card → Card}, (∀ c, view (f c) = view c) →
    R game (game.modifyCard id f)
  aside : ∀ {before after}, Aside before after → R before after
  steady : ∀ c, view c.steady = view c
  minor : ∀ action, action.isMinor = true → quiet action = true

namespace MoveFrame

variable {α : Type} {quiet : GameAction → Bool} {view : Card → α}
  {R : GameState → GameState → Prop} (hframe : MoveFrame quiet view R)
include hframe

section Steps

variable {before after : GameState} (hstep : R before after)
include hstep

theorem thenLog {action : GameAction} (hquiet : quiet action = true)
    (priorLogSize : Nat) : R before (after.logAction action priorLogSize) :=
  hframe.trans hstep (hframe.logAction after hquiet priorLogSize)

theorem thenMessage : R before after.message :=
  hframe.trans hstep (hframe.aside ⟨rfl, rfl, rfl, rfl⟩)

theorem thenWrite (id : CardId) {f : Card → Card}
    (hf : ∀ c, view (f c) = view c) : R before (after.modifyCard id f) :=
  hframe.trans hstep (hframe.modifyCard after id hf)

theorem thenWritePlayer (player : PlayerId) (f : Player → Player) :
    R before (after.modifyPlayer player f) :=
  hframe.trans hstep (hframe.aside ⟨rfl, rfl, rfl, rfl⟩)

theorem thenCaches (f : ManaSourceCache → ManaSourceCache) :
    R before (after.mapCaches f) :=
  hframe.trans hstep (hframe.aside ⟨rfl, rfl, rfl, rfl⟩)

theorem thenVersion : R before after.incrementManaVersion :=
  hframe.trans hstep (hframe.aside ⟨rfl, rfl, rfl, rfl⟩)

end Steps

/-- The view does not see a write that only a steady field would show. -/
theorem view_of_steady {f : Card → Card}
    (hf : ∀ c : Card, (f c).steady = c.steady) (c : Card) :
    view (f c) = view c := by
  rw [← hframe.steady (f c), hf, hframe.steady]

variable (game : GameState) (id : CardId)

theorem maybeReveal (target : RevealTarget) (shown : Card → Bool)
    {mark : Card → Card} (hmark : ∀ c : Card, (mark c).steady = c.steady)
    (priorLogSize : Nat) :
    R game (game.maybeReveal id target shown mark priorLogSize) := by
  rw [GameState.maybeReveal]
  split
  · exact hframe.refl game
  · split
    · split
      · exact hframe.refl game
      · apply hframe.thenLog _ (hframe.minor _ rfl)
        exact hframe.modifyCard game id (hframe.view_of_steady hmark)
    · exact hframe.logAction game (hframe.minor _ rfl) priorLogSize

theorem maybeConcealInLibrary (priorLogSize : Nat) :
    R game (game.maybeConcealInLibrary id priorLogSize) := by
  rw [GameState.maybeConcealInLibrary]
  split
  · exact hframe.refl game
  · split
    · split
      · apply hframe.thenLog _ (hframe.minor _ rfl)
        apply hframe.modifyCard
        apply hframe.view_of_steady
        intro c
        rfl
      · exact hframe.refl game
    · split
      · exact hframe.logAction game (hframe.minor _ rfl) priorLogSize
      · exact hframe.refl game

theorem revealForMove (fromZone toZone : Zone) (owner : PlayerId) :
    R game (game.revealForMove id fromZone toZone owner) := by
  have hplayer : R game
      (game.maybeRevealToPlayer id owner game.logger.logCount) := by
    apply hframe.maybeReveal
    intro c
    rfl
  have hall : R game (game.maybeRevealToAll id game.logger.logCount) := by
    apply hframe.maybeReveal
    intro c
    rfl
  have hconceal := hframe.maybeConcealInLibrary game id game.logger.logCount
  have hself := hframe.refl game
  cases fromZone <;> cases toZone <;>
    first
    | exact hself
    | exact hall
    | exact hplayer
    | exact hconceal

theorem detachEquipment (fromZone : Zone) :
    R game (game.detachEquipment id fromZone) := by
  have hdetach (game : GameState) (equip : CardId) :
      R game (game.detach equip) := by
    apply hframe.thenMessage
    apply hframe.modifyCard
    apply hframe.view_of_steady
    intro c
    rfl
  have hall (equipment : List CardId) :
      ∀ game, R game (equipment.foldl detach game) := by
    induction equipment with
    | nil => exact hframe.refl
    | cons equip rest ih =>
        exact fun game => hframe.trans (hdetach game equip) (ih _)
  rw [GameState.detachEquipment]
  split
  · exact hall _ game
  · exact hframe.refl game

theorem prepareMove (fromZone toZone : Zone) (owner : PlayerId) :
    R game (game.prepareMove id fromZone toZone owner) :=
  hframe.trans (hframe.revealForMove game id fromZone toZone owner)
    (hframe.detachEquipment _ id fromZone)

theorem replaceAsEnters (has reports : Card → Bool)
    {write : Card → Card → Card} {action : Card → GameAction}
    (hwrite : ∀ card c, view (write card c) = view c)
    (hquiet : ∀ card, quiet (action card) = true) :
    R game (game.replaceAsEnters id has reports write action) := by
  rw [GameState.replaceAsEnters]
  split
  · next card hcard =>
    split
    · have hwritten := hframe.modifyCard game id (hwrite card)
      apply hframe.thenLog _ (hquiet card)
      split
      · exact hframe.thenMessage hwritten
      · exact hwritten
    · exact hframe.refl game
  · exact hframe.refl game

/-- A choice writes a field that is not steady, under a minor action. -/
theorem chooses (has reports : Card → Bool) {write : Card → Card → Card}
    {action : Card → GameAction}
    (hwrite : ∀ card c, (write card c).steady = c.steady)
    (hminor : ∀ card, (action card).isMinor = true) :
    R game (game.replaceAsEnters id has reports write action) := by
  apply hframe.replaceAsEnters
  · exact fun card => hframe.view_of_steady (hwrite card)
  · exact fun card => hframe.minor _ (hminor card)

theorem chooseAsEnters (owner : PlayerId) :
    R game (game.chooseAsEnters id owner) := by
  have hcolor (game : GameState) :
      R game (game.chooseColorAsEnters id owner) := by
    apply hframe.chooses <;> intros <;> rfl
  have hplayer (game : GameState) : R game (game.choosePlayerAsEnters id) := by
    apply hframe.chooses <;> intros <;> rfl
  have hmode (game : GameState) : R game (game.chooseModeAsEnters id) := by
    apply hframe.chooses <;> intros <;> rfl
  have hname (game : GameState) : R game (game.chooseNameAsEnters id) := by
    apply hframe.chooses <;> intros <;> rfl
  exact hframe.trans (hframe.trans (hframe.trans (hcolor _) (hplayer _))
    (hmode _)) (hname _)

theorem payLife (player : PlayerId) (amount : Int32) :
    R game (game.payLife player amount) := by
  have hpaid := hframe.thenWritePlayer (hframe.refl game) player fun p =>
    p.loseLife amount
  apply hframe.thenLog _ (hframe.minor _ rfl)
  split
  · exact hframe.thenMessage hpaid
  · exact hpaid

theorem payLifeAsEnters : R game (game.payLifeAsEnters id) := by
  rw [GameState.payLifeAsEnters]
  split
  · next card hcard =>
    split
    · apply hframe.trans (hframe.payLife game card.controller _)
      apply hframe.chooses <;> intros <;> rfl
    · exact hframe.refl game
  · exact hframe.refl game

/-- All replacements, where the view does not see the tapping. -/
theorem entersBattlefield (htap : ∀ c : Card, view c.tap = view c)
    (hquiet : quiet (.tapCard id true) = true) (owner : PlayerId) :
    R game (game.entersBattlefield id owner) := by
  have htapped : R game (game.entersTapped id) := by
    apply hframe.replaceAsEnters
    · exact fun _ => htap
    · exact fun _ => hquiet
  have hother (game : GameState) : R game (game.tapForGlobal id) := by
    rw [tapForGlobal]
    split
    · exact hframe.thenMessage (hframe.modifyCard game id htap)
    · exact hframe.refl game
  exact hframe.trans (hframe.trans (hframe.trans htapped (hother _))
    (hframe.chooseAsEnters _ id owner)) (hframe.payLifeAsEnters _ id)

theorem reportMove (fromZone toZone : Zone) :
    R game (game.reportMove id fromZone toZone) := by
  have hself := hframe.refl game
  have hmessage := hframe.thenMessage hself
  rw [reportMove.eq_def]
  split <;>
    first
    | exact hmessage
    | exact hself
    | split
      · exact hmessage
      · exact hself

theorem updateManaCaches (fromZone toZone : Zone) :
    R game (game.updateManaCaches id fromZone toZone) := by
  have hself := hframe.refl game
  rw [GameState.updateManaCaches]
  cases game.card? id with
  | none =>
      dsimp only
      split
      · exact hframe.thenVersion hself
      · exact hself
  | some card =>
      have hleft : R game (if fromZone = .battlefield then
          game.mapCaches fun cache => cache.onCardLeft id card
          else game) := by
        split
        · exact hframe.thenCaches hself _
        · exact hself
      have hboth : R game (if toZone = .battlefield then
          (if fromZone = .battlefield then
            game.mapCaches fun cache => cache.onCardLeft id card
          else game).mapCaches fun cache => cache.onCardEntered id card
          else if fromZone = .battlefield then
            game.mapCaches fun cache => cache.onCardLeft id card
          else game) := by
        split
        · exact hframe.thenCaches hleft _
        · exact hleft
      dsimp only
      split
      · exact hframe.thenVersion hboth
      · exact hboth

/-- The reset, where the view does not see it. -/
theorem resetIfLeft
    (hreset : ∀ (c : Card) definition,
      view (c.resetTransientState definition) = view c)
    (hquiet : ∀ snapshot, quiet (.restoreCardState id snapshot) = true)
    (fromZone : Zone) : R game (game.resetIfLeft id fromZone) := by
  rw [GameState.resetIfLeft]
  split
  · split
    · next card hcard =>
      apply hframe.thenWrite _ id
      · exact fun c => hreset c _
      · exact hframe.logAction game (hquiet _) _
    · exact hframe.refl game
  · exact hframe.refl game

theorem cleanupPersistentEffects (fromZone : Zone) :
    R game (game.cleanupPersistentEffects id fromZone) :=
  hframe.aside ⟨rfl, rfl, rfl, rfl⟩

/-- Everything between the zone change and the reset but the action of the
move itself. -/
theorem reportAndUpdate (fromZone toZone : Zone) :
    R game ((game.reportMove id fromZone toZone).updateManaCaches id fromZone
      toZone) :=
  hframe.trans (hframe.reportMove game id fromZone toZone)
    (hframe.updateManaCaches _ id fromZone toZone)

section Permanents

theorem setTapped (tapped : Bool) {write : Card → Card}
    (hwrite : ∀ c, view (write c) = view c)
    (hquiet : quiet (.tapCard id tapped) = true)
    (notify : CardId → Card → ManaSourceCache → ManaSourceCache) :
    (game.setTapped id tapped write notify).Ensures (R game) := by
  rw [GameState.setTapped]
  split
  · exact .error (hframe.refl game) _
  · split
    · exact .ok (hframe.refl game) _
    · apply Outcome.Ensures.ok
      apply hframe.thenVersion
      apply hframe.thenCaches
      apply hframe.thenLog _ hquiet
      exact hframe.modifyCard game id hwrite

theorem addCounters (counterType : CounterType) (amount : UInt8)
    (hwrite : ∀ c : Card, view (c.addCounter counterType amount) = view c)
    (hquiet : ∀ counters, quiet (.setCardCounters id counters) = true) :
    (game.addCounters id counterType amount).Ensures (R game) := by
  rw [GameState.addCounters]
  split
  · apply Outcome.Ensures.ok
    apply hframe.thenLog _ (hquiet _)
    exact hframe.modifyCard game id hwrite
  · exact .error (hframe.refl game) _

end Permanents

end MoveFrame

end GameState

end DeepScry
