/-
The stages of a move, each with the actions it logs and what undoing these
gives back.  The choices of an entering card and the reset of a leaving one
are undone exactly; the taps and the life payment leave a residue.
-/
import DeepScry.DelayedFiring
import DeepScry.UndoFrame

namespace DeepScry

namespace GameState

/-- `after` has the actions on top of the log of `before`. -/
structure Logs (before after : GameState) (actions : List GameAction) :
    Prop where
  enabled : after.undoLog.enabled = true
  actions : after.undoLog.actions = before.undoLog.actions ++ actions

theorem Logs.refl {game : GameState}
    (henabled : game.undoLog.enabled = true) : Logs game game [] :=
  ⟨henabled, (List.append_nil _).symm⟩

theorem Logs.trans {before middle after : GameState}
    {older newer : List GameAction} (hfirst : Logs before middle older)
    (hsecond : Logs middle after newer) :
    Logs before after (older ++ newer) :=
  ⟨hsecond.enabled, by
    rw [hsecond.actions, hfirst.actions, List.append_assoc]⟩

theorem Logs.of_undoLog {before middle after : GameState}
    {actions : List GameAction} (hlogs : Logs before middle actions)
    (heq : after.undoLog = middle.undoLog) : Logs before after actions :=
  ⟨heq ▸ hlogs.enabled, heq ▸ hlogs.actions⟩

theorem Logs.logAction {before after : GameState}
    {actions : List GameAction} (hlogs : Logs before after actions)
    (action : GameAction) (priorLogSize : Nat) :
    Logs before (after.logAction action priorLogSize)
      (actions ++ [action]) := by
  have henabled : after.undoLog.enabled = true := hlogs.enabled
  constructor
  · simp [GameState.logAction, UndoLog.log, henabled]
  · simp [GameState.logAction, UndoLog.log, henabled, hlogs.actions]

theorem Logs.single {before after : GameState}
    (hlogs : Logs before after []) (action : GameAction)
    (priorLogSize : Nat) :
    Logs before (after.logAction action priorLogSize) [action] :=
  hlogs.logAction action priorLogSize

theorem Logs.unique {before after : GameState}
    {actions other : List GameAction} (hlogs : Logs before after actions)
    (hother : Logs before after other) : actions = other :=
  List.append_cancel_left (hlogs.actions.symm.trans hother.actions)

/-- Nothing but the cards, the log and the messages differs. -/
def OnlyCards (before after : GameState) : Prop :=
  after = { before with
    cards := after.cards
    undoLog := after.undoLog
    logger := after.logger }

theorem OnlyCards.refl (game : GameState) : OnlyCards game game := rfl

theorem OnlyCards.trans {before middle after : GameState}
    (hfirst : OnlyCards before middle) (hsecond : OnlyCards middle after) :
    OnlyCards before after := by
  rw [OnlyCards] at hfirst hsecond ⊢
  rw [hsecond, hfirst]

theorem OnlyCards.tableau {before after : GameState}
    (honly : OnlyCards before after) :
    after.tableau = { before.tableau with cards := after.cards } := by
  rw [OnlyCards] at honly
  rw [honly]
  rfl

theorem OnlyCards.delayedTriggers {before after : GameState}
    (honly : OnlyCards before after) :
    after.delayedTriggers = before.delayedTriggers := by
  rw [OnlyCards] at honly
  rw [honly]

/-- The same with the players among what may differ. -/
def OnlyCardsAndPlayers (before after : GameState) : Prop :=
  after = { before with
    cards := after.cards
    players := after.players
    undoLog := after.undoLog
    logger := after.logger }

theorem OnlyCards.andPlayers {before after : GameState}
    (honly : OnlyCards before after) : OnlyCardsAndPlayers before after := by
  rw [OnlyCards] at honly
  rw [OnlyCardsAndPlayers, honly]

theorem OnlyCardsAndPlayers.trans {before middle after : GameState}
    (hfirst : OnlyCardsAndPlayers before middle)
    (hsecond : OnlyCardsAndPlayers middle after) :
    OnlyCardsAndPlayers before after := by
  rw [OnlyCardsAndPlayers] at hfirst hsecond ⊢
  rw [hsecond, hfirst]

theorem OnlyCardsAndPlayers.tableau {before after : GameState}
    (honly : OnlyCardsAndPlayers before after) :
    after.tableau = { before.tableau with
      cards := after.cards
      players := after.players } := by
  rw [OnlyCardsAndPlayers] at honly
  rw [honly]
  rfl

theorem OnlyCardsAndPlayers.delayedTriggers {before after : GameState}
    (honly : OnlyCardsAndPlayers before after) :
    after.delayedTriggers = before.delayedTriggers := by
  rw [OnlyCardsAndPlayers] at honly
  rw [honly]

/-- Two stores show the same under a view of their cards. -/
def SameView {α : Type} (view : Card → α) (store other : EntityStore Card) :
    Prop :=
  ∀ i, (store.tryGet i).map view = (other.tryGet i).map view

theorem SameView.refl {α : Type} {view : Card → α}
    (store : EntityStore Card) : SameView view store store := fun _ => rfl

theorem SameView.symm {α : Type} {view : Card → α}
    {store other : EntityStore Card} (hsame : SameView view store other) :
    SameView view other store := fun i => (hsame i).symm

theorem SameView.trans {α : Type} {view : Card → α}
    {first second third : EntityStore Card}
    (hfirst : SameView view first second)
    (hsecond : SameView view second third) : SameView view first third :=
  fun i => (hfirst i).trans (hsecond i)

theorem SameView.isSome {α : Type} {view : Card → α}
    {store other : EntityStore Card} (hsame : SameView view store other)
    (i : Nat) : (store.tryGet i).isSome = (other.tryGet i).isSome := by
  have hmap := congrArg Option.isSome (hsame i)
  rwa [Option.isSome_map, Option.isSome_map] at hmap

/-- A write that the view does not see. -/
theorem sameView_modify {α : Type} {view : Card → α} {f : Card → Card}
    (hf : ∀ c, view (f c) = view c) (store : EntityStore Card) (id : Nat) :
    SameView view (store.modify id f) store := by
  intro i
  rw [EntityStore.tryGet_modify]
  split
  · rw [Option.map_map]
    exact Option.map_congr fun c _ => hf c
  · rfl

/-- The actions logged in between, undone in a game with the cards of `after`,
bring back the cards of `before` and touch nothing else. -/
def CardsUndone (before after : GameState) : Prop :=
  ∃ actions, Logs before after actions ∧ ∀ game : GameState,
    game.cards = after.cards →
      (undoAll actions game).tableau =
        { game.tableau with cards := before.cards }

theorem CardsUndone.refl {game : GameState}
    (henabled : game.undoLog.enabled = true) : CardsUndone game game :=
  ⟨[], .refl henabled, fun other hcards => by simp [tableau, hcards]⟩

theorem CardsUndone.trans {before middle after : GameState}
    (hfirst : CardsUndone before middle)
    (hsecond : CardsUndone middle after) : CardsUndone before after := by
  obtain ⟨older, holder, hundoOlder⟩ := hfirst
  obtain ⟨newer, hnewer, hundoNewer⟩ := hsecond
  refine ⟨older ++ newer, holder.trans hnewer, fun game hcards => ?_⟩
  have hmiddle := hundoNewer game hcards
  have hmiddleCards : (undoAll newer game).cards = middle.cards :=
    congrArg Tableau.cards hmiddle
  rw [undoAll_append, hundoOlder _ hmiddleCards, hmiddle]

theorem CardsUndone.enabled {before after : GameState}
    (hundone : CardsUndone before after) :
    after.undoLog.enabled = true := by
  obtain ⟨_, hlogs, -⟩ := hundone
  exact hlogs.enabled

theorem undoCard_tableau (game : GameState) (id : CardId) (action : String)
    (f : Card → Card) :
    (game.undoCard id action f).1.tableau =
      { game.tableau with cards := game.cards.modify id.raw f } := by
  rw [undoCard]
  cases hcard : game.card? id with
  | some card => rfl
  | none =>
      simp only [tableau]
      rw [EntityStore.modify_of_tryGet_eq_none hcard]

theorem undoPlayer_tableau (game : GameState) (player : PlayerId)
    (action : String) (f : Player → Player) :
    (game.undoPlayer player action f).1.tableau =
      { game.tableau with players := (game.modifyPlayer player f).players } := by
  rw [undoPlayer]
  cases hplayer : game.getPlayer player with
  | some found => rfl
  | none =>
      have hself : (game.modifyPlayer player f).players = game.players := by
        apply FirstMatch.modifyFirst_eq_self
        intro found hfound
        rw [getPlayer, hfound] at hplayer
        cases hplayer
      simp only [tableau, hself]

theorem undo_tapCard_tableau (game : GameState) (id : CardId)
    (tapped : Bool) :
    ((GameAction.tapCard id tapped).undo game).1.tableau =
      { game.tableau with
        cards := game.cards.modify id.raw fun c =>
          { c with tapped := !tapped } } := by
  rw [GameAction.undo]
  cases hcard : game.card? id with
  | some card => rfl
  | none =>
      simp only [tableau]
      rw [EntityStore.modify_of_tryGet_eq_none hcard]

theorem undo_moveCard_tableau {game : GameState} {id : CardId}
    {fromZone toZone : Zone} {owner : PlayerId}
    (hholds : game.zones.holds toZone owner id = true)
    (position : Option UInt32) :
    ((GameAction.moveCard id fromZone toZone owner position).undo
      game).1.tableau = { game.tableau with
        zones := game.zones.putBack id fromZone toZone owner position } := by
  simp only [GameAction.undo, undoMove, hholds, ↓reduceIte]
  rfl

section Entering

variable (game : GameState) (id : CardId)

theorem replaceAsEnters_onlyCards (has reports : Card → Bool)
    (write : Card → Card → Card) (action : Card → GameAction) :
    OnlyCards game (game.replaceAsEnters id has reports write action) := by
  rw [replaceAsEnters]
  cases game.card? id with
  | none => rfl
  | some card =>
      dsimp only
      split
      · split <;> rfl
      · rfl

theorem replaceAsEnters_sameView {α : Type} {view : Card → α}
    {write : Card → Card → Card}
    (hwrite : ∀ card c, view (write card c) = view c)
    (has reports : Card → Bool) (action : Card → GameAction) :
    SameView view (game.replaceAsEnters id has reports write action).cards
      game.cards := by
  rw [replaceAsEnters]
  cases game.card? id with
  | none => exact .refl _
  | some card =>
      dsimp only
      split
      · split <;> exact sameView_modify (hwrite card) _ _
      · exact .refl _

/-- A replacement whose action writes the old value back is undone exactly. -/
theorem replaceAsEnters_undone {game : GameState}
    (henabled : game.undoLog.enabled = true) (id : CardId)
    (has reports : Card → Bool) {write : Card → Card → Card}
    {action : Card → GameAction} (restore : Card → Card → Card)
    (hundo : ∀ card other, ((action card).undo other).1.tableau =
      { other.tableau with
        cards := other.cards.modify id.raw (restore card) })
    (hrestore : ∀ card, restore card (write card card) = card) :
    CardsUndone game (game.replaceAsEnters id has reports write action) := by
  rw [replaceAsEnters]
  cases hcard : game.card? id with
  | none => exact .refl henabled
  | some card =>
      dsimp only
      split
      · refine ⟨[action card], ?_, fun other hcards => ?_⟩
        · apply Logs.single
          apply Logs.of_undoLog (.refl henabled)
          split <;> rfl
        · have hafter : other.cards =
              game.cards.modify id.raw (write card) := by
            rw [hcards]
            split <;> rfl
          rw [undoAll_cons, undoAll_nil, hundo, hafter,
            EntityStore.modify_modify,
            EntityStore.modify_eq_self_of_tryGet hcard (hrestore card)]
      · exact .refl henabled

variable {game}

theorem chooseColorAsEnters_undone (henabled : game.undoLog.enabled = true)
    (owner : PlayerId) :
    CardsUndone game (game.chooseColorAsEnters id owner) :=
  replaceAsEnters_undone henabled id _ _
    (fun card c => { c with chosenColor := card.chosenColor })
    (fun _ _ => undoCard_tableau ..) fun _ => rfl

theorem choosePlayerAsEnters_undone
    (henabled : game.undoLog.enabled = true) :
    CardsUndone game (game.choosePlayerAsEnters id) :=
  replaceAsEnters_undone henabled id _ _
    (fun card c => { c with chosenPlayer := card.chosenPlayer })
    (fun _ _ => undoCard_tableau ..) fun _ => rfl

theorem chooseModeAsEnters_undone (henabled : game.undoLog.enabled = true) :
    CardsUndone game (game.chooseModeAsEnters id) :=
  replaceAsEnters_undone henabled id _ _
    (fun card c => { c with chosenMode := card.chosenMode })
    (fun _ _ => undoCard_tableau ..) fun _ => rfl

theorem chooseNameAsEnters_undone (henabled : game.undoLog.enabled = true) :
    CardsUndone game (game.chooseNameAsEnters id) :=
  replaceAsEnters_undone henabled id _ _
    (fun card c => { c with chosenName := card.chosenName })
    (fun _ _ => undoCard_tableau ..) fun _ => rfl

/-- The four choices of an entering card. -/
def chooseAsEnters (game : GameState) (id : CardId) (owner : PlayerId) :
    GameState :=
  (((game.chooseColorAsEnters id owner).choosePlayerAsEnters
    id).chooseModeAsEnters id).chooseNameAsEnters id

theorem chooseAsEnters_undone (henabled : game.undoLog.enabled = true)
    (owner : PlayerId) : CardsUndone game (game.chooseAsEnters id owner) := by
  have hcolor := chooseColorAsEnters_undone id henabled owner
  have hplayer := choosePlayerAsEnters_undone id hcolor.enabled
  have hmode := chooseModeAsEnters_undone id hplayer.enabled
  have hname := chooseNameAsEnters_undone id hmode.enabled
  exact ((hcolor.trans hplayer).trans hmode).trans hname

theorem chooseAsEnters_onlyCards (game : GameState) (owner : PlayerId) :
    OnlyCards game (game.chooseAsEnters id owner) :=
  (((replaceAsEnters_onlyCards ..).trans
    (replaceAsEnters_onlyCards ..)).trans
    (replaceAsEnters_onlyCards ..)).trans (replaceAsEnters_onlyCards ..)

/-- What the life payment reads of a card. -/
def payLifeView (card : Card) : Bool × PlayerId :=
  (card.definition.cache.etbPayLife, card.controller)

theorem chooseAsEnters_payLifeView (game : GameState) (owner : PlayerId) :
    SameView payLifeView (game.chooseAsEnters id owner).cards game.cards := by
  have hcolor : SameView payLifeView (game.chooseColorAsEnters id owner).cards
      game.cards := by
    apply replaceAsEnters_sameView
    intro card c
    rfl
  have hplayer (game : GameState) : SameView payLifeView
      (game.choosePlayerAsEnters id).cards game.cards := by
    apply replaceAsEnters_sameView
    intro card c
    rfl
  have hmode (game : GameState) : SameView payLifeView
      (game.chooseModeAsEnters id).cards game.cards := by
    apply replaceAsEnters_sameView
    intro card c
    rfl
  have hname (game : GameState) : SameView payLifeView
      (game.chooseNameAsEnters id).cards game.cards := by
    apply replaceAsEnters_sameView
    intro card c
    rfl
  exact (hname _).trans ((hmode _).trans ((hplayer _).trans hcolor))

/-- What undoing the taps of an entering card leaves on it: untapped if it
enters tapped by itself, tapped if another permanent tapped it. -/
def tapResidue (game : GameState) (id : CardId) : EntityStore Card :=
  game.cards.modify id.raw fun card =>
    { card with
      tapped := !card.definition.cache.entersTapped &&
        (card.tapped || game.entersTappedByOther id) }

theorem taps_undone (henabled : game.undoLog.enabled = true) :
    ∃ actions, Logs game ((game.entersTapped id).tapForGlobal id) actions ∧
      ∀ other : GameState,
        other.cards = ((game.entersTapped id).tapForGlobal id).cards →
          (undoAll actions other).tableau =
            { other.tableau with cards := game.tapResidue id } := by
  cases hcard : game.card? id with
  | none =>
      have henters : game.entersTapped id = game := by
        rw [entersTapped, replaceAsEnters, hcard]
      have hglobal : game.tapForGlobal id = game := by
        rw [tapForGlobal, entersTappedByOther, hcard]
        rfl
      rw [henters, hglobal]
      refine ⟨[], .refl henabled, fun other hcards => ?_⟩
      rw [tapResidue, EntityStore.modify_of_tryGet_eq_none hcard, ← hcards]
      rfl
  | some card =>
      cases htapped : card.definition.cache.entersTapped with
      | true =>
          have henters : game.entersTapped id =
              ((game.modifyCard id Card.tap).message).logAction
                (.tapCard id true) game.logger.logCount := by
            rw [entersTapped, replaceAsEnters, hcard]
            simp only [htapped, ↓reduceIte]
          -- The global tap is skipped: the card is tapped already.
          have hglobal : (game.entersTapped id).tapForGlobal id =
              game.entersTapped id := by
            have hstored : (game.entersTapped id).card? id =
                some card.tap := by
              rw [henters]
              change (game.cards.modify id.raw Card.tap).tryGet id.raw = _
              rw [EntityStore.tryGet_modify_self]
              exact congrArg (Option.map Card.tap) hcard
            rw [tapForGlobal, entersTappedByOther, hstored]
            rfl
          rw [hglobal, henters]
          refine ⟨[.tapCard id true], ?_, fun other hcards => ?_⟩
          · apply Logs.single
            exact .of_undoLog (.refl henabled) rfl
          · have hother : other.cards = game.cards.modify id.raw Card.tap :=
              hcards
            rw [undoAll_cons, undoAll_nil, undo_tapCard_tableau, hother,
              EntityStore.modify_modify, tapResidue,
              EntityStore.modify_congr_of_tryGet hcard]
            simp [htapped, Card.tap]
      | false =>
          have henters : game.entersTapped id = game := by
            rw [entersTapped, replaceAsEnters, hcard]
            simp only [htapped, Bool.false_eq_true, ↓reduceIte]
          have hresidue : (game.tapForGlobal id).cards =
              game.tapResidue id := by
            rw [tapForGlobal, tapResidue]
            cases hglobal : game.entersTappedByOther id with
            | true =>
                apply EntityStore.modify_congr_of_tryGet hcard
                simp [htapped, Card.tap]
            | false =>
                symm
                apply EntityStore.modify_eq_self_of_tryGet hcard
                simp [htapped]
          rw [henters]
          refine ⟨[], ?_, fun other hcards => ?_⟩
          · apply Logs.of_undoLog (.refl henabled)
            rw [tapForGlobal]
            split <;> rfl
          · rw [undoAll_nil, ← hresidue, ← hcards]
            rfl

theorem taps_onlyCards (game : GameState) :
    OnlyCards game ((game.entersTapped id).tapForGlobal id) := by
  apply (replaceAsEnters_onlyCards ..).trans
  rw [tapForGlobal]
  split <;> rfl

theorem taps_payLifeView (game : GameState) :
    SameView payLifeView ((game.entersTapped id).tapForGlobal id).cards
      game.cards := by
  have henters : SameView payLifeView (game.entersTapped id).cards
      game.cards := by
    apply replaceAsEnters_sameView
    intro card c
    rfl
  apply SameView.trans _ henters
  rw [tapForGlobal]
  split
  · apply sameView_modify
    intro c
    rfl
  · exact .refl _

/-- What paying and undoing the payment leave of a player: the logged delta
takes the amount off a second time. -/
def payTwice (amount : Int32) (player : Player) : Player :=
  { player.loseLife amount with
    life := (player.loseLife amount).life - amount
    hasLost := (player.loseLife amount).hasLost &&
      !(0 < (player.loseLife amount).life - amount) }

/-- The players after the life payment of an entering card is undone. -/
def lifeResidue (game : GameState) (id : CardId) : List Player :=
  match (game.card? id).map payLifeView with
  | some (true, controller) =>
      (game.modifyPlayer controller
        (payTwice (lifePayment
          (((game.getPlayer controller).map Player.life).getD 1)))).players
  | _ => game.players

theorem lifeResidue_congr {game other : GameState}
    (hcards : SameView payLifeView game.cards other.cards)
    (hplayers : game.players = other.players) :
    game.lifeResidue id = other.lifeResidue id := by
  rw [lifeResidue, lifeResidue,
    show (game.card? id).map payLifeView =
      (other.card? id).map payLifeView from hcards id.raw]
  simp only [modifyPlayer, getPlayer, hplayers]

theorem payLife_logs (henabled : game.undoLog.enabled = true)
    (player : PlayerId) (amount : Int32) :
    Logs game (game.payLife player amount) [.modifyLife player amount] := by
  apply Logs.single
  apply Logs.of_undoLog (.refl henabled)
  split <;> rfl

theorem payLife_tableau (game : GameState) (player : PlayerId)
    (amount : Int32) :
    (game.payLife player amount).tableau =
      { game.tableau with
        players := (game.modifyPlayer player fun p =>
          p.loseLife amount).players } := by
  rw [payLife]
  dsimp only
  split <;> rfl

theorem storePayment_undone (henabled : game.undoLog.enabled = true)
    (amount : Int32) : CardsUndone game (game.storePayment id amount) :=
  replaceAsEnters_undone henabled id _ _
    (fun card c => { c with storedInt := card.storedInt })
    (fun _ _ => undoCard_tableau ..) fun _ => rfl

theorem payLifeAsEnters_undone (henabled : game.undoLog.enabled = true) :
    ∃ actions, Logs game (game.payLifeAsEnters id) actions ∧
      ∀ other : GameState,
        other.cards = (game.payLifeAsEnters id).cards →
        other.players = (game.payLifeAsEnters id).players →
          (undoAll actions other).tableau =
            { other.tableau with
              cards := game.cards
              players := game.lifeResidue id } := by
  have hskip (hself : game.payLifeAsEnters id = game)
      (hresidue : game.lifeResidue id = game.players) :
      ∃ actions, Logs game (game.payLifeAsEnters id) actions ∧
        ∀ other : GameState,
          other.cards = (game.payLifeAsEnters id).cards →
          other.players = (game.payLifeAsEnters id).players →
            (undoAll actions other).tableau =
              { other.tableau with
                cards := game.cards
                players := game.lifeResidue id } := by
    rw [hself, hresidue]
    refine ⟨[], .refl henabled, fun other hcards hplayers => ?_⟩
    rw [← hcards, ← hplayers]
    rfl
  cases hcard : game.card? id with
  | none =>
      apply hskip
      · rw [payLifeAsEnters, hcard]
      · rw [lifeResidue, hcard]
        rfl
  | some card =>
      cases hpays : card.definition.cache.etbPayLife with
      | false =>
          apply hskip
          · rw [payLifeAsEnters, hcard]
            simp only [hpays, Bool.false_eq_true, ↓reduceIte]
          · rw [lifeResidue, hcard, Option.map_some, payLifeView, hpays]
      | true =>
          have hresidue : game.lifeResidue id =
              (game.modifyPlayer card.controller
                (payTwice (game.entersPayment card))).players := by
            rw [lifeResidue, hcard, Option.map_some, payLifeView, hpays]
            rfl
          have hpaid : game.payLifeAsEnters id =
              (game.payLife card.controller
                (game.entersPayment card)).storePayment id
                  (game.entersPayment card) := by
            rw [payLifeAsEnters, hcard]
            simp only [hpays, ↓reduceIte]
          rw [hpaid, hresidue]
          generalize game.entersPayment card = amount
          have hlogs := payLife_logs henabled card.controller amount
          obtain ⟨newer, hnewer, hundo⟩ :=
            storePayment_undone id hlogs.enabled amount
          refine ⟨_, hlogs.trans hnewer, fun other hcards hplayers => ?_⟩
          have htableau := game.payLife_tableau card.controller amount
          have honly := replaceAsEnters_onlyCards
            (game.payLife card.controller amount) id (fun _ => true)
            (fun _ => true)
            (fun _ c => { c with storedInt := some amount.toUInt32 })
            fun card => .setStoredInt id card.storedInt
          have hpaidPlayers : other.players =
              (game.modifyPlayer card.controller fun p =>
                p.loseLife amount).players := by
            rw [hplayers]
            exact (congrArg Tableau.players honly.tableau).trans
              (congrArg Tableau.players htableau)
          have hmiddle := hundo other hcards
          rw [undoAll_append, undoAll_cons, undoAll_nil]
          -- The newer action brings back the cards, the older one pays again.
          have htwice : ((undoAll newer other).modifyPlayer card.controller
              fun p => { p with
                life := p.life - amount
                hasLost := p.hasLost && !(0 < p.life - amount) }).players =
              (game.modifyPlayer card.controller (payTwice amount)).players := by
            have hmiddlePlayers : (undoAll newer other).players =
                other.players := congrArg Tableau.players hmiddle
            simp only [modifyPlayer]
            rw [hmiddlePlayers, hpaidPlayers]
            apply FirstMatch.modifyFirst_modifyFirst
            intro p
            rfl
          refine (undoPlayer_tableau ..).trans ?_
          rw [htwice, hmiddle]
          exact congrArg (fun cards => (⟨cards, _, _, _⟩ : Tableau))
            (congrArg Tableau.cards htableau)

theorem payLifeAsEnters_onlyCardsAndPlayers (game : GameState) :
    OnlyCardsAndPlayers game (game.payLifeAsEnters id) := by
  rw [payLifeAsEnters]
  cases game.card? id with
  | none => rfl
  | some card =>
      dsimp only
      split
      · have hpaid : OnlyCardsAndPlayers game
            (game.payLife card.controller (game.entersPayment card)) := by
          rw [payLife]
          split <;> rfl
        exact hpaid.trans (replaceAsEnters_onlyCards ..).andPlayers
      · rfl

theorem entersBattlefield_onlyCardsAndPlayers (game : GameState)
    (owner : PlayerId) :
    OnlyCardsAndPlayers game (game.entersBattlefield id owner) := by
  have hchosen : OnlyCards game
      (((game.entersTapped id).tapForGlobal id).chooseAsEnters id owner) :=
    (taps_onlyCards id game).trans (chooseAsEnters_onlyCards id _ owner)
  exact hchosen.andPlayers.trans (payLifeAsEnters_onlyCardsAndPlayers id _)

/-- All replacements of an entering card, undone. -/
theorem entersBattlefield_undone (henabled : game.undoLog.enabled = true)
    (owner : PlayerId) :
    ∃ actions, Logs game (game.entersBattlefield id owner) actions ∧
      ∀ other : GameState,
        other.cards = (game.entersBattlefield id owner).cards →
        other.players = (game.entersBattlefield id owner).players →
          (undoAll actions other).tableau =
            { other.tableau with
              cards := game.tapResidue id
              players := game.lifeResidue id } := by
  generalize hentered : game.entersBattlefield id owner = entered
  generalize htapped : (game.entersTapped id).tapForGlobal id = tapped
  generalize hchosen : tapped.chooseAsEnters id owner = chosen
  have hsplit : chosen.payLifeAsEnters id = entered := by
    rw [← hentered, ← hchosen, ← htapped]
    rfl
  obtain ⟨taps, htaps, hundoTaps⟩ := taps_undone id henabled
  rw [htapped] at htaps hundoTaps
  have hchoices := chooseAsEnters_undone id htaps.enabled owner
  rw [hchosen] at hchoices
  obtain ⟨pays, hpays, hundoPays⟩ :=
    payLifeAsEnters_undone id hchoices.enabled
  rw [hsplit] at hpays hundoPays
  obtain ⟨choices, hchoicesLog, hundoChoices⟩ := hchoices
  refine ⟨_, (htaps.trans hchoicesLog).trans hpays,
    fun other hcards hplayers => ?_⟩
  have hafterPays := hundoPays other hcards hplayers
  have hafterChoices := hundoChoices (undoAll pays other)
    (congrArg Tableau.cards hafterPays)
  have hafterTaps := hundoTaps (undoAll choices (undoAll pays other))
    (congrArg Tableau.cards hafterChoices)
  have honly : OnlyCards game chosen := by
    rw [← hchosen, ← htapped]
    exact (taps_onlyCards id game).trans (chooseAsEnters_onlyCards id _ owner)
  have hview : SameView payLifeView chosen.cards game.cards := by
    rw [← hchosen, ← htapped]
    exact (chooseAsEnters_payLifeView id _ owner).trans
      (taps_payLifeView id game)
  have hresidue : chosen.lifeResidue id = game.lifeResidue id :=
    lifeResidue_congr id hview (congrArg Tableau.players honly.tableau)
  rw [undoAll_append, undoAll_append, hafterTaps, hafterChoices, hafterPays,
    hresidue]

end Entering

/-- A card but for the players it is revealed to. -/
def unmasked (card : Card) : Card := { card with revealedToMask := 0 }

/-- A view that does not look at masks. -/
theorem SameView.of_unmasked {α : Type} {view : Card → α}
    (hview : ∀ c, view (unmasked c) = view c)
    {store other : EntityStore Card} (hsame : SameView unmasked store other) :
    SameView view store other := by
  intro i
  have hmap (card? : Option Card) :
      (card?.map unmasked).map view = card?.map view := by
    rw [Option.map_map]
    exact Option.map_congr fun c _ => hview c
  rw [← hmap, hsame i, hmap]

theorem any_of_map_eq {g : Card → Card} {first second : Option Card}
    (hsame : first.map g = second.map g) {p : Card → Bool}
    (hp : ∀ c, p (g c) = p c) : first.any p = second.any p := by
  have hany (card? : Option Card) : (card?.map g).any p = card?.any p := by
    cases card? with
    | none => rfl
    | some card => exact hp card
  rw [← hany first, hsame, hany second]

theorem sameView_mask (store : EntityStore Card) (id : Nat) (mask : UInt8) :
    SameView unmasked
      (store.modify id fun c => { c with revealedToMask := mask }) store := by
  apply sameView_modify
  intro c
  rfl

/-- A step that only writes masks, and whose undo only writes masks in every
game with instances of the same cards. -/
structure OnlyMasks (before after : GameState) : Prop where
  onlyCards : OnlyCards before after
  sameView : SameView unmasked after.cards before.cards
  undone : ∃ actions, Logs before after actions ∧ ∀ other : GameState,
    (∀ i, (other.cards.tryGet i).isSome = (before.cards.tryGet i).isSome) →
      ∃ cards, SameView unmasked cards other.cards ∧
        (undoAll actions other).tableau = { other.tableau with cards := cards }

theorem OnlyMasks.refl {game : GameState}
    (henabled : game.undoLog.enabled = true) : OnlyMasks game game where
  onlyCards := .refl game
  sameView := .refl _
  undone := ⟨[], .refl henabled, fun _ _ => ⟨_, .refl _, rfl⟩⟩

theorem undo_revealCard_some_tableau {game : GameState} {id : CardId}
    {card : Card} (hcard : game.card? id = some card) (name : String)
    (target : RevealTarget) (oldMask : UInt8) :
    ((GameAction.revealCard id (some name) target oldMask).undo
      game).1.tableau = { game.tableau with
        cards := game.cards.modify id.raw fun c =>
          { c with revealedToMask := oldMask } } := by
  simp only [GameAction.undo, undoReveal, hcard]
  rfl

theorem undo_revealCard_none {game : GameState} {id : CardId}
    (hcard : game.card? id = none) (target : RevealTarget) :
    ((GameAction.revealCard id none target 0).undo game).1 = game := by
  simp only [GameAction.undo, undoReveal, hcard]
  rfl

section Reveals

variable {game : GameState} (henabled : game.undoLog.enabled = true)
  (id : CardId)

include henabled

theorem maybeReveal_onlyMasks (target : RevealTarget) (shown : Card → Bool)
    {mark : Card → Card} (hmark : ∀ c, unmasked (mark c) = unmasked c)
    (priorLogSize : Nat) :
    OnlyMasks game (game.maybeReveal id target shown mark priorLogSize) := by
  rw [maybeReveal]
  split
  · exact .refl henabled
  · cases hcard : game.card? id with
    | none =>
        refine ⟨rfl, .refl _, [.revealCard id none target 0], ?_,
          fun other hsome => ⟨other.cards, .refl _, ?_⟩⟩
        · exact (Logs.refl henabled).logAction _ _
        · have hother : other.card? id = none := by
            have hsame := hsome id.raw
            rw [show game.cards.tryGet id.raw = none from hcard] at hsame
            rw [Option.isSome_none, Option.isSome_eq_false_iff,
              Option.isNone_iff_eq_none] at hsame
            exact hsame
          rw [undoAll_cons, undoAll_nil, undo_revealCard_none hother]
          rfl
    | some card =>
        dsimp only
        split
        · exact .refl henabled
        · refine ⟨rfl, sameView_modify hmark _ _,
            [.revealCard id (some card.name) target card.revealedToMask], ?_,
            fun other hsome => ?_⟩
          · apply Logs.single
            exact .of_undoLog (.refl henabled) rfl
          · have hsame := hsome id.raw
            rw [show game.cards.tryGet id.raw = some card from hcard,
              Option.isSome_some, Option.isSome_iff_exists] at hsame
            obtain ⟨found, hfound⟩ := hsame
            exact ⟨_, sameView_mask other.cards id.raw card.revealedToMask,
              undo_revealCard_some_tableau hfound _ _ _⟩

theorem maybeConcealInLibrary_onlyMasks (priorLogSize : Nat) :
    OnlyMasks game (game.maybeConcealInLibrary id priorLogSize) := by
  rw [maybeConcealInLibrary]
  split
  · exact .refl henabled
  · cases hcard : game.card? id with
    | none =>
        dsimp only
        split
        · exact ⟨rfl, .refl _, [.setRevealedToMask id 0 0],
            (Logs.refl henabled).logAction _ _,
            fun other _ => ⟨_, sameView_mask other.cards id.raw 0, rfl⟩⟩
        · exact .refl henabled
    | some card =>
        dsimp only
        split
        · refine ⟨rfl, sameView_mask game.cards id.raw 0,
            [.setRevealedToMask id card.revealedToMask 0], ?_,
            fun other _ => ⟨_, sameView_mask other.cards id.raw _, rfl⟩⟩
          apply Logs.single
          exact .of_undoLog (.refl henabled) rfl
        · exact .refl henabled

theorem revealForMove_onlyMasks (fromZone toZone : Zone) (owner : PlayerId) :
    OnlyMasks game (game.revealForMove id fromZone toZone owner) := by
  have hall : OnlyMasks game
      (game.maybeRevealToAll id game.logger.logCount) := by
    apply maybeReveal_onlyMasks henabled
    intro c
    rfl
  have hplayer : OnlyMasks game
      (game.maybeRevealToPlayer id owner game.logger.logCount) := by
    apply maybeReveal_onlyMasks henabled
    intro c
    rfl
  have hconceal := maybeConcealInLibrary_onlyMasks henabled id
    game.logger.logCount
  cases fromZone <;> cases toZone <;>
    first
    | exact .refl henabled
    | exact hall
    | exact hplayer
    | exact hconceal

end Reveals

theorem resetIfLeft_undone {game : GameState}
    (henabled : game.undoLog.enabled = true) (id : CardId)
    (fromZone : Zone) : CardsUndone game (game.resetIfLeft id fromZone) := by
  rw [resetIfLeft]
  split
  · cases hcard : game.card? id with
    | none => exact .refl henabled
    | some card =>
        refine ⟨[.restoreCardState id card.captureStateSnapshot], ?_,
          fun other hcards => ?_⟩
        · exact .of_undoLog ((Logs.refl henabled).logAction _ _) rfl
        · have hother : other.cards = game.cards.modify id.raw fun c =>
              c.resetTransientState (game.originalDefinition card) := hcards
          rw [undoAll_cons, undoAll_nil]
          refine (undoCard_tableau ..).trans ?_
          rw [hother, EntityStore.modify_modify,
            EntityStore.modify_eq_self_of_tryGet hcard]
          rfl
  · exact .refl henabled

theorem resetIfLeft_onlyCards (game : GameState) (id : CardId)
    (fromZone : Zone) : OnlyCards game (game.resetIfLeft id fromZone) := by
  rw [resetIfLeft]
  split
  · cases game.card? id <;> rfl
  · rfl

/-- Messages and caches change nothing that an undo restores. -/
theorem report_tableau (game : GameState) (id : CardId)
    (fromZone toZone : Zone) :
    ((game.reportMove id fromZone toZone).updateManaCaches id fromZone
      toZone).tableau = game.tableau ∧
    ((game.reportMove id fromZone toZone).updateManaCaches id fromZone
      toZone).undoLog = game.undoLog ∧
    ((game.reportMove id fromZone toZone).updateManaCaches id fromZone
      toZone).delayedTriggers = game.delayedTriggers := by
  have hreport : (game.reportMove id fromZone toZone).tableau =
        game.tableau ∧
      (game.reportMove id fromZone toZone).undoLog = game.undoLog ∧
      (game.reportMove id fromZone toZone).delayedTriggers =
        game.delayedTriggers := by
    rw [reportMove.eq_def]
    split <;> first | exact ⟨rfl, rfl, rfl⟩ | (split <;> exact ⟨rfl, rfl, rfl⟩)
  have hcaches (game : GameState) :
      (game.updateManaCaches id fromZone toZone).tableau = game.tableau ∧
      (game.updateManaCaches id fromZone toZone).undoLog = game.undoLog ∧
      (game.updateManaCaches id fromZone toZone).delayedTriggers =
        game.delayedTriggers := by
    rw [updateManaCaches]
    cases game.card? id <;> dsimp only <;> split_ifs <;>
      exact ⟨rfl, rfl, rfl⟩
  obtain ⟨htableau, hlog, htriggers⟩ := hcaches
    (game.reportMove id fromZone toZone)
  exact ⟨htableau.trans hreport.1, hlog.trans hreport.2.1,
    htriggers.trans hreport.2.2⟩

/-- Detaching writes to cards and messages only, without an action. -/
theorem foldl_detach_eq (equipment : List CardId) (game : GameState) :
    equipment.foldl detach game =
      { game with
        cards := (equipment.foldl detach game).cards
        logger := (equipment.foldl detach game).logger } := by
  induction equipment generalizing game with
  | nil => rfl
  | cons equip rest ih =>
      rw [List.foldl_cons, ih]
      rfl

theorem foldl_detach_sameView {α : Type} {view : Card → α}
    (hview : ∀ c : Card, view { c with attachedTo := none } = view c)
    (equipment : List CardId) (game : GameState) :
    SameView view (equipment.foldl detach game).cards game.cards := by
  induction equipment generalizing game with
  | nil => exact .refl _
  | cons equip rest ih =>
      exact (ih (game.detach equip)).trans (sameView_modify hview _ _)

theorem detachEquipment_eq_self {game : GameState} {id : CardId}
    {fromZone : Zone}
    (hnone : fromZone = .battlefield →
      (game.card? id).any Card.isCreature = true →
        game.attachedEquipment id = []) :
    game.detachEquipment id fromZone = game := by
  rw [detachEquipment]
  split
  · next hleaves =>
    rw [Bool.and_eq_true, decide_eq_true_eq] at hleaves
    rw [hnone hleaves.1 hleaves.2]
    rfl
  · rfl

/-- Every listed piece is attached to nothing afterwards. -/
theorem foldl_detach_attachedTo {equipment : List CardId} {equip : CardId}
    {game : GameState}
    (hequip : equip ∈ equipment ∨
      ∀ c, game.card? equip = some c → c.attachedTo = none) :
    ∀ c, (equipment.foldl detach game).card? equip = some c →
      c.attachedTo = none := by
  induction equipment generalizing game with
  | nil => exact hequip.resolve_left List.not_mem_nil
  | cons first rest ih =>
      apply ih
      by_cases hrest : equip ∈ rest
      · exact Or.inl hrest
      · right
        intro c hc
        change (game.cards.modify first.raw _).tryGet equip.raw = _ at hc
        by_cases hfirst : equip = first
        · rw [hfirst, EntityStore.tryGet_modify_self] at hc
          obtain ⟨card, -, rfl⟩ := Option.map_eq_some_iff.mp hc
          rfl
        · have hne : first.raw ≠ equip.raw := by
            intro heq
            exact hfirst (CardId.ext heq.symm)
          rw [EntityStore.tryGet_modify_ne _ hne] at hc
          rcases hequip with hmem | hnone
          · exact absurd hmem (by simp [hfirst, hrest])
          · exact hnone c hc

end GameState

end DeepScry
