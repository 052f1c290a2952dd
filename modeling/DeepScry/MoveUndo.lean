/-
Undoing a move: what the undo of all actions of one `move_card` call gives
back, and exactly when that is the state before the call.
-/
import DeepScry.MoveFrame
import DeepScry.PutBack

namespace DeepScry

open GameState

/-- The fields of a card that the undo of a move is to restore. -/
structure Card.Tracked where
  tapped : Bool
  attachedTo : Option CardId
  counters : List (CounterType × UInt8)
  chosenColor : Option Color
  chosenPlayer : Option PlayerId
  chosenMode : Option String
  chosenName : Option String
  storedInt : Option UInt32
deriving DecidableEq

def Card.tracked (card : Card) : Card.Tracked where
  tapped := card.tapped
  attachedTo := card.attachedTo
  counters := card.counters
  chosenColor := card.chosenColor
  chosenPlayer := card.chosenPlayer
  chosenMode := card.chosenMode
  chosenName := card.chosenName
  storedInt := card.storedInt

/-- The life total of a player, with the player it belongs to. -/
def Player.lifeTotal (player : Player) : PlayerId × Int32 :=
  (player.id, player.life)

/-- The payment lies between zero and seven. -/
theorem lifePayment_toNat_le (life : Int32) :
    (lifePayment life).toBitVec.toNat ≤ 7 := by
  have hbounds : 0 ≤ (lifePayment life).toInt ∧ (lifePayment life).toInt ≤ 7 := by
    have hzero : (0 : Int32).toInt = 0 := rfl
    have hseven : (7 : Int32).toInt = 7 := rfl
    rw [lifePayment]
    split_ifs with hpayable hcap hcap
    · exact ⟨by rw [hzero], by rw [hzero]; decide⟩
    · exact ⟨by rw [hseven]; decide, by rw [hseven]⟩
    · rw [Int32.le_iff_toInt_le] at hpayable hcap
      exact ⟨by omega, by omega⟩
    · exact ⟨by rw [hseven]; decide, by rw [hseven]⟩
  obtain ⟨hlower, hupper⟩ := hbounds
  rw [Int32.toInt, BitVec.toInt_eq_toNat_cond] at hlower hupper
  have hlt := (lifePayment life).toBitVec.isLt
  split at hupper <;> omega

/-- Taken off twice, a payment is noticed unless it is zero. -/
theorem sub_sub_lifePayment_eq_iff (life total : Int32) :
    total - lifePayment life - lifePayment life = total ↔
      lifePayment life = 0 := by
  have hle := lifePayment_toNat_le life
  generalize lifePayment life = amount at hle
  constructor
  · intro heq
    have hbits := congrArg Int32.toBitVec heq
    rw [Int32.toBitVec_sub, Int32.toBitVec_sub] at hbits
    apply Int32.toBitVec_inj.mp
    change amount.toBitVec = 0#32
    bv_omega
  · rintro rfl
    simp
namespace GameState

/-- Zones, tracked fields, life totals and persistent effects agree. -/
structure Restores (undone before : GameState) : Prop where
  zones : undone.zones = before.zones
  cards : SameView Card.tracked undone.cards before.cards
  life : undone.players.map Player.lifeTotal =
    before.players.map Player.lifeTotal
  persistentEffects : undone.persistentEffects = before.persistentEffects

/-- When the entry of a card is undone exactly: it is not tapped by another
permanent, not tapped already where it enters tapped, and costs no life. -/
structure EntryUndoable (game : GameState) (id : CardId) (card : Card) :
    Prop where
  tapped : if card.definition.cache.entersTapped then card.tapped = false
    else game.entersTappedByOther id = false
  payment : card.definition.cache.etbPayLife = true →
    (game.getPlayer card.controller).isSome = true →
      game.entersPayment card = 0

/-- When the move of a card that is in its zone is undone exactly. -/
structure RelocationUndoable (game : GameState) (id : CardId)
    (fromZone toZone : Zone) (owner : PlayerId) : Prop where
  position : ∀ position,
    game.zones.positionOf fromZone owner id = some position →
      position < 2 ^ 32
  copies : ∀ other ∈ (game.zones.destination id fromZone toZone
    owner).dropWhile (· != id), other = id
  effects : game.persistentEffects.findEffectsToCleanupOnZoneChange id
    fromZone = []
  entry : toZone = .battlefield →
    ∀ card, game.card? id = some card → game.EntryUndoable id card

/-- The condition for an exact undo; `toZone` is the final destination. -/
structure MoveUndoable (game : GameState) (id : CardId)
    (fromZone toZone : Zone) (owner : PlayerId) : Prop where
  equipment : fromZone = .battlefield →
    (game.card? id).any Card.isCreature = true →
      game.attachedEquipment id = []
  relocation : game.zones.holds fromZone owner id = true →
    game.RelocationUndoable id fromZone toZone owner

section Relocating

variable {game : GameState} (id : CardId) {fromZone toZone : Zone}
  {owner : PlayerId}

/-- The replacements of an entering card, where there is one, undone. -/
theorem entered_undone (henabled : game.undoLog.enabled = true)
    (toZone : Zone) (owner : PlayerId) :
    ∃ actions,
      Logs game (if toZone = .battlefield then
        game.entersBattlefield id owner else game) actions ∧
      ∀ other : GameState,
        other.cards = (if toZone = .battlefield then
          game.entersBattlefield id owner else game).cards →
        other.players = (if toZone = .battlefield then
          game.entersBattlefield id owner else game).players →
          (undoAll actions other).tableau =
            { other.tableau with
              cards := if toZone = .battlefield then game.tapResidue id
                else game.cards
              players := if toZone = .battlefield then game.lifeResidue id
                else game.players } := by
  split
  · exact entersBattlefield_undone id henabled owner
  · refine ⟨[], .refl henabled, fun other hcards hplayers => ?_⟩
    rw [← hcards, ← hplayers]
    rfl

theorem entered_onlyCardsAndPlayers (game : GameState) (toZone : Zone)
    (owner : PlayerId) :
    OnlyCardsAndPlayers game (if toZone = .battlefield then
      game.entersBattlefield id owner else game) := by
  split
  · exact entersBattlefield_onlyCardsAndPlayers id game owner
  · rfl

/-- What the undo of a whole relocation leaves. -/
theorem relocate_undone (henabled : game.undoLog.enabled = true)
    (howner : (game.zones.getPlayerZones owner).isSome = true) :
    (game.relocate id fromZone toZone owner).delayedTriggers =
        game.delayedTriggers ∧
      ∃ actions, Logs game (game.relocate id fromZone toZone owner) actions ∧
      (undoAll actions (game.relocate id fromZone toZone owner)).tableau =
        { cards := if toZone = .battlefield then
            (game.changeZone id fromZone toZone owner).tapResidue id
            else game.cards
          players := if toZone = .battlefield then game.lifeResidue id
            else game.players
          zones := (game.zones.afterMove id fromZone toZone owner).putBack id
            fromZone toZone owner
            ((game.zones.positionOf fromZone owner id).map UInt32.ofNat)
          persistentEffects :=
            (game.cleanupPersistentEffects id fromZone).persistentEffects } := by
  generalize hchanged : game.changeZone id fromZone toZone owner = changed
  have hchangedLog : changed.undoLog = game.undoLog := by
    rw [← hchanged]
    rfl
  have hchangedEnabled : changed.undoLog.enabled = true := by
    rw [hchangedLog, henabled]
  obtain ⟨entries, hentries, hundoEntries⟩ :=
    entered_undone id hchangedEnabled toZone owner
  have honlyEntered := entered_onlyCardsAndPlayers id changed toZone owner
  generalize hentered : (if toZone = .battlefield then
    changed.entersBattlefield id owner else changed) = entered at *
  generalize hposition :
    (game.zones.positionOf fromZone owner id).map UInt32.ofNat = position
  generalize hlogged : entered.logAction
    (.moveCard id fromZone toZone owner position)
    entered.logger.logCount = logged
  obtain ⟨hreport, hreportLog, hreportTriggers⟩ :=
    report_tableau logged id fromZone toZone
  generalize hreported : (logged.reportMove id fromZone
    toZone).updateManaCaches id fromZone toZone = reported at *
  have hdone : game.relocate id fromZone toZone owner =
      (reported.resetIfLeft id fromZone).cleanupPersistentEffects id
        fromZone := by
    rw [← hreported, ← hlogged, ← hposition, ← hentered, ← hchanged]
    rfl
  have hloggedLogs : Logs game logged
      (entries ++ [.moveCard id fromZone toZone owner position]) := by
    rw [← hlogged]
    apply Logs.logAction
    exact ⟨hentries.enabled, by rw [hentries.actions, hchangedLog]⟩
  have hreportedLogs := hloggedLogs.of_undoLog hreportLog
  have honlyReset := resetIfLeft_onlyCards reported id fromZone
  obtain ⟨resets, hresets, hundoResets⟩ :=
    resetIfLeft_undone hreportedLogs.enabled id fromZone
  -- Nothing between the entry and the reset touches the tableau.
  have hbefore : reported.tableau = entered.tableau := by
    rw [hreport, ← hlogged]
    rfl
  have hentered : entered.tableau =
      ⟨entered.cards, entered.players,
        game.zones.afterMove id fromZone toZone owner,
        game.persistentEffects⟩ := by
    rw [honlyEntered.tableau, ← hchanged]
    rfl
  have hresetTableau : (reported.resetIfLeft id fromZone).tableau =
      ⟨(reported.resetIfLeft id fromZone).cards, entered.players,
        game.zones.afterMove id fromZone toZone owner,
        game.persistentEffects⟩ := by
    rw [honlyReset.tableau, hbefore, hentered]
  have heffects : (reported.resetIfLeft id fromZone).persistentEffects =
      game.persistentEffects :=
    congrArg Tableau.persistentEffects hresetTableau
  have hdoneTableau : ((reported.resetIfLeft id
      fromZone).cleanupPersistentEffects id fromZone).tableau =
      ⟨(reported.resetIfLeft id fromZone).cards, entered.players,
        game.zones.afterMove id fromZone toZone owner,
        (game.cleanupPersistentEffects id fromZone).persistentEffects⟩ := by
    have hcleaned : (((reported.resetIfLeft id
        fromZone).cleanupPersistentEffects id fromZone).persistentEffects) =
        (game.cleanupPersistentEffects id fromZone).persistentEffects := by
      simp only [cleanupPersistentEffects, heffects]
    rw [← hcleaned]
    exact congrArg (fun t : Tableau => (⟨t.cards, t.players, t.zones, _⟩ :
      Tableau)) hresetTableau
  rw [hdone]
  generalize hmoved : (reported.resetIfLeft id
    fromZone).cleanupPersistentEffects id fromZone = moved at *
  constructor
  · rw [← hmoved]
    change (reported.resetIfLeft id fromZone).delayedTriggers = _
    rw [honlyReset.delayedTriggers, hreportTriggers, ← hlogged]
    change entered.delayedTriggers = _
    rw [honlyEntered.delayedTriggers, ← hchanged]
    rfl
  · have hmovedLog : moved.undoLog =
        (reported.resetIfLeft id fromZone).undoLog := by
      rw [← hmoved]
      rfl
    refine ⟨_, (hreportedLogs.trans hresets).of_undoLog hmovedLog, ?_⟩
    -- First the reset, then the zone change, then the entry.
    have hafterResets : (undoAll resets moved).tableau =
        ⟨entered.cards, entered.players,
          game.zones.afterMove id fromZone toZone owner,
          (game.cleanupPersistentEffects id fromZone).persistentEffects⟩ := by
      rw [hundoResets moved (congrArg Tableau.cards hdoneTableau),
        hdoneTableau]
      exact congrArg (fun cards => (⟨cards, _, _, _⟩ : Tableau))
        (congrArg Tableau.cards hbefore)
    have hafterMove : (undoAll [.moveCard id fromZone toZone owner position]
        (undoAll resets moved)).tableau =
        ⟨entered.cards, entered.players,
          (game.zones.afterMove id fromZone toZone owner).putBack id fromZone
            toZone owner position,
          (game.cleanupPersistentEffects id fromZone).persistentEffects⟩ := by
      have hzones : (undoAll resets moved).zones =
          game.zones.afterMove id fromZone toZone owner :=
        congrArg Tableau.zones hafterResets
      have hholds : (undoAll resets moved).zones.holds toZone owner id =
          true := by
        rw [hzones]
        exact Zones.holds_afterMove howner id fromZone toZone
      rw [undoAll_cons, undoAll_nil, undo_moveCard_tableau hholds,
        hafterResets, hzones]
    rw [undoAll_append, undoAll_append,
      hundoEntries _ (congrArg Tableau.cards hafterMove)
        (congrArg Tableau.players hafterMove), hafterMove, ← hchanged]
    rfl

end Relocating

theorem lifeResidue_lifeTotal_iff (game : GameState) (id : CardId) :
    (game.lifeResidue id).map Player.lifeTotal =
        game.players.map Player.lifeTotal ↔
      ∀ card, game.card? id = some card →
        card.definition.cache.etbPayLife = true →
          (game.getPlayer card.controller).isSome = true →
            game.entersPayment card = 0 := by
  cases hcard : game.card? id with
  | none =>
      rw [lifeResidue, hcard]
      simp
  | some card =>
      rw [lifeResidue, hcard]
      simp only [Option.map_some, payLifeView, Option.some.injEq, forall_eq']
      cases card.definition.cache.etbPayLife with
      | false => simp
      | true =>
          change (FirstMatch.modifyFirst _
            (payTwice (game.entersPayment card)) _).map _ = _ ↔ _
          rw [FirstMatch.map_modifyFirst_eq_iff, Option.isSome_iff_exists]
          have hpay (player : Player) :
              (payTwice (game.entersPayment card) player).lifeTotal =
                player.lifeTotal ↔ game.entersPayment card = 0 := by
            rw [Player.lifeTotal, Player.lifeTotal, Prod.mk.injEq]
            exact (and_iff_right rfl).trans (sub_sub_lifePayment_eq_iff _ _)
          constructor
          · rintro hall - ⟨player, hplayer⟩
            exact (hpay player).mp (hall player hplayer)
          · intro hzero player hplayer
            exact (hpay player).mpr (hzero rfl ⟨player, hplayer⟩)

/-- Whether a card is tapped by another permanent does not depend on masks, nor
on where the card itself stands. -/
theorem entersTappedByOther_congr {game other : GameState} {id : CardId}
    (hcards : SameView Card.steady game.cards other.cards)
    (hbattlefield : game.zones.battlefield.filter (· != id) =
      other.zones.battlefield.filter (· != id)) :
    game.entersTappedByOther id = other.entersTappedByOther id := by
  have htaps (entering : Card) : game.tapsEntering entering =
      other.tapsEntering entering := by
    funext source
    apply any_of_map_eq (hcards source.raw)
    intro c
    rfl
  have hbattle (entering : Card) :
      (game.zones.battlefield.any fun source =>
        source != id && game.tapsEntering entering source) =
      other.zones.battlefield.any fun source =>
        source != id && other.tapsEntering entering source := by
    rw [← List.any_filter, hbattlefield, List.any_filter, htaps]
  rw [entersTappedByOther, entersTappedByOther]
  simp only [hbattle]
  apply any_of_map_eq (hcards id.raw)
  intro c
  rfl

theorem filter_erase_ne (cards : List CardId) (id : CardId) :
    (cards.erase id).filter (· != id) = cards.filter (· != id) := by
  induction cards with
  | nil => rfl
  | cons first rest ih =>
      by_cases hfirst : first = id
      · subst hfirst
        simp
      · rw [List.erase_cons_tail (by simpa using hfirst),
          List.filter_cons, List.filter_cons, ih]

/-- A card that moves onto the battlefield leaves the others there alone. -/
theorem battlefield_afterMove (zones : Zones) (id : CardId)
    (fromZone : Zone) (owner : PlayerId) :
    (zones.afterMove id fromZone .battlefield owner).battlefield.filter
        (· != id) = zones.battlefield.filter (· != id) := by
  have happend (cards : List CardId) :
      (cards ++ [id]).filter (· != id) = cards.filter (· != id) := by
    simp
  refine (happend _).trans ?_
  cases fromZone <;> first | rfl | exact filter_erase_ne _ _

theorem tapResidue_tracked_iff {game changed : GameState} {id : CardId}
    (hcards : SameView unmasked changed.cards game.cards)
    (hother : changed.entersTappedByOther id = game.entersTappedByOther id) :
    SameView Card.tracked (changed.tapResidue id) game.cards ↔
      ∀ card, game.card? id = some card →
        if card.definition.cache.entersTapped then card.tapped = false
        else game.entersTappedByOther id = false := by
  have htracked : SameView Card.tracked changed.cards game.cards :=
    hcards.of_unmasked fun _ => rfl
  cases hcard : game.card? id with
  | none =>
      have hnone : changed.cards.tryGet id.raw = none := by
        have hsame := hcards id.raw
        rw [show game.cards.tryGet id.raw = none from hcard] at hsame
        simpa using hsame
      rw [tapResidue, EntityStore.modify_of_tryGet_eq_none hnone]
      simpa using htracked
  | some card =>
      obtain ⟨moved, hmoved, hsame⟩ : ∃ moved,
          changed.cards.tryGet id.raw = some moved ∧
            unmasked moved = unmasked card := by
        have hsame := hcards id.raw
        rw [show game.cards.tryGet id.raw = some card from hcard,
          Option.map_some] at hsame
        exact Option.map_eq_some_iff.mp hsame
      have htapped : (unmasked moved).tapped = (unmasked card).tapped := by
        rw [hsame]
      have henters : (unmasked moved).definition = (unmasked card).definition := by
        rw [hsame]
      change moved.tapped = card.tapped at htapped
      change moved.definition = card.definition at henters
      -- Another permanent only taps a card that is untapped.
      have huntapped : game.entersTappedByOther id = true →
          card.tapped = false := by
        rw [entersTappedByOther, hcard]
        simp only [Option.any_some, Bool.and_eq_true, Bool.not_eq_true']
        exact And.left
      have hresidue : SameView Card.tracked (changed.tapResidue id)
          game.cards ↔ (!moved.definition.cache.entersTapped &&
            (moved.tapped || changed.entersTappedByOther id)) =
              moved.tapped := by
        constructor
        · intro hall
          have hid := hall id.raw
          rw [tapResidue, EntityStore.tryGet_modify_self, hmoved,
            show game.cards.tryGet id.raw = some card from hcard] at hid
          simp only [Option.map_some, Option.some.injEq] at hid
          exact (congrArg Card.Tracked.tapped hid).trans htapped.symm
        · intro heq
          have hself : changed.tapResidue id = changed.cards := by
            rw [tapResidue]
            apply EntityStore.modify_eq_self_of_tryGet hmoved
            rw [heq]
          rw [hself]
          exact htracked
      rw [hresidue, htapped, henters, hother]
      simp only [Option.some.injEq, forall_eq']
      cases hown : card.definition.cache.entersTapped with
      | true =>
          rw [Bool.not_true, Bool.false_and, if_pos rfl]
          exact eq_comm
      | false =>
          cases hglobal : game.entersTappedByOther id with
          | true => simp [huntapped hglobal]
          | false => simp

theorem restores_congr {first second before : GameState}
    (hsame : first.tableau = second.tableau) :
    first.Restores before ↔ second.Restores before := by
  have hzones : first.zones = second.zones := congrArg Tableau.zones hsame
  have hcards : first.cards = second.cards := congrArg Tableau.cards hsame
  have hplayers : first.players = second.players :=
    congrArg Tableau.players hsame
  have heffects : first.persistentEffects = second.persistentEffects :=
    congrArg Tableau.persistentEffects hsame
  constructor
  · rintro ⟨h1, h2, h3, h4⟩
    exact ⟨hzones ▸ h1, hcards ▸ h2, hplayers ▸ h3, heffects ▸ h4⟩
  · rintro ⟨h1, h2, h3, h4⟩
    exact ⟨hzones ▸ h1, hcards ▸ h2, hplayers ▸ h3, heffects ▸ h4⟩

/-- The message of the commander replacement and the reveals write masks. -/
theorem revealed_onlyMasks {game : GameState}
    (henabled : game.undoLog.enabled = true) (id : CardId)
    (fromZone toZone : Zone) (owner : PlayerId) (replaced : Bool) :
    OnlyMasks game ((if replaced then game.message else game).revealForMove id
      fromZone toZone owner) := by
  cases replaced with
  | false => exact revealForMove_onlyMasks henabled id fromZone toZone owner
  | true =>
      have hmasks : OnlyMasks game.message
          (game.message.revealForMove id fromZone toZone owner) :=
        revealForMove_onlyMasks (show game.message.undoLog.enabled = true from
          henabled) id fromZone toZone owner
      obtain ⟨actions, hlogs, hundo⟩ := hmasks.undone
      have hmessage : OnlyCards game game.message := rfl
      exact ⟨hmessage.trans hmasks.onlyCards, hmasks.sameView,
        actions, ⟨hlogs.enabled, hlogs.actions⟩, hundo⟩

section Moving

variable {game revealed : GameState} {id : CardId} {fromZone toZone : Zone}
  {owner : PlayerId}

/-- The equipment that comes off is the one attached before the reveals. -/
theorem attachedEquipment_revealed (hmasks : OnlyMasks game revealed)
    (id : CardId) :
    revealed.attachedEquipment id = game.attachedEquipment id ∧
      (revealed.card? id).any Card.isCreature =
        (game.card? id).any Card.isCreature := by
  constructor
  · have hzones : revealed.zones = game.zones :=
      congrArg Tableau.zones hmasks.onlyCards.tableau
    rw [attachedEquipment, attachedEquipment, hzones]
    apply List.filter_congr
    intro equip _
    apply any_of_map_eq (hmasks.sameView equip.raw)
    intro c
    rfl
  · apply any_of_map_eq (hmasks.sameView id.raw)
    intro c
    rfl

/-- With equipment left to come off, no undo brings the attachment back. -/
theorem not_restores_of_equipment {undone : GameState}
    (hmasks : OnlyMasks game revealed)
    (hkeep : SameView (fun c : Card => c.attachedTo) undone.cards
      (revealed.detachEquipment id fromZone).cards)
    (hundone : SameView (fun c : Card => c.attachedTo) undone.cards
      game.cards) :
    fromZone = .battlefield → (game.card? id).any Card.isCreature = true →
      game.attachedEquipment id = [] := by
  intro hfrom hcreature
  obtain ⟨hattached, hany⟩ := attachedEquipment_revealed hmasks id
  have hdetach : revealed.detachEquipment id fromZone =
      (game.attachedEquipment id).foldl detach revealed := by
    rw [detachEquipment, hany, hcreature, hattached, hfrom]
    rfl
  rw [List.eq_nil_iff_forall_not_mem]
  intro equip hequip
  have hfound := hequip
  rw [attachedEquipment, List.mem_filter, Option.any_eq_true] at hfound
  obtain ⟨-, card, hcard, hboth⟩ := hfound
  have hbefore : card.attachedTo = some id := by
    rw [Bool.and_eq_true, beq_iff_eq] at hboth
    exact hboth.2
  -- The piece exists after the undo, attached to nothing.
  have hcards := hundone equip.raw
  rw [show game.cards.tryGet equip.raw = some card from hcard,
    Option.map_some, Option.map_eq_some_iff] at hcards
  obtain ⟨final, hfinal, hfinalAttached⟩ := hcards
  have hview := hkeep equip.raw
  rw [hfinal, Option.map_some, hdetach] at hview
  obtain ⟨off, hoff, hsame⟩ := Option.map_eq_some_iff.mp hview.symm
  have hnone := foldl_detach_attachedTo (Or.inl hequip) off hoff
  rw [hnone, hfinalAttached, hbefore] at hsame
  cases hsame

theorem Restores.attachedTo {undone before : GameState}
    (hrestores : undone.Restores before) :
    SameView (fun c : Card => c.attachedTo) undone.cards before.cards := by
  intro i
  have hattached (card? : Option Card) :
      card?.map (fun c => c.attachedTo) =
        (card?.map Card.tracked).map Card.Tracked.attachedTo := by
    rw [Option.map_map]
    rfl
  rw [hattached, hrestores.cards i, hattached]

/-- The exact condition for a card that is there, with no equipment in
between. -/
theorem relocation_restores_iff (hmasks : OnlyMasks game revealed)
    (howner : (game.zones.getPlayerZones owner).isSome = true)
    (hholds : game.zones.holds fromZone owner id = true)
    {undone : GameState} {cards : EntityStore Card}
    (hundone : undone.tableau =
      { cards := cards
        players := if toZone = .battlefield then revealed.lifeResidue id
          else revealed.players
        zones := (revealed.zones.afterMove id fromZone toZone owner).putBack id
          fromZone toZone owner
          ((revealed.zones.positionOf fromZone owner id).map UInt32.ofNat)
        persistentEffects :=
          (revealed.cleanupPersistentEffects id fromZone).persistentEffects })
    (hview : SameView unmasked cards (if toZone = .battlefield then
      (revealed.changeZone id fromZone toZone owner).tapResidue id
      else revealed.cards)) :
    undone.Restores game ↔
      game.RelocationUndoable id fromZone toZone owner := by
  have htableau := hmasks.onlyCards.tableau
  have hzonesEq : revealed.zones = game.zones :=
    congrArg Tableau.zones htableau
  have hplayersEq : revealed.players = game.players :=
    congrArg Tableau.players htableau
  have heffectsEq : revealed.persistentEffects = game.persistentEffects :=
    congrArg Tableau.persistentEffects htableau
  have hzones : undone.zones = game.zones ↔
      (∀ position,
        game.zones.positionOf fromZone owner id = some position →
          position < 2 ^ 32) ∧
      ∀ other ∈ (game.zones.destination id fromZone toZone
        owner).dropWhile (· != id), other = id := by
    rw [← Zones.putBack_eq_iff howner hholds, ← hzonesEq]
    exact iff_of_eq (congrArg (· = revealed.zones)
      (congrArg Tableau.zones hundone))
  have heffects : undone.persistentEffects = game.persistentEffects ↔
      game.persistentEffects.findEffectsToCleanupOnZoneChange id fromZone =
        [] := by
    rw [← PersistentEffectStore.removeMany_cleanup_eq_self_iff, ← heffectsEq]
    exact iff_of_eq (congrArg (· = revealed.persistentEffects)
      (congrArg Tableau.persistentEffects hundone))
  have htracked : SameView Card.tracked cards _ :=
    hview.of_unmasked fun _ => rfl
  have hentry : SameView Card.tracked undone.cards game.cards ∧
      undone.players.map Player.lifeTotal =
        game.players.map Player.lifeTotal ↔
      (toZone = .battlefield →
        ∀ card, game.card? id = some card →
          game.EntryUndoable id card) := by
    have hcardsEq : undone.cards = cards := congrArg Tableau.cards hundone
    have hplayers := congrArg Tableau.players hundone
    change undone.players = _ at hplayers
    rw [hcardsEq, hplayers]
    by_cases henters : toZone = .battlefield
    · subst henters
      simp only [↓reduceIte, forall_const] at htracked ⊢
      have hchanged : SameView unmasked (revealed.changeZone id fromZone
          .battlefield owner).cards game.cards := hmasks.sameView
      have hother : (revealed.changeZone id fromZone .battlefield
          owner).entersTappedByOther id = game.entersTappedByOther id := by
        apply entersTappedByOther_congr (hchanged.of_unmasked fun _ => rfl)
        rw [← hzonesEq]
        exact battlefield_afterMove revealed.zones id fromZone owner
      have hresidue : revealed.lifeResidue id = game.lifeResidue id :=
        lifeResidue_congr id (hmasks.sameView.of_unmasked fun _ => rfl)
          hplayersEq
      have hcards : SameView Card.tracked cards game.cards ↔ _ :=
        Iff.trans ⟨htracked.symm.trans, htracked.trans⟩
          (tapResidue_tracked_iff hchanged hother)
      rw [hcards, hresidue, lifeResidue_lifeTotal_iff]
      constructor
      · rintro ⟨htapped, hpayment⟩ card hcard
        exact ⟨htapped card hcard, hpayment card hcard⟩
      · intro hboth
        exact ⟨fun card hcard => (hboth card hcard).tapped,
          fun card hcard => (hboth card hcard).payment⟩
    · simp only [henters, ↓reduceIte, false_implies, iff_true] at htracked ⊢
      exact ⟨htracked.trans (hmasks.sameView.of_unmasked fun _ => rfl),
        by rw [hplayersEq]⟩
  constructor
  · intro hrestores
    obtain ⟨hposition, hcopies⟩ := hzones.mp hrestores.zones
    exact ⟨hposition, hcopies, heffects.mp hrestores.persistentEffects,
      hentry.mp ⟨hrestores.cards, hrestores.life⟩⟩
  · intro hundoable
    obtain ⟨hcards, hlife⟩ := hentry.mpr hundoable.entry
    exact ⟨hzones.mpr ⟨hundoable.position, hundoable.copies⟩, hcards, hlife,
      heffects.mpr hundoable.effects⟩

/-- The exact condition, from the reveals on. -/
theorem finishMove_undone (hmasks : OnlyMasks game revealed)
    (howner : (game.zones.getPlayerZones owner).isSome = true) :
    ((revealed.detachEquipment id fromZone).finishMove id fromZone toZone
        owner).1.delayedTriggers = game.delayedTriggers ∧
      ∃ actions,
        Logs game ((revealed.detachEquipment id fromZone).finishMove id
          fromZone toZone owner).1 actions ∧
        ((undoAll actions ((revealed.detachEquipment id fromZone).finishMove id
          fromZone toZone owner).1).Restores game ↔
            game.MoveUndoable id fromZone toZone owner) := by
  obtain ⟨reveals, hreveals, hundoReveals⟩ := hmasks.undone
  have hdetached : OnlyCards revealed
      (revealed.detachEquipment id fromZone) ∧
      (revealed.detachEquipment id fromZone).undoLog = revealed.undoLog := by
    rw [detachEquipment]
    split
    · rw [foldl_detach_eq]
      exact ⟨rfl, rfl⟩
    · exact ⟨rfl, rfl⟩
  have hcontroller : SameView (fun c : Card => c.controller)
      (revealed.detachEquipment id fromZone).cards revealed.cards := by
    rw [detachEquipment]
    split
    · apply foldl_detach_sameView
      intro c
      rfl
    · exact .refl _
  have hself (hnone : fromZone = .battlefield →
      (game.card? id).any Card.isCreature = true →
        game.attachedEquipment id = []) :
      revealed.detachEquipment id fromZone = revealed := by
    obtain ⟨hattached, hany⟩ := attachedEquipment_revealed hmasks id
    exact detachEquipment_eq_self (by rwa [hattached, hany])
  have hequipment (undone : GameState)
      (hkeep : SameView (fun c : Card => c.attachedTo) undone.cards
        (revealed.detachEquipment id fromZone).cards) :=
    not_restores_of_equipment hmasks hkeep
  generalize hprepared : revealed.detachEquipment id fromZone = prepared at *
  have honly := hmasks.onlyCards.trans hdetached.1
  have hlogs := hreveals.of_undoLog hdetached.2
  have hsome (i : Nat) : (prepared.cards.tryGet i).isSome =
      (game.cards.tryGet i).isSome :=
    (hcontroller.isSome i).trans (hmasks.sameView.isSome i)
  have hzones : prepared.zones = game.zones :=
    congrArg Tableau.zones honly.tableau
  rw [finishMove, hzones]
  cases hholds : game.zones.holds fromZone owner id with
  | false =>
      simp only [Bool.false_eq_true, ↓reduceIte]
      refine ⟨honly.delayedTriggers, reveals, hlogs, ?_⟩
      obtain ⟨cards, hview, hundone⟩ := hundoReveals prepared hsome
      have hcardsEq : (undoAll reveals prepared).cards = cards :=
        congrArg Tableau.cards hundone
      constructor
      · intro hrestores
        refine ⟨hequipment _ ?_ hrestores.attachedTo, fun hheld => ?_⟩
        · rw [hcardsEq]
          exact hview.of_unmasked fun _ => rfl
        · rw [hholds] at hheld
          cases hheld
      · intro hundoable
        have hsame : SameView Card.tracked cards game.cards := by
          rw [hself hundoable.equipment] at hview
          exact (hview.trans hmasks.sameView).of_unmasked fun _ => rfl
        have htableau := hundone.trans
          (congrArg (fun t : Tableau => { t with cards := cards })
            honly.tableau)
        refine ⟨congrArg Tableau.zones htableau, hcardsEq ▸ hsame, ?_,
          congrArg Tableau.persistentEffects htableau⟩
        exact congrArg (List.map Player.lifeTotal)
          (congrArg Tableau.players htableau)
  | true =>
      simp only [↓reduceIte]
      have hvalid : (prepared.zones.getPlayerZones owner).isSome = true := by
        rw [hzones, howner]
      obtain ⟨htriggers, actions, hactions, hundoMove⟩ :=
        relocate_undone id hlogs.enabled hvalid
      refine ⟨htriggers.trans honly.delayedTriggers, reveals ++ actions,
        hlogs.trans hactions, ?_⟩
      rw [undoAll_append]
      generalize hmoved : undoAll actions
        (prepared.relocate id fromZone toZone owner) = moved at hundoMove ⊢
      -- The reveals are undone last, on instances of the same cards.
      have hleft : moved.cards = if toZone = .battlefield then
          (prepared.changeZone id fromZone toZone owner).tapResidue id
          else prepared.cards := congrArg Tableau.cards hundoMove
      have hmovedAttached : SameView (fun c : Card => c.attachedTo) moved.cards
          prepared.cards := by
        rw [hleft]
        split
        · apply sameView_modify
          intro c
          rfl
        · exact .refl _
      obtain ⟨cards, hview, hundone⟩ := hundoReveals moved fun i =>
        (hmovedAttached.isSome i).trans (hsome i)
      have hcardsEq : (undoAll reveals moved).cards = cards :=
        congrArg Tableau.cards hundone
      have hrelocation (hnone : fromZone = .battlefield →
          (game.card? id).any Card.isCreature = true →
            game.attachedEquipment id = []) :
          (undoAll reveals moved).Restores game ↔
            game.RelocationUndoable id fromZone toZone owner := by
        rw [hself hnone] at hundoMove hleft
        rw [hleft] at hview
        rw [hundoMove] at hundone
        exact relocation_restores_iff hmasks howner hholds hundone hview
      constructor
      · intro hrestores
        have hnone : fromZone = .battlefield →
            (game.card? id).any Card.isCreature = true →
              game.attachedEquipment id = [] := by
          apply hequipment _ _ hrestores.attachedTo
          rw [hcardsEq]
          exact SameView.trans (hview.of_unmasked fun _ => rfl) hmovedAttached
        exact ⟨hnone, fun _ => (hrelocation hnone).mp hrestores⟩
      · intro hundoable
        exact (hrelocation hundoable.equipment).mpr
          (hundoable.relocation hholds)

theorem moveUntilTriggers_undone (henabled : game.undoLog.enabled = true)
    (howner : (game.zones.getPlayerZones owner).isSome = true)
    (toZone : Zone) :
    (game.moveUntilTriggers id fromZone toZone owner).1.delayedTriggers =
        game.delayedTriggers ∧
      ∃ actions,
        Logs game (game.moveUntilTriggers id fromZone toZone owner).1 actions ∧
        ((undoAll actions (game.moveUntilTriggers id fromZone toZone
          owner).1).Restores game ↔
            game.MoveUndoable id fromZone (game.moveDestination id toZone)
              owner) :=
  finishMove_undone (revealed_onlyMasks henabled id fromZone
    (game.moveDestination id toZone) owner (game.commanderReplaces id toZone))
    howner

end Moving

/-- The actions that one `move_card` call logs, undone from the newest to the
oldest, bring back zones, tracked fields, life totals and persistent effects
exactly under `MoveUndoable`. -/
theorem moveCard_restores_iff (executor : EffectExecutor) (depth : Nat)
    {game : GameState} (henabled : game.undoLog.enabled = true)
    {id : CardId} {fromZone toZone : Zone} {owner : PlayerId}
    (howner : (game.zones.getPlayerZones owner).isSome = true)
    (hquiet : game.delayedTriggers.findZoneChangeTriggers id fromZone
      (game.moveDestination id toZone) = []) :
    ∃ moved, game.moveCard executor (depth + 1) id fromZone toZone owner =
        .ok moved () ∧
      ((moved.undoTo game.undoLog.actions.length).Restores game ↔
        game.MoveUndoable id fromZone (game.moveDestination id toZone)
          owner) := by
  obtain ⟨htriggers, actions, hlogs, hiff⟩ :=
    moveUntilTriggers_undone henabled howner toZone
  refine ⟨(game.moveUntilTriggers id fromZone toZone owner).1,
    moveCard_of_untriggered executor depth htriggers hquiet, ?_⟩
  · obtain ⟨-, hundo⟩ := undoTo_tableau hlogs.actions
    rw [restores_congr hundo, hiff]

/-- A player at twenty life with a card in hand that takes life as it
enters. -/
def payerInHand : GameState where
  cards := ⟨[some
    { id := ⟨0⟩, owner := ⟨0⟩, controller := ⟨0⟩
      definition := { cache := { etbPayLife := true } } }]⟩
  players := [{ id := ⟨0⟩ }]
  zones := { playerZones := [(⟨0⟩, { hand := [⟨0⟩] })] }
  turn := { activePlayer := ⟨0⟩ }

theorem moveCard_restores_discard :
    ∃ moved, payerInHand.moveCard idleExecutor 1 ⟨0⟩ .hand .graveyard ⟨0⟩ =
        .ok moved () ∧
      (moved.undoTo 0).Restores payerInHand := by
  obtain ⟨moved, hmoved, hiff⟩ := moveCard_restores_iff idleExecutor 0
    (show payerInHand.undoLog.enabled = true from rfl)
    (show (payerInHand.zones.getPlayerZones ⟨0⟩).isSome = true from rfl)
    (show payerInHand.delayedTriggers.findZoneChangeTriggers ⟨0⟩ .hand
      (payerInHand.moveDestination ⟨0⟩ .graveyard) = [] from rfl)
  refine ⟨moved, hmoved, hiff.mpr ⟨fun hfrom => ?_, fun _ =>
    ⟨fun position hposition => ?_, ?_, rfl, fun hto => ?_⟩⟩⟩
  · cases hfrom
  · cases hposition
    decide
  · intro other hother
    cases hother
  · cases hto

/-- Entering costs seven life, and the undo takes seven more. -/
theorem moveCard_not_restores :
    payerInHand.isShadowGame = false ∧
    payerInHand.undoLog.enabled = true ∧
    (payerInHand.zones.getPlayerZones ⟨0⟩).isSome = true ∧
    payerInHand.delayedTriggers.triggers = [] ∧
    ∃ moved, payerInHand.moveCard idleExecutor 1 ⟨0⟩ .hand .battlefield ⟨0⟩ =
        .ok moved () ∧
      (moved.undoTo 0).players.map Player.lifeTotal = [(⟨0⟩, 6)] ∧
      ¬(moved.undoTo 0).Restores payerInHand := by
  refine ⟨rfl, rfl, rfl, rfl, _, rfl, by decide, ?_⟩
  intro hrestores
  have hlife := hrestores.life
  revert hlife
  decide

end GameState

end DeepScry
