/-
The delayed return of a tracked card: from where the card is found, to where
it comes back, under whose control and how tapped.
-/
import DeepScry.FailedCast
import DeepScry.TapRecord
import DeepScry.ZoneTrail

namespace DeepScry

/-- The card is in one zone: on the battlefield, on the stack, or in the given
zone of the player. -/
structure Zones.LiesIn (zones : Zones) (id : CardId) (owner : PlayerId)
    (zone : Zone) : Prop where
  held : zones.holds zone owner id = true
  once : zones.allCards.count id = 1

namespace Zones

variable {zones : Zones} {id : CardId} {owner : PlayerId} {zone : Zone}

theorem count_entry_le {entries : List (PlayerId × PlayerZones)}
    {entry : PlayerId × PlayerZones} (hentry : entry ∈ entries)
    (id : CardId) : entry.2.allCards.count id ≤
      (entries.flatMap fun entry => entry.2.allCards).count id := by
  rw [List.flatMap_def]
  apply List.Sublist.count_le
  exact List.sublist_flatten_of_mem (List.mem_map_of_mem hentry)

/-- The zones of two entries hold a card as often as both of them. -/
theorem count_entries_le {entries : List (PlayerId × PlayerZones)}
    {entry other : PlayerId × PlayerZones} (hentry : entry ∈ entries)
    (hother : other ∈ entries) (hne : entry ≠ other) (id : CardId) :
    entry.2.allCards.count id + other.2.allCards.count id ≤
      (entries.flatMap fun entry => entry.2.allCards).count id := by
  induction entries with
  | nil => cases hentry
  | cons first rest ih =>
      rw [List.flatMap_cons, List.count_append]
      rcases List.mem_cons.mp hentry with rfl | hin
      · rcases List.mem_cons.mp hother with rfl | hin
        · exact absurd rfl hne
        · have hle := count_entry_le hin id
          omega
      · rcases List.mem_cons.mp hother with rfl | hotherIn
        · have hle := count_entry_le hin id
          omega
        · have hle := ih hin hotherIn
          omega

end Zones

namespace PlayerZones

theorem count_getZone_le {own : PlayerZones} {zone : Zone}
    {cards : List CardId} (hcards : own.getZone zone = some cards)
    (id : CardId) : cards.count id ≤ own.allCards.count id := by
  cases zone <;> cases hcards <;>
    simp only [allCards, List.count_append] <;> omega

/-- A card in two zones of a player counts twice. -/
theorem count_getZone_add_le {own : PlayerZones} {zone other : Zone}
    {cards others : List CardId} (hcards : own.getZone zone = some cards)
    (hothers : own.getZone other = some others) (hne : zone ≠ other)
    (id : CardId) : cards.count id + others.count id ≤
      own.allCards.count id := by
  cases zone <;> cases hcards <;> cases other <;> cases hothers <;>
    first
    | exact absurd rfl hne
    | simp only [allCards, List.count_append]; omega

end PlayerZones

namespace Zones.LiesIn

variable {zones : Zones} {id : CardId} {owner : PlayerId} {zone : Zone}

/-- Elsewhere than on the battlefield and the stack, the card is in an entry of
the player. -/
theorem entry (hlies : zones.LiesIn id owner zone)
    (hbattlefield : zone ≠ .battlefield) (hstack : zone ≠ .stack) :
    ∃ entry ∈ zones.playerZones, ∃ cards,
      entry.2.getZone zone = some cards ∧ id ∈ cards := by
  have hcardsIn : zones.cardsIn zone owner =
      (zones.getPlayerZones owner).bind fun own => own.getZone zone := by
    cases zone <;> first | rfl | contradiction
  have hheld := hlies.held
  rw [holds, hcardsIn, getPlayerZones] at hheld
  cases hfind : zones.playerZones.find? fun entry => entry.1 == owner with
  | none => simp [hfind] at hheld
  | some entry =>
      cases hcards : entry.2.getZone zone with
      | none => simp [hfind, hcards] at hheld
      | some cards =>
          refine ⟨entry, List.mem_of_find?_eq_some hfind, cards, hcards, ?_⟩
          simpa [hfind, hcards] using hheld

/-- What a player's zone counts for in all zones. -/
theorem count_eq_zero (hlies : zones.LiesIn id owner zone)
    (hbattlefield : zone ≠ .battlefield) (hstack : zone ≠ .stack) :
    zones.battlefield.count id = 0 ∧ zones.stack.count id = 0 := by
  obtain ⟨entry, hentry, cards, hcards, hmem⟩ :=
    hlies.entry hbattlefield hstack
  have hcard := List.count_pos_iff.mpr hmem
  have hzone := PlayerZones.count_getZone_le hcards id
  have hplayer := count_entry_le hentry id
  have honce := hlies.once
  rw [allCards, List.count_append, List.count_append] at honce
  omega

/-- Of the entries, only one zone of one of them holds the card. -/
theorem zone_unique (hlies : zones.LiesIn id owner zone)
    (hbattlefield : zone ≠ .battlefield) (hstack : zone ≠ .stack)
    {entry : PlayerId × PlayerZones} (hentry : entry ∈ zones.playerZones)
    {other : Zone} {cards : List CardId}
    (hcards : entry.2.getZone other = some cards) (hmem : id ∈ cards) :
    other = zone := by
  obtain ⟨place, hplace, placed, hplaced, hin⟩ :=
    hlies.entry hbattlefield hstack
  have hcard := List.count_pos_iff.mpr hmem
  have hcard' := List.count_pos_iff.mpr hin
  have honce := hlies.once
  rw [allCards, List.count_append, List.count_append] at honce
  by_contra hne
  by_cases hsame : entry = place
  · subst hsame
    have htwice := PlayerZones.count_getZone_add_le hcards hplaced hne id
    have hplayer := count_entry_le hentry id
    omega
  · have htwice := count_entries_le hentry hplace hsame id
    have hfirst := PlayerZones.count_getZone_le hcards id
    have hsecond := PlayerZones.count_getZone_le hplaced id
    omega

end Zones.LiesIn

namespace GameState

variable {game : GameState} {id : CardId} {owner : PlayerId} {zone : Zone}

/-- The search finds the zone in which the card is. -/
theorem findCardZone_of_liesIn (hlies : game.zones.LiesIn id owner zone) :
    game.findCardZone id = some zone := by
  have honce := hlies.once
  rw [Zones.allCards, List.count_append, List.count_append] at honce
  rw [findCardZone]
  by_cases hbattlefield : zone = .battlefield
  · subst hbattlefield
    rw [if_pos (by simpa [Zones.holds, Zones.cardsIn] using hlies.held)]
  by_cases hstack : zone = .stack
  · subst hstack
    have hheld : id ∈ game.zones.stack := by
      simpa [Zones.holds, Zones.cardsIn] using hlies.held
    have hcard := List.count_pos_iff.mpr hheld
    have habsent : id ∉ game.zones.battlefield :=
      List.count_eq_zero.mp (by omega)
    rw [if_neg (by simpa using habsent), if_pos (by simpa using hheld)]
  · obtain ⟨hnone, hnone'⟩ := hlies.count_eq_zero hbattlefield hstack
    rw [if_neg (by simpa using List.count_eq_zero.mp hnone),
      if_neg (by simpa using List.count_eq_zero.mp hnone')]
    obtain ⟨entry, hentry, cards, hcards, hmem⟩ :=
      hlies.entry hbattlefield hstack
    have hsearched : zone ∈ [Zone.hand, .library, .graveyard, .exile,
        .command] := by
      cases zone <;> first | contradiction | decide
    have hsome : (game.zones.playerZones.findSome? fun entry =>
        [Zone.hand, .library, .graveyard, .exile, .command].find? fun zone =>
          (entry.2.getZone zone).any fun cards =>
            cards.contains id).isSome := by
      rw [List.findSome?_isSome_iff]
      refine ⟨entry, hentry, ?_⟩
      rw [List.find?_isSome]
      exact ⟨zone, hsearched, by simpa [hcards] using hmem⟩
    obtain ⟨found, hfound⟩ := Option.isSome_iff_exists.mp hsome
    rw [hfound]
    obtain ⟨other, hother, hzone⟩ := List.exists_of_findSome?_eq_some hfound
    have hholds := List.find?_some hzone
    rw [Option.any_eq_true] at hholds
    obtain ⟨cards', hcards', hcontains⟩ := hholds
    rw [hlies.zone_unique hbattlefield hstack hother hcards'
      (List.contains_iff_mem.mp hcontains)]

/-- A card that enters the battlefield is neither lost nor doubled. -/
theorem allCards_entered {zones : Zones}
    (hheld : zones.holds zone owner id = true) :
    (zones.afterMove id zone .battlefield owner).allCards.Perm
      zones.allCards := by
  obtain ⟨before, behind, -, hcards, -⟩ := Zones.split_of_holds hheld
  rw [List.perm_iff_count]
  intro other
  have hleft := Zones.count_allCards_modify hcards
    (fun cards => cards.erase id) other
  have hjoined : (zones.modify zone owner fun cards =>
      cards.erase id).cardsIn .battlefield owner = some _ := rfl
  have hentered := Zones.count_allCards_modify hjoined
    (fun cards => cards ++ [id]) other
  have herased := (List.perm_cons_erase
    (List.mem_append_cons_self : id ∈ before ++ id :: behind)).count_eq other
  rw [List.count_cons] at herased
  simp only [List.count_append, List.count_singleton] at hentered
  rw [Zones.afterMove]
  omega

theorem mem_battlefield_entered (zones : Zones) (id : CardId) (zone : Zone)
    (owner : PlayerId) :
    id ∈ (zones.afterMove id zone .battlefield owner).battlefield :=
  List.mem_append_right _ (List.mem_singleton.mpr rfl)

/-- A move writes no controller and no delayed trigger, until triggers
fire. -/
theorem returning_frame : MoveFrame (fun _ => true) Card.controller
    fun before after =>
      SameView Card.controller after.cards before.cards ∧
        after.delayedTriggers = before.delayedTriggers where
  refl _ := ⟨.refl _, rfl⟩
  trans hfirst hsecond :=
    ⟨hsecond.1.trans hfirst.1, hsecond.2.trans hfirst.2⟩
  logAction _ _ _ _ := ⟨.refl _, rfl⟩
  modifyCard _ _ _ hf := ⟨sameView_modify hf _ _, rfl⟩
  aside haside := ⟨haside.cards ▸ .refl _, haside.delayedTriggers⟩
  steady _ := rfl
  minor _ _ := rfl

theorem returning_relocate (game : GameState) (id : CardId)
    (fromZone toZone : Zone) (owner : PlayerId) :
    SameView Card.controller
        (game.relocate id fromZone toZone owner).cards game.cards ∧
      (game.relocate id fromZone toZone owner).delayedTriggers =
        game.delayedTriggers := by
  have hchanged : SameView Card.controller
      (game.changeZone id fromZone toZone owner).cards game.cards ∧
      (game.changeZone id fromZone toZone owner).delayedTriggers =
        game.delayedTriggers := ⟨.refl _, rfl⟩
  have hentered (changed : GameState) := returning_frame.entersBattlefield
    changed id (fun _ => rfl) rfl owner
  rw [relocate]
  apply returning_frame.trans _ (returning_frame.cleanupPersistentEffects _ id
    fromZone)
  apply returning_frame.trans _ (returning_frame.resetIfLeft _ id
    (fun _ _ => rfl) (fun _ => rfl) fromZone)
  apply returning_frame.trans _ (returning_frame.reportAndUpdate _ id fromZone
    toZone)
  apply returning_frame.thenLog _ rfl
  split
  · exact returning_frame.trans hchanged (hentered _)
  · exact hchanged

theorem returning_moveUntilTriggers (game : GameState) (id : CardId)
    (fromZone toZone : Zone) (owner : PlayerId) :
    SameView Card.controller
        (game.moveUntilTriggers id fromZone toZone owner).1.cards game.cards ∧
      (game.moveUntilTriggers id fromZone toZone owner).1.delayedTriggers =
        game.delayedTriggers := by
  have hreported : SameView Card.controller
      (if game.commanderReplaces id toZone then game.message
        else game).cards game.cards ∧
      (if game.commanderReplaces id toZone then game.message
        else game).delayedTriggers = game.delayedTriggers := by
    split <;> exact ⟨.refl _, rfl⟩
  rw [moveUntilTriggers]
  generalize (if game.commanderReplaces id toZone then game.message
    else game) = reported at hreported ⊢
  have hprepared := returning_frame.trans hreported
    (returning_frame.prepareMove reported id fromZone
      (game.moveDestination id toZone) owner)
  apply returning_frame.trans hprepared
  rw [finishMove]
  split
  · exact returning_relocate _ id fromZone _ owner
  · exact returning_frame.refl _

/-- The flag of a card that enters, where nothing resets it. -/
theorem state_enteredTaps {card : Card} (hcard : game.card? id = some card) :
    (game.enteredTaps id .battlefield).state id =
      some (card.tapped || card.definition.cache.entersTapped ||
        game.entersTappedByOther id) := by
  have hstate : game.tapView.state id = some card.tapped := by
    change (game.card? id).map _ = _
    rw [hcard]
    rfl
  have hitself : game.tapsItself id = card.definition.cache.entersTapped := by
    rw [tapsItself, hcard]
    rfl
  rw [enteredTaps, if_pos rfl, hitself]
  cases card.definition.cache.entersTapped <;>
    cases game.entersTappedByOther id <;>
    simp [TapView.writeLogged, TapView.write, KeyedLog.overwrite, hstate]

/-- What a move of a card onto the battlefield leaves, when no delayed trigger
waits for it. -/
theorem moveCard_enters (executor : EffectExecutor) (depth : Nat)
    {card : Card} (hcard : game.card? id = some card)
    (hheld : game.zones.holds zone owner id = true)
    (hquiet : game.delayedTriggers.findZoneChangeTriggers id zone
      .battlefield = []) :
    ∃ moved, game.moveCard executor (depth + 1) id zone .battlefield owner =
        .ok moved () ∧
      id ∈ moved.zones.battlefield ∧
      moved.zones.allCards.Perm game.zones.allCards ∧
      (moved.card? id).map Card.controller = some card.controller ∧
      moved.tapView.state id = some (zone != .battlefield &&
        (card.tapped || card.definition.cache.entersTapped ||
          game.entersTappedByOther id)) := by
  have hdestination : game.moveDestination id .battlefield = .battlefield := by
    simp [moveDestination, commanderReplaces]
  obtain ⟨hcontroller, htriggers⟩ :=
    game.returning_moveUntilTriggers id zone .battlefield owner
  have hzones := game.zones_moveUntilTriggers id zone .battlefield owner
  have htaps := game.tapView_moveUntilTriggers id zone .battlefield owner
  rw [if_pos hheld, hdestination] at hzones htaps
  refine ⟨(game.moveUntilTriggers id zone .battlefield owner).1, ?_, ?_, ?_,
    ?_, ?_⟩
  · apply moveCard_of_untriggered executor depth htriggers
    rw [hdestination, hquiet]
  · rw [hzones]
    exact mem_battlefield_entered game.zones id zone owner
  · rw [hzones]
    exact allCards_entered hheld
  · refine (hcontroller id.raw).trans ?_
    rw [show game.cards.tryGet id.raw = some card from hcard]
    rfl
  · rw [htaps]
    have hentered := state_enteredTaps hcard
    split
    · next hfrom =>
      simp [TapView.write, KeyedLog.overwrite, hentered, hfrom]
    · next hfrom =>
      rw [hentered]
      simp [hfrom]

/-- A tracked card that is found under the player it returns for comes back to
the battlefield and leaves its zone; it comes back tapped when asked, or when
it was or enters tapped. -/
theorem fireDelayedTrigger_returns (executor : EffectExecutor) (depth : Nat)
    {game : GameState} {trigger : DelayedTrigger} {tapped toOwner : Bool}
    {card : Card} {zone : Zone}
    (heffect : trigger.effect = .returnToBattlefield tapped toOwner)
    (hcard : game.card? trigger.trackedCard = some card)
    (hlies : game.zones.LiesIn trigger.trackedCard card.owner zone)
    (hfound : toOwner = true ∨ trigger.controller = card.owner ∨
      zone = .battlefield ∨ zone = .stack)
    (hquiet : game.delayedTriggers.findZoneChangeTriggers trigger.trackedCard
      zone .battlefield = []) :
    ∃ after, game.fireDelayedTrigger executor
        (GameState.moveCard executor (depth + 1)) trigger = .ok after () ∧
      trigger.trackedCard ∈ after.zones.battlefield ∧
      after.zones.allCards.count trigger.trackedCard = 1 ∧
      ∃ returned, after.card? trigger.trackedCard = some returned ∧
        (card.controller =
            (if toOwner then card.owner else trigger.controller) →
          returned.controller =
            (if toOwner then card.owner else trigger.controller)) ∧
        returned.tapped = (tapped || zone != .battlefield &&
          (card.tapped || card.definition.cache.entersTapped ||
            game.entersTappedByOther trigger.trackedCard)) := by
  have hzone := findCardZone_of_liesIn hlies
  have hheld : game.zones.holds zone
      (if toOwner then card.owner else trigger.controller)
      trigger.trackedCard = true := by
    have hheld := hlies.held
    rcases hfound with rfl | hsame | rfl | rfl
    · exact hheld
    · rw [hsame, ite_self]
      exact hheld
    · exact hheld
    · exact hheld
  obtain ⟨moved, hmoved, hin, hcards, hcontroller, htaps⟩ :=
    moveCard_enters executor depth hcard hheld hquiet
  obtain ⟨arrived, harrived, hcontrolled⟩ :=
    Option.map_eq_some_iff.mp hcontroller
  have hflag : arrived.tapped = (zone != .battlefield &&
      (card.tapped || card.definition.cache.entersTapped ||
        game.entersTappedByOther trigger.trackedCard)) := by
    change (moved.card? trigger.trackedCard).map _ = _ at htaps
    rw [harrived] at htaps
    exact Option.some.inj htaps
  let returned := if tapped then moved.modifyCard trigger.trackedCard fun c =>
    { c with tapped := true } else moved
  have hreturned : game.returnTracked (GameState.moveCard executor (depth + 1))
      trigger tapped toOwner = .ok returned.message () := by
    rw [returnTracked, hcard]
    dsimp only
    rw [hzone, Option.getD_some, hmoved]
    rfl
  have hcard' : returned.card? trigger.trackedCard =
      some { arrived with tapped := tapped || arrived.tapped } := by
    cases tapped with
    | false =>
        rw [Bool.false_or]
        exact harrived
    | true =>
        refine (EntityStore.tryGet_modify_self _ _ _).trans ?_
        rw [show moved.cards.tryGet trigger.trackedCard.raw = some arrived from
          harrived]
        rfl
  have hzones : returned.zones = moved.zones := by
    cases tapped <;> rfl
  have honce : returned.zones.allCards.count trigger.trackedCard = 1 := by
    rw [hzones, hcards.count_eq]
    exact hlies.once
  have hcontrol : card.controller =
      (if toOwner then card.owner else trigger.controller) →
        arrived.controller =
          (if toOwner then card.owner else trigger.controller) :=
    fun hsame => hcontrolled.trans hsame
  rw [← hzones] at hin
  rw [fireDelayedTrigger, fireEffect, heffect]
  dsimp only
  rw [hreturned]
  dsimp only [Outcome.andThen, Outcome.ok]
  split
  · exact ⟨_, rfl, hin, honce, _, hcard', hcontrol, by rw [hflag]⟩
  · exact ⟨_, rfl, hin, honce, _, hcard', hcontrol, by rw [hflag]⟩

/-- A card in the exile of its owner. -/
def exiledCard (entersTapped : Bool) : GameState where
  cards := ⟨[some
    { id := ⟨0⟩, owner := ⟨0⟩, controller := ⟨0⟩
      definition := { cache := { entersTapped } } }]⟩
  players := [{ id := ⟨0⟩ }]
  zones := { playerZones := [(⟨0⟩, { exile := [⟨0⟩] })] }
  turn := { activePlayer := ⟨0⟩ }

/-- The trigger that brings it back untapped. -/
def untappedReturn : DelayedTrigger where
  id := ⟨0⟩
  trackedCard := ⟨0⟩
  sourceCard := ⟨0⟩
  controller := ⟨0⟩
  triggerCondition := .zoneChange [.battlefield] [.exile]
  effect := .returnToBattlefield false true

theorem exiledCard_lies (entersTapped : Bool) :
    (exiledCard entersTapped).zones.LiesIn ⟨0⟩ ⟨0⟩ .exile :=
  ⟨rfl, by cases entersTapped <;> decide⟩

theorem exiledCard_returns :
    ∃ after, (exiledCard false).fireDelayedTrigger idleExecutor
        (GameState.moveCard idleExecutor 1) untappedReturn = .ok after () ∧
      ⟨0⟩ ∈ after.zones.battlefield ∧
      after.zones.allCards.count ⟨0⟩ = 1 ∧
      ∃ returned, after.card? ⟨0⟩ = some returned ∧
        returned.controller = ⟨0⟩ ∧ returned.tapped = false := by
  obtain ⟨after, hfired, hin, honce, returned, hcard, hcontrol, htapped⟩ :=
    fireDelayedTrigger_returns idleExecutor 0
      (show untappedReturn.effect = .returnToBattlefield false true from rfl)
      (show (exiledCard false).card? ⟨0⟩ = some _ from rfl)
      (exiledCard_lies false) (Or.inl rfl) rfl
  exact ⟨after, hfired, hin, honce, returned, hcard, hcontrol rfl, htapped⟩

/-- A card that enters tapped comes back tapped though nobody asked. -/
theorem exiledCard_returns_tapped :
    (exiledCard true).zones.LiesIn ⟨0⟩ ⟨0⟩ .exile ∧
    ∃ after, (exiledCard true).fireDelayedTrigger idleExecutor
        (GameState.moveCard idleExecutor 1) untappedReturn = .ok after () ∧
      ((after.card? ⟨0⟩).map fun card => card.tapped) ≠ some false :=
  ⟨exiledCard_lies true, _, rfl, by decide⟩

end GameState

end DeepScry
