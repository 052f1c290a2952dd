/-
Processing a revealed card in a shadow game: a card that is not known yet gets
its instance, and for some reasons a zone.
-/
import DeepScry.Puzzle
import DeepScry.StateSync
import DeepScry.ZoneCount

namespace DeepScry

namespace GameState

/-- `process_card_reveal` gets its definitions from a provider: the one of the
server, or one of a local database. -/
abbrev CardDefProvider := CardReveal → Option CardDefinition

/-- Give a card that is not known yet its instance; an occupied slot ends in a
panic. -/
def instantiateRevealed (db : Puzzle.CardDatabase) (cardDef : CardDefinition)
    (game : GameState) (owner : PlayerId) (id : CardId) : Option GameState :=
  (game.cards.insert id.raw (db.instantiate cardDef id owner)).map
    fun cards => { game with cards }

/-- The card lies in none of the zones that are looked at before it is added to
the hand. -/
def missing (game : GameState) (owner : PlayerId) (id : CardId) : Bool :=
  let own := game.zones.getPlayerZones owner
  !own.any (·.hand.contains id) && !own.any (·.library.contains id) &&
    !(own.any (·.graveyard.contains id) || own.any (·.exile.contains id) ||
      game.zones.battlefield.contains id)

/-- For a card of our own, the case of an empty library. -/
def addToHand (localPlayer : Option PlayerId) (game : GameState)
    (owner : PlayerId) (id : CardId) : GameState :=
  if localPlayer == some owner && game.missing owner id then
    { game with zones := game.zones.modify .hand owner (· ++ [id]) }
  else game

/-- The match on the reason of a reveal. -/
def placeRevealed (db : Puzzle.CardDatabase) (localPlayer : Option PlayerId)
    (cardDef : CardDefinition) (game : GameState) (owner : PlayerId)
    (id : CardId) (reason : RevealReason) : Option GameState :=
  match reason with
  | .draw | .openingHand =>
      if (game.cards.get id.raw).isSome then some game
      else
        (game.instantiateRevealed db cardDef owner id).map fun game =>
          game.addToHand localPlayer owner id
  | .played | .searched | .effect | .targeting =>
      if (game.cards.get id.raw).isSome then some game
      else game.instantiateRevealed db cardDef owner id
  | .tokenCreated =>
      -- `insert_if_vacant`
      if (game.cards.tryGet id.raw).isSome then some game
      else
        (game.instantiateRevealed db cardDef owner id).map fun game =>
          { game with
            zones := { game.zones with
              battlefield := game.zones.battlefield ++ [id] } }

/-- The reveal mask that goes with the zone that a card is in: the cards of a
public zone are revealed to all, those of a hand to their owner. -/
def maskFor (owner : PlayerId) (zone : Option Zone) (card : Card) : Card :=
  match zone with
  | some .battlefield | some .stack | some .graveyard | some .exile
  | some .command =>
      if card.isRevealedToAll then card else card.markRevealedToAll
  | some .hand =>
      if card.isRevealedTo owner then card else card.markRevealedTo owner
  | some .library | none => card

/-- Bring the mask in line with the zone that the card is in now. -/
def reconcileMask (game : GameState) (owner : PlayerId) (id : CardId) :
    GameState :=
  { game with
    cards := game.cards.modify id.raw (maskFor owner (game.findCardZone id)) }

/-- `process_card_reveal`; `none` is a panic. -/
def processCardReveal (db : Puzzle.CardDatabase) (provider : CardDefProvider)
    (localPlayer : Option PlayerId) (game : GameState) (owner : PlayerId)
    (reveal : CardReveal) (reason : RevealReason) : Option GameState :=
  if reveal.name.isEmpty then some game
  else
    match provider reveal with
    | none => some game
    | some cardDef =>
        (game.placeRevealed db localPlayer cardDef owner reveal.cardId
          reason).map fun game => game.reconcileMask owner reveal.cardId

/-- The reveal adds the card to a zone, once the card gets its instance. -/
def addsRevealed (localPlayer : Option PlayerId) (game : GameState)
    (owner : PlayerId) (id : CardId) : RevealReason → Bool
  | .draw | .openingHand =>
      localPlayer == some owner && game.missing owner id &&
        (game.zones.getPlayerZones owner).isSome
  | .tokenCreated => true
  | _ => false

/-- The zone it adds to. -/
def revealZone : RevealReason → Zone
  | .tokenCreated => .battlefield
  | _ => .hand

/-- The zones after a card got its instance. -/
def zonesAfter (localPlayer : Option PlayerId) (game : GameState)
    (owner : PlayerId) (id : CardId) (reason : RevealReason) : Zones :=
  if game.addsRevealed localPlayer owner id reason then
    game.zones.modify (revealZone reason) owner (· ++ [id])
  else game.zones

section Steps

variable {db : Puzzle.CardDatabase} {localPlayer : Option PlayerId}
  {cardDef : CardDefinition} {game : GameState} {owner : PlayerId}
  {id : CardId} {reason : RevealReason}

/-- Nothing happens to a known card. -/
theorem placeRevealed_of_occupied (hslot : (game.cards.tryGet id.raw).isSome)
    (hmarker : EntityStore.isSentinel id.raw → reason = .tokenCreated) :
    game.placeRevealed db localPlayer cardDef owner id reason = some game := by
  cases reason with
  | tokenCreated => simp [placeRevealed, hslot]
  | _ =>
      have hget : (game.cards.get id.raw).isSome := by
        rw [EntityStore.get, if_neg (by simpa using hmarker)]
        exact hslot
      simp [placeRevealed, hget]

/-- A marker id is never known, so that its slot is written once more. -/
theorem placeRevealed_of_marker (hslot : (game.cards.tryGet id.raw).isSome)
    (hmarker : EntityStore.isSentinel id.raw)
    (hreason : reason ≠ .tokenCreated) :
    game.placeRevealed db localPlayer cardDef owner id reason = none := by
  have hget : game.cards.get id.raw = none := if_pos hmarker
  rcases Option.isSome_iff_exists.mp hslot with ⟨card, hcard⟩
  cases reason with
  | tokenCreated => exact absurd rfl hreason
  | _ =>
      simp [placeRevealed, instantiateRevealed, EntityStore.insert, hget,
        hcard]

/-- Without zones of the owner the hand stays as it is. -/
theorem addToHand_eq (game : GameState) (cards : EntityStore Card) :
    ({ game with cards } : GameState).addToHand localPlayer owner id =
      { game with
        cards
        zones := game.zonesAfter localPlayer owner id .draw } := by
  have hmissing : ({ game with cards } : GameState).missing owner id =
      game.missing owner id := rfl
  rw [addToHand, hmissing]
  simp only [zonesAfter, addsRevealed, revealZone]
  by_cases hown : (game.zones.getPlayerZones owner).isSome
  · simp only [hown, Bool.and_true]
    split <;> rfl
  · have hsame : game.zones.modify .hand owner (· ++ [id]) = game.zones :=
      Zones.modifyPlayerZones_of_none (Option.not_isSome_iff_eq_none.mp hown)
        fun own => own.modifyZone (· ++ [id]) .hand
    simp [hown, hsame]

/-- A card without an instance gets one, and with it the zone. -/
theorem placeRevealed_of_vacant (db : Puzzle.CardDatabase)
    (localPlayer : Option PlayerId) (cardDef : CardDefinition)
    (owner : PlayerId) (reason : RevealReason)
    (hslot : game.cards.tryGet id.raw = none) :
    ∃ cards, game.cards.insert id.raw (db.instantiate cardDef id owner) =
        some cards ∧
      game.placeRevealed db localPlayer cardDef owner id reason =
        some { game with
          cards
          zones := game.zonesAfter localPlayer owner id reason } := by
  have hget : game.cards.get id.raw = none := by
    rw [EntityStore.get, hslot, ite_self]
  have hinsert : ∃ cards, game.cards.insert id.raw
      (db.instantiate cardDef id owner) = some cards := by
    rw [EntityStore.insert, hslot]
    exact ⟨_, rfl⟩
  rcases hinsert with ⟨cards, hcards⟩
  refine ⟨cards, hcards, ?_⟩
  cases reason with
  | draw | openingHand =>
      simp [placeRevealed, instantiateRevealed, hget, hcards]
      exact addToHand_eq game cards
  | tokenCreated =>
      simp [placeRevealed, instantiateRevealed, hslot, hcards, zonesAfter,
        addsRevealed, revealZone, Zones.modify]
  | _ =>
      simp [placeRevealed, instantiateRevealed, hget, hcards, zonesAfter,
        addsRevealed]

/-- The zones hold the card once more where it is added. -/
theorem count_zonesAfter (other : CardId) :
    (game.zonesAfter localPlayer owner id reason).allCards.count other =
      game.zones.allCards.count other +
        if game.addsRevealed localPlayer owner id reason ∧ id = other then 1
        else 0 := by
  unfold zonesAfter
  by_cases hadds : game.addsRevealed localPlayer owner id reason
  · have hcards : ∃ cards, game.zones.cardsIn (revealZone reason) owner =
        some cards := by
      cases reason with
      | draw | openingHand =>
          simp only [addsRevealed, Bool.and_eq_true] at hadds
          rcases Option.isSome_iff_exists.mp hadds.2 with ⟨own, hown⟩
          exact ⟨own.hand, by
            simp [revealZone, Zones.cardsIn, hown, PlayerZones.getZone]⟩
      | tokenCreated => exact ⟨_, rfl⟩
      | _ => simp [addsRevealed] at hadds
    rcases hcards with ⟨cards, hcards⟩
    have hcount := Zones.count_allCards_modify hcards (· ++ [id]) other
    simp only [List.count_append, List.count_singleton] at hcount
    simp only [hadds, if_true, true_and]
    by_cases hother : id = other
    · simp [hother] at hcount ⊢
      omega
    · simp [hother] at hcount ⊢
      omega
  · simp [hadds]

/-- The mask is brought in line once. -/
theorem maskFor_maskFor (owner : PlayerId) (zone : Option Zone) (card : Card) :
    maskFor owner zone (maskFor owner zone card) = maskFor owner zone card := by
  have hagain : (card.markRevealedTo owner).markRevealedTo owner =
      card.markRevealedTo owner := by
    simp [Card.markRevealedTo, UInt8.or_assoc]
  have hagainAll : card.markRevealedToAll.markRevealedToAll =
      card.markRevealedToAll := rfl
  rcases zone with _ | zone
  · rfl
  cases zone with
  | library => rfl
  | hand =>
      simp only [maskFor]
      split
      · simp [*]
      · split <;> simp [hagain]
  | _ =>
      simp only [maskFor]
      split
      · simp [*]
      · simp [hagainAll]

theorem reconcileMask_reconcileMask (game : GameState) (owner : PlayerId)
    (id : CardId) :
    (game.reconcileMask owner id).reconcileMask owner id =
      game.reconcileMask owner id := by
  have hzone : (game.reconcileMask owner id).findCardZone id =
      game.findCardZone id := rfl
  have hmask : maskFor owner (game.findCardZone id) ∘
      maskFor owner (game.findCardZone id) =
        maskFor owner (game.findCardZone id) := by
    funext card
    exact maskFor_maskFor owner _ card
  rw [reconcileMask, hzone]
  simp [reconcileMask, EntityStore.modify_modify, hmask]

theorem isSome_reconcileMask (game : GameState) (owner : PlayerId)
    (id : CardId) (hslot : (game.cards.tryGet id.raw).isSome) :
    ((game.reconcileMask owner id).cards.tryGet id.raw).isSome := by
  simpa [reconcileMask] using hslot

end Steps

section Process

variable (db : Puzzle.CardDatabase) (provider : CardDefProvider)
  (localPlayer : Option PlayerId) (game : GameState) (owner : PlayerId)
  (reveal : CardReveal) (reason : RevealReason)

/-- The reveal is processed, each card is still in one place at most, and
processing it again changes nothing. -/
def RevealSound : Prop :=
  ∃ after,
    game.processCardReveal db provider localPlayer owner reveal reason =
      some after ∧
    (∀ id, after.zones.allCards.count id ≤ 1) ∧
    after.processCardReveal db provider localPlayer owner reveal reason =
      some after

/-- The reveal is a dummy, or it is of no marker id (but for a token), and a
card that it gives an instance and a zone does not lie in any zone. -/
def RevealFits : Prop :=
  reveal.name.isEmpty ∨ provider reveal = none ∨
    (EntityStore.isSentinel reveal.cardId.raw → reason = .tokenCreated) ∧
    (game.cards.tryGet reveal.cardId.raw = none →
      game.addsRevealed localPlayer owner reveal.cardId reason →
      reveal.cardId ∉ game.zones.allCards)

variable {db provider localPlayer game owner reveal reason}

theorem processCardReveal_eq {cardDef : CardDefinition}
    (hname : reveal.name.isEmpty = false)
    (hdef : provider reveal = some cardDef) (game : GameState) :
    game.processCardReveal db provider localPlayer owner reveal reason =
      (game.placeRevealed db localPlayer cardDef owner reveal.cardId
        reason).map fun game => game.reconcileMask owner reveal.cardId := by
  simp [processCardReveal, hname, hdef]

/-- Once the card is known, processing comes to rest. -/
theorem processCardReveal_again {cardDef : CardDefinition}
    (hname : reveal.name.isEmpty = false)
    (hdef : provider reveal = some cardDef)
    (hslot : (game.cards.tryGet reveal.cardId.raw).isSome)
    (hmarker : EntityStore.isSentinel reveal.cardId.raw →
      reason = .tokenCreated) :
    (game.reconcileMask owner reveal.cardId).processCardReveal db provider
        localPlayer owner reveal reason =
      some (game.reconcileMask owner reveal.cardId) := by
  rw [processCardReveal_eq hname hdef, placeRevealed_of_occupied
    (isSome_reconcileMask game owner reveal.cardId hslot) hmarker]
  simp [reconcileMask_reconcileMask]

/-- What the first processing does to a card without an instance. -/
theorem processCardReveal_of_vacant {cardDef : CardDefinition}
    (hname : reveal.name.isEmpty = false)
    (hdef : provider reveal = some cardDef)
    (hvacant : game.cards.tryGet reveal.cardId.raw = none) :
    ∃ placed : GameState,
      game.processCardReveal db provider localPlayer owner reveal reason =
        some (placed.reconcileMask owner reveal.cardId) ∧
      (placed.cards.tryGet reveal.cardId.raw).isSome ∧
      placed.zones =
        game.zonesAfter localPlayer owner reveal.cardId reason := by
  rcases placeRevealed_of_vacant db localPlayer cardDef owner reason
    hvacant with ⟨cards, hinsert, hplace⟩
  rw [processCardReveal_eq hname hdef, hplace]
  refine ⟨_, rfl, ?_, rfl⟩
  simp [EntityStore.tryGet_insert hinsert]

/-- A named reveal is sound for a card that lies in no other zone. -/
theorem revealSound_of_fits {cardDef : CardDefinition}
    (hplaced : ∀ id, game.zones.allCards.count id ≤ 1)
    (hname : reveal.name.isEmpty = false)
    (hdef : provider reveal = some cardDef)
    (hmarker : EntityStore.isSentinel reveal.cardId.raw →
      reason = .tokenCreated)
    (hfresh : game.cards.tryGet reveal.cardId.raw = none →
      game.addsRevealed localPlayer owner reveal.cardId reason →
      reveal.cardId ∉ game.zones.allCards) :
    RevealSound db provider localPlayer game owner reveal reason := by
  cases hslot : game.cards.tryGet reveal.cardId.raw with
  | some card =>
      have hknown : (game.cards.tryGet reveal.cardId.raw).isSome := by
        simp [hslot]
      refine ⟨game.reconcileMask owner reveal.cardId, ?_, hplaced,
        processCardReveal_again hname hdef hknown hmarker⟩
      rw [processCardReveal_eq hname hdef,
        placeRevealed_of_occupied hknown hmarker]
      rfl
  | none =>
      rcases processCardReveal_of_vacant hname hdef hslot with
        ⟨placed, hfirst, hknown, hzones⟩
      refine ⟨_, hfirst, ?_,
        processCardReveal_again hname hdef hknown hmarker⟩
      intro id
      change placed.zones.allCards.count id ≤ 1
      rw [hzones, count_zonesAfter]
      split
      · next hadds =>
          have habsent := List.count_eq_zero_of_not_mem (hfresh hslot hadds.1)
          rw [← hadds.2, habsent]
      · exact hplaced id

/-- A named reveal that is sound is of no marker id and adds no card that lies
in a zone. -/
theorem fits_of_revealSound {cardDef : CardDefinition}
    (hname : reveal.name.isEmpty = false)
    (hdef : provider reveal = some cardDef)
    (hsound : RevealSound db provider localPlayer game owner reveal reason) :
    (EntityStore.isSentinel reveal.cardId.raw → reason = .tokenCreated) ∧
      (game.cards.tryGet reveal.cardId.raw = none →
        game.addsRevealed localPlayer owner reveal.cardId reason →
        reveal.cardId ∉ game.zones.allCards) := by
  rcases hsound with ⟨after, hfirst, hcount, hagain⟩
  constructor
  · intro hmark
    by_contra hreason
    have hoccupied : (after.cards.tryGet reveal.cardId.raw).isSome := by
      cases hslot : game.cards.tryGet reveal.cardId.raw with
      | some card =>
          rw [processCardReveal_eq hname hdef,
            placeRevealed_of_marker (by simp [hslot]) hmark hreason] at hfirst
          cases hfirst
      | none =>
          rcases processCardReveal_of_vacant hname hdef hslot with
            ⟨placed, hplaced, hknown, _⟩
          cases hfirst.symm.trans hplaced
          exact isSome_reconcileMask placed owner reveal.cardId hknown
    rw [processCardReveal_eq hname hdef,
      placeRevealed_of_marker hoccupied hmark hreason] at hagain
    cases hagain
  · intro hvacant hadds hmem
    rcases processCardReveal_of_vacant hname hdef hvacant with
      ⟨placed, hplaced, _, hzones⟩
    cases hfirst.symm.trans hplaced
    have hone := hcount reveal.cardId
    change placed.zones.allCards.count reveal.cardId ≤ 1 at hone
    have hpos := List.count_pos_iff.mpr hmem
    rw [hzones, count_zonesAfter, if_pos ⟨hadds, rfl⟩] at hone
    omega

/-- Reveals are idempotent and keep each card in one place exactly where no
card is added to a zone while it lies in another one. -/
theorem revealSound_iff
    (hplaced : ∀ id, game.zones.allCards.count id ≤ 1) :
    RevealSound db provider localPlayer game owner reveal reason ↔
      RevealFits provider localPlayer game owner reveal reason := by
  have hdummy (hskip : ∀ game : GameState,
      game.processCardReveal db provider localPlayer owner reveal reason =
        some game) :
      RevealSound db provider localPlayer game owner reveal reason :=
    ⟨game, hskip game, hplaced, hskip game⟩
  unfold RevealFits
  cases hname : reveal.name.isEmpty with
  | true =>
      have hsound := hdummy fun game => by simp [processCardReveal, hname]
      simp [hsound]
  | false =>
      cases hdef : provider reveal with
      | none =>
          have hsound := hdummy fun game => by
            simp [processCardReveal, hname, hdef]
          simp [hsound]
      | some cardDef =>
          constructor
          · intro hsound
            exact .inr (.inr (fits_of_revealSound hname hdef hsound))
          · rintro (hempty | hnone | ⟨hmarker, hfresh⟩)
            · cases hempty
            · cases hnone
            · exact revealSound_of_fits hplaced hname hdef hmarker hfresh

end Process

/-- A database without scripts. -/
def blankDatabase : Puzzle.CardDatabase where
  getCard _ := .ok none
  getToken _ := .ok none
  extractTokenScripts _ := []
  isIslandSanctuaryCard _ := false
  levelAbilities _ _ := []

/-- A shadow game in which our only card has no instance yet. -/
def shadowWith (stack library : List CardId) : GameState where
  zones := { stack, playerZones := [(⟨0⟩, { library }), (⟨1⟩, {})] }
  turn := { activePlayer := ⟨0⟩ }
  isShadowGame := true

def forestReveal : CardReveal where
  cardId := ⟨5⟩
  name := "Forest"
  cardDef := some { name := "Forest" }

/-- A drawn card that is still in the library stays there. -/
theorem revealSound_library :
    RevealSound blankDatabase CardReveal.cardDef (some ⟨0⟩)
      (shadowWith [] [⟨5⟩]) ⟨0⟩ forestReveal .draw := by
  refine (revealSound_iff ?_).mpr (.inr (.inr ⟨by decide, ?_⟩))
  · exact List.nodup_iff_count_le_one.mp (by decide)
  · intro _ hadds
    exact absurd hadds (by decide)

/-- A card of ours on the stack without an instance is added to the hand as
well. -/
theorem not_revealSound_stack :
    (∀ id, (shadowWith [⟨5⟩] []).zones.allCards.count id ≤ 1) ∧
      ¬RevealSound blankDatabase CardReveal.cardDef (some ⟨0⟩)
        (shadowWith [⟨5⟩] []) ⟨0⟩ forestReveal .draw := by
  constructor
  · exact List.nodup_iff_count_le_one.mp (by decide)
  · intro hsound
    have hname : forestReveal.name.isEmpty = false := by decide +kernel
    have hfits := fits_of_revealSound hname rfl hsound
    exact absurd (hfits.2 rfl (by decide)) (by decide)

end GameState

end DeepScry
