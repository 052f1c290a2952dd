/-
The untap step: permanents that must stay tapped, may stay tapped or are lands
under a limit, and what the answers of the controller leave tapped.  What the
game loop prints leaves the game alone.
-/
import DeepScry.SpellCasting
import DeepScry.TurnActions

namespace DeepScry

/-- The permanents to keep tapped; `none` leaves the game, and an answer that
is none keeps nothing. -/
def ChoiceResult.keptTapped : ChoiceResult (List CardId) → Option (List CardId)
  | .ok ids => some ids
  | .exitGame => none
  | .error _ | .undoRequest _ | .needInput => some []

/-- How a tapped permanent of the active player is treated. -/
inductive UntapKind where
  | locked
  | optional
  | limited
  | normal
deriving DecidableEq

namespace GameState

section Step

variable (effects : StaticEffects) (turnsElapsed : UInt32) (game : GameState)

/-- A permanent that makes everybody skip the untap step. -/
def untapSkipped : Bool :=
  game.zones.battlefield.any fun id =>
    (game.card? id).any fun card => card.definition.cache.skipsUntapStep

/-- The limits of the untapped permanents. -/
def landUntapLimits : List UInt8 :=
  game.zones.battlefield.filterMap fun id =>
    (game.card? id).bind fun card =>
      if card.tapped then none else card.definition.cache.limitsLandUntap

def landUntapLimit : Option UInt8 := game.landUntapLimits.min?

def untapKind (id : CardId) (card : Card) : UntapKind :=
  if game.hasKeywordWithEffects effects id .doesNotUntap then .locked
  else if card.keywords.contains .mayNotUntap then .optional
  else if game.landUntapLimit.isSome && card.isLand then .limited
  else .normal

/-- The tapped permanents of the active player that are treated so. -/
def tappedOf (kind : UntapKind) : List CardId :=
  game.zones.battlefield.filter fun id =>
    (game.card? id).any fun card =>
      card.controller == game.turn.activePlayer && card.tapped &&
        game.untapKind effects id card == kind

def untapAll (ids : List CardId) : GameState :=
  ids.foldl untapQuietly game

/-- The other player wins when the controller leaves. -/
def leaveGame : GameResult where
  winner := game.getOtherPlayerId game.turn.activePlayer
  turnsPlayed := turnsElapsed
  endReason := .manual
  actionCount := game.undoLog.actions.length

/-- The limited lands that untap: the first ones that are not kept tapped, as
many as the limit allows. -/
def releasedLands (limit : UInt8) (lands kept : List CardId) : List CardId :=
  let candidates :=
    (lands.filter fun id => !kept.contains id).take limit.toNat
  lands.filter fun id => candidates.contains id

/-- Untap the limited lands; up to the limit nobody is asked. -/
def untapLimited (limit : Option UInt8) (lands : List CardId)
    (answer : ChoiceResult (List CardId)) : GameState × Option GameResult :=
  match limit with
  | none => (game, none)
  | some limit =>
      if lands.length ≤ limit.toNat then (game.untapAll lands, none)
      else
        match answer.keptTapped with
        | none => (game, some (game.leaveGame turnsElapsed))
        | some kept => (game.untapAll (releasedLands limit lands kept), none)

/-- The step after the resets and the skips. -/
def untapPermanents (answer landAnswer : ChoiceResult (List CardId)) :
    GameState × Option GameResult :=
  let optional := game.tappedOf effects .optional
  let lands := game.tappedOf effects .limited
  let untapped := game.untapAll (game.tappedOf effects .normal)
  if optional.isEmpty then
    untapped.untapLimited turnsElapsed game.landUntapLimit lands landAnswer
  else
    match answer.keptTapped with
    | none => (untapped, some (untapped.leaveGame turnsElapsed))
    | some kept =>
        (untapped.untapAll
          (optional.filter fun id => !kept.contains id)).untapLimited
            turnsElapsed game.landUntapLimit lands landAnswer

/-- `untap_step`, with the answers about the permanents that may stay tapped
and about the lands. -/
def untapStep (answer landAnswer : ChoiceResult (List CardId)) :
    GameState × Option GameResult :=
  let start := game.resetTurnCounters
  let activePlayer := start.turn.activePlayer
  if start.untapSkipped then (start, none)
  else if (start.getPlayer activePlayer).any Player.skipUntapNextTurn then
    ((start.modifyPlayer activePlayer fun p =>
      { p with skipUntapNextTurn := false }).logAction
        (.setSkipUntapNextTurn activePlayer true false)
        start.logger.logCount, none)
  else start.untapPermanents effects turnsElapsed answer landAnswer

end Step

/-! ## What the step may untap -/

section Property

variable (effects : StaticEffects) (before after : GameState)
  (kept keptLands : List CardId)

/-- The lands of the active player that become untapped. -/
def untappedLands : Finset CardId :=
  before.zones.battlefield.toFinset.filter fun id =>
    ((before.card? id).any fun card =>
        card.controller == before.turn.activePlayer && card.isLand &&
          card.tapped) &&
      (after.card? id).any fun card => !card.tapped

/-- Permanents of others, those that do not untap and those that the
controller keeps tapped stay as they are; all others untap, but for lands under
a limit, of which as many untap as every limit allows. -/
structure UntapsRight : Prop where
  others : ∀ id card, before.card? id = some card →
    card.controller ≠ before.turn.activePlayer → after.card? id = some card
  locked : ∀ id card, before.card? id = some card →
    before.hasKeywordWithEffects effects id .doesNotUntap = true →
      after.card? id = some card
  named : ∀ id ∈ kept, ∀ card, before.card? id = some card →
    card.keywords.contains .mayNotUntap = true → after.card? id = some card
  untaps : ∀ id ∈ before.zones.battlefield, ∀ card,
    before.card? id = some card →
      card.controller = before.turn.activePlayer → card.tapped = true →
        before.hasKeywordWithEffects effects id .doesNotUntap = false →
          ¬ (card.keywords.contains .mayNotUntap = true ∧ id ∈ kept) →
            ¬ (card.isLand = true ∧ before.landUntapLimits ≠ []) →
              after.card? id = some card.untap
  limit : ∀ limit ∈ before.landUntapLimits,
    (before.untappedLands after).card ≤ limit.toNat

/-- The permanents that may stay tapped but are not kept so. -/
def freed : List CardId :=
  (before.tappedOf effects .optional).filter fun id => !kept.contains id

/-- The lands that the limit lets through: all if they are no more, else the
first ones that are not kept tapped. -/
def released (limit : UInt8) : List CardId :=
  let lands := before.tappedOf effects .limited
  if lands.length ≤ limit.toNat then lands
  else releasedLands limit lands keptLands

/-- Lands that could have stayed tapped count against the limit, too. -/
def LimitKept : Prop :=
  ∀ limit, before.landUntapLimit = some limit →
    (((before.freed effects kept).filter fun id =>
        (before.card? id).any Card.isLand) ++
      before.released effects keptLands limit).toFinset.card ≤ limit.toNat

end Property

/-! ## Untapping one after the other -/

section Untapping

variable {effects : StaticEffects} {game : GameState}

theorem untap_of_untapped {card : Card} (huntapped : card.tapped = false) :
    card.untap = card := by
  rw [Card.untap, ← huntapped]

theorem card?_modify (game : GameState) (id other : CardId)
    (f : Card → Card) :
    (game.modifyCard id f).card? other =
      if other = id then (game.card? other).map f else game.card? other := by
  rw [modifyCard, card?, EntityStore.tryGet_modify, card?]
  by_cases hother : other = id
  · rw [if_pos (congrArg CardId.raw hother).symm, if_pos hother]
  · rw [if_neg fun hraw => hother (CardId.ext hraw.symm), if_neg hother]

theorem card?_untapQuietly (game : GameState) (id other : CardId) :
    (game.untapQuietly id).card? other =
      if other = id then (game.card? other).map Card.untap
      else game.card? other := by
  rw [untapQuietly, untapPermanent, setTapped]
  cases hcard : game.card? id with
  | none =>
      change game.card? other = _
      by_cases hother : other = id
      · rw [if_pos hother, hother, hcard]
        rfl
      · rw [if_neg hother]
  | some card =>
      dsimp only
      by_cases htapped : card.tapped = false
      · rw [if_pos htapped]
        change game.card? other = _
        by_cases hother : other = id
        · rw [if_pos hother, hother, hcard, Option.map_some,
            untap_of_untapped htapped]
        · rw [if_neg hother]
      · rw [if_neg htapped]
        exact card?_modify game id other Card.untap

theorem card?_untapAll (ids : List CardId) (id : CardId) :
    (game.untapAll ids).card? id =
      if id ∈ ids then (game.card? id).map Card.untap
      else game.card? id := by
  induction ids generalizing game with
  | nil => simp [untapAll]
  | cons first rest ih =>
      have hrest := @ih (game.untapQuietly first)
      rw [untapAll] at hrest ⊢
      rw [List.foldl_cons, hrest, card?_untapQuietly]
      by_cases hfirst : id = first
      · subst hfirst
        have htwice : Card.untap ∘ Card.untap = Card.untap := rfl
        simp [htwice]
      · simp [hfirst]

theorem untapAll_append (ids rest : List CardId) :
    (game.untapAll ids).untapAll rest = game.untapAll (ids ++ rest) :=
  List.foldl_append.symm

theorem untapLimited_eq (turnsElapsed : UInt32) (before : GameState)
    (keptLands : List CardId) :
    game.untapLimited turnsElapsed before.landUntapLimit
        (before.tappedOf effects .limited) (.ok keptLands) =
      (game.untapAll ((before.landUntapLimit.map
        (before.released effects keptLands)).getD []), none) := by
  unfold untapLimited
  cases before.landUntapLimit with
  | none => rfl
  | some limit =>
      simp only [ChoiceResult.keptTapped, Option.map_some, Option.getD_some,
        released]
      split <;> rfl

/-- With a list as each answer, the step untaps three lists of permanents. -/
theorem untapPermanents_eq (turnsElapsed : UInt32)
    (kept keptLands : List CardId) :
    game.untapPermanents effects turnsElapsed (.ok kept) (.ok keptLands) =
      (game.untapAll (game.tappedOf effects .normal ++
        game.freed effects kept ++
          ((game.landUntapLimit.map
            (game.released effects keptLands)).getD [])), none) := by
  rw [← untapAll_append, ← untapAll_append, ← untapLimited_eq turnsElapsed,
    untapPermanents, freed]
  cases hoptional : game.tappedOf effects .optional with
  | nil => rfl
  | cons first rest => rfl

theorem mem_tappedOf {kind : UntapKind} {id : CardId} :
    id ∈ game.tappedOf effects kind ↔
      id ∈ game.zones.battlefield ∧ ∃ card, game.card? id = some card ∧
        card.controller = game.turn.activePlayer ∧ card.tapped = true ∧
          game.untapKind effects id card = kind := by
  rw [tappedOf, List.mem_filter]
  cases game.card? id <;> simp [and_assoc]

theorem untapKind_limited {id : CardId} {card : Card} :
    game.untapKind effects id card = .limited ↔
      game.hasKeywordWithEffects effects id .doesNotUntap = false ∧
        card.keywords.contains .mayNotUntap = false ∧
          game.landUntapLimit.isSome = true ∧ card.isLand = true := by
  unfold untapKind
  split
  · simp_all
  · split
    · simp_all
    · split <;> simp_all

theorem untapKind_optional {id : CardId} {card : Card} :
    game.untapKind effects id card = .optional ↔
      game.hasKeywordWithEffects effects id .doesNotUntap = false ∧
        card.keywords.contains .mayNotUntap = true := by
  unfold untapKind
  split
  · simp_all
  · split
    · simp_all
    · split <;> simp_all

theorem untapKind_normal {id : CardId} {card : Card} :
    game.untapKind effects id card = .normal ↔
      game.hasKeywordWithEffects effects id .doesNotUntap = false ∧
        card.keywords.contains .mayNotUntap = false ∧
          ¬ (game.landUntapLimit.isSome = true ∧ card.isLand = true) := by
  unfold untapKind
  split
  · simp_all
  · split
    · simp_all
    · split <;> simp_all

theorem released_subset (keptLands : List CardId) (limit : UInt8)
    {id : CardId} (hid : id ∈ game.released effects keptLands limit) :
    id ∈ game.tappedOf effects .limited := by
  rw [released] at hid
  split at hid
  · exact hid
  · exact (List.mem_filter.mp hid).1

/-- The permanents that the step untaps. -/
def untappedBy (effects : StaticEffects) (game : GameState)
    (kept keptLands : List CardId) : List CardId :=
  game.tappedOf effects .normal ++ game.freed effects kept ++
    (game.landUntapLimit.map (game.released effects keptLands)).getD []

variable {kept keptLands : List CardId}

/-- What the step untaps is a tapped permanent of the active player that does
untap and that is not kept tapped by the first answer. -/
theorem of_mem_untappedBy {id : CardId}
    (hid : id ∈ untappedBy effects game kept keptLands) :
    id ∈ game.zones.battlefield ∧ ∃ card, game.card? id = some card ∧
      card.controller = game.turn.activePlayer ∧ card.tapped = true ∧
        game.hasKeywordWithEffects effects id .doesNotUntap = false ∧
          ¬ (card.keywords.contains .mayNotUntap = true ∧ id ∈ kept) := by
  rw [untappedBy, List.mem_append, List.mem_append] at hid
  rcases hid with (hnormal | hfreed) | hreleased
  · obtain ⟨hboard, card, hcard, hactive, htapped, hkind⟩ :=
      mem_tappedOf.mp hnormal
    obtain ⟨hunlocked, hmust, -⟩ := untapKind_normal.mp hkind
    exact ⟨hboard, card, hcard, hactive, htapped, hunlocked, by simp [hmust]⟩
  · rw [freed, List.mem_filter] at hfreed
    obtain ⟨hboard, card, hcard, hactive, htapped, hkind⟩ :=
      mem_tappedOf.mp hfreed.1
    have hnot : id ∉ kept := by simpa using hfreed.2
    exact ⟨hboard, card, hcard, hactive, htapped,
      (untapKind_optional.mp hkind).1, fun hnamed => hnot hnamed.2⟩
  · cases hlimit : game.landUntapLimit with
    | none => simp [hlimit] at hreleased
    | some limit =>
        rw [hlimit, Option.map_some, Option.getD_some] at hreleased
        obtain ⟨hboard, card, hcard, hactive, htapped, hkind⟩ :=
          mem_tappedOf.mp (released_subset keptLands limit hreleased)
        obtain ⟨hunlocked, hmust, -⟩ := untapKind_limited.mp hkind
        exact ⟨hboard, card, hcard, hactive, htapped, hunlocked,
          by simp [hmust]⟩

theorem isSome_landUntapLimit :
    game.landUntapLimit.isSome = true ↔ game.landUntapLimits ≠ [] := by
  rw [landUntapLimit, List.isSome_min?_iff]

/-- Every other permanent untaps, but for limited lands. -/
theorem mem_untappedBy {id : CardId} {card : Card}
    (hboard : id ∈ game.zones.battlefield) (hcard : game.card? id = some card)
    (hactive : card.controller = game.turn.activePlayer)
    (htapped : card.tapped = true)
    (hunlocked : game.hasKeywordWithEffects effects id .doesNotUntap = false)
    (hfree : ¬ (card.keywords.contains .mayNotUntap = true ∧ id ∈ kept))
    (hland : ¬ (card.isLand = true ∧ game.landUntapLimits ≠ [])) :
    id ∈ untappedBy effects game kept keptLands := by
  rw [untappedBy, List.mem_append, List.mem_append]
  left
  by_cases hoptional : card.keywords.contains .mayNotUntap = true
  · right
    rw [freed, List.mem_filter]
    refine ⟨mem_tappedOf.mpr ⟨hboard, card, hcard, hactive, htapped,
      untapKind_optional.mpr ⟨hunlocked, hoptional⟩⟩, ?_⟩
    simpa using fun hkept => hfree ⟨hoptional, hkept⟩
  · left
    refine mem_tappedOf.mpr ⟨hboard, card, hcard, hactive, htapped,
      untapKind_normal.mpr ⟨hunlocked, by simpa using hoptional, ?_⟩⟩
    rintro ⟨hlimit, hisLand⟩
    exact hland ⟨hisLand, isSome_landUntapLimit.mp hlimit⟩

theorem mem_untappedLands {id : CardId} :
    id ∈ game.untappedLands
        (game.untapAll (untappedBy effects game kept keptLands)) ↔
      id ∈ untappedBy effects game kept keptLands ∧
        (game.card? id).any Card.isLand = true := by
  rw [untappedLands, Finset.mem_filter, List.mem_toFinset, card?_untapAll]
  constructor
  · rintro ⟨-, hland⟩
    by_cases hid : id ∈ untappedBy effects game kept keptLands
    · refine ⟨hid, ?_⟩
      cases hcard : game.card? id <;> simp_all
    · rw [if_neg hid] at hland
      cases hcard : game.card? id with
      | none => simp [hcard] at hland
      | some card =>
          simp only [hcard, Option.any_some, Bool.and_eq_true,
            Bool.not_eq_true'] at hland
          rw [hland.1.2] at hland
          exact absurd hland.2 nofun
  · rintro ⟨hid, hland⟩
    obtain ⟨hboard, card, hcard, hactive, htapped, -⟩ := of_mem_untappedBy hid
    rw [hcard, Option.any_some] at hland
    refine ⟨hboard, ?_⟩
    simp [hcard, hid, hactive, htapped, hland, Card.untap]

/-- Under a limit the lands that untap are those let through and those that
could have stayed tapped. -/
theorem untappedLands_untapAll {limit : UInt8}
    (hlimit : game.landUntapLimit = some limit) :
    game.untappedLands
        (game.untapAll (untappedBy effects game kept keptLands)) =
      (((game.freed effects kept).filter fun id =>
          (game.card? id).any Card.isLand) ++
        game.released effects keptLands limit).toFinset := by
  ext id
  rw [mem_untappedLands, List.mem_toFinset, List.mem_append, List.mem_filter,
    untappedBy, hlimit, Option.map_some, Option.getD_some, List.mem_append,
    List.mem_append]
  constructor
  · rintro ⟨(hnormal | hfreed) | hreleased, hland⟩
    · obtain ⟨-, card, hcard, -, -, hkind⟩ := mem_tappedOf.mp hnormal
      rw [hcard, Option.any_some] at hland
      exact absurd ⟨by rw [hlimit]; rfl, hland⟩ (untapKind_normal.mp hkind).2.2
    · exact Or.inl ⟨hfreed, hland⟩
    · exact Or.inr hreleased
  · rintro (⟨hfreed, hland⟩ | hreleased)
    · exact ⟨Or.inl (Or.inr hfreed), hland⟩
    · obtain ⟨-, card, hcard, -, -, hkind⟩ :=
        mem_tappedOf.mp (released_subset keptLands limit hreleased)
      exact ⟨Or.inr hreleased, by
        simpa [hcard] using (untapKind_limited.mp hkind).2.2.2⟩

theorem limit_iff :
    (∀ limit ∈ game.landUntapLimits,
      (game.untappedLands (game.untapAll
        (untappedBy effects game kept keptLands))).card ≤ limit.toNat) ↔
      LimitKept effects game kept keptLands := by
  constructor
  · intro hall limit hlimit
    rw [← untappedLands_untapAll hlimit]
    exact hall limit (List.min?_mem hlimit)
  · intro hkept limit hmem
    obtain ⟨least, hleast⟩ := Option.isSome_iff_exists.mp
      (List.isSome_min?_of_mem hmem)
    have hle : least ≤ limit :=
      (List.le_min?_iff hleast).mp (UInt8.le_refl least) limit hmem
    have hcard := hkept least hleast
    rw [← untappedLands_untapAll hleast] at hcard
    exact hcard.trans (UInt8.le_iff_toNat_le.mp hle)

theorem untapsRight_iff :
    UntapsRight effects game
        (game.untapAll (untappedBy effects game kept keptLands)) kept ↔
      LimitKept effects game kept keptLands := by
  have hstays {id : CardId} {card : Card} (hcard : game.card? id = some card)
      (hnot : id ∉ untappedBy effects game kept keptLands) :
      (game.untapAll (untappedBy effects game kept keptLands)).card? id =
        some card := by
    rw [card?_untapAll, if_neg hnot, hcard]
  constructor
  · intro hright
    exact limit_iff.mp hright.limit
  · intro hlimit
    refine ⟨?_, ?_, ?_, ?_, limit_iff.mpr hlimit⟩
    · intro id card hcard hother
      apply hstays hcard
      intro hid
      obtain ⟨-, found, hfound, hactive, -⟩ := of_mem_untappedBy hid
      rw [hcard] at hfound
      cases hfound
      exact hother hactive
    · intro id card hcard hlocked
      apply hstays hcard
      intro hid
      obtain ⟨-, -, -, -, -, hunlocked, -⟩ := of_mem_untappedBy hid
      simp [hlocked] at hunlocked
    · intro id hkept card hcard hmay
      apply hstays hcard
      intro hid
      obtain ⟨-, found, hfound, -, -, -, hfree⟩ := of_mem_untappedBy hid
      rw [hcard] at hfound
      cases hfound
      exact hfree ⟨hmay, hkept⟩
    · intro id hboard card hcard hactive htapped hunlocked hfree hland
      rw [card?_untapAll, if_pos (mem_untappedBy hboard hcard hactive htapped
        hunlocked hfree hland), hcard]
      rfl

end Untapping

section Run

variable {effects : StaticEffects} {game : GameState}

theorem cards_resetTurnCounters (game : GameState) :
    game.resetTurnCounters.cards = game.cards ∧
      game.resetTurnCounters.zones = game.zones ∧
        game.resetTurnCounters.turn = game.turn := by
  rw [resetTurnCounters]
  split <;> exact ⟨rfl, rfl, rfl⟩

theorem untapSkipped_resetTurnCounters (game : GameState) :
    game.resetTurnCounters.untapSkipped = game.untapSkipped := by
  obtain ⟨hcards, hzones, -⟩ := game.cards_resetTurnCounters
  simp only [untapSkipped, card?, hcards, hzones]

theorem skipFlag_resetTurnCounters (game : GameState) :
    (game.resetTurnCounters.getPlayer game.turn.activePlayer).any
        Player.skipUntapNextTurn =
      (game.getPlayer game.turn.activePlayer).any
        Player.skipUntapNextTurn := by
  rw [resetTurnCounters]
  split
  · have hfind := FirstMatch.find?_modifyFirst
      (p := fun p : Player => p.id == game.turn.activePlayer)
      (f := fun p =>
        { p with cardsDrawnThisTurn := 0, spellsCastThisTurn := 0 })
      (fun _ => rfl) game.players
    change Option.any _ (List.find? _ (FirstMatch.modifyFirst _ _ _)) = _
    rw [hfind, Option.any_map]
    rfl
  · rfl

/-- Without an effect that skips it the untap step is right, for every board
and every two answers, exactly when the lands that could have stayed tapped
leave the limit kept. -/
theorem untapStep_right_iff (turnsElapsed : UInt32)
    (kept keptLands : List CardId) (hboard : game.untapSkipped = false)
    (hplayer : (game.getPlayer game.turn.activePlayer).any
      Player.skipUntapNextTurn = false) :
    UntapsRight effects game.resetTurnCounters
        (game.untapStep effects turnsElapsed (.ok kept) (.ok keptLands)).1
        kept ↔
      LimitKept effects game.resetTurnCounters kept keptLands := by
  have hstep : game.untapStep effects turnsElapsed (.ok kept) (.ok keptLands) =
      game.resetTurnCounters.untapPermanents effects turnsElapsed (.ok kept)
        (.ok keptLands) := by
    rw [untapStep, untapSkipped_resetTurnCounters, hboard,
      game.cards_resetTurnCounters.2.2, skipFlag_resetTurnCounters, hplayer]
    rfl
  rw [hstep, untapPermanents_eq]
  exact untapsRight_iff

/-- No keywords are granted. -/
def noGrants : StaticEffects where
  calculateCdaPt _ _ := some none
  opalescencePt _ _ := none
  calculateModifyptEffects _ _ := some (0, 0)
  otherSelectorApplies _ _ _ _ := false
  countCardsMatchingFilter _ _ _ _ := 0

/-- A permanent that limits the untapping of lands to one, a tapped storage
land that may stay tapped and another tapped land. -/
def storageLandUnderLimit : GameState where
  cards := ⟨[
    none, none, none,
    some
      { id := ⟨3⟩
        owner := ⟨1⟩
        controller := ⟨1⟩
        definition.cache.isArtifact := true
        definition.cache.limitsLandUntap := some 1 },
    some
      { id := ⟨4⟩
        owner := ⟨0⟩
        controller := ⟨0⟩
        tapped := true
        keywords := { keywords := [.mayNotUntap] }
        definition.cache.isLand := true },
    some
      { id := ⟨5⟩
        owner := ⟨0⟩
        controller := ⟨0⟩
        tapped := true
        definition.cache.isLand := true }]⟩
  players := [{ id := ⟨0⟩ }, { id := ⟨1⟩ }]
  zones := { battlefield := [⟨3⟩, ⟨4⟩, ⟨5⟩] }
  turn := { activePlayer := ⟨0⟩ }

/-- The storage land is kept tapped, the other one untaps. -/
theorem untapStep_right_kept :
    UntapsRight noGrants storageLandUnderLimit.resetTurnCounters
      (storageLandUnderLimit.untapStep noGrants 1 (.ok [⟨4⟩]) (.ok [])).1
      [⟨4⟩] :=
  (untapStep_right_iff 1 [⟨4⟩] [] (by decide) (by decide)).mpr (by
    intro limit hlimit
    have hone : limit = 1 := by
      have hleast : storageLandUnderLimit.resetTurnCounters.landUntapLimit =
          some 1 := by decide
      exact Option.some.inj (hlimit.symm.trans hleast)
    subst hone
    decide)

/-- Both lands untap under a limit of one. -/
theorem not_untapStep_right :
    ¬ UntapsRight noGrants storageLandUnderLimit.resetTurnCounters
      (storageLandUnderLimit.untapStep noGrants 1 (.ok []) (.ok [])).1 [] := by
  intro hright
  exact absurd (hright.limit 1 (by decide)) (by decide)

end Run

end GameState

end DeepScry
