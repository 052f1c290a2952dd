/-
The two passes that derive who controls a permanent: from the control-granting
Auras on it, and from the grants that last as long as their source is
controlled.
-/
import DeepScry.Sweep
import DeepScry.Undo

namespace DeepScry

/-- `StaticAbility::GainControl`. -/
def StaticAbility.grantsControl : StaticAbility → Bool
  | .gainControl _ => true
  | _ => false

/-- An entry of `control_overrides`: the host, the Aura that governs it, and
the controller of the Aura. -/
structure ControlOverride where
  host : CardId
  aura : CardId
  controller : PlayerId
deriving DecidableEq

/-- A later Aura on the same host takes the place of the earlier one. -/
def addOverride (overrides : List ControlOverride) (entry : ControlOverride) :
    List ControlOverride :=
  if overrides.any fun other => other.host == entry.host then
    FirstMatch.modifyFirst (fun other => other.host == entry.host)
      (fun _ => entry) overrides
  else overrides ++ [entry]

/-- What the Auras make of a permanent with an entry, or with none. -/
def Card.governedBy (governing : Option ControlOverride) (card : Card) : Card :=
  match governing with
  | some entry =>
      { card with
        controlFromAura := some entry.aura
        controller := entry.controller }
  | none =>
      if card.controlFromAura.isSome then
        { card with controlFromAura := none, controller := card.owner }
      else card

/-- What a grant makes of a permanent, by the test whether a player controls
a source. -/
def Card.grantedBy (holds : CardId → PlayerId → Bool) (card : Card) : Card :=
  match card.controlGrant with
  | some (source, grantee) =>
      if holds source grantee then { card with controller := grantee }
      else { card with controlGrant := none, controller := card.owner }
  | none => card

namespace GameState

/-- The entry of a permanent that is a control-granting Aura on a host that is
still on the battlefield. -/
def controlOverride? (game : GameState) (aura : CardId) :
    Option ControlOverride := do
  let card ← game.card? aura
  let host ← card.attachedTo
  if card.isAura && card.staticAbilities.any StaticAbility.grantsControl &&
      game.zones.battlefield.contains host then
    some ⟨host, aura, card.controller⟩
  else none

def collectOverride (game : GameState) (overrides : List ControlOverride)
    (aura : CardId) : List ControlOverride :=
  match game.controlOverride? aura with
  | some entry => addOverride overrides entry
  | none => overrides

/-- Step 1 of `recompute_aura_control`. -/
def controlOverrides (game : GameState) : List ControlOverride :=
  game.zones.battlefield.foldl game.collectOverride []

/-- Write the control of a permanent; only a new controller is logged. -/
def writeControl (game : GameState) (id : CardId) (card written : Card)
    (reports : Bool) : GameState :=
  let revised := game.modifyCard id fun _ => written
  if card.controller = written.controller then revised
  else
    let logged := revised.logAction
      (.changeController id card.controller written.controller)
      game.logger.logCount
    if reports then logged.message else logged

/-- One permanent of step 2; it is left alone if nothing is to change. -/
def applyAuraControl (overrides : List ControlOverride) (game : GameState)
    (id : CardId) : GameState :=
  match game.card? id with
  | some card =>
      let written := card.governedBy
        (overrides.find? fun entry => entry.host == id)
      if card.controller = written.controller ∧
          card.controlFromAura = written.controlFromAura then game
      else game.writeControl id card written true
  | none => game

def recomputeAuraControl (game : GameState) : GameState :=
  game.zones.battlefield.foldl (applyAuraControl game.controlOverrides) game

/-- Whether the source is on the battlefield under the control of the
grantee. -/
def grantHolds (game : GameState) (source : CardId) (grantee : PlayerId) :
    Bool :=
  (game.card? source).any fun card =>
    game.zones.battlefield.contains source && card.controller == grantee

/-- One permanent; the end of a grant is reported with the new controller. -/
def applySourceControl (game : GameState) (id : CardId) : GameState :=
  match game.card? id with
  | some card =>
      match card.controlGrant with
      | some (source, grantee) =>
          let holds := game.grantHolds source grantee
          if holds ∧ card.controller = grantee then game
          else game.writeControl id card (card.grantedBy game.grantHolds) !holds
      | none => game
  | none => game

def recomputeSourceControl (game : GameState) : GameState :=
  game.zones.battlefield.foldl applySourceControl game

/-- Both passes, as the state-based actions run them. -/
def recomputeControl (game : GameState) : GameState :=
  game.recomputeAuraControl.recomputeSourceControl

end GameState

namespace Card

theorem withControl_eq_self {card : Card} {aura : Option CardId}
    {controller : PlayerId} (hcontroller : card.controller = controller)
    (haura : card.controlFromAura = aura) :
    { card with controlFromAura := aura, controller := controller } = card := by
  subst hcontroller haura
  rfl

theorem governedBy_eq_self_iff {governing : Option ControlOverride}
    {card : Card} :
    card.governedBy governing = card ↔
      card.controller = (card.governedBy governing).controller ∧
        card.controlFromAura =
          (card.governedBy governing).controlFromAura := by
  constructor
  · intro hsame
    rw [hsame]
    exact ⟨rfl, rfl⟩
  · rintro ⟨hcontroller, haura⟩
    cases governing with
    | some entry => exact withControl_eq_self hcontroller haura
    | none =>
        cases hprior : card.controlFromAura.isSome with
        | false => simp [governedBy, hprior]
        | true =>
            have hcleared : card.controlFromAura = none := by
              simpa [governedBy, hprior] using haura
            simp [hcleared] at hprior

theorem governedBy_governedBy (governing : Option ControlOverride)
    (card : Card) :
    (card.governedBy governing).governedBy governing =
      card.governedBy governing := by
  cases governing with
  | some entry => rfl
  | none =>
      cases haura : card.controlFromAura.isSome <;> simp [governedBy, haura]

/-- Neither an Aura nor a grant changes what makes a permanent an Aura. -/
theorem governedBy_steady (governing : Option ControlOverride) (card : Card) :
    (card.governedBy governing).owner = card.owner ∧
      (card.governedBy governing).controlGrant = card.controlGrant ∧
      (card.governedBy governing).attachedTo = card.attachedTo ∧
      (card.governedBy governing).isAura = card.isAura ∧
      (card.governedBy governing).staticAbilities = card.staticAbilities := by
  cases governing with
  | some entry => exact ⟨rfl, rfl, rfl, rfl, rfl⟩
  | none =>
      rw [governedBy]
      split <;> exact ⟨rfl, rfl, rfl, rfl, rfl⟩

theorem grantedBy_steady (holds : CardId → PlayerId → Bool) (card : Card) :
    (card.grantedBy holds).controlFromAura = card.controlFromAura ∧
      (card.grantedBy holds).attachedTo = card.attachedTo ∧
      (card.grantedBy holds).isAura = card.isAura ∧
      (card.grantedBy holds).staticAbilities = card.staticAbilities := by
  rw [grantedBy]
  split
  · split <;> exact ⟨rfl, rfl, rfl, rfl⟩
  · exact ⟨rfl, rfl, rfl, rfl⟩

theorem grantedBy_grantedBy (holds : CardId → PlayerId → Bool) (card : Card) :
    (card.grantedBy holds).grantedBy holds = card.grantedBy holds := by
  cases hgrant : card.controlGrant with
  | none => simp [grantedBy, hgrant]
  | some grant =>
      cases hholds : holds grant.1 grant.2 <;>
        simp [grantedBy, hgrant, hholds]

theorem grantedBy_congr {card : Card} {holds holds' : CardId → PlayerId → Bool}
    (hsame : ∀ source grantee, card.controlGrant = some (source, grantee) →
      holds source grantee = holds' source grantee) :
    card.grantedBy holds = card.grantedBy holds' := by
  cases hgrant : card.controlGrant with
  | none => simp [grantedBy, hgrant]
  | some grant => simp [grantedBy, hgrant, hsame grant.1 grant.2 hgrant]

/-- The grants that are left were held. -/
theorem controlGrant_grantedBy {card : Card}
    {holds : CardId → PlayerId → Bool} {source : CardId} {grantee : PlayerId}
    (hgrant : (card.grantedBy holds).controlGrant = some (source, grantee)) :
    card.controlGrant = some (source, grantee) ∧
      holds source grantee = true ∧
        (card.grantedBy holds).controller = grantee := by
  cases hbefore : card.controlGrant with
  | none => simp [grantedBy, hbefore] at hgrant
  | some grant =>
      cases hholds : holds grant.1 grant.2 with
      | false => simp [grantedBy, hbefore, hholds] at hgrant
      | true =>
          simp only [grantedBy, hbefore, hholds, ↓reduceIte] at hgrant ⊢
          cases hgrant
          exact ⟨rfl, hholds, rfl⟩

end Card

namespace GameState

variable {game : GameState} {id : CardId} {card : Card}

theorem card?_writeControl (hcard : game.card? id = some card)
    (written : Card) (reports : Bool) (other : CardId) :
    (game.writeControl id card written reports).card? other =
      if other = id then some written else game.card? other := by
  have hrevised : (game.modifyCard id fun _ => written).card? other =
      if other = id then some written else game.card? other := by
    refine (EntityStore.tryGet_modify game.cards id.raw other.raw _).trans ?_
    by_cases hother : other = id
    · subst hother
      rw [if_pos rfl, if_pos rfl]
      exact congrArg (Option.map fun _ => written) hcard
    · rw [if_neg hother, if_neg fun heq => hother (CardId.ext heq.symm)]
      rfl
  rw [writeControl]
  dsimp only
  split
  · exact hrevised
  · split <;> exact hrevised

theorem zones_writeControl (game : GameState) (id : CardId)
    (card written : Card) (reports : Bool) :
    (game.writeControl id card written reports).zones = game.zones := by
  rw [writeControl]
  dsimp only
  split
  · rfl
  · split <;> rfl

section AuraPass

variable {overrides : List ControlOverride}

/-- What the entries make of a permanent. -/
def auraWrite (overrides : List ControlOverride) (id : CardId) (card : Card) :
    Card :=
  card.governedBy (overrides.find? fun entry => entry.host == id)

/-- A permanent that the pass leaves alone. -/
theorem applyAuraControl_eq_self
    (hsettled : ∀ card, game.card? id = some card →
      auraWrite overrides id card = card) :
    game.applyAuraControl overrides id = game := by
  rw [applyAuraControl]
  cases hcard : game.card? id with
  | none => rfl
  | some card =>
      exact if_pos (Card.governedBy_eq_self_iff.mp (hsettled card hcard))

theorem applyAuraControl_of_card (hcard : game.card? id = some card)
    (hwrites : auraWrite overrides id card ≠ card) :
    game.applyAuraControl overrides id =
      game.writeControl id card (auraWrite overrides id card) true := by
  rw [applyAuraControl, hcard]
  exact if_neg fun hsame => hwrites (Card.governedBy_eq_self_iff.mpr hsame)

theorem aura_sweep (overrides : List ControlOverride) (zones : Zones) :
    Sweep card? (applyAuraControl overrides) (auraWrite overrides)
      (fun _ => True) fun game => game.zones = zones where
  keeps game id _ hzones := by
    cases hcard : game.card? id with
    | none => rwa [applyAuraControl_eq_self (by simp [hcard])]
    | some card =>
        by_cases hwrites : auraWrite overrides id card = card
        · rwa [applyAuraControl_eq_self (by simp [hcard, hwrites])]
        · rwa [applyAuraControl_of_card hcard hwrites, zones_writeControl]
  writes game id _ _ other := by
    cases hcard : game.card? id with
    | none =>
        rw [applyAuraControl_eq_self (by simp [hcard])]
        split
        · next hother => simp [hother, hcard]
        · rfl
    | some card =>
        by_cases hwrites : auraWrite overrides id card = card
        · rw [applyAuraControl_eq_self (by simp [hcard, hwrites])]
          split
          · next hother => simp [hother, hcard, hwrites]
          · rfl
        · rw [applyAuraControl_of_card hcard hwrites,
            card?_writeControl hcard]
          split
          · next hother => simp [hother, hcard]
          · rfl
  settles id card := Card.governedBy_governedBy _ card

/-- The pass as one simultaneous write. -/
theorem card?_recomputeAuraControl (game : GameState) (id : CardId) :
    game.recomputeAuraControl.card? id =
      if id ∈ game.zones.battlefield then
        (game.card? id).map (auraWrite game.controlOverrides id)
      else game.card? id :=
  (aura_sweep game.controlOverrides game.zones).get_foldl rfl
    (fun _ _ => trivial) id

theorem zones_recomputeAuraControl (game : GameState) :
    game.recomputeAuraControl.zones = game.zones :=
  (aura_sweep game.controlOverrides game.zones).foldl_keeps rfl
    fun _ _ => trivial

theorem recomputeAuraControl_eq_self_iff :
    game.recomputeAuraControl = game ↔
      ∀ id ∈ game.zones.battlefield, ∀ card, game.card? id = some card →
        auraWrite game.controlOverrides id card = card :=
  (aura_sweep game.controlOverrides game.zones).foldl_eq_self_iff rfl
    (fun _ _ => trivial) fun _ => applyAuraControl_eq_self

end AuraPass

section SourcePass

theorem grantHolds_congr {other : GameState} {source : CardId}
    (hzones : other.zones = game.zones)
    (hcontroller : source ∈ game.zones.battlefield →
      (other.card? source).map Card.controller =
        (game.card? source).map Card.controller) (grantee : PlayerId) :
    other.grantHolds source grantee = game.grantHolds source grantee := by
  have hcontrolled (game : GameState) : game.grantHolds source grantee =
      (game.zones.battlefield.contains source &&
        ((game.card? source).map Card.controller).any (· == grantee)) := by
    rw [grantHolds]
    cases game.card? source <;> simp
  rw [hcontrolled, hcontrolled, hzones]
  by_cases hsource : source ∈ game.zones.battlefield
  · rw [hcontroller hsource]
  · simp [hsource]

/-- A permanent that the pass leaves alone. -/
theorem applySourceControl_eq_self
    (hsettled : ∀ card source grantee, game.card? id = some card →
      card.controlGrant = some (source, grantee) →
        game.grantHolds source grantee = true ∧ card.controller = grantee) :
    game.applySourceControl id = game := by
  rw [applySourceControl]
  cases hcard : game.card? id with
  | none => rfl
  | some card =>
      dsimp only
      cases hgrant : card.controlGrant with
      | none => rfl
      | some grant => exact if_pos (hsettled card _ _ hcard hgrant)

/-- What the pass does with a permanent. -/
theorem applySourceControl_of_card (hcard : game.card? id = some card) :
    game.applySourceControl id = game ∧
        card.grantedBy game.grantHolds = card ∨
      ∃ reports, game.applySourceControl id =
        game.writeControl id card (card.grantedBy game.grantHolds) reports := by
  rw [applySourceControl, hcard]
  dsimp only
  cases hgrant : card.controlGrant with
  | none => exact Or.inl ⟨rfl, by rw [Card.grantedBy, hgrant]⟩
  | some grant =>
      obtain ⟨source, grantee⟩ := grant
      by_cases hsame : game.grantHolds source grantee = true ∧
          card.controller = grantee
      · refine Or.inl ⟨if_pos hsame, ?_⟩
        obtain ⟨hholds, rfl⟩ := hsame
        simp [Card.grantedBy, hgrant, hholds]
      · exact Or.inr ⟨_, if_neg hsame⟩

theorem card?_applySourceControl (game : GameState) (id other : CardId) :
    (game.applySourceControl id).card? other =
      if other = id then (game.card? other).map (·.grantedBy game.grantHolds)
      else game.card? other := by
  cases hcard : game.card? id with
  | none =>
      rw [applySourceControl_eq_self (by simp [hcard])]
      split
      · next hother => simp [hother, hcard]
      · rfl
  | some card =>
      rcases applySourceControl_of_card hcard with ⟨hsame, hsettled⟩ |
        ⟨reports, hwritten⟩
      · rw [hsame]
        split
        · next hother => simp [hother, hcard, hsettled]
        · rfl
      · rw [hwritten, card?_writeControl hcard]
        split
        · next hother => simp [hother, hcard]
        · rfl

theorem zones_applySourceControl (game : GameState) (id : CardId) :
    (game.applySourceControl id).zones = game.zones := by
  cases hcard : game.card? id with
  | none => rw [applySourceControl_eq_self (by simp [hcard])]
  | some card =>
      rcases applySourceControl_of_card hcard with ⟨hsame, -⟩ |
        ⟨reports, hwritten⟩
      · rw [hsame]
      · rw [hwritten, zones_writeControl]

/-- No source of a grant is moved by a grant of its own. -/
def SourcesStay (game : GameState) : Prop :=
  ∀ id ∈ game.zones.battlefield, ∀ card, game.card? id = some card →
    ∀ source grantee, card.controlGrant = some (source, grantee) →
      source ∈ game.zones.battlefield →
      ∀ sourceCard, game.card? source = some sourceCard →
        (sourceCard.grantedBy game.grantHolds).controller =
          sourceCard.controller

/-- During the pass every card is as before or written. -/
structure Granting (start game : GameState) : Prop where
  zones : game.zones = start.zones
  cards : ∀ id, game.card? id = start.card? id ∨
    game.card? id = (start.card? id).map (·.grantedBy start.grantHolds)

variable {start : GameState}

/-- A grant is judged as at the start of the pass. -/
theorem Granting.grantHolds (hgranting : Granting start game)
    (hstay : start.SourcesStay) (hid : id ∈ start.zones.battlefield)
    (hcard : game.card? id = some card) {source : CardId} {grantee : PlayerId}
    (hgrant : card.controlGrant = some (source, grantee)) :
    game.grantHolds source grantee = start.grantHolds source grantee := by
  have hbefore : ∃ before, start.card? id = some before ∧
      before.controlGrant = some (source, grantee) := by
    rcases hgranting.cards id with hsame | hwritten
    · exact ⟨card, hsame ▸ hcard, hgrant⟩
    · rw [hcard] at hwritten
      obtain ⟨before, hstart, rfl⟩ := Option.map_eq_some_iff.mp hwritten.symm
      exact ⟨before, hstart, (Card.controlGrant_grantedBy hgrant).1⟩
  obtain ⟨before, hstart, hgrant⟩ := hbefore
  apply grantHolds_congr hgranting.zones
  intro hsource
  rcases hgranting.cards source with hsame | hwritten
  · rw [hsame]
  · rw [hwritten, Option.map_map]
    apply Option.map_congr
    intro sourceCard hsourceCard
    exact hstay id hid before hstart source grantee hgrant hsource sourceCard
      hsourceCard

theorem source_sweep (hstay : start.SourcesStay) :
    Sweep card? applySourceControl
      (fun _ card => card.grantedBy start.grantHolds)
      (· ∈ start.zones.battlefield) (Granting start) := by
  have hwrites : ∀ game id, id ∈ start.zones.battlefield →
      Granting start game → ∀ other,
        (game.applySourceControl id).card? other =
          if other = id then
            (game.card? other).map (·.grantedBy start.grantHolds)
          else game.card? other := by
    intro game id hid hgranting other
    rw [card?_applySourceControl]
    split
    · next hother =>
      subst hother
      apply Option.map_congr
      intro card hcard
      apply Card.grantedBy_congr
      intro source grantee hgrant
      exact hgranting.grantHolds hstay hid hcard hgrant
    · rfl
  refine ⟨?_, hwrites, fun _ card => Card.grantedBy_grantedBy _ card⟩
  intro game id hid hgranting
  refine ⟨(game.zones_applySourceControl id).trans hgranting.zones, ?_⟩
  intro other
  rw [hwrites game id hid hgranting]
  split
  · next hother =>
    right
    rcases hgranting.cards other with hsame | hwritten
    · rw [hsame]
    · rw [hwritten, Option.map_map]
      apply Option.map_congr
      intro card _
      exact Card.grantedBy_grantedBy _ card
  · exact hgranting.cards other

/-- The pass as one simultaneous write. -/
theorem card?_recomputeSourceControl (hstay : game.SourcesStay)
    (id : CardId) :
    game.recomputeSourceControl.card? id =
      if id ∈ game.zones.battlefield then
        (game.card? id).map (·.grantedBy game.grantHolds)
      else game.card? id :=
  (source_sweep hstay).get_foldl ⟨rfl, fun _ => Or.inl rfl⟩
    (fun _ hid => hid) id

theorem zones_recomputeSourceControl (hstay : game.SourcesStay) :
    game.recomputeSourceControl.zones = game.zones :=
  ((source_sweep hstay).foldl_keeps ⟨rfl, fun _ => Or.inl rfl⟩
    fun _ hid => hid).zones

/-- Sources that stay hold their grants also after the pass, which a second
pass then leaves alone. -/
theorem recomputeSourceControl_twice (hstay : game.SourcesStay) :
    game.recomputeSourceControl.recomputeSourceControl =
      game.recomputeSourceControl := by
  have hgranting : Granting game game.recomputeSourceControl :=
    (source_sweep hstay).foldl_keeps ⟨rfl, fun _ => Or.inl rfl⟩
      fun _ hid => hid
  apply Sweep.foldl_eq_self
  intro id hid
  rw [hgranting.zones] at hid
  apply applySourceControl_eq_self
  intro card source grantee hcard hgrant
  have hholds := hgranting.grantHolds hstay hid hcard hgrant
  rw [card?_recomputeSourceControl hstay, if_pos hid] at hcard
  obtain ⟨before, hbefore, rfl⟩ := Option.map_eq_some_iff.mp hcard
  obtain ⟨-, hheld, hcontroller⟩ := Card.controlGrant_grantedBy hgrant
  exact ⟨hholds.trans hheld, hcontroller⟩

end SourcePass

end GameState

end DeepScry
