/-
When the two control passes reach a fixed point: a second run changes nothing
if the grants and Auras that decide over an Aura and over its host agree.
-/
import DeepScry.ControlPasses

namespace DeepScry

namespace GameState

variable {game : GameState} {id : CardId} {card : Card}

section Overrides

theorem forall_addOverride {P : ControlOverride → Prop}
    {overrides : List ControlOverride} {entry : ControlOverride}
    (hentry : P entry) (hall : ∀ other ∈ overrides, P other) :
    ∀ other ∈ addOverride overrides entry, P other := by
  rw [addOverride]
  split
  · exact FirstMatch.forall_mem_modifyFirst (fun _ _ _ => hentry) hall
  · simpa [or_imp, forall_and] using ⟨hall, hentry⟩

theorem aura_of_controlOverride? {aura : CardId} {entry : ControlOverride}
    (hentry : game.controlOverride? aura = some entry) :
    ∃ card, game.card? aura = some card ∧ card.isAura = true ∧
      card.attachedTo = some entry.host ∧
      card.staticAbilities.any StaticAbility.grantsControl = true ∧
      entry.aura = aura ∧ entry.controller = card.controller := by
  rw [controlOverride?] at hentry
  obtain ⟨card, hcard, hentry⟩ := Option.bind_eq_some_iff.mp hentry
  obtain ⟨host, hhost, hentry⟩ := Option.bind_eq_some_iff.mp hentry
  split at hentry
  · next hgrants =>
    rw [Bool.and_eq_true, Bool.and_eq_true] at hgrants
    cases hentry
    exact ⟨card, hcard, hgrants.1.1, hhost, hgrants.1.2, rfl, rfl⟩
  · cases hentry

/-- Every entry is one of an Aura on the battlefield. -/
theorem controlOverride?_of_mem {entry : ControlOverride}
    (hmem : entry ∈ game.controlOverrides) :
    entry.aura ∈ game.zones.battlefield ∧
      game.controlOverride? entry.aura = some entry := by
  have hfold (auras : List CardId) (overrides : List ControlOverride)
      (hauras : ∀ aura ∈ auras, aura ∈ game.zones.battlefield)
      (hall : ∀ entry ∈ overrides, entry.aura ∈ game.zones.battlefield ∧
        game.controlOverride? entry.aura = some entry) :
      ∀ entry ∈ auras.foldl game.collectOverride overrides,
        entry.aura ∈ game.zones.battlefield ∧
          game.controlOverride? entry.aura = some entry := by
    induction auras generalizing overrides with
    | nil => exact hall
    | cons aura auras ih =>
        rw [List.forall_mem_cons] at hauras
        rw [List.foldl_cons, collectOverride]
        apply ih _ hauras.2
        cases hentry : game.controlOverride? aura with
        | none => exact hall
        | some entry =>
            obtain ⟨-, -, -, -, -, haura, -⟩ := aura_of_controlOverride? hentry
            apply forall_addOverride _ hall
            rw [haura]
            exact ⟨hauras.1, hentry⟩
  exact hfold _ [] (fun _ haura => haura) (by simp) entry hmem

theorem addOverride_map {f : ControlOverride → ControlOverride}
    (hf : ∀ entry, (f entry).host = entry.host)
    (overrides : List ControlOverride) (entry : ControlOverride) :
    addOverride (overrides.map f) (f entry) =
      (addOverride overrides entry).map f := by
  have hmodify : FirstMatch.modifyFirst
      (fun other : ControlOverride => other.host == entry.host)
      (fun _ => f entry) (overrides.map f) =
        (FirstMatch.modifyFirst
          (fun other : ControlOverride => other.host == entry.host)
          (fun _ => entry) overrides).map f := by
    induction overrides with
    | nil => rfl
    | cons first rest ih =>
        rw [List.map_cons, FirstMatch.modifyFirst, FirstMatch.modifyFirst, hf,
          ih]
        split <;> rfl
  have hany : (overrides.map f).any (fun other => other.host == entry.host) =
      overrides.any fun other => other.host == entry.host := by
    simp only [List.any_map, Function.comp_def, hf]
  rw [addOverride, addOverride, hf, hany, hmodify]
  split
  · rfl
  · rw [List.map_append]
    rfl

/-- With other controllers for the Auras, the entries are the same up to
these. -/
theorem controlOverrides_congr {other : GameState}
    {f : ControlOverride → ControlOverride}
    (hf : ∀ entry, (f entry).host = entry.host)
    (hzones : other.zones = game.zones)
    (hentries : ∀ aura ∈ game.zones.battlefield,
      other.controlOverride? aura = (game.controlOverride? aura).map f) :
    other.controlOverrides = game.controlOverrides.map f := by
  have hfold (auras : List CardId) (overrides : List ControlOverride)
      (hauras : ∀ aura ∈ auras,
        other.controlOverride? aura = (game.controlOverride? aura).map f) :
      auras.foldl other.collectOverride (overrides.map f) =
        (auras.foldl game.collectOverride overrides).map f := by
    induction auras generalizing overrides with
    | nil => rfl
    | cons aura auras ih =>
        rw [List.forall_mem_cons] at hauras
        rw [List.foldl_cons, List.foldl_cons, ← ih _ hauras.2,
          collectOverride, collectOverride, hauras.1]
        cases game.controlOverride? aura with
        | none => rfl
        | some entry =>
            simp only [Option.map_some]
            rw [addOverride_map hf]
  rw [controlOverrides, controlOverrides, hzones]
  exact hfold _ [] hentries

end Overrides

/-- Whom the Aura on a permanent, or the loss of one, gives it to; whoever has
it if there is neither. -/
def auraClaim (game : GameState) (id : CardId) (card : Card) : PlayerId :=
  (auraWrite game.controlOverrides id card).controller

/-- Whether the grantee is to control the source by the Auras on it. -/
def claimHolds (game : GameState) (source : CardId) (grantee : PlayerId) :
    Bool :=
  (game.card? source).any fun card =>
    game.zones.battlefield.contains source &&
      game.auraClaim source card == grantee

/-- Whom a grant on a permanent, or its end, gives it to; else the Auras
decide. -/
def grantClaim (game : GameState) (id : CardId) (card : Card) : PlayerId :=
  match card.controlGrant with
  | some (source, grantee) =>
      if game.claimHolds source grantee then grantee else card.owner
  | none => game.auraClaim id card

/-- No source of a grant is moved by a grant of its own. -/
def SourcesAtRest (game : GameState) : Prop :=
  ∀ id ∈ game.zones.battlefield, ∀ card, game.card? id = some card →
    ∀ source grantee, card.controlGrant = some (source, grantee) →
      source ∈ game.zones.battlefield →
      ∀ sourceCard, game.card? source = some sourceCard →
        game.grantClaim source sourceCard = game.auraClaim source sourceCard

/-- What decides over an Aura gives it to the player that gets its host. -/
def AurasAgree (game : GameState) : Prop :=
  ∀ id ∈ game.zones.battlefield, ∀ card, game.card? id = some card →
    ∀ entry, (game.controlOverrides.find? fun entry => entry.host == id) =
      some entry → ∀ aura, game.card? entry.aura = some aura →
        game.grantClaim id card = game.grantClaim entry.aura aura

/-- Neither pass changes anything more, and a permanent that an Aura governs is
controlled by the controller of an Aura on it. -/
structure ControlSettled (game : GameState) : Prop where
  auras : game.recomputeAuraControl = game
  sources : game.recomputeSourceControl = game
  governed : ∀ id ∈ game.zones.battlefield, ∀ card,
    game.card? id = some card → card.controlFromAura.isSome →
      ∃ aura ∈ game.zones.battlefield, ∃ auraCard,
        game.card? aura = some auraCard ∧ auraCard.isAura = true ∧
        auraCard.attachedTo = some id ∧
        auraCard.staticAbilities.any StaticAbility.grantsControl = true ∧
        card.controller = auraCard.controller

section Fixpoint

theorem grantHolds_recomputeAuraControl (game : GameState) :
    game.recomputeAuraControl.grantHolds = game.claimHolds := by
  funext source grantee
  rw [grantHolds, claimHolds, card?_recomputeAuraControl,
    zones_recomputeAuraControl]
  by_cases hsource : source ∈ game.zones.battlefield
  · rw [if_pos hsource, Option.any_map]
    rfl
  · simp [hsource]

/-- What both passes make of a permanent. -/
def controlWrite (game : GameState) (id : CardId) (card : Card) : Card :=
  (auraWrite game.controlOverrides id card).grantedBy game.claimHolds

theorem controller_controlWrite (game : GameState) (id : CardId)
    (card : Card) :
    (game.controlWrite id card).controller = game.grantClaim id card := by
  obtain ⟨howner, hgrant, -⟩ := Card.governedBy_steady
    (game.controlOverrides.find? fun entry => entry.host == id) card
  rw [controlWrite, Card.grantedBy, grantClaim, auraWrite, hgrant, howner]
  cases card.controlGrant with
  | none => rfl
  | some grant => dsimp only; split <;> rfl

theorem controlWrite_steady (game : GameState) (id : CardId) (card : Card) :
    (game.controlWrite id card).attachedTo = card.attachedTo ∧
      (game.controlWrite id card).isAura = card.isAura ∧
      (game.controlWrite id card).staticAbilities = card.staticAbilities := by
  obtain ⟨-, -, hattached, hisAura, hstatic⟩ := Card.governedBy_steady
    (game.controlOverrides.find? fun entry => entry.host == id) card
  obtain ⟨-, hattached', hisAura', hstatic'⟩ := Card.grantedBy_steady
    game.claimHolds (auraWrite game.controlOverrides id card)
  exact ⟨hattached'.trans hattached, hisAura'.trans hisAura,
    hstatic'.trans hstatic⟩

theorem sourcesStay_of_atRest (hrest : game.SourcesAtRest) :
    game.recomputeAuraControl.SourcesStay := by
  intro id hid card hcard source grantee hgrant hsource sourceCard hsourceCard
  rw [zones_recomputeAuraControl] at hid hsource
  rw [card?_recomputeAuraControl, if_pos hid] at hcard
  rw [card?_recomputeAuraControl, if_pos hsource] at hsourceCard
  obtain ⟨before, hbefore, rfl⟩ := Option.map_eq_some_iff.mp hcard
  obtain ⟨sourceBefore, hsourceBefore, rfl⟩ :=
    Option.map_eq_some_iff.mp hsourceCard
  rw [auraWrite, (Card.governedBy_steady _ before).2.1] at hgrant
  rw [grantHolds_recomputeAuraControl]
  exact (game.controller_controlWrite source sourceBefore).trans
    (hrest id hid before hbefore source grantee hgrant hsource sourceBefore
      hsourceBefore)

theorem card?_recomputeControl (hrest : game.SourcesAtRest)
    (hid : id ∈ game.zones.battlefield) :
    game.recomputeControl.card? id =
      (game.card? id).map (game.controlWrite id) := by
  rw [recomputeControl,
    card?_recomputeSourceControl (sourcesStay_of_atRest hrest),
    zones_recomputeAuraControl, if_pos hid, card?_recomputeAuraControl,
    if_pos hid, Option.map_map, grantHolds_recomputeAuraControl]
  rfl

theorem zones_recomputeControl (hrest : game.SourcesAtRest) :
    game.recomputeControl.zones = game.zones := by
  rw [recomputeControl,
    zones_recomputeSourceControl (sourcesStay_of_atRest hrest),
    zones_recomputeAuraControl]

/-- The entry of an Aura, with the controller that the passes give it. -/
def revised (game : GameState) (entry : ControlOverride) : ControlOverride :=
  { entry with
    controller := ((game.card? entry.aura).map
      (game.grantClaim entry.aura)).getD entry.controller }

theorem controlOverrides_recomputeControl (hrest : game.SourcesAtRest) :
    game.recomputeControl.controlOverrides =
      game.controlOverrides.map game.revised := by
  have hhost (entry : ControlOverride) :
      (game.revised entry).host = entry.host := rfl
  apply controlOverrides_congr hhost (zones_recomputeControl hrest)
  intro aura haura
  rw [controlOverride?, controlOverride?, card?_recomputeControl hrest haura,
    zones_recomputeControl hrest]
  cases hcard : game.card? aura with
  | none => rfl
  | some card =>
      obtain ⟨hattached, hisAura, hstatic⟩ :=
        game.controlWrite_steady aura card
      simp only [Option.map_some, Option.bind_eq_bind, Option.bind_some]
      rw [hattached, hisAura, hstatic, controller_controlWrite]
      cases card.attachedTo with
      | none => rfl
      | some host =>
          simp only [Option.bind_some]
          split
          · simp [revised, hcard]
          · rfl

theorem find?_recomputeControl (hrest : game.SourcesAtRest) (id : CardId) :
    (game.recomputeControl.controlOverrides.find? fun entry =>
        entry.host == id) =
      (game.controlOverrides.find? fun entry => entry.host == id).map
        game.revised := by
  rw [controlOverrides_recomputeControl hrest, List.find?_map]
  rfl

theorem controlFromAura_controlWrite (game : GameState) (id : CardId)
    (card : Card) :
    (game.controlWrite id card).controlFromAura =
      (game.controlOverrides.find? fun entry => entry.host == id).map
        ControlOverride.aura := by
  rw [controlWrite, (Card.grantedBy_steady _ _).1, auraWrite]
  cases game.controlOverrides.find? fun entry => entry.host == id with
  | some entry => rfl
  | none =>
      rw [Card.governedBy]
      split
      · rfl
      · next hprior => simpa using hprior

/-- The Aura that governs a permanent. -/
theorem governing_aura {entry : ControlOverride}
    (hfind : (game.controlOverrides.find? fun entry => entry.host == id) =
      some entry) :
    entry.aura ∈ game.zones.battlefield ∧
      ∃ aura, game.card? entry.aura = some aura ∧ aura.isAura = true ∧
        aura.attachedTo = some id ∧
        aura.staticAbilities.any StaticAbility.grantsControl = true := by
  have hmatches : (entry.host == id) = true :=
    List.find?_some (p := fun entry : ControlOverride => entry.host == id) hfind
  have hhost : entry.host = id := eq_of_beq hmatches
  obtain ⟨haura, hentry⟩ :=
    controlOverride?_of_mem (List.mem_of_find?_eq_some hfind)
  obtain ⟨aura, hcard, hisAura, hattached, hstatic, -, -⟩ :=
    aura_of_controlOverride? hentry
  exact ⟨haura, aura, hcard, hisAura, hhost ▸ hattached, hstatic⟩

theorem controller_revised {entry : ControlOverride} {aura : Card}
    (haura : game.card? entry.aura = some aura) :
    (game.revised entry).controller = game.grantClaim entry.aura aura := by
  rw [revised, haura]
  rfl

/-- When the first pass of a second run leaves a permanent alone. -/
theorem auraWrite_recomputeControl_iff (hrest : game.SourcesAtRest)
    (id : CardId) (card : Card) :
    auraWrite game.recomputeControl.controlOverrides id
        (game.controlWrite id card) = game.controlWrite id card ↔
      ∀ entry, (game.controlOverrides.find? fun entry => entry.host == id) =
        some entry → ∀ aura, game.card? entry.aura = some aura →
          game.grantClaim id card = game.grantClaim entry.aura aura := by
  have hfrom := game.controlFromAura_controlWrite id card
  rw [auraWrite, find?_recomputeControl hrest]
  cases hfind : game.controlOverrides.find? fun entry => entry.host == id with
  | none =>
      rw [hfind] at hfrom
      simp only [reduceCtorEq, false_implies, implies_true, iff_true]
      simp only [Option.map_none] at hfrom ⊢
      rw [Card.governedBy, hfrom]
      rfl
  | some entry =>
      obtain ⟨-, aura, haura, -⟩ := governing_aura hfind
      rw [hfind] at hfrom
      rw [Option.map_some, Card.governedBy_eq_self_iff,
        controller_controlWrite, hfrom]
      change _ = (game.revised entry).controller ∧ _ ↔ _
      rw [controller_revised haura]
      constructor
      · rintro ⟨hagree, -⟩ other hother otherAura hotherAura
        cases hother
        rw [haura] at hotherAura
        cases hotherAura
        exact hagree
      · intro hagree
        exact ⟨hagree entry rfl aura haura, rfl⟩

/-- Where no source of a grant is moved by a grant of its own, one run of the
passes reaches a fixed point exactly when what decides over an Aura and what
decides over its host agree. -/
theorem recomputeControl_settled_iff (hrest : game.SourcesAtRest) :
    game.recomputeControl.ControlSettled ↔ game.AurasAgree := by
  have hpass : game.recomputeControl.recomputeAuraControl =
      game.recomputeControl ↔ game.AurasAgree := by
    rw [recomputeAuraControl_eq_self_iff, zones_recomputeControl hrest]
    constructor
    · intro hsettled id hid card hcard
      apply (auraWrite_recomputeControl_iff hrest id card).mp
      apply hsettled id hid
      rw [card?_recomputeControl hrest hid, hcard]
      rfl
    · intro hagree id hid written hwritten
      rw [card?_recomputeControl hrest hid] at hwritten
      obtain ⟨card, hcard, rfl⟩ := Option.map_eq_some_iff.mp hwritten
      exact (auraWrite_recomputeControl_iff hrest id card).mpr
        (hagree id hid card hcard)
  constructor
  · intro hsettled
    exact hpass.mp hsettled.auras
  · intro hagree
    refine ⟨hpass.mpr hagree,
      recomputeSourceControl_twice (sourcesStay_of_atRest hrest), ?_⟩
    intro id hid written hwritten hgoverned
    rw [zones_recomputeControl hrest] at hid ⊢
    rw [card?_recomputeControl hrest hid] at hwritten
    obtain ⟨card, hcard, rfl⟩ := Option.map_eq_some_iff.mp hwritten
    rw [controlFromAura_controlWrite, Option.isSome_map] at hgoverned
    obtain ⟨entry, hfind⟩ := Option.isSome_iff_exists.mp hgoverned
    obtain ⟨hin, aura, haura, hisAura, hattached, hstatic⟩ :=
      governing_aura hfind
    obtain ⟨hattached', hisAura', hstatic'⟩ :=
      game.controlWrite_steady entry.aura aura
    refine ⟨entry.aura, hin, game.controlWrite entry.aura aura, ?_, ?_, ?_, ?_,
      ?_⟩
    · rw [card?_recomputeControl hrest hin, haura]
      rfl
    · exact hisAura'.trans hisAura
    · exact hattached'.trans hattached
    · rw [hstatic']
      exact hstatic
    · rw [controller_controlWrite, controller_controlWrite]
      exact hagree id hid card hcard entry hfind aura haura

end Fixpoint

/-- A control-granting Aura on a host. -/
def controlAura (id host : CardId) (player : PlayerId) : Card where
  id := id
  owner := player
  controller := player
  attachedTo := some host
  staticAbilities := [.gainControl .creatureEnchantedBy]
  definition := { cache := { isAura := true } }

/-- A permanent of player 1 under an Aura of player 0, and perhaps an Aura of
player 1 on this Aura. -/
def enchantedPermanent (auras : List Card) : GameState where
  cards := ⟨some { id := ⟨0⟩, owner := ⟨1⟩, controller := ⟨1⟩ } ::
    auras.map some⟩
  zones := { battlefield := ⟨0⟩ :: auras.map Card.id }
  turn := { activePlayer := ⟨0⟩ }

theorem enchantedPermanent_settled :
    (enchantedPermanent [controlAura ⟨1⟩ ⟨0⟩
      ⟨0⟩]).recomputeControl.ControlSettled := by
  have hcards : ∀ id card, (enchantedPermanent [controlAura ⟨1⟩ ⟨0⟩
      ⟨0⟩]).card? id = some card → id ∈ [(⟨0⟩ : CardId), ⟨1⟩] →
        card.controlGrant = none := by
    intro id card hcard hid
    simp only [List.mem_cons, List.not_mem_nil, or_false] at hid
    rcases hid with rfl | rfl <;> cases hcard <;> rfl
  have hrest : (enchantedPermanent [controlAura ⟨1⟩ ⟨0⟩
      ⟨0⟩]).SourcesAtRest := by
    intro id hid card hcard source grantee hgrant
    rw [hcards id card hcard hid] at hgrant
    cases hgrant
  refine (recomputeControl_settled_iff hrest).mpr ?_
  intro id hid card hcard entry hentry aura haura
  change id ∈ [(⟨0⟩ : CardId), ⟨1⟩] at hid
  simp only [List.mem_cons, List.not_mem_nil, or_false] at hid
  rcases hid with rfl | rfl
  · cases hentry
    cases hcard
    cases haura
    rfl
  · cases hentry

/-- The Aura of player 0 is stolen in the run that gives its host to player 0;
a second run moves the host. -/
theorem stolenAura_not_settled :
    ¬(enchantedPermanent [controlAura ⟨1⟩ ⟨0⟩ ⟨0⟩,
      controlAura ⟨2⟩ ⟨1⟩ ⟨1⟩]).recomputeControl.ControlSettled := by
  intro hsettled
  have hhost := congrArg (fun game : GameState =>
    (game.card? ⟨0⟩).map Card.controller) hsettled.auras
  exact absurd hhost (by decide)

end GameState

end DeepScry
