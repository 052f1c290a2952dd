/-
Which blocks are accepted: the pairwise rules of `can_block`, and the filter
that the game loop runs over the pairs a controller proposes.
-/
import DeepScry.StrikeBack

namespace DeepScry

/-- `is_creature_unblockable`. -/
def PersistentEffectStore.isCreatureUnblockable
    (store : PersistentEffectStore) (creature : CardId) : Bool :=
  store.effects.any fun effect => effect.kind == .cantBeBlocked creature

namespace Card

def hasFear (card : Card) : Bool := card.hasKeyword .fear
def hasIntimidate (card : Card) : Bool := card.hasKeyword .intimidate
def hasShadow (card : Card) : Bool := card.hasKeyword .shadow
def hasSkulk (card : Card) : Bool := card.hasKeyword .skulk
def hasHorsemanship (card : Card) : Bool := card.hasKeyword .horsemanship

def hasProtectionFrom (card : Card) : Color → Bool
  | .red => card.hasKeyword .protectionFromRed
  | .blue => card.hasKeyword .protectionFromBlue
  | .black => card.hasKeyword .protectionFromBlack
  | .white => card.hasKeyword .protectionFromWhite
  | .green => card.hasKeyword .protectionFromGreen
  | .colorless => false

def isColor (card : Card) (color : Color) : Bool := card.colors.contains color

/-- A restriction of the blocker itself that matches the attacker. -/
def cantBlock (blocker attacker : Card) : Bool :=
  blocker.staticAbilities.any fun
    | .cantBlockMatching attackerFilter => attackerFilter.matches attacker
    | _ => false

end Card

namespace GameState

/-- Some permanent forbids creatures such as this one to block. -/
def isBlockProhibited (game : GameState) (card : Card) : Bool :=
  game.zones.battlefield.any fun id =>
    (game.getCard id).any fun source =>
      source.staticAbilities.any fun
        | .cantAttackOrBlockMatching _ cantBlock filter =>
            cantBlock && filter.matches card
        | _ => false

/-- A land of the type, controlled by the defender, is on the battlefield. -/
def defenderHasLand (game : GameState) (defender : PlayerId)
    (landType : String) : Bool :=
  game.zones.battlefield.any fun id =>
    (game.getCard id).any fun card =>
      card.controller == defender && card.isLand &&
        card.subtypes.any fun subtype => eqIgnoreAsciiCase subtype landType

/-- The attacker walks past this defender. -/
def landwalks (game : GameState) (attacker : Card) (defender : PlayerId) :
    Bool :=
  attacker.hasKeyword .landwalk &&
    attacker.keywords.args.any fun
      | .landwalk landType => game.defenderHasLand defender landType
      | _ => false

section Blocks

variable (effects : StaticEffects)

/-- Whether the blocker may be assigned to the attacker, menace apart. -/
def canBlock (game : GameState) (attackerId blockerId : CardId) : Bool :=
  match game.getCard attackerId, game.getCard blockerId with
  | some attacker, some blocker =>
      if blocker.tapped then false
      else if game.persistentEffects.isCreatureUnblockable attackerId then
        false
      else if game.hasKeywordWithEffects effects attackerId .flying &&
          !(game.hasKeywordWithEffects effects blockerId .flying ||
            game.hasKeywordWithEffects effects blockerId .reach) then false
      else if attacker.hasHorsemanship && !blocker.hasHorsemanship then false
      else if attacker.hasShadow != blocker.hasShadow then false
      else if attacker.hasFear &&
          !(blocker.isArtifact || blocker.isColor .black) then false
      else if attacker.hasIntimidate &&
          (!blocker.isArtifact &&
            !attacker.colors.any fun color => blocker.isColor color) then
        false
      else if attacker.hasSkulk &&
          decide (blocker.currentPower ≤ attacker.currentPower) then false
      else if blocker.colors.any fun color =>
          attacker.hasProtectionFrom color then false
      else if blocker.cantBlock attacker then false
      else if game.isBlockProhibited blocker then false
      else if game.landwalks attacker blocker.controller then false
      else true
  | _, _ => false

/-- `has_menace`. -/
def hasMenace (game : GameState) (attacker : CardId) : Bool :=
  game.hasKeywordWithEffects effects attacker .menace

/-- `blocker_counts`: how often the proposal names the attacker. -/
def blockerCount (blocks : List (CardId × CardId)) (attacker : CardId) : Nat :=
  blocks.countP fun pair => pair.2 == attacker

/-- The loop over the proposed pairs, with the counts of the whole list. -/
def validateFrom (game : GameState) (counts : CardId → Nat) :
    List (CardId × CardId) → List (CardId × CardId)
  | [] => []
  | (blocker, attacker) :: rest =>
      if !game.canBlock effects attacker blocker then
        game.validateFrom counts rest
      else if game.hasMenace effects attacker && counts attacker == 1 then
        game.validateFrom counts rest
      else (blocker, attacker) :: game.validateFrom counts rest

def validateBlockingRestrictions (game : GameState)
    (blocks : List (CardId × CardId)) : List (CardId × CardId) :=
  game.validateFrom effects (blockerCount blocks) blocks

/-- The pair is legal, and is not the only proposed block of a menacing
attacker. -/
def Stands (game : GameState) (blocks : List (CardId × CardId))
    (pair : CardId × CardId) : Bool :=
  game.canBlock effects pair.2 pair.1 &&
    !(game.hasMenace effects pair.2 && blockerCount blocks pair.2 == 1)

theorem validateFrom_eq_filter (game : GameState) (counts : CardId → Nat)
    (blocks : List (CardId × CardId)) :
    game.validateFrom effects counts blocks =
      blocks.filter fun pair =>
        game.canBlock effects pair.2 pair.1 &&
          !(game.hasMenace effects pair.2 && counts pair.2 == 1) := by
  induction blocks with
  | nil => rfl
  | cons pair rest ih =>
      rcases pair with ⟨blocker, attacker⟩
      rw [validateFrom, List.filter_cons, ih]
      cases game.canBlock effects attacker blocker with
      | false => rfl
      | true =>
          cases game.hasMenace effects attacker && counts attacker == 1 <;> rfl

/-- The filter keeps the pairs that stand. -/
theorem validateBlockingRestrictions_eq (game : GameState)
    (blocks : List (CardId × CardId)) :
    game.validateBlockingRestrictions effects blocks =
      blocks.filter (game.Stands effects blocks) :=
  game.validateFrom_eq_filter effects (blockerCount blocks) blocks

/-- The blocks are legal one by one and together. -/
structure JointlyLegal (game : GameState) (blocks : List (CardId × CardId)) :
    Prop where
  legal : ∀ pair ∈ blocks, game.canBlock effects pair.2 pair.1 = true
  once : (blocks.map Prod.fst).Nodup
  menace : ∀ attacker, game.hasMenace effects attacker = true →
    (∀ pair ∈ blocks, pair.2 ≠ attacker) ∨
      ∃ first second, first ≠ second ∧ (first, attacker) ∈ blocks ∧
        (second, attacker) ∈ blocks

/-- The proposals that the filter turns into legal blocks: no creature is in
two pairs that stand, and no menacing attacker that is named several times is
left with a single legal pair. -/
structure Proposable (game : GameState) (blocks : List (CardId × CardId)) :
    Prop where
  once : blocks.Pairwise fun pair other =>
    game.Stands effects blocks pair = true →
      game.Stands effects blocks other = true → pair.1 ≠ other.1
  menace : ∀ attacker, game.hasMenace effects attacker = true →
    2 ≤ blockerCount blocks attacker →
      blockerCount (blocks.filter fun pair =>
        game.canBlock effects pair.2 pair.1) attacker ≠ 1

variable {effects} {game : GameState} {blocks : List (CardId × CardId)}

theorem once_iff :
    ((game.validateBlockingRestrictions effects blocks).map Prod.fst).Nodup ↔
      blocks.Pairwise fun pair other =>
        game.Stands effects blocks pair = true →
          game.Stands effects blocks other = true → pair.1 ≠ other.1 := by
  rw [validateBlockingRestrictions_eq, List.Nodup, List.pairwise_map,
    List.pairwise_filter]

theorem blockerCount_eq_zero {attacker : CardId} :
    blockerCount blocks attacker = 0 ↔ ∀ pair ∈ blocks, pair.2 ≠ attacker := by
  simp [blockerCount, List.countP_eq_zero]

/-- Of an attacker named several times, every legal pair stands. -/
theorem blockerCount_validated {attacker : CardId}
    (hcount : blockerCount blocks attacker ≠ 1) :
    blockerCount (game.validateBlockingRestrictions effects blocks) attacker =
      blockerCount (blocks.filter fun pair =>
        game.canBlock effects pair.2 pair.1) attacker := by
  rw [validateBlockingRestrictions_eq]
  simp only [blockerCount, List.countP_filter]
  apply List.countP_congr
  intro pair _
  by_cases hattacker : pair.2 = attacker
  · subst hattacker
    simp [Stands, hcount]
  · simp [hattacker]

/-- Two blockers of an attacker count as two. -/
theorem two_le_blockerCount {attacker first second : CardId}
    (hne : first ≠ second) (hfirst : (first, attacker) ∈ blocks)
    (hsecond : (second, attacker) ∈ blocks) :
    2 ≤ blockerCount blocks attacker := by
  have hpair : ([(first, attacker), (second, attacker)] :
      List (CardId × CardId)).Nodup := by
    simp [hne]
  have hsub : ([(first, attacker), (second, attacker)] :
      List (CardId × CardId)).Subperm
        (blocks.filter fun pair => pair.2 == attacker) := by
    apply hpair.subperm
    intro pair hmem
    rcases List.mem_pair.mp hmem with rfl | rfl
    · exact List.mem_filter.mpr ⟨hfirst, beq_self_eq_true _⟩
    · exact List.mem_filter.mpr ⟨hsecond, beq_self_eq_true _⟩
  rw [blockerCount, List.countP_eq_length_filter]
  exact hsub.length_le

/-- With each creature named once, two counted pairs have two blockers. -/
theorem exists_two_blockers {attacker : CardId}
    (honce : (blocks.map Prod.fst).Nodup)
    (hcount : 2 ≤ blockerCount blocks attacker) :
    ∃ first second, first ≠ second ∧ (first, attacker) ∈ blocks ∧
      (second, attacker) ∈ blocks := by
  rw [blockerCount, List.countP_eq_length_filter] at hcount
  have hsub : ((blocks.filter fun pair => pair.2 == attacker).map
      Prod.fst).Nodup :=
    honce.sublist (List.filter_sublist.map Prod.fst)
  have hmem : ∀ pair ∈ blocks.filter fun pair => pair.2 == attacker,
      (pair.1, attacker) ∈ blocks := by
    intro pair hpair
    obtain ⟨hin, hattacker⟩ := List.mem_filter.mp hpair
    rw [← eq_of_beq hattacker]
    exact hin
  rcases hfilter : blocks.filter fun pair => pair.2 == attacker with
    _ | ⟨first, _ | ⟨second, rest⟩⟩
  · rw [hfilter] at hcount
    exact absurd hcount (by decide)
  · rw [hfilter] at hcount
    exact absurd hcount (by decide : ¬ 2 ≤ 1)
  · rw [hfilter] at hsub hmem
    have hne : first.1 ≠ second.1 := by
      intro heq
      simp [heq] at hsub
    exact ⟨first.1, second.1, hne, hmem first List.mem_cons_self,
      hmem second (List.mem_cons_of_mem _ List.mem_cons_self)⟩

theorem validated_canBlock (pair : CardId × CardId)
    (hpair : pair ∈ game.validateBlockingRestrictions effects blocks) :
    game.canBlock effects pair.2 pair.1 = true := by
  rw [validateBlockingRestrictions_eq] at hpair
  have hstands := (List.mem_filter.mp hpair).2
  rw [Stands, Bool.and_eq_true] at hstands
  exact hstands.1

/-- A menacing attacker in an accepted pair was named several times. -/
theorem two_le_of_validated {pair : CardId × CardId}
    (hpair : pair ∈ game.validateBlockingRestrictions effects blocks)
    (hmenace : game.hasMenace effects pair.2 = true) :
    2 ≤ blockerCount blocks pair.2 := by
  rw [validateBlockingRestrictions_eq] at hpair
  obtain ⟨hin, hstands⟩ := List.mem_filter.mp hpair
  have hne : blockerCount blocks pair.2 ≠ 1 := by
    intro hone
    simp [Stands, hmenace, hone] at hstands
  have hpos : blockerCount blocks pair.2 ≠ 0 := fun hzero =>
    blockerCount_eq_zero.mp hzero pair hin rfl
  omega

/-- The accepted blocks are jointly legal exactly when the proposal names no
creature in two pairs that stand and leaves no menacing attacker, named
several times, with a single legal pair. -/
theorem jointlyLegal_iff (effects : StaticEffects) (game : GameState)
    (blocks : List (CardId × CardId)) :
    game.JointlyLegal effects
        (game.validateBlockingRestrictions effects blocks) ↔
      game.Proposable effects blocks := by
  constructor
  · intro h
    refine ⟨once_iff.mp h.once, ?_⟩
    intro attacker hmenace hcount
    have hne : blockerCount blocks attacker ≠ 1 := by omega
    rw [← blockerCount_validated hne]
    intro hone
    rcases h.menace attacker hmenace with hnone | ⟨_, _, hdistinct, hf, hs⟩
    · rw [blockerCount_eq_zero.mpr hnone] at hone
      cases hone
    · have htwo := two_le_blockerCount hdistinct hf hs
      omega
  · intro h
    have honce := once_iff.mpr h.once
    refine ⟨validated_canBlock, honce, ?_⟩
    intro attacker hmenace
    by_cases hnone : ∀ pair ∈
        game.validateBlockingRestrictions effects blocks, pair.2 ≠ attacker
    · exact Or.inl hnone
    · right
      push Not at hnone
      obtain ⟨pair, hpair, rfl⟩ := hnone
      have hcount := two_le_of_validated hpair hmenace
      have hlegal := h.menace pair.2 hmenace hcount
      have hne : blockerCount blocks pair.2 ≠ 1 := by omega
      rw [← blockerCount_validated hne] at hlegal
      have hpos : blockerCount
          (game.validateBlockingRestrictions effects blocks) pair.2 ≠ 0 :=
        fun hzero => blockerCount_eq_zero.mp hzero pair hpair rfl
      exact exists_two_blockers honce (by omega)

/-- A flying attacker with menace, two other attackers, and two blockers of
which one flies. -/
def menacingFlyer : GameState where
  cards := ⟨[some (bear 0 ⟨0⟩ [.flying, .menace]), some (bear 1 ⟨0⟩ []),
    some (bear 2 ⟨1⟩ [.flying]), some (bear 3 ⟨1⟩ []), some (bear 4 ⟨0⟩ [])]⟩
  players := [{ id := ⟨0⟩ }, { id := ⟨1⟩ }]
  zones := { battlefield := [⟨0⟩, ⟨1⟩, ⟨2⟩, ⟨3⟩, ⟨4⟩] }
  turn := { activePlayer := ⟨0⟩ }
  combat :=
    { attackers := [(⟨0⟩, ⟨1⟩), (⟨1⟩, ⟨1⟩), (⟨4⟩, ⟨1⟩)]
      combatActive := true }

/-- The flyer blocks the menacing attacker alone, and one creature blocks two
attackers. -/
theorem menacingFlyer_not_jointlyLegal :
    ¬ menacingFlyer.JointlyLegal noEffects
        (menacingFlyer.validateBlockingRestrictions noEffects
          [(⟨2⟩, ⟨0⟩), (⟨3⟩, ⟨0⟩)]) ∧
      ¬ menacingFlyer.JointlyLegal noEffects
        (menacingFlyer.validateBlockingRestrictions noEffects
          [(⟨2⟩, ⟨1⟩), (⟨2⟩, ⟨4⟩)]) := by
  constructor
  · intro h
    have hvalidated : menacingFlyer.validateBlockingRestrictions noEffects
        [(⟨2⟩, ⟨0⟩), (⟨3⟩, ⟨0⟩)] = [(⟨2⟩, ⟨0⟩)] := by
      decide
    rw [hvalidated] at h
    rcases h.menace ⟨0⟩ (by decide) with hnone | ⟨f, s, hne, hf, hs⟩
    · exact hnone _ List.mem_cons_self rfl
    · simp only [List.mem_singleton, Prod.mk.injEq, and_true] at hf hs
      exact hne (hf.trans hs.symm)
  · intro h
    have honce := h.once
    revert honce
    decide

end Blocks

end GameState

end DeepScry
