/-
Which blockers an attacker gets to: those that its plan gives damage to, or
those before which its power is not used up.
-/
import DeepScry.PlanWithin

namespace DeepScry

open SortedMap MaximalPick DamageAssignment

namespace GameState

/-- The damage that kills those of the blockers that damage can kill. -/
def toll (game : GameState) (deathtouch : Bool) (blockers : List CardId) :
    Int :=
  total (needs (game.currentInfo deathtouch blockers))

/-- Whether the attacker gives all of its damage to a single blocker. -/
def strikesLone (effects : StaticEffects) (game : GameState)
    (attacker : CardId) : Bool :=
  ((game.combat.getBlockers attacker).length == 1) &&
    !game.hasKeywordWithEffects effects attacker .trample

/-- Without a plan, an attacker of this power gets to a blocker that damage can
kill, or to a single one, when those before it do not take all the power. -/
def GetsTo (effects : StaticEffects) (game : GameState) (attacker : CardId)
    (power : Int32) (blocker : CardId) : Prop :=
  ∃ before after,
    game.combat.getBlockers attacker = before ++ blocker :: after ∧
      game.toll (game.hasKeywordWithEffects effects attacker .deathtouch)
        before < power.toInt ∧
      ((game.currentLethal
          (game.hasKeywordWithEffects effects attacker .deathtouch)
          blocker).isSome = true ∨
        game.strikesLone effects attacker = true)

/-- The blocker is in for damage, by the plan or by its place in the order. -/
def InFor (effects : StaticEffects) (game : GameState)
    (plan : DamageAssignmentPlan) (attacker : CardId) (power : Int32)
    (blocker : CardId) : Prop :=
  game.combat.isBlocked attacker = true ∧
    match lookup plan attacker with
    | some assignments => ∃ damage, 0 < damage ∧ (blocker, damage) ∈ assignments
    | none => game.GetsTo effects attacker power blocker

section Toll

variable (game : GameState) (deathtouch : Bool)

theorem toll_nil : game.toll deathtouch [] = 0 := rfl

theorem toll_cons_of_none {blocker : CardId} (rest : List CardId)
    (hnone : game.currentLethal deathtouch blocker = none) :
    game.toll deathtouch (blocker :: rest) = game.toll deathtouch rest := by
  rw [toll, currentInfo, List.map_cons, hnone, needs_cons_none]
  rfl

theorem toll_cons_of_some {blocker : CardId} {lethal : Int32}
    (rest : List CardId)
    (hsome : game.currentLethal deathtouch blocker = some lethal) :
    game.toll deathtouch (blocker :: rest) =
      lethal.toInt + game.toll deathtouch rest := by
  rw [toll, currentInfo, List.map_cons, hsome, needs_cons_some, total_cons]
  rfl

theorem toll_nonneg (blockers : List CardId) :
    0 ≤ game.toll deathtouch blockers :=
  total_nonneg fun item hitem =>
    (game.currentInfo_pos deathtouch blockers item hitem).le

theorem currentLethal_pos {blocker : CardId} {lethal : Int32}
    (hsome : game.currentLethal deathtouch blocker = some lethal) :
    0 < lethal.toInt := by
  refine game.currentInfo_pos deathtouch [blocker] (blocker, lethal.toInt) ?_
  rw [currentInfo, List.map_singleton, hsome]
  exact List.mem_singleton.mpr rfl

theorem SameBoard.toll {game other : GameState} (hsame : game.SameBoard other)
    (deathtouch : Bool) (blockers : List CardId) :
    other.toll deathtouch blockers = game.toll deathtouch blockers := by
  rw [GameState.toll, hsame.currentInfo, GameState.toll]

/-- Every blocker before which the power is not used up has a card. -/
def Found (remaining : Int) (blockers : List CardId) : Prop :=
  ∀ before blocker after, blockers = before ++ blocker :: after →
    game.toll deathtouch before < remaining →
      (game.getCard blocker).isSome = true

variable {game} {deathtouch}

theorem Found.head {remaining : Int} {blocker : CardId} {rest : List CardId}
    (hfound : game.Found deathtouch remaining (blocker :: rest))
    (hremaining : 0 < remaining) : ∃ card, game.getCard blocker = some card :=
  Option.isSome_iff_exists.mp (hfound [] blocker rest rfl hremaining)

/-- The power is used up before a blocker as it is after the first one. -/
theorem toll_cons_lt_iff {remaining left : Int} {blocker : CardId}
    (hleft : left = max 0 (remaining - game.toll deathtouch [blocker]))
    (before : List CardId) :
    game.toll deathtouch (blocker :: before) < remaining ↔
      game.toll deathtouch before < left := by
  have hnonneg := game.toll_nonneg deathtouch before
  cases hlethal : game.currentLethal deathtouch blocker with
  | none =>
      rw [toll_cons_of_none game deathtouch _ hlethal, toll_nil] at hleft
      rw [toll_cons_of_none game deathtouch _ hlethal]
      omega
  | some lethal =>
      rw [toll_cons_of_some game deathtouch _ hlethal, toll_nil] at hleft
      rw [toll_cons_of_some game deathtouch _ hlethal]
      omega

theorem Found.tail {remaining left : Int} {blocker : CardId}
    {rest : List CardId}
    (hfound : game.Found deathtouch remaining (blocker :: rest))
    (hleft : left = max 0 (remaining - game.toll deathtouch [blocker])) :
    game.Found deathtouch left rest := by
  rintro before id after rfl hbefore
  exact hfound (blocker :: before) id after rfl
    ((toll_cons_lt_iff hleft before).mpr hbefore)

end Toll

section InOrder

variable (game : GameState) {deathtouch trample alone : Bool}

/-- What the first blocker of the order is assigned. -/
theorem inOrder_cons (hshares : (alone && !trample) = false)
    {remaining : Int32} (hremaining : 0 < remaining.toInt) {blocker : CardId}
    {card : Card} (hcard : game.getCard blocker = some card)
    (rest : List CardId) :
    game.inOrder deathtouch trample alone remaining (blocker :: rest) =
      match game.currentLethal deathtouch blocker with
      | some lethal =>
          (blocker, min remaining lethal) ::
            game.inOrder deathtouch trample alone
              (remaining - min remaining lethal) rest
      | none => game.inOrder deathtouch trample alone remaining rest := by
  have hzero : (0 : Int32).toInt = 0 := rfl
  have hsome : ¬remaining ≤ 0 :=
    Int32.not_le.mpr (Int32.lt_iff_toInt_lt.mpr hremaining)
  rw [inOrder, if_neg hsome, hcard, currentLethal, hcard, Option.bind_some,
    hshares]
  simp only [Bool.false_eq_true, if_false]
  generalize (if (deathtouch && decide (0 < card.currentToughness)) = true
    then (1 : Int8) else card.currentToughness) = lethal
  have hmin := toInt_min remaining lethal.toInt32
  rw [Int8.toInt_toInt32] at hmin
  by_cases hlethal : 0 < lethal
  · have hint : 0 < lethal.toInt := Int8.lt_iff_toInt_lt.mp hlethal
    rw [if_pos hlethal,
      if_pos (Int32.lt_iff_toInt_lt.mpr (by omega))]
  · have hint : lethal.toInt ≤ 0 :=
      Int8.le_iff_toInt_le.mp (Int8.not_lt.mp hlethal)
    rw [if_neg hlethal, if_neg]
    intro hpositive
    have hpositive := Int32.lt_iff_toInt_lt.mp hpositive
    omega

/-- What is left after the first blocker of the order. -/
theorem left_of_lethal {remaining lethal : Int32} {blocker : CardId}
    (hremaining : 0 < remaining.toInt)
    (hlethal : game.currentLethal deathtouch blocker = some lethal) :
    (remaining - min remaining lethal).toInt =
      max 0 (remaining.toInt - game.toll deathtouch [blocker]) := by
  have hpositive := game.currentLethal_pos deathtouch hlethal
  have hmin := toInt_min remaining lethal
  have hleft : (remaining - min remaining lethal).toInt =
      remaining.toInt - (min remaining lethal).toInt :=
    toInt_sub_of_le (by omega) (by omega)
  rw [toll_cons_of_some game deathtouch _ hlethal, toll_nil]
  omega

theorem left_of_unkillable {remaining : Int32} {blocker : CardId}
    (hremaining : 0 < remaining.toInt)
    (hnone : game.currentLethal deathtouch blocker = none) :
    remaining.toInt =
      max 0 (remaining.toInt - game.toll deathtouch [blocker]) := by
  rw [toll_cons_of_none game deathtouch _ hnone, toll_nil]
  omega

theorem inOrder_of_spent {remaining : Int32}
    (hremaining : remaining.toInt ≤ 0) (blockers : List CardId) :
    game.inOrder deathtouch trample alone remaining blockers = [] := by
  rcases blockers with _ | ⟨blocker, rest⟩
  · rfl
  · rw [inOrder, if_pos (Int32.le_iff_toInt_le.mpr hremaining)]

/-- The blockers that are assigned damage are those that it can kill and that
are reached. -/
theorem mem_inOrder_iff (hshares : (alone && !trample) = false)
    {remaining : Int32} (hremaining : 0 ≤ remaining.toInt)
    {blockers : List CardId}
    (hfound : game.Found deathtouch remaining.toInt blockers)
    (blocker : CardId) :
    (∃ damage, (blocker, damage) ∈
        game.inOrder deathtouch trample alone remaining blockers) ↔
      ∃ before after, blockers = before ++ blocker :: after ∧
        game.toll deathtouch before < remaining.toInt ∧
        (game.currentLethal deathtouch blocker).isSome = true := by
  induction blockers generalizing remaining with
  | nil => simp [inOrder]
  | cons first rest ih =>
      rcases hremaining.eq_or_lt with hspent | hpositive
      · rw [game.inOrder_of_spent hspent.ge]
        constructor
        · rintro ⟨damage, hmem⟩
          cases hmem
        · rintro ⟨before, -, -, hbefore, -⟩
          have hnonneg := game.toll_nonneg deathtouch before
          omega
      · obtain ⟨card, hcard⟩ := hfound.head hpositive
        rw [game.inOrder_cons hshares hpositive hcard]
        -- The split of the list starts at the first blocker or after it.
        have hsplit (left : Int) (hleft : left = max 0 (remaining.toInt -
            game.toll deathtouch [first])) :
            (∃ before after, first :: rest = before ++ blocker :: after ∧
                game.toll deathtouch before < remaining.toInt ∧
                (game.currentLethal deathtouch blocker).isSome = true) ↔
              (first = blocker ∧
                (game.currentLethal deathtouch blocker).isSome = true) ∨
              ∃ before after, rest = before ++ blocker :: after ∧
                game.toll deathtouch before < left ∧
                (game.currentLethal deathtouch blocker).isSome = true := by
          constructor
          · rintro ⟨before, after, hsame, hbefore, hkills⟩
            rcases List.cons_eq_append_iff.mp hsame with
              ⟨rfl, hhead⟩ | ⟨before, rfl, hrest⟩
            · exact Or.inl ⟨(List.cons.inj hhead).1.symm, hkills⟩
            · exact Or.inr ⟨before, after, hrest,
                (toll_cons_lt_iff hleft before).mp hbefore, hkills⟩
          · rintro (⟨rfl, hkills⟩ | ⟨before, after, rfl, hbefore, hkills⟩)
            · exact ⟨[], rest, rfl, hpositive, hkills⟩
            · exact ⟨first :: before, after, rfl,
                (toll_cons_lt_iff hleft before).mpr hbefore, hkills⟩
        cases hlethal : game.currentLethal deathtouch first with
        | none =>
            have hleft := game.left_of_unkillable hpositive hlethal
            have hrest := ih hremaining (hfound.tail hleft)
            rw [hsplit _ hleft, ← hrest]
            constructor
            · exact Or.inr
            · rintro (⟨rfl, hkills⟩ | hlater)
              · rw [hlethal] at hkills
                cases hkills
              · exact hlater
        | some lethal =>
            have hleft := game.left_of_lethal hpositive hlethal
            have hrest := ih (hleft ▸ le_max_left _ _) (hfound.tail hleft)
            rw [hsplit _ hleft, ← hrest]
            simp only [List.mem_cons, Prod.mk.injEq]
            constructor
            · rintro ⟨damage, ⟨rfl, -⟩ | hlater⟩
              · exact Or.inl ⟨rfl, Option.isSome_iff_exists.mpr ⟨_, hlethal⟩⟩
              · exact Or.inr ⟨damage, hlater⟩
            · rintro (⟨rfl, -⟩ | ⟨damage, hlater⟩)
              · exact ⟨_, Or.inl ⟨rfl, rfl⟩⟩
              · exact ⟨damage, Or.inr hlater⟩

/-- Some power is left exactly when the blockers do not take all of it. -/
theorem spend_inOrder_pos_iff (hshares : (alone && !trample) = false)
    {remaining : Int32} (hremaining : 0 ≤ remaining.toInt)
    {blockers : List CardId}
    (hfound : game.Found deathtouch remaining.toInt blockers) :
    0 < (spend remaining
        (game.inOrder deathtouch trample alone remaining blockers)).toInt ↔
      game.toll deathtouch blockers < remaining.toInt := by
  induction blockers generalizing remaining with
  | nil => exact Iff.rfl
  | cons first rest ih =>
      rcases hremaining.eq_or_lt with hspent | hpositive
      · rw [game.inOrder_of_spent hspent.ge]
        have hnonneg := game.toll_nonneg deathtouch (first :: rest)
        have hsame : spend remaining [] = remaining := rfl
        rw [hsame]
        omega
      · obtain ⟨card, hcard⟩ := hfound.head hpositive
        rw [game.inOrder_cons hshares hpositive hcard]
        cases hlethal : game.currentLethal deathtouch first with
        | none =>
            have hleft := game.left_of_unkillable hpositive hlethal
            rw [toll_cons_lt_iff hleft]
            exact ih hremaining (hfound.tail hleft)
        | some lethal =>
            have hleft := game.left_of_lethal hpositive hlethal
            rw [toll_cons_lt_iff hleft]
            exact ih (hleft ▸ le_max_left _ _) (hfound.tail hleft)

end InOrder

section Turn

variable (game : GameState) (attacker : CardId)

theorem SameBoard.found {game other : GameState} (hsame : game.SameBoard other)
    {deathtouch : Bool} {remaining : Int} {blockers : List CardId}
    (hfound : other.Found deathtouch remaining blockers) :
    game.Found deathtouch remaining blockers := by
  intro before blocker after hsplit hbefore
  rw [← hsame.getCard]
  apply hfound before blocker after hsplit
  rwa [hsame.toll]

theorem Found.cons {deathtouch : Bool} {remaining left : Int}
    {blocker : CardId} {rest : List CardId}
    (hcard : (game.getCard blocker).isSome = true)
    (hleft : left = max 0 (remaining - game.toll deathtouch [blocker]))
    (hrest : game.Found deathtouch left rest) :
    game.Found deathtouch remaining (blocker :: rest) := by
  intro before id after hsplit hbefore
  rcases List.cons_eq_append_iff.mp hsplit with ⟨rfl, hhead⟩ |
    ⟨before, rfl, rfl⟩
  · rw [(List.cons.inj hhead).1]
    exact hcard
  · exact hrest before id after rfl ((toll_cons_lt_iff hleft before).mp hbefore)

/-- The order is gone through only if the blockers that are reached are
found. -/
theorem found_of_dealInOrder {deathtouch trample alone : Bool}
    (hshares : (alone && !trample) = false) {remaining left : Int32}
    {blockers : List CardId} {hits : List CreatureHit}
    (hdealt : (dealInOrder attacker deathtouch trample alone game remaining
      blockers).2 = .ok (left, hits)) :
    game.Found deathtouch remaining.toInt blockers := by
  have hzero : (0 : Int32).toInt = 0 := rfl
  induction blockers generalizing game remaining left hits with
  | nil =>
      intro before blocker after hsplit
      simp at hsplit
  | cons first rest ih =>
      rw [dealInOrder] at hdealt
      by_cases hspent : remaining ≤ 0
      · intro before blocker after _ hbefore
        have hnonneg := game.toll_nonneg deathtouch before
        have hspent : remaining.toInt ≤ 0 := Int32.le_iff_toInt_le.mp hspent
        omega
      · have hpositive : 0 < remaining.toInt :=
          Int32.lt_iff_toInt_lt.mp (Int32.not_le.mp hspent)
        rw [if_neg hspent] at hdealt
        cases hcard : game.getCard first with
        | none =>
            rw [hcard] at hdealt
            cases hdealt
        | some card =>
            have hthere : (game.getCard first).isSome = true := by
              rw [hcard]
              rfl
            have hlethal : game.currentLethal deathtouch first =
                (game.getCard first).bind _ := rfl
            rw [hcard] at hdealt
            rw [hcard, Option.bind_some] at hlethal
            simp only [hshares, Bool.false_eq_true, if_false] at hdealt
            simp only at hlethal
            generalize (if (deathtouch && decide (0 < card.currentToughness)) =
              true then (1 : Int8) else card.currentToughness) = amount
              at hdealt hlethal
            have hmin := toInt_min remaining amount.toInt32
            rw [Int8.toInt_toInt32] at hmin
            by_cases hkills : 0 < amount
            · have hint : 0 < amount.toInt := Int8.lt_iff_toInt_lt.mp hkills
              rw [if_pos hkills] at hlethal
              rw [if_pos (Int32.lt_iff_toInt_lt.mpr (by omega))] at hdealt
              refine Found.cons game hthere
                (game.left_of_lethal hpositive hlethal) ?_
              apply game.sameBoard_message.found
              cases hcolor : game.isColorPreventedByAura first attacker with
              | true =>
                  rw [hcolor, if_pos rfl] at hdealt
                  exact ih _ hdealt
              | false =>
                  rw [hcolor, if_neg Bool.false_ne_true] at hdealt
                  have hlater := @ih game.message
                    (remaining - min remaining amount.toInt32)
                  generalize dealInOrder attacker deathtouch trample alone
                    game.message _ rest = later at hdealt hlater
                  rcases later with ⟨laterGame, e | ⟨laterLeft, laterHits⟩⟩
                  · cases hdealt
                  · exact hlater rfl
            · have hint : amount.toInt ≤ 0 :=
                Int8.le_iff_toInt_le.mp (Int8.not_lt.mp hkills)
              rw [if_neg hkills] at hlethal
              rw [if_neg] at hdealt
              · exact Found.cons game hthere
                  (game.left_of_unkillable hpositive hlethal) (ih game hdealt)
              · intro hdamage
                have hdamage := Int32.lt_iff_toInt_lt.mp hdamage
                omega

/-- The turn of a blocked attacker without a plan goes through the order. -/
theorem dealInOrder_of_exchangeSimple (effects : StaticEffects)
    (firstStrikeStep : Bool) {power : Int32} {record : DamageRecord}
    (hdone : (game.exchangeSimple effects firstStrikeStep attacker power).2 =
      .ok record) :
    ∃ left hits, (dealInOrder attacker
      (game.hasKeywordWithEffects effects attacker .deathtouch)
      (game.hasKeywordWithEffects effects attacker .trample)
      ((game.combat.getBlockers attacker).length == 1) game power
      (game.combat.getBlockers attacker)).2 = .ok (left, hits) := by
  rw [exchangeSimple] at hdone
  generalize dealInOrder attacker _ _ _ game power _ = dealt at hdone
  rcases dealt with ⟨dealtGame, e | ⟨left, hits⟩⟩
  · cases hdone
  · exact ⟨left, hits, rfl⟩

/-- A single blocker is assigned all of the power. -/
theorem mem_inOrder_lone {deathtouch trample alone : Bool}
    (hlone : (alone && !trample) = true) {power : Int32} (hpower : 0 < power)
    {only : CardId} (hcard : (game.getCard only).isSome = true)
    (blocker : CardId) :
    (∃ damage, (blocker, damage) ∈
        game.inOrder deathtouch trample alone power [only]) ↔
      blocker = only := by
  obtain ⟨card, hcard⟩ := Option.isSome_iff_exists.mp hcard
  have hassigned : game.inOrder deathtouch trample alone power [only] =
      [(only, power)] := by
    rw [inOrder, if_neg (Int32.not_le.mpr hpower), hcard]
    simp only [hlone, if_true]
    rw [if_pos hpower, inOrder]
  simp [hassigned]

variable (effects : StaticEffects) (firstStrikeStep : Bool)
  {plan : DamageAssignmentPlan} {power : Int32} {record : DamageRecord}

section Unplanned

variable (hpower : game.strikingPower effects firstStrikeStep attacker =
    some power)
  (hblocked : game.combat.isBlocked attacker = true)
  (hplan : lookup plan attacker = none)
  (hdone : (game.exchange effects firstStrikeStep plan attacker).2 =
    .ok record)

include hpower hblocked hplan hdone

theorem found_of_exchange
    (hshares : game.strikesLone effects attacker = false) :
    game.Found (game.hasKeywordWithEffects effects attacker .deathtouch)
      power.toInt (game.combat.getBlockers attacker) := by
  rw [game.exchange_of_striking effects firstStrikeStep attacker plan hpower,
    hblocked, if_pos rfl, hplan] at hdone
  obtain ⟨left, hits, hdealt⟩ := game.dealInOrder_of_exchangeSimple attacker
    effects firstStrikeStep hdone
  exact game.found_of_dealInOrder attacker hshares hdealt

/-- Without a plan, damage is assigned to the blockers that the attacker gets
to. -/
theorem mem_unplanned_iff (blocker : CardId) :
    (∃ damage, (blocker, damage) ∈ game.unplanned effects attacker power) ↔
      game.GetsTo effects attacker power blocker := by
  have hpositive := game.strikingPower_pos effects firstStrikeStep attacker
    hpower
  have hint : 0 < power.toInt := Int32.lt_iff_toInt_lt.mp hpositive
  cases hlone : game.strikesLone effects attacker with
  | false =>
      rw [unplanned, game.mem_inOrder_iff hlone hint.le
        (game.found_of_exchange attacker effects firstStrikeStep hpower
          hblocked hplan hdone hlone), GetsTo, hlone]
      simp only [Bool.false_eq_true, or_false]
  | true =>
      rw [game.exchange_of_striking effects firstStrikeStep attacker plan
        hpower, hblocked, if_pos rfl, hplan] at hdone
      obtain ⟨left, hits, hdealt⟩ := game.dealInOrder_of_exchangeSimple attacker
        effects firstStrikeStep hdone
      have hlength := hlone
      rw [strikesLone, Bool.and_eq_true, beq_iff_eq] at hlength
      obtain ⟨only, honly⟩ := List.length_eq_one_iff.mp hlength.1
      rw [GetsTo, hlone, unplanned]
      rw [strikesLone] at hlone
      rw [honly] at hdealt hlone ⊢
      have hcard : (game.getCard only).isSome = true := by
        rw [dealInOrder, if_neg (Int32.not_le.mpr hpositive)] at hdealt
        cases hcard : game.getCard only with
        | some card => rfl
        | none =>
            rw [hcard] at hdealt
            cases hdealt
      rw [game.mem_inOrder_lone hlone hpositive hcard]
      constructor
      · rintro rfl
        exact ⟨[], [], rfl, hint, Or.inr rfl⟩
      · rintro ⟨before, after, hsplit, -⟩
        rcases List.cons_eq_append_iff.mp hsplit with
          ⟨rfl, hhead⟩ | ⟨before, rfl, hrest⟩
        · exact (List.cons.inj hhead).1
        · simp at hrest

/-- Without a plan, damage tramples over when the blockers do not take all of
the power. -/
theorem powerLeft_pos_iff
    (htrample : game.hasKeywordWithEffects effects attacker .trample = true) :
    0 < game.powerLeft effects plan attacker power ↔
      game.toll (game.hasKeywordWithEffects effects attacker .deathtouch)
        (game.combat.getBlockers attacker) < power.toInt := by
  have hint : 0 < power.toInt := Int32.lt_iff_toInt_lt.mp
    (game.strikingPower_pos effects firstStrikeStep attacker hpower)
  have hshares : game.strikesLone effects attacker = false := by
    rw [strikesLone, htrample, Bool.not_true, Bool.and_false]
  have hzero : (0 : Int32).toInt = 0 := rfl
  rw [powerLeft, if_pos hblocked, hplan, Int32.lt_iff_toInt_lt, hzero]
  exact game.spend_inOrder_pos_iff hshares hint.le
    (game.found_of_exchange attacker effects firstStrikeStep hpower hblocked
      hplan hdone hshares)

end Unplanned

/-- The blockers that are assigned damage are those in for it. -/
theorem mem_assigned_iff
    (hpower : game.strikingPower effects firstStrikeStep attacker = some power)
    (hdone : (game.exchange effects firstStrikeStep plan attacker).2 =
      .ok record) (blocker : CardId) :
    (∃ damage, (blocker, damage) ∈
        game.assigned effects plan attacker power) ↔
      game.InFor effects plan attacker power blocker := by
  rw [InFor, assigned]
  cases hblocked : game.combat.isBlocked attacker with
  | false => simp
  | true =>
      rw [if_pos rfl]
      cases hplan : lookup plan attacker with
      | some assignments =>
          simp only [List.mem_filter, decide_eq_true_eq, true_and]
          exact exists_congr fun damage => and_comm
      | none =>
          simp only [true_and]
          exact game.mem_unplanned_iff attacker effects firstStrikeStep hpower
            hblocked hplan hdone blocker

/-- What holds of the blockers that are assigned damage. -/
theorem forall_assigned_iff
    (hpower : game.strikingPower effects firstStrikeStep attacker = some power)
    (hdone : (game.exchange effects firstStrikeStep plan attacker).2 =
      .ok record) (p : CardId → Prop) :
    (∀ entry ∈ game.assigned effects plan attacker power, p entry.1) ↔
      ∀ blocker, game.InFor effects plan attacker power blocker →
        p blocker := by
  constructor
  · intro hall blocker hinFor
    obtain ⟨damage, hmem⟩ := (game.mem_assigned_iff attacker effects
      firstStrikeStep hpower hdone blocker).mpr hinFor
    exact hall _ hmem
  · rintro hall ⟨blocker, damage⟩ hmem
    exact hall blocker ((game.mem_assigned_iff attacker effects
      firstStrikeStep hpower hdone blocker).mp ⟨damage, hmem⟩)

end Turn

section Pass

variable (effects : StaticEffects) (firstStrikeStep : Bool)
  (plan : DamageAssignmentPlan)

theorem SameBoard.inFor_iff {game other : GameState}
    (hsame : game.SameBoard other) (attacker : CardId) (power : Int32)
    (blocker : CardId) :
    other.InFor effects plan attacker power blocker ↔
      game.InFor effects plan attacker power blocker := by
  have hlethal (deathtouch : Bool) :
      other.currentLethal deathtouch blocker =
        game.currentLethal deathtouch blocker := by
    simp only [currentLethal, hsame.getCard]
  simp only [InFor, GetsTo, strikesLone, hsame.combat, hsame.toll, hlethal,
    hsame.hasKeywordWithEffects]

/-- In a pass that goes through, each attacker has a turn that does. -/
theorem exists_turn {game : GameState} {attackers : List CardId}
    {record : DamageRecord}
    (hdone : (exchangeAll effects firstStrikeStep plan game attackers).2 =
      .ok record) :
    ∀ attacker ∈ attackers, ∃ reached own, game.SameBoard reached ∧
      (reached.exchange effects firstStrikeStep plan attacker).2 = .ok own := by
  induction attackers generalizing game record with
  | nil => exact fun _ hmem => nomatch hmem
  | cons first rest ih =>
      obtain ⟨next, own, others, hfirst, hrest, rfl⟩ :=
        (exchangeAll_cons_ok effects firstStrikeStep plan).mp hdone
      have hsame := game.exchange_sameBoard effects firstStrikeStep plan first
      rw [hfirst] at hsame
      intro attacker hmem
      rcases List.mem_cons.mp hmem with rfl | hmem
      · exact ⟨game, own, SameBoard.refl game, by rw [hfirst]⟩
      · obtain ⟨reached, own, hreached, hown⟩ := ih hrest attacker hmem
        exact ⟨reached, own, hsame.trans hreached, hown⟩

/-- What holds of the blockers that an attacker of the pass assigns damage. -/
theorem forall_assigned_of_pass {game : GameState} {record : DamageRecord}
    {attackers : List CardId} {attacker : CardId} {power : Int32}
    (hdone : (exchangeAll effects firstStrikeStep plan game attackers).2 =
      .ok record)
    (hattacker : attacker ∈ attackers)
    (hpower : game.strikingPower effects firstStrikeStep attacker = some power)
    (p : CardId → Prop) :
    (∀ entry ∈ game.assigned effects plan attacker power, p entry.1) ↔
      ∀ blocker, game.InFor effects plan attacker power blocker →
        p blocker := by
  obtain ⟨reached, own, hsame, hown⟩ := exists_turn effects firstStrikeStep plan
    hdone attacker hattacker
  rw [← hsame.strikingPower] at hpower
  rw [← hsame.assigned, reached.forall_assigned_iff attacker effects
    firstStrikeStep hpower hown]
  simp only [hsame.inFor_iff]

end Pass

end GameState

end DeepScry
