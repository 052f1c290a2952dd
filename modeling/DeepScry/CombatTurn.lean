/-
One attacker's turn in the second pass, without the bookkeeping: what it
assigns to its blockers, what is left of its power, and what is dealt of it.
-/
import DeepScry.StrikeBack
import DeepScry.DamageChoices

namespace DeepScry

open SortedMap MaximalPick DamageAssignment

namespace GameState

/-- The hits of an assignment: all of it but what an aura keeps off. -/
def hitsOf (game : GameState) (attacker : CardId) (deathtouch : Bool)
    (assigned : Assignment) : List CreatureHit :=
  (assigned.filter fun entry =>
    !game.isColorPreventedByAura entry.1 attacker).map fun entry =>
      ⟨attacker, entry.1, entry.2, deathtouch⟩

/-- What an attacker without a plan assigns to its blockers. -/
def inOrder (game : GameState) (deathtouch trample alone : Bool) :
    Int32 → List CardId → Assignment
  | _, [] => []
  | remaining, blocker :: rest =>
      if remaining ≤ 0 then []
      else
        match game.getCard blocker with
        | none => []
        | some card =>
            let toughness := card.currentToughness
            let lethal : Int8 :=
              if deathtouch && 0 < toughness then 1 else toughness
            let damage :=
              if alone && !trample then remaining
              else min remaining lethal.toInt32
            if 0 < damage then
              (blocker, damage) ::
                inOrder game deathtouch trample alone (remaining - damage) rest
            else inOrder game deathtouch trample alone remaining rest

/-- What is left when all of an assignment is paid for. -/
def spend (power : Int32) (assigned : Assignment) : Int32 :=
  assigned.foldl (fun left entry => left - entry.2) power

section Account

variable (effects : StaticEffects) (firstStrikeStep : Bool)

/-- The power of an attacker that deals damage in the step. -/
def strikingPower (game : GameState) (attacker : CardId) : Option Int32 :=
  if !game.zones.battlefield.contains attacker then none
  else
    (game.getCard attacker).bind fun card =>
      if !game.dealsDamageThisStep effects firstStrikeStep attacker ||
          card.preventAllCombatDamageThisTurn ||
          game.combatPower effects attacker card ≤ 0 then none
      else some (game.combatPower effects attacker card)

/-- What a blocked attacker without a plan assigns. -/
def unplanned (game : GameState) (attacker : CardId) (power : Int32) :
    Assignment :=
  game.inOrder (game.hasKeywordWithEffects effects attacker .deathtouch)
    (game.hasKeywordWithEffects effects attacker .trample)
    ((game.combat.getBlockers attacker).length == 1) power
    (game.combat.getBlockers attacker)

/-- The damage an attacker of this power assigns to creatures. -/
def assigned (game : GameState) (plan : DamageAssignmentPlan)
    (attacker : CardId) (power : Int32) : Assignment :=
  if game.combat.isBlocked attacker then
    match lookup plan attacker with
    | some assignments => assignments.filter fun entry => 0 < entry.2
    | none => game.unplanned effects attacker power
  else []

/-- What is left of the power after the blockers.  Under a plan, damage that an
aura keeps off costs nothing. -/
def powerLeft (game : GameState) (plan : DamageAssignmentPlan)
    (attacker : CardId) (power : Int32) : Int32 :=
  if game.combat.isBlocked attacker then
    match lookup plan attacker with
    | some assignments => game.leftAfter attacker power assignments
    | none => spend power (game.unplanned effects attacker power)
  else power

/-- Whether an attacker has damage for the defending player. -/
def reachesPlayer (game : GameState) (plan : DamageAssignmentPlan)
    (attacker : CardId) (power : Int32) : Bool :=
  !game.combat.isBlocked attacker ||
    (game.hasKeywordWithEffects effects attacker .trample &&
      0 < game.powerLeft effects plan attacker power)

/-- The damage an attacker has for the defending player, before any shield. -/
def playerDamage (game : GameState) (plan : DamageAssignmentPlan)
    (attacker : CardId) (power : Int32) : Option (PlayerId × Int32) :=
  if game.reachesPlayer effects plan attacker power then
    (game.combat.getDefendingPlayer attacker).map fun player =>
      (player, game.powerLeft effects plan attacker power)
  else none

/-- A blocked attacker without a plan passes the shields by. -/
def unshielded (game : GameState) (plan : DamageAssignmentPlan)
    (attacker : CardId) : Bool :=
  game.combat.isBlocked attacker && (lookup plan attacker).isNone

/-- What is dealt to the defending player. -/
def playerHits (game : GameState) (plan : DamageAssignmentPlan)
    (attacker : CardId) (power : Int32) : List PlayerHit :=
  match game.playerDamage effects plan attacker power with
  | none => []
  | some (player, amount) =>
      if game.unshielded plan attacker then [⟨attacker, player, amount⟩]
      else (game.hitPlayer attacker player amount).2.toList

/-- The record is that of a turn with this power. -/
structure TurnRecord (game : GameState) (plan : DamageAssignmentPlan)
    (attacker : CardId) (power : Int32) (record : DamageRecord) : Prop where
  toBlockers : record.toBlockers =
    game.hitsOf attacker
      (game.hasKeywordWithEffects effects attacker .deathtouch)
      (game.assigned effects plan attacker power)
  toPlayers : record.toPlayers = game.playerHits effects plan attacker power
  strikeBacks : ∀ hit ∈ record.strikeBacks,
    hit ∈ game.strikeBacksOf effects firstStrikeStep attacker
  boosts : record.boosts = []

variable (game : GameState) (plan : DamageAssignmentPlan) (attacker : CardId)
  (power : Int32)

theorem assigned_of_unblocked
    (hblocked : game.combat.isBlocked attacker = false) :
    game.assigned effects plan attacker power = [] := by
  rw [assigned, hblocked, if_neg Bool.false_ne_true]

section Blocked

variable {game plan attacker} (hblocked : game.combat.isBlocked attacker = true)

include hblocked

theorem assigned_of_planned {assignments : Assignment}
    (hplan : lookup plan attacker = some assignments) :
    game.assigned effects plan attacker power =
      assignments.filter fun entry => 0 < entry.2 := by
  rw [assigned, if_pos hblocked, hplan]

theorem assigned_of_unplanned (hplan : lookup plan attacker = none) :
    game.assigned effects plan attacker power =
      game.unplanned effects attacker power := by
  rw [assigned, if_pos hblocked, hplan]

/-- Without a plan, all that is assigned costs power. -/
theorem powerLeft_of_unplanned (hplan : lookup plan attacker = none) :
    game.powerLeft effects plan attacker power =
      spend power (game.assigned effects plan attacker power) := by
  rw [assigned_of_unplanned effects power hblocked hplan, powerLeft,
    if_pos hblocked, hplan]

/-- Damage of a blocked attacker reaches the player with trample only. -/
theorem playerDamage_of_blocked :
    game.playerDamage effects plan attacker power =
      if game.hasKeywordWithEffects effects attacker .trample &&
          decide (0 < game.powerLeft effects plan attacker power) then
        (game.combat.getDefendingPlayer attacker).map fun player =>
          (player, game.powerLeft effects plan attacker power)
      else none := by
  rw [playerDamage, reachesPlayer, hblocked, Bool.not_true, Bool.false_or]

end Blocked

end Account

section Deal

variable (game : GameState) (attacker : CardId)

theorem SameBoard.hitsOf {game other : GameState}
    (hsame : game.SameBoard other) (attacker : CardId) (deathtouch : Bool)
    (assigned : Assignment) :
    other.hitsOf attacker deathtouch assigned =
      game.hitsOf attacker deathtouch assigned := by
  simp only [GameState.hitsOf, hsame.isColorPreventedByAura]

theorem SameBoard.inOrder {game other : GameState}
    (hsame : game.SameBoard other) (deathtouch trample alone : Bool)
    (remaining : Int32) (blockers : List CardId) :
    other.inOrder deathtouch trample alone remaining blockers =
      game.inOrder deathtouch trample alone remaining blockers := by
  induction blockers generalizing remaining with
  | nil => rfl
  | cons blocker rest ih =>
      simp only [GameState.inOrder, hsame.getCard, ih]

/-- An entry is dealt, unless an aura keeps it off. -/
theorem hitsOf_cons (deathtouch : Bool) (blocker : CardId) (damage : Int32)
    (rest : Assignment) :
    game.hitsOf attacker deathtouch ((blocker, damage) :: rest) =
      if game.isColorPreventedByAura blocker attacker then
        game.hitsOf attacker deathtouch rest
      else ⟨attacker, blocker, damage, deathtouch⟩ ::
        game.hitsOf attacker deathtouch rest := by
  rw [hitsOf, List.filter_cons]
  cases game.isColorPreventedByAura blocker attacker <;> rfl

theorem dealAssigned_hits (deathtouch : Bool) (remaining : Int32)
    (assignments : Assignment) :
    (dealAssigned attacker deathtouch game remaining assignments).2.2 =
      game.hitsOf attacker deathtouch
        (assignments.filter fun entry => 0 < entry.2) := by
  induction assignments generalizing game remaining with
  | nil => rfl
  | cons entry rest ih =>
      obtain ⟨blocker, damage⟩ := entry
      have hreported (remaining : Int32) :=
        (ih game.message remaining).trans
          (game.sameBoard_message.hitsOf attacker deathtouch _)
      rw [dealAssigned, List.filter_cons]
      by_cases hdamage : 0 < damage
      · rw [if_pos hdamage, if_pos (decide_eq_true hdamage), hitsOf_cons]
        cases game.isColorPreventedByAura blocker attacker with
        | true => exact hreported remaining
        | false =>
            simp only [Bool.false_eq_true, if_false]
            rw [hreported]
      · rw [if_neg hdamage, if_neg (by simpa using hdamage)]
        exact ih game remaining

/-- Without a plan, what goes through is dealt in order, and all of it is paid
for. -/
theorem dealInOrder_eq (deathtouch trample alone : Bool) (remaining : Int32)
    (blockers : List CardId) {left : Int32} {hits : List CreatureHit}
    (hdealt : (dealInOrder attacker deathtouch trample alone game remaining
      blockers).2 = .ok (left, hits)) :
    left = spend remaining
        (game.inOrder deathtouch trample alone remaining blockers) ∧
      hits = game.hitsOf attacker deathtouch
        (game.inOrder deathtouch trample alone remaining blockers) := by
  induction blockers generalizing game remaining left hits with
  | nil =>
      cases hdealt
      exact ⟨rfl, rfl⟩
  | cons blocker rest ih =>
      have hreported (remaining : Int32) (left : Int32)
          (hits : List CreatureHit) :=
        @ih game.message remaining left hits
      simp only [game.sameBoard_message.inOrder, game.sameBoard_message.hitsOf]
        at hreported
      rw [dealInOrder] at hdealt
      rw [inOrder]
      split at hdealt
      · next hnone =>
        cases hdealt
        rw [if_pos hnone]
        exact ⟨rfl, rfl⟩
      · next hsome =>
        rw [if_neg hsome]
        cases hcard : game.getCard blocker with
        | none =>
            rw [hcard] at hdealt
            cases hdealt
        | some card =>
            rw [hcard] at hdealt
            simp only at hdealt ⊢
            generalize (if (alone && !trample) = true then remaining
              else min remaining _) = damage at hdealt ⊢
            by_cases hdamage : 0 < damage
            · rw [if_pos hdamage] at hdealt ⊢
              rw [hitsOf_cons]
              have hlater := hreported (remaining - damage)
              cases hcolor : game.isColorPreventedByAura blocker attacker with
              | true =>
                  rw [hcolor, if_pos rfl] at hdealt
                  exact hlater left hits hdealt
              | false =>
                  rw [hcolor, if_neg Bool.false_ne_true] at hdealt
                  rw [if_neg Bool.false_ne_true]
                  generalize dealInOrder attacker deathtouch trample alone
                    game.message (remaining - damage) rest = later
                    at hdealt hlater
                  rcases later with ⟨laterGame, e | ⟨laterLeft, laterHits⟩⟩
                  · cases hdealt
                  · cases hdealt
                    obtain ⟨hleft, hhits⟩ := hlater left laterHits rfl
                    exact ⟨hleft, by rw [hhits]⟩
            · rw [if_neg hdamage] at hdealt ⊢
              exact ih game remaining hdealt

end Deal

section Turn

variable (effects : StaticEffects) (firstStrikeStep : Bool) (game : GameState)
  (attacker : CardId)

/-- The blockers that struck back are those that can. -/
theorem strikeBack_of_ok {blockers : List CardId} {hits : List CreatureHit}
    (hstruck : (strikeBack effects firstStrikeStep attacker game
      blockers).2 = .ok hits) :
    hits = blockers.filterMap
      (game.strikeBackOf effects firstStrikeStep attacker) := by
  induction blockers generalizing game hits with
  | nil =>
      cases hstruck
      rfl
  | cons blocker rest ih =>
      have hreported := @ih game.message
      have hsame (other : CardId) :=
        game.sameBoard_message.strikeBackOf effects firstStrikeStep game
          attacker other
      simp only [hsame] at hreported
      rw [strikeBack] at hstruck
      rw [List.filterMap_cons, strikeBackOf]
      split at hstruck
      · next hgone =>
        cases game.getCard blocker with
        | none => exact ih game hstruck
        | some card =>
            rw [Option.bind_some, if_pos hgone]
            exact ih game hstruck
      · next hthere =>
        split at hstruck
        · cases hstruck
        · next card hcard =>
          rw [hcard, Option.bind_some, if_neg hthere]
          split at hstruck
          · next hidle =>
            rw [if_pos hidle]
            exact ih game hstruck
          · next hbusy =>
            rw [if_neg hbusy]
            simp only at hstruck
            split at hstruck
            · next hpositive =>
              rw [if_pos hpositive]
              cases hcolor : game.isColorPreventedByAura attacker blocker with
              | true =>
                  rw [hcolor, if_pos rfl] at hstruck
                  exact hreported hstruck
              | false =>
                  rw [hcolor, if_neg Bool.false_ne_true] at hstruck
                  rw [if_neg Bool.false_ne_true]
                  generalize strikeBack effects firstStrikeStep attacker
                    game.message rest = later at hstruck hreported
                  rcases later with ⟨laterGame, e | laterHits⟩
                  · cases hstruck
                  · cases hstruck
                    rw [hreported rfl]
            · next hnone =>
              rw [if_neg hnone]
              exact ih game hstruck

/-- The end of a turn adds what the blockers strike back. -/
theorem finishExchange_of_ok {start record : DamageRecord}
    (hdone : (game.finishExchange effects firstStrikeStep attacker start).2 =
      .ok record) :
    record = { start with
      strikeBacks := game.strikeBacksOf effects firstStrikeStep attacker } := by
  have hstruck := @strikeBack_of_ok effects firstStrikeStep game attacker
    (game.combat.getBlockers attacker)
  rw [finishExchange] at hdone
  generalize strikeBack effects firstStrikeStep attacker game _ = struck
    at hdone hstruck
  rcases struck with ⟨struckGame, e | hits⟩
  · cases hdone
  · cases hdone
    rw [hstruck rfl, strikeBacksOf]

/-- The same, from a game that looks like another one. -/
theorem SameBoard.finishExchange_of_ok {game other : GameState}
    (hsame : game.SameBoard other) {start record : DamageRecord}
    (hdone : (other.finishExchange effects firstStrikeStep attacker
      start).2 = .ok record) :
    record = { start with
      strikeBacks := game.strikeBacksOf effects firstStrikeStep attacker } := by
  rw [GameState.finishExchange_of_ok effects firstStrikeStep other attacker
    hdone, hsame.strikeBacksOf effects firstStrikeStep game attacker]

/-- Messages do not decide what a player is dealt. -/
theorem hitPlayer_message (logger : GameLogger) (player : PlayerId)
    (amount : Int32) :
    ({ game with logger := logger }.hitPlayer attacker player amount).2 =
      (game.hitPlayer attacker player amount).2 := by
  have hleft := game.applySourcePreventionShields_logger logger player
    (some attacker) amount
  rw [hitPlayer, hitPlayer]
  simp only [hleft]
  split <;> rfl

/-- An attacker that does not strike adds nothing. -/
theorem exchange_of_idle {plan : DamageAssignmentPlan} {record : DamageRecord}
    (hidle : game.strikingPower effects firstStrikeStep attacker = none)
    (hdone : (game.exchange effects firstStrikeStep plan attacker).2 =
      .ok record) : record = {} := by
  rw [exchange] at hdone
  rw [strikingPower] at hidle
  split at hdone
  · cases hdone
    rfl
  · next hthere =>
    rw [if_neg hthere] at hidle
    split at hdone
    · cases hdone
    · next card hcard =>
      rw [hcard, Option.bind_some] at hidle
      simp only at hdone
      split at hdone
      · cases hdone
        rfl
      · next hbusy =>
        rw [if_neg hbusy] at hidle
        cases hidle

theorem exchange_of_striking (plan : DamageAssignmentPlan) {power : Int32}
    (hpower : game.strikingPower effects firstStrikeStep attacker =
      some power) :
    game.exchange effects firstStrikeStep plan attacker =
      if game.combat.isBlocked attacker then
        match lookup plan attacker with
        | some assignments =>
            game.exchangePlanned effects firstStrikeStep attacker power
              assignments
        | none => game.exchangeSimple effects firstStrikeStep attacker power
      else game.strikePlayer attacker power := by
  rw [exchange]
  rw [strikingPower] at hpower
  split at hpower
  · cases hpower
  · next hthere =>
    rw [if_neg hthere]
    cases hcard : game.getCard attacker with
    | none =>
        rw [hcard] at hpower
        cases hpower
    | some card =>
        rw [hcard, Option.bind_some] at hpower
        split at hpower
        · cases hpower
        · next hbusy =>
          cases hpower
          exact if_neg hbusy

/-- A striking attacker has power. -/
theorem strikingPower_pos {power : Int32}
    (hpower : game.strikingPower effects firstStrikeStep attacker =
      some power) : 0 < power := by
  rw [strikingPower] at hpower
  split at hpower
  · cases hpower
  · obtain ⟨card, -, hcard⟩ := Option.bind_eq_some_iff.mp hpower
    split at hcard
    · cases hcard
    · next hbusy =>
      cases hcard
      simp only [Bool.or_eq_true, decide_eq_true_eq, not_or] at hbusy
      exact Int32.not_le.mp hbusy.2

theorem turnRecord_planned {plan : DamageAssignmentPlan} {power : Int32}
    {assignments : Assignment} {record : DamageRecord}
    (hblocked : game.combat.isBlocked attacker = true)
    (hplan : lookup plan attacker = some assignments)
    (hdone : (game.exchangePlanned effects firstStrikeStep attacker power
      assignments).2 = .ok record) :
    game.TurnRecord effects firstStrikeStep plan attacker power record := by
  have hassigned := assigned_of_planned effects power hblocked hplan
  have hpowerLeft : game.powerLeft effects plan attacker power =
      game.leftAfter attacker power assignments := by
    rw [powerLeft, if_pos hblocked, hplan]
  have hshielded : game.unshielded plan attacker = false := by
    rw [unshielded, hplan, Option.isNone_some, Bool.and_false]
  have hhits := game.dealAssigned_hits attacker
    (game.hasKeywordWithEffects effects attacker .deathtouch) power
    assignments
  have hleft := game.dealAssigned_left attacker
    (game.hasKeywordWithEffects effects attacker .deathtouch) power
    assignments
  obtain ⟨logger, hdealt⟩ := game.dealAssigned_frame attacker
    (game.hasKeywordWithEffects effects attacker .deathtouch) power
    assignments
  rw [← hassigned] at hhits
  rw [← hpowerLeft] at hleft
  rw [exchangePlanned] at hdone
  generalize dealAssigned attacker _ game power assignments = dealt
    at hdone hdealt hhits hleft
  obtain ⟨dealtGame, left, hits⟩ := dealt
  simp only at hdone hdealt hhits hleft
  subst hdealt hhits hleft
  have hsame := game.sameBoard_logger logger
  have hdamage := @playerDamage_of_blocked effects game plan attacker power
    hblocked
  split at hdone
  · next htrample =>
    cases hplayer : game.combat.getDefendingPlayer attacker with
    | none =>
        rw [hplayer] at hdone
        obtain rfl := hsame.finishExchange_of_ok effects firstStrikeStep
          attacker hdone
        refine ⟨rfl, ?_, (fun _ hmem => hmem), rfl⟩
        rw [playerHits, hdamage, if_pos htrample, hplayer]
        rfl
    | some player =>
        rw [hplayer] at hdone
        have hplayerHits : game.playerHits effects plan attacker power =
            (game.hitPlayer attacker player
              (game.powerLeft effects plan attacker power)).2.toList := by
          rw [playerHits, hdamage, if_pos htrample, hplayer,
            Option.map_some]
          simp only
          rw [if_neg (by rw [hshielded]; exact Bool.false_ne_true)]
        have hhit := hsame.trans (hitPlayer_sameBoard _ attacker player
          (game.powerLeft effects plan attacker power))
        have hmessage := game.hitPlayer_message attacker logger player
          (game.powerLeft effects plan attacker power)
        simp only at hdone
        generalize hitPlayer _ attacker player _ = hit
          at hdone hhit hmessage
        rcases hit with ⟨hitGame, _ | playerHit⟩
        · cases hdone
          refine ⟨rfl, ?_, List.forall_mem_nil _, rfl⟩
          rw [hplayerHits, ← hmessage]
          rfl
        · obtain rfl := hhit.finishExchange_of_ok effects firstStrikeStep
            attacker hdone
          refine ⟨rfl, ?_, (fun _ hmem => hmem), rfl⟩
          rw [hplayerHits, ← hmessage]
          rfl
  · next hstays =>
    obtain rfl := hsame.finishExchange_of_ok effects firstStrikeStep attacker
      hdone
    refine ⟨rfl, ?_, (fun _ hmem => hmem), rfl⟩
    rw [playerHits, hdamage, if_neg hstays]

theorem turnRecord_simple {plan : DamageAssignmentPlan} {power : Int32}
    {record : DamageRecord}
    (hblocked : game.combat.isBlocked attacker = true)
    (hplan : lookup plan attacker = none)
    (hdone : (game.exchangeSimple effects firstStrikeStep attacker power).2 =
      .ok record) :
    game.TurnRecord effects firstStrikeStep plan attacker power record := by
  have hassigned := assigned_of_unplanned effects power hblocked hplan
  have hpowerLeft := powerLeft_of_unplanned effects power hblocked hplan
  have hshielded : game.unshielded plan attacker = true := by
    rw [unshielded, hplan, hblocked, Option.isNone_none, Bool.and_true]
  have hdamage := @playerDamage_of_blocked effects game plan attacker power
    hblocked
  have hdeal := @dealInOrder_eq game attacker
    (game.hasKeywordWithEffects effects attacker .deathtouch)
    (game.hasKeywordWithEffects effects attacker .trample)
    ((game.combat.getBlockers attacker).length == 1) power
    (game.combat.getBlockers attacker)
  obtain ⟨logger, hdealt⟩ := game.dealInOrder_frame attacker
    (game.hasKeywordWithEffects effects attacker .deathtouch)
    (game.hasKeywordWithEffects effects attacker .trample)
    ((game.combat.getBlockers attacker).length == 1) power
    (game.combat.getBlockers attacker)
  rw [← unplanned, ← hassigned] at hdeal
  rw [exchangeSimple] at hdone
  generalize dealInOrder attacker _ _ _ game power _ = dealt
    at hdone hdealt hdeal
  rcases dealt with ⟨dealtGame, e | ⟨left, hits⟩⟩
  · cases hdone
  · obtain ⟨hleft, hhits⟩ := hdeal rfl
    rw [← hpowerLeft] at hleft
    simp only at hdone hdealt
    subst hdealt hhits hleft
    have hsame := game.sameBoard_logger logger
    split at hdone
    · next htrample =>
      cases hplayer : game.combat.getDefendingPlayer attacker with
      | none =>
          rw [hplayer] at hdone
          obtain rfl := hsame.finishExchange_of_ok effects firstStrikeStep
            attacker hdone
          refine ⟨rfl, ?_, (fun _ hmem => hmem), rfl⟩
          rw [playerHits, hdamage, if_pos htrample, hplayer]
          rfl
      | some player =>
          rw [hplayer] at hdone
          obtain rfl := (hsame.trans (sameBoard_message _)
            ).finishExchange_of_ok effects firstStrikeStep attacker hdone
          refine ⟨rfl, ?_, (fun _ hmem => hmem), rfl⟩
          rw [playerHits, hdamage, if_pos htrample, hplayer,
            Option.map_some]
          simp only
          rw [if_pos hshielded]
    · next hstays =>
      obtain rfl := hsame.finishExchange_of_ok effects firstStrikeStep attacker
        hdone
      refine ⟨rfl, ?_, (fun _ hmem => hmem), rfl⟩
      rw [playerHits, hdamage, if_neg hstays]

theorem turnRecord_unblocked {plan : DamageAssignmentPlan} {power : Int32}
    {record : DamageRecord}
    (hblocked : game.combat.isBlocked attacker = false)
    (hdone : (game.strikePlayer attacker power).2 = .ok record) :
    game.TurnRecord effects firstStrikeStep plan attacker power record := by
  have hassigned := game.assigned_of_unblocked effects plan attacker power
    hblocked
  have hdamage : game.playerDamage effects plan attacker power =
      (game.combat.getDefendingPlayer attacker).map fun player =>
        (player, power) := by
    rw [playerDamage, reachesPlayer, hblocked, powerLeft, hblocked]
    rfl
  have hshielded : game.unshielded plan attacker = false := by
    rw [unshielded, hblocked, Bool.false_and]
  rw [strikePlayer] at hdone
  cases hplayer : game.combat.getDefendingPlayer attacker with
  | none =>
      rw [hplayer] at hdone
      cases hdone
      refine ⟨by rw [hassigned]; rfl, ?_, List.forall_mem_nil _, rfl⟩
      rw [playerHits, hdamage, hplayer]
      rfl
  | some player =>
      rw [hplayer] at hdone
      simp only at hdone
      generalize hhit : game.hitPlayer attacker player power = hit at hdone
      obtain ⟨hitGame, playerHit⟩ := hit
      cases hdone
      refine ⟨by rw [hassigned]; rfl, ?_, List.forall_mem_nil _, rfl⟩
      rw [playerHits, hdamage, hplayer, Option.map_some]
      simp only
      rw [if_neg (by rw [hshielded]; exact Bool.false_ne_true), hhit]

/-- A turn that goes through deals what the account says. -/
theorem exchange_turnRecord {plan : DamageAssignmentPlan} {power : Int32}
    {record : DamageRecord}
    (hpower : game.strikingPower effects firstStrikeStep attacker =
      some power)
    (hdone : (game.exchange effects firstStrikeStep plan attacker).2 =
      .ok record) :
    game.TurnRecord effects firstStrikeStep plan attacker power record := by
  rw [game.exchange_of_striking effects firstStrikeStep attacker plan hpower]
    at hdone
  cases hblocked : game.combat.isBlocked attacker with
  | false =>
      rw [hblocked, if_neg Bool.false_ne_true] at hdone
      exact game.turnRecord_unblocked effects firstStrikeStep attacker hblocked
        hdone
  | true =>
      rw [hblocked, if_pos rfl] at hdone
      cases hplan : lookup plan attacker with
      | some assignments =>
          rw [hplan] at hdone
          exact game.turnRecord_planned effects firstStrikeStep attacker
            hblocked hplan hdone
      | none =>
          rw [hplan] at hdone
          exact game.turnRecord_simple effects firstStrikeStep attacker
            hblocked hplan hdone

end Turn

section Same

variable (effects : StaticEffects) (firstStrikeStep : Bool)
  {game other : GameState} (hsame : game.SameBoard other)
  (plan : DamageAssignmentPlan) (attacker : CardId) (power : Int32)

include hsame

theorem SameBoard.strikingPower :
    other.strikingPower effects firstStrikeStep attacker =
      game.strikingPower effects firstStrikeStep attacker := by
  simp only [GameState.strikingPower, hsame.zones, hsame.getCard,
    hsame.dealsDamageThisStep, hsame.combatPower]

theorem SameBoard.unplanned :
    other.unplanned effects attacker power =
      game.unplanned effects attacker power := by
  simp only [GameState.unplanned, hsame.hasKeywordWithEffects, hsame.combat,
    hsame.inOrder]

theorem SameBoard.assigned :
    other.assigned effects plan attacker power =
      game.assigned effects plan attacker power := by
  simp only [GameState.assigned, hsame.combat, hsame.unplanned]

theorem SameBoard.powerLeft :
    other.powerLeft effects plan attacker power =
      game.powerLeft effects plan attacker power := by
  simp only [GameState.powerLeft, hsame.combat, hsame.unplanned,
    hsame.leftAfter]

theorem SameBoard.playerDamage :
    other.playerDamage effects plan attacker power =
      game.playerDamage effects plan attacker power := by
  have hreaches : other.reachesPlayer effects plan attacker power =
      game.reachesPlayer effects plan attacker power := by
    rw [reachesPlayer, hsame.combat, hsame.hasKeywordWithEffects,
      hsame.powerLeft, reachesPlayer]
  rw [GameState.playerDamage, hreaches, hsame.combat, hsame.powerLeft,
    GameState.playerDamage]

end Same

section Pass

variable (effects : StaticEffects) (firstStrikeStep : Bool)
  (plan : DamageAssignmentPlan)

/-- The creature hits of an attacker's turn. -/
def turnHits (game : GameState) (attacker : CardId) : List CreatureHit :=
  match game.strikingPower effects firstStrikeStep attacker with
  | some power =>
      game.hitsOf attacker
        (game.hasKeywordWithEffects effects attacker .deathtouch)
        (game.assigned effects plan attacker power)
  | none => []

theorem SameBoard.turnHits {game other : GameState}
    (hsame : game.SameBoard other) (attacker : CardId) :
    other.turnHits effects firstStrikeStep plan attacker =
      game.turnHits effects firstStrikeStep plan attacker := by
  simp only [GameState.turnHits, hsame.strikingPower,
    hsame.hasKeywordWithEffects, hsame.assigned, hsame.hitsOf]

theorem exchange_toBlockers {game : GameState} {attacker : CardId}
    {record : DamageRecord}
    (hdone : (game.exchange effects firstStrikeStep plan attacker).2 =
      .ok record) :
    record.toBlockers =
      game.turnHits effects firstStrikeStep plan attacker := by
  rw [turnHits]
  cases hpower : game.strikingPower effects firstStrikeStep attacker with
  | none =>
      rw [game.exchange_of_idle effects firstStrikeStep attacker hpower hdone]
  | some power =>
      exact (game.exchange_turnRecord effects firstStrikeStep attacker hpower
        hdone).toBlockers

/-- Blockers strike back at attackers that strike. -/
theorem exchange_strikeBack_mem {game : GameState} {attacker : CardId}
    {record : DamageRecord}
    (hdone : (game.exchange effects firstStrikeStep plan attacker).2 =
      .ok record) :
    ∀ hit ∈ record.strikeBacks,
      (game.strikingPower effects firstStrikeStep attacker).isSome = true ∧
        hit ∈ game.strikeBacksOf effects firstStrikeStep attacker := by
  intro hit hhit
  cases hpower : game.strikingPower effects firstStrikeStep attacker with
  | none =>
      rw [game.exchange_of_idle effects firstStrikeStep attacker hpower hdone]
        at hhit
      cases hhit
  | some power =>
      exact ⟨rfl, (game.exchange_turnRecord effects firstStrikeStep attacker
        hpower hdone).strikeBacks hit hhit⟩

/-- The creature hits of the pass are those of the turns. -/
theorem exchangeAll_toBlockers {game : GameState} {attackers : List CardId}
    {record : DamageRecord}
    (hdone : (exchangeAll effects firstStrikeStep plan game attackers).2 =
      .ok record) :
    record.toBlockers =
      attackers.flatMap (game.turnHits effects firstStrikeStep plan) := by
  induction attackers generalizing game record with
  | nil =>
      cases hdone
      rfl
  | cons attacker rest ih =>
      obtain ⟨next, own, others, hfirst, hrest, rfl⟩ :=
        (exchangeAll_cons_ok effects firstStrikeStep plan).mp hdone
      have hown : (game.exchange effects firstStrikeStep plan attacker).2 =
          .ok own := by rw [hfirst]
      have hsame := game.exchange_sameBoard effects firstStrikeStep plan
        attacker
      rw [hfirst] at hsame
      have hnext : next.turnHits effects firstStrikeStep plan =
          game.turnHits effects firstStrikeStep plan := by
        funext other
        exact hsame.turnHits effects firstStrikeStep plan other
      rw [List.flatMap_cons, DamageRecord.append,
        exchange_toBlockers effects firstStrikeStep plan hown, ih hrest, hnext]

theorem exchangeAll_strikeBack_mem {game : GameState}
    {attackers : List CardId} {record : DamageRecord}
    (hdone : (exchangeAll effects firstStrikeStep plan game attackers).2 =
      .ok record) :
    ∀ hit ∈ record.strikeBacks, ∃ attacker ∈ attackers,
      (game.strikingPower effects firstStrikeStep attacker).isSome = true ∧
        hit ∈ game.strikeBacksOf effects firstStrikeStep attacker := by
  induction attackers generalizing game record with
  | nil =>
      cases hdone
      intro hit hmem
      cases hmem
  | cons attacker rest ih =>
      obtain ⟨next, own, others, hfirst, hrest, rfl⟩ :=
        (exchangeAll_cons_ok effects firstStrikeStep plan).mp hdone
      have hown : (game.exchange effects firstStrikeStep plan attacker).2 =
          .ok own := by rw [hfirst]
      have hsame := game.exchange_sameBoard effects firstStrikeStep plan
        attacker
      rw [hfirst] at hsame
      intro hit hmem
      rcases List.mem_append.mp hmem with hmem | hmem
      · exact ⟨attacker, List.mem_cons_self,
          exchange_strikeBack_mem effects firstStrikeStep plan hown hit hmem⟩
      · obtain ⟨other, hother, hstrikes, hback⟩ := ih hrest hit hmem
        rw [hsame.strikingPower] at hstrikes
        rw [hsame.strikeBacksOf] at hback
        exact ⟨other, List.mem_cons_of_mem _ hother, hstrikes, hback⟩

/-- What a turn of the pass finds and deals. -/
structure TakesTurn (game : GameState) (attacker : CardId)
    (reached : GameState) (record : DamageRecord) : Prop where
  turn : ∃ before after earlier,
    game.combat.attackerIds = before ++ attacker :: after ∧
      exchangeAll effects firstStrikeStep plan game before =
        (reached, .ok earlier)
  done : (reached.exchange effects firstStrikeStep plan attacker).2 =
    .ok record

theorem TakesTurn.sameBoard {game reached : GameState} {attacker : CardId}
    {record : DamageRecord}
    (hturn : game.TakesTurn effects firstStrikeStep plan attacker reached
      record) : game.SameBoard reached := by
  obtain ⟨before, -, earlier, -, hbefore⟩ := hturn.turn
  have hsame := game.exchangeAll_sameBoard effects firstStrikeStep plan before
  rw [hbefore] at hsame
  exact hsame

end Pass

section Arithmetic

theorem amounts_cons (blocker : CardId) (damage : Int32) (rest : Assignment) :
    total (amounts ((blocker, damage) :: rest)) =
      damage.toInt + total (amounts rest) :=
  total_cons (blocker, damage.toInt) (amounts rest)

theorem amounts_nonneg {assigned : Assignment}
    (hpositive : ∀ entry ∈ assigned, 0 < entry.2) :
    0 ≤ total (amounts assigned) := by
  apply total_nonneg
  intro item hitem
  obtain ⟨entry, hentry, rfl⟩ := List.mem_map.mp hitem
  exact (Int32.lt_iff_toInt_lt.mp (hpositive entry hentry)).le

/-- No damage is assigned exactly when there is no entry. -/
theorem amounts_eq_zero_iff {assigned : Assignment}
    (hpositive : ∀ entry ∈ assigned, 0 < entry.2) :
    total (amounts assigned) = 0 ↔ assigned = [] := by
  constructor
  · intro hzero
    rcases assigned with _ | ⟨⟨blocker, damage⟩, rest⟩
    · rfl
    · obtain ⟨hfirst, hrest⟩ := List.forall_mem_cons.mp hpositive
      have hdamage : 0 < damage.toInt := Int32.lt_iff_toInt_lt.mp hfirst
      have hothers := amounts_nonneg hrest
      rw [amounts_cons] at hzero
      omega
  · rintro rfl
    rfl

theorem spend_cons (power : Int32) (blocker : CardId) (damage : Int32)
    (rest : Assignment) :
    spend power ((blocker, damage) :: rest) = spend (power - damage) rest :=
  rfl

/-- What fits into the power is taken off it. -/
theorem spend_toInt {power : Int32} {assigned : Assignment}
    (hpositive : ∀ entry ∈ assigned, 0 < entry.2)
    (hfits : total (amounts assigned) ≤ power.toInt) :
    (spend power assigned).toInt = power.toInt - total (amounts assigned) := by
  induction assigned generalizing power with
  | nil => exact (sub_zero _).symm
  | cons entry rest ih =>
      obtain ⟨blocker, damage⟩ := entry
      obtain ⟨hfirst, hrest⟩ := List.forall_mem_cons.mp hpositive
      have hdamage : 0 < damage.toInt := Int32.lt_iff_toInt_lt.mp hfirst
      have hothers := amounts_nonneg hrest
      rw [amounts_cons] at hfits ⊢
      have hleft : (power - damage).toInt = power.toInt - damage.toInt :=
        toInt_sub_of_le (by omega) (by omega)
      have hspend := @ih (power - damage) hrest (by omega)
      rw [spend_cons]
      omega

theorem leftAfter_eq_spend (game : GameState) (attacker : CardId)
    (power : Int32) (assignments : Assignment) :
    game.leftAfter attacker power assignments =
      spend power ((assignments.filter fun entry => 0 < entry.2).filter
        fun entry => !game.isColorPreventedByAura entry.1 attacker) := by
  induction assignments generalizing power with
  | nil => rfl
  | cons entry rest ih =>
      obtain ⟨blocker, damage⟩ := entry
      rw [leftAfter, List.filter_cons]
      by_cases hdamage : 0 < damage
      · rw [if_pos (decide_eq_true hdamage), List.filter_cons]
        cases game.isColorPreventedByAura blocker attacker with
        | true => simpa [hdamage] using ih power
        | false => simpa [hdamage, spend] using ih (power - damage)
      · simpa [hdamage] using ih power

theorem inOrder_pos (game : GameState) (deathtouch trample alone : Bool)
    (remaining : Int32) (blockers : List CardId) :
    ∀ entry ∈ game.inOrder deathtouch trample alone remaining blockers,
      0 < entry.2 := by
  induction blockers generalizing remaining with
  | nil =>
      intro entry hmem
      cases hmem
  | cons blocker rest ih =>
      rw [inOrder]
      split
      · intro entry hmem
        cases hmem
      · split
        · intro entry hmem
          cases hmem
        · simp only
          generalize (if (alone && !trample) = true then remaining
            else min remaining _) = damage
          split
          · next hdamage =>
            intro entry hmem
            rcases List.mem_cons.mp hmem with rfl | hmem
            · exact hdamage
            · exact ih _ entry hmem
          · exact ih remaining

theorem inOrder_fits (game : GameState) (deathtouch trample alone : Bool)
    {remaining : Int32} (hremaining : 0 ≤ remaining.toInt)
    (blockers : List CardId) :
    total (amounts (game.inOrder deathtouch trample alone remaining
      blockers)) ≤ remaining.toInt := by
  induction blockers generalizing remaining with
  | nil => exact hremaining
  | cons blocker rest ih =>
      rw [inOrder]
      split
      · exact hremaining
      · split
        · exact hremaining
        · next card _ =>
          simp only
          generalize (if (deathtouch && decide (0 < card.currentToughness)) =
            true then (1 : Int8) else card.currentToughness) = lethal
          have hdamage : (if (alone && !trample) = true then remaining
              else min remaining lethal.toInt32).toInt ≤ remaining.toInt := by
            split
            · exact le_refl _
            · rw [toInt_min]
              exact min_le_left _ _
          generalize (if (alone && !trample) = true then remaining
            else min remaining lethal.toInt32) = damage at hdamage
          split
          · next hpositive =>
            have hpositive := Int32.lt_iff_toInt_lt.mp hpositive
            have hzero : (0 : Int32).toInt = 0 := rfl
            have hleft : (remaining - damage).toInt =
                remaining.toInt - damage.toInt :=
              toInt_sub_of_le (by omega) hdamage
            have hrest := @ih (remaining - damage) (by omega)
            rw [amounts_cons]
            omega
          · exact ih hremaining

variable (effects : StaticEffects) (firstStrikeStep : Bool)

/-- Each assignment of the plan is within the power of its attacker. -/
def FitsPower (game : GameState) (plan : DamageAssignmentPlan) : Prop :=
  ∀ attacker power assignments,
    game.strikingPower effects firstStrikeStep attacker = some power →
      lookup plan attacker = some assignments →
        total (amounts (assignments.filter fun entry => 0 < entry.2)) ≤
          power.toInt

theorem assigned_pos (game : GameState) (plan : DamageAssignmentPlan)
    (attacker : CardId) (power : Int32) :
    ∀ entry ∈ game.assigned effects plan attacker power, 0 < entry.2 := by
  rw [assigned]
  split
  · split
    · intro entry hmem
      exact of_decide_eq_true (List.mem_filter.mp hmem).2
    · exact game.inOrder_pos _ _ _ _ _
  · intro entry hmem
    cases hmem

/-- Under a plan, what an aura keeps off costs nothing. -/
theorem powerLeft_of_planned {game : GameState} {plan : DamageAssignmentPlan}
    {attacker : CardId} (power : Int32) {assignments : Assignment}
    (hblocked : game.combat.isBlocked attacker = true)
    (hplan : lookup plan attacker = some assignments) :
    game.powerLeft effects plan attacker power =
      spend power ((game.assigned effects plan attacker power).filter
        fun entry => !game.isColorPreventedByAura entry.1 attacker) := by
  rw [assigned_of_planned effects power hblocked hplan, powerLeft,
    if_pos hblocked, hplan]
  exact game.leftAfter_eq_spend attacker power assignments

theorem FitsPower.assigned_fits {game : GameState}
    {plan : DamageAssignmentPlan} {attacker : CardId} {power : Int32}
    (hfits : game.FitsPower effects firstStrikeStep plan)
    (hpower : game.strikingPower effects firstStrikeStep attacker =
      some power) :
    total (amounts (game.assigned effects plan attacker power)) ≤
      power.toInt := by
  have hpositive := (Int32.lt_iff_toInt_lt.mp
    (game.strikingPower_pos effects firstStrikeStep attacker hpower)).le
  rw [assigned]
  split
  · split
    · next assignments hplan =>
      exact hfits attacker power assignments hpower hplan
    · exact game.inOrder_fits _ _ _ hpositive _
  · exact hpositive

end Arithmetic

end GameState

end DeepScry
