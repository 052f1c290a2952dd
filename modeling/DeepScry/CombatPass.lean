/-
The second pass of combat damage as a whole: the turn of each attacker adds
its own part, and the parts can be told apart by the attacker.
-/
import DeepScry.CombatExchange

namespace DeepScry

namespace DamageRecord

/-- Only these attackers deal damage to blockers and players, and only they
are struck back at; each hit on a creature is some damage, and none of it comes
from an increase. -/
structure Sourced (record : DamageRecord) (attackers : List CardId) : Prop where
  toBlockers : ∀ hit ∈ record.toBlockers,
    hit.source ∈ attackers ∧ 0 < hit.amount
  strikeBacks : ∀ hit ∈ record.strikeBacks,
    hit.target ∈ attackers ∧ 0 < hit.amount
  toPlayers : ∀ hit ∈ record.toPlayers, hit.source ∈ attackers
  boosts : record.boosts = []

theorem sourced_empty (attackers : List CardId) :
    Sourced {} attackers :=
  ⟨(fun _ hmem => nomatch hmem), (fun _ hmem => nomatch hmem),
    (fun _ hmem => nomatch hmem), rfl⟩

theorem Sourced.append {record other : DamageRecord} {attacker : CardId}
    {rest : List CardId} (hrecord : record.Sourced [attacker])
    (hother : other.Sourced rest) :
    (record.append other).Sourced (attacker :: rest) := by
  have hfirst {id : CardId} (hmem : id ∈ [attacker]) : id ∈ attacker :: rest :=
    List.mem_cons.mpr (Or.inl (List.mem_singleton.mp hmem))
  constructor
  · intro hit hmem
    rcases List.mem_append.mp hmem with hmem | hmem
    · exact (hrecord.toBlockers hit hmem).imp_left hfirst
    · exact (hother.toBlockers hit hmem).imp_left (List.mem_cons_of_mem _)
  · intro hit hmem
    rcases List.mem_append.mp hmem with hmem | hmem
    · exact (hrecord.strikeBacks hit hmem).imp_left hfirst
    · exact (hother.strikeBacks hit hmem).imp_left (List.mem_cons_of_mem _)
  · intro hit hmem
    rcases List.mem_append.mp hmem with hmem | hmem
    · exact hfirst (hrecord.toPlayers hit hmem)
    · exact List.mem_cons_of_mem _ (hother.toPlayers hit hmem)
  · rw [DamageRecord.append, hrecord.boosts, hother.boosts, List.nil_append]

theorem append_assoc (first second third : DamageRecord) :
    (first.append second).append third =
      first.append (second.append third) := by
  simp only [append, List.append_assoc]

end DamageRecord

namespace GameState

section Turn

variable (game : GameState) (attacker : CardId)

theorem hit_of_mem_dealAssigned (deathtouch : Bool) (remaining : Int32)
    (assignments : Assignment) :
    ∀ hit ∈ (dealAssigned attacker deathtouch game remaining
      assignments).2.2, hit.source = attacker ∧ 0 < hit.amount := by
  induction assignments generalizing game remaining with
  | nil =>
      intro hit hmem
      cases hmem
  | cons entry rest ih =>
      obtain ⟨blocker, damage⟩ := entry
      rw [dealAssigned]
      split
      · next hpositive =>
        split
        · exact ih game.message remaining
        · intro hit hmem
          rcases List.mem_cons.mp hmem with rfl | hmem
          · exact ⟨rfl, hpositive⟩
          · exact ih game.message (remaining - damage) hit hmem
      · exact ih game remaining

theorem hit_of_mem_dealInOrder (deathtouch trample alone : Bool)
    (remaining : Int32) (blockers : List CardId) {left : Int32}
    {hits : List CreatureHit}
    (hdealt : (dealInOrder attacker deathtouch trample alone game remaining
      blockers).2 = .ok (left, hits)) :
    ∀ hit ∈ hits, hit.source = attacker ∧ 0 < hit.amount := by
  induction blockers generalizing game remaining left hits with
  | nil =>
      cases hdealt
      intro hit hmem
      cases hmem
  | cons blocker rest ih =>
      rw [dealInOrder] at hdealt
      split at hdealt
      · cases hdealt
        intro hit hmem
        cases hmem
      · split at hdealt
        · cases hdealt
        · simp only at hdealt
          generalize (if (alone && !trample) = true then remaining
            else min remaining _) = damage at hdealt
          split at hdealt
          · next hpositive =>
            split at hdealt
            · exact ih game.message (remaining - damage) hdealt
            · have hrest := @ih game.message (remaining - damage)
              generalize dealInOrder attacker deathtouch trample alone
                game.message (remaining - damage) rest = later
                at hdealt hrest
              rcases later with ⟨laterGame, e | ⟨laterLeft, laterHits⟩⟩
              · cases hdealt
              · cases hdealt
                intro hit hmem
                rcases List.mem_cons.mp hmem with rfl | hmem
                · exact ⟨rfl, hpositive⟩
                · exact hrest rfl hit hmem
          · exact ih game remaining hdealt

variable (effects : StaticEffects) (firstStrikeStep : Bool)

theorem hit_of_mem_strikeBack (blockers : List CardId)
    {hits : List CreatureHit}
    (hstruck : (strikeBack effects firstStrikeStep attacker game
      blockers).2 = .ok hits) :
    ∀ hit ∈ hits, hit.target = attacker ∧ 0 < hit.amount := by
  induction blockers generalizing game hits with
  | nil =>
      cases hstruck
      intro hit hmem
      cases hmem
  | cons blocker rest ih =>
      rw [strikeBack] at hstruck
      split at hstruck
      · exact ih game hstruck
      · split at hstruck
        · cases hstruck
        · split at hstruck
          · exact ih game hstruck
          · simp only at hstruck
            split at hstruck
            · next hpositive =>
              split at hstruck
              · exact ih game.message hstruck
              · have hrest := @ih game.message
                generalize strikeBack effects firstStrikeStep attacker
                  game.message rest = later at hstruck hrest
                rcases later with ⟨laterGame, e | laterHits⟩
                · cases hstruck
                · cases hstruck
                  intro hit hmem
                  rcases List.mem_cons.mp hmem with rfl | hmem
                  · exact ⟨rfl, hpositive⟩
                  · exact hrest rfl hit hmem
            · exact ih game hstruck

/-- The end of a turn adds what is struck back, and nothing else. -/
theorem finishExchange_spec {start record : DamageRecord}
    (hdone : (game.finishExchange effects firstStrikeStep attacker start).2 =
      .ok record) :
    record.toBlockers = start.toBlockers ∧
      record.toPlayers = start.toPlayers ∧
      (∀ hit ∈ record.strikeBacks, hit.target = attacker ∧ 0 < hit.amount) ∧
      record.boosts = start.boosts := by
  have hstruck := @hit_of_mem_strikeBack game attacker effects
    firstStrikeStep (game.combat.getBlockers attacker)
  rw [finishExchange] at hdone
  generalize strikeBack effects firstStrikeStep attacker game _ = struck
    at hdone hstruck
  rcases struck with ⟨struckGame, e | hits⟩
  · cases hdone
  · cases hdone
    exact ⟨rfl, rfl, hstruck rfl, rfl⟩

theorem finishExchange_sourced {start record : DamageRecord}
    (hdone : (game.finishExchange effects firstStrikeStep attacker start).2 =
      .ok record)
    (hblockers : ∀ hit ∈ start.toBlockers,
      hit.source = attacker ∧ 0 < hit.amount)
    (hplayers : ∀ hit ∈ start.toPlayers, hit.source = attacker)
    (hboosts : start.boosts = []) :
    record.Sourced [attacker] := by
  obtain ⟨hto, hplayer, hback, hboost⟩ :=
    game.finishExchange_spec attacker effects firstStrikeStep hdone
  constructor
  · intro hit hmem
    rw [hto] at hmem
    exact (hblockers hit hmem).imp_left List.mem_singleton.mpr
  · intro hit hmem
    exact (hback hit hmem).imp_left List.mem_singleton.mpr
  · intro hit hmem
    rw [hplayer] at hmem
    exact List.mem_singleton.mpr (hplayers hit hmem)
  · rw [hboost, hboosts]

theorem source_of_hitPlayer (player : PlayerId) (amount : Int32) :
    ∀ hit ∈ (game.hitPlayer attacker player amount).2,
      hit.source = attacker := by
  rw [hitPlayer]
  simp only
  split
  · intro hit hmem
    cases hmem
  · intro hit hmem
    rw [← Option.some.inj hmem]

theorem exchangePlanned_sourced (power : Int32) (assignments : Assignment)
    {record : DamageRecord}
    (hdone : (game.exchangePlanned effects firstStrikeStep attacker power
      assignments).2 = .ok record) :
    record.Sourced [attacker] := by
  have hdealt := game.hit_of_mem_dealAssigned attacker
    (game.hasKeywordWithEffects effects attacker .deathtouch) power
    assignments
  rw [exchangePlanned] at hdone
  generalize dealAssigned attacker _ game power assignments = dealt
    at hdone hdealt
  obtain ⟨dealtGame, left, hits⟩ := dealt
  simp only at hdone hdealt
  split at hdone
  · split at hdone
    · next player _ =>
      have hplayer := dealtGame.source_of_hitPlayer attacker player left
      generalize dealtGame.hitPlayer attacker player left = hit
        at hdone hplayer
      rcases hit with ⟨hitGame, _ | playerHit⟩
      · cases hdone
        refine ⟨?_, (fun _ hmem => nomatch hmem),
          (fun _ hmem => nomatch hmem), rfl⟩
        intro hit hmem
        exact (hdealt hit hmem).imp_left List.mem_singleton.mpr
      · apply hitGame.finishExchange_sourced attacker effects firstStrikeStep
          hdone hdealt _ rfl
        intro hit hmem
        obtain rfl := List.mem_singleton.mp hmem
        exact hplayer _ rfl
    · exact dealtGame.finishExchange_sourced attacker effects firstStrikeStep
        hdone hdealt (fun _ hmem => nomatch hmem) rfl
  · exact dealtGame.finishExchange_sourced attacker effects firstStrikeStep
      hdone hdealt (fun _ hmem => nomatch hmem) rfl

theorem exchangeSimple_sourced (power : Int32) {record : DamageRecord}
    (hdone : (game.exchangeSimple effects firstStrikeStep attacker power).2 =
      .ok record) :
    record.Sourced [attacker] := by
  have hdealt := @hit_of_mem_dealInOrder game attacker
    (game.hasKeywordWithEffects effects attacker .deathtouch)
    (game.hasKeywordWithEffects effects attacker .trample)
    ((game.combat.getBlockers attacker).length == 1) power
    (game.combat.getBlockers attacker)
  rw [exchangeSimple] at hdone
  generalize dealInOrder attacker _ _ _ game power _ = dealt
    at hdone hdealt
  rcases dealt with ⟨dealtGame, e | ⟨left, hits⟩⟩
  · cases hdone
  · have hdealt := hdealt rfl
    simp only at hdone
    split at hdone
    · split at hdone
      · apply finishExchange_sourced _ attacker effects firstStrikeStep
          hdone hdealt _ rfl
        intro hit hmem
        obtain rfl := List.mem_singleton.mp hmem
        rfl
      · exact finishExchange_sourced _ attacker effects firstStrikeStep
          hdone hdealt (fun _ hmem => nomatch hmem) rfl
    · exact finishExchange_sourced _ attacker effects firstStrikeStep
        hdone hdealt (fun _ hmem => nomatch hmem) rfl

theorem strikePlayer_sourced (power : Int32) {record : DamageRecord}
    (hdone : (game.strikePlayer attacker power).2 = .ok record) :
    record.Sourced [attacker] := by
  rw [strikePlayer] at hdone
  split at hdone
  · next player _ =>
    cases hdone
    refine ⟨(fun _ hmem => nomatch hmem), (fun _ hmem => nomatch hmem), ?_,
      rfl⟩
    intro hit hmem
    exact List.mem_singleton.mpr (game.source_of_hitPlayer attacker player
      power hit (Option.mem_toList.mp hmem))
  · cases hdone
    exact DamageRecord.sourced_empty _

theorem exchange_sourced (plan : DamageAssignmentPlan) {record : DamageRecord}
    (hdone : (game.exchange effects firstStrikeStep plan attacker).2 =
      .ok record) :
    record.Sourced [attacker] := by
  rw [exchange] at hdone
  split at hdone
  · cases hdone
    exact DamageRecord.sourced_empty _
  · split at hdone
    · cases hdone
    · simp only at hdone
      split at hdone
      · cases hdone
        exact DamageRecord.sourced_empty _
      · split at hdone
        · split at hdone
          · exact game.exchangePlanned_sourced attacker effects
              firstStrikeStep _ _ hdone
          · exact game.exchangeSimple_sourced attacker effects
              firstStrikeStep _ hdone
        · exact game.strikePlayer_sourced attacker _ hdone

end Turn

section Pass

variable (effects : StaticEffects) (firstStrikeStep : Bool)
  (plan : DamageAssignmentPlan)

/-- A pass that goes through is one turn and the pass over the rest. -/
theorem exchangeAll_cons_ok {game : GameState} {attacker : CardId}
    {rest : List CardId} {records : DamageRecord} :
    (exchangeAll effects firstStrikeStep plan game (attacker :: rest)).2 =
        .ok records ↔
      ∃ next record others,
        game.exchange effects firstStrikeStep plan attacker =
          (next, .ok record) ∧
        (exchangeAll effects firstStrikeStep plan next rest).2 =
          .ok others ∧ records = record.append others := by
  rw [exchangeAll]
  constructor
  · intro hdone
    generalize hfirst : game.exchange effects firstStrikeStep plan attacker =
      exchanged at hdone
    rcases exchanged with ⟨next, e | record⟩
    · cases hdone
    · simp only at hdone
      generalize hrest : exchangeAll effects firstStrikeStep plan next rest =
        passed at hdone
      rcases passed with ⟨last, e | others⟩
      · cases hdone
      · cases hdone
        exact ⟨next, record, others, rfl, by rw [hrest], rfl⟩
  · rintro ⟨next, record, others, hfirst, hrest, rfl⟩
    rw [hfirst]
    simp only
    generalize exchangeAll effects firstStrikeStep plan next rest = passed
      at hrest
    obtain ⟨last, result⟩ := passed
    cases hrest
    rfl

theorem exchangeAll_sourced {game : GameState} {attackers : List CardId}
    {record : DamageRecord}
    (hdone : (exchangeAll effects firstStrikeStep plan game attackers).2 =
      .ok record) :
    record.Sourced attackers := by
  induction attackers generalizing game record with
  | nil =>
      cases hdone
      exact DamageRecord.sourced_empty _
  | cons attacker rest ih =>
      obtain ⟨next, own, others, hfirst, hrest, rfl⟩ :=
        (exchangeAll_cons_ok effects firstStrikeStep plan).mp hdone
      have hown : (game.exchange effects firstStrikeStep plan attacker).2 =
          .ok own := by rw [hfirst]
      exact (game.exchange_sourced attacker effects firstStrikeStep plan
        hown).append (ih hrest)

/-- The turn of one attacker within the pass. -/
theorem exchangeAll_split {game : GameState} {before after : List CardId}
    {attacker : CardId} {record : DamageRecord}
    (hdone : (exchangeAll effects firstStrikeStep plan game
      (before ++ attacker :: after)).2 = .ok record) :
    ∃ earlier own later : DamageRecord, earlier.Sourced before ∧ later.Sourced after ∧
      ((exchangeAll effects firstStrikeStep plan game before).1.exchange
        effects firstStrikeStep plan attacker).2 = .ok own ∧
      record = earlier.append (own.append later) := by
  induction before generalizing game record with
  | nil =>
      obtain ⟨next, own, later, hfirst, hrest, rfl⟩ :=
        (exchangeAll_cons_ok effects firstStrikeStep plan).mp hdone
      refine ⟨{}, own, later, DamageRecord.sourced_empty _,
        exchangeAll_sourced effects firstStrikeStep plan hrest, ?_, rfl⟩
      rw [exchangeAll, hfirst]
  | cons first before ih =>
      obtain ⟨next, head, others, hfirst, hrest, rfl⟩ :=
        (exchangeAll_cons_ok effects firstStrikeStep plan).mp hdone
      obtain ⟨earlier, own, later, hearlier, hlater, hown, rfl⟩ := ih hrest
      have hhead : (game.exchange effects firstStrikeStep plan first).2 =
          .ok head := by rw [hfirst]
      refine ⟨head.append earlier, own, later, (game.exchange_sourced first
        effects firstStrikeStep plan hhead).append hearlier, hlater, ?_,
        (DamageRecord.append_assoc _ _ _).symm⟩
      rw [← hown, exchangeAll, hfirst]
      simp only
      generalize exchangeAll effects firstStrikeStep plan next before = passed
      rcases passed with ⟨last, _ | _⟩ <;> rfl

end Pass

end GameState

end DeepScry
