/-
The upkeep taxes: permanents that are sacrificed unless mana is paid for them.
The sources and their permanents are read from one snapshot of the
battlefield, while each obligation may take a permanent or a source away.
-/
import DeepScry.ManaEngine
import DeepScry.Selectors
import DeepScry.TrackedReturn

namespace DeepScry

/-- A static ability that taxes permanents, on the battlefield. -/
structure UpkeepTax where
  source : CardId
  affected : Layers.AffectedSelector
  unlessCost : UInt8

/-- One obligation that a tax imposed: the game before it, whether it was
paid, and what it left. -/
structure Obligation where
  source : CardId
  permanent : CardId
  before : GameState
  paid : Bool
  outcome : Outcome Unit

/-- What the pass reads and hands over to: the taxing ability behind a static
ability, the continuous effects, the tapping of a source for mana, and what
fires when a permanent moves. -/
structure TaxMethods where
  taxOf : StaticAbility → Option (Layers.AffectedSelector × UInt8)
  effects : StaticEffects
  tapForManaAndUpdateHint : GameState → PlayerId → CardId → ManaCost →
    Outcome ManaCost
  executor : EffectExecutor
  depth : Nat

namespace TaxMethods

variable (methods : TaxMethods)

/-- Tap one source after the other; says whether there was no error. -/
def tapAll (player : PlayerId) :
    List CardId → ManaCost → GameState → Option (GameState × Bool)
  | [], _, game => some (game, true)
  | source :: rest, hint, game =>
      match methods.tapForManaAndUpdateHint game player source hint with
      | none => none
      | some (game, .error _) => some (game, false)
      | some (game, .ok hint) => tapAll player rest hint game

/-- Pay from the pool; says whether that went well. -/
def deduct (player : PlayerId) (cost : ManaCost) (game : GameState) :
    Option (GameState × Bool) :=
  (game.payMana player cost).map fun paid => (paid.1, paid.2.isOk)

def payManaCostByTapping (player : PlayerId) (cost : ManaCost)
    (game : GameState) : Option (GameState × Bool) :=
  if (game.getPlayer player).any fun p => p.manaPool.canPay cost then
    deduct player cost game
  else
    let engine := ManaEngine.update {} game player
    match GreedyManaResolver.computeTapOrder cost engine.manaSources with
    | none => some (game, false)
    | some order =>
        match methods.tapAll player order cost game with
        | none => none
        | some (tapped, false) => some (tapped, false)
        | some (tapped, true) => deduct player cost tapped

/-- Whether the payer can produce the mana, floating mana included. -/
def canPay (player : PlayerId) (cost : ManaCost) (game : GameState) : Bool :=
  (ManaEngine.update {} game player).canPayWithPool cost
    (((game.getPlayer player).map fun p => p.manaPool).getD {})

/-- The effect `SacrificeSelf`: a permanent that has left is passed over. -/
def sacrificeSelf (id : CardId) (game : GameState) : Outcome Unit :=
  if game.zones.battlefield.contains id then
    let owner := match game.getCard id with
      | some card => card.owner
      | none => ((game.players.head?).map Player.id).getD ⟨0⟩
    game.moveCard methods.executor methods.depth id .battlefield
      (game.deathDestinationForCard id) owner
  else .ok game ()

/-- The effect `UnlessCostWrapper` around it, for a cost in mana: whoever can
pay pays. -/
def executeUnlessCostWrapper (payer : PlayerId) (cost : ManaCost)
    (id : CardId) (game : GameState) : Bool × Outcome Unit :=
  if canPay payer cost game then
    match methods.payManaCostByTapping payer cost game with
    | none => (false, none)
    | some (paid, true) => (true, .ok paid ())
    | some (failed, false) => (false, methods.sacrificeSelf id failed)
  else (false, methods.sacrificeSelf id game)

/-- The first taxing ability of every permanent. -/
def grantStatics (snapshot : List CardId) (game : GameState) :
    List UpkeepTax :=
  snapshot.filterMap fun id =>
    (game.card? id).bind fun card =>
      (card.staticAbilities.findSome? methods.taxOf).map fun tax =>
        { source := id, affected := tax.1, unlessCost := tax.2 }

/-- `affected_selector_matches_card`. -/
def affectedSelectorMatchesCard (selector : Layers.AffectedSelector)
    (cardId sourceId : CardId) (game : GameState) : Bool :=
  match game.getCard cardId, game.getCard sourceId with
  | some creature, some source =>
      Layers.Pairing.selectorApplies methods.effects
        { game, creatureId := cardId, sourceId, creature, source } selector
  | _, _ => false

/-- What the snapshot still lists for a tax. -/
def affectedPermanents (active : PlayerId) (snapshot : List CardId)
    (tax : UpkeepTax) (game : GameState) : List CardId :=
  snapshot.filter fun id =>
    match game.getCard id with
    | none => false
    | some permanent =>
        permanent.controller == active &&
          methods.affectedSelectorMatchesCard tax.affected id tax.source game

/-- The obligations of one tax, up to the first error, and what they leave. -/
def imposeTax (active : PlayerId) (tax : UpkeepTax) :
    List CardId → GameState → List Obligation × Outcome Unit
  | [], game => ([], .ok game ())
  | id :: rest, game =>
      if (game.getCard id).isNone || (game.getCard tax.source).isNone then
        imposeTax active tax rest game
      else
        let (paid, outcome) := methods.executeUnlessCostWrapper active
          { generic := tax.unlessCost } id game.message
        let imposed : Obligation :=
          { source := tax.source, permanent := id, before := game, paid,
            outcome }
        match outcome with
        | some (after, .ok _) =>
            let (obligations, last) := imposeTax active tax rest after
            (imposed :: obligations, last)
        | stopped => ([imposed], stopped)

/-- The taxes one after the other, each for what the snapshot still lists. -/
def imposeTaxes (active : PlayerId) (snapshot : List CardId) :
    List UpkeepTax → GameState → List Obligation × Outcome Unit
  | [], game => ([], .ok game ())
  | tax :: rest, game =>
      let (obligations, outcome) := methods.imposeTax active tax
        (methods.affectedPermanents active snapshot tax game) game
      match outcome with
      | some (after, .ok _) =>
          let (later, last) := imposeTaxes active snapshot rest after
          (obligations ++ later, last)
      | stopped => (obligations, stopped)

def checkGrantUpkeepSacrificeStatics (active : PlayerId) (game : GameState) :
    List Obligation × Outcome Unit :=
  let battlefieldSnapshot := game.zones.battlefield
  methods.imposeTaxes active battlefieldSnapshot
    (methods.grantStatics battlefieldSnapshot game) game

end TaxMethods

namespace Obligation

/-- The permanent is in play under the active player's control, and the source
is in play too. -/
structure Rightful (active : PlayerId) (o : Obligation) : Prop where
  inPlay : o.permanent ∈ o.before.zones.battlefield
  controlled : (o.before.getCard o.permanent).map Card.controller = some active
  source : o.source ∈ o.before.zones.battlefield

/-- What the obligation does moves no permanent but its own and hands over
none; its own leaves the battlefield just when it is not paid for. -/
structure Contained (o : Obligation) : Prop where
  own : ∀ after result, o.outcome = some (after, result) →
    (o.permanent ∈ after.zones.battlefield ↔
      o.paid = true ∧ o.permanent ∈ o.before.zones.battlefield)
  others : ∀ after result, o.outcome = some (after, result) →
    ∀ id ≠ o.permanent,
      (id ∈ after.zones.battlefield ↔ id ∈ o.before.zones.battlefield) ∧
      (after.getCard id).map Card.controller =
        (o.before.getCard id).map Card.controller

/-- A permanent that is given up is not taxed again, and taxes no more. -/
def Spares (earlier later : Obligation) : Prop :=
  earlier.paid = false → later.permanent ≠ earlier.permanent ∧
    later.source ≠ earlier.permanent

instance (earlier later : Obligation) : Decidable (Spares earlier later) :=
  inferInstanceAs (Decidable (_ → _))

/-- Obligations one after the other, up to the first that stops the pass. -/
inductive Run : GameState → List Obligation → Outcome Unit → Prop
  | nil (game : GameState) : Run game [] (.ok game ())
  | step {o : Obligation} {after : GameState} {rest : List Obligation}
      {outcome : Outcome Unit} (hdone : o.outcome = .ok after ())
      (hrest : Run after rest outcome) : Run o.before (o :: rest) outcome
  | stop {o : Obligation} (hstop : ∀ after, o.outcome ≠ .ok after ()) :
      Run o.before [o] o.outcome

theorem Run.append {game middle : GameState} {first second : List Obligation}
    {stopped outcome : Outcome Unit} (hfirst : Run game first stopped)
    (hstopped : stopped = .ok middle ())
    (hsecond : Run middle second outcome) :
    Run game (first ++ second) outcome := by
  induction hfirst with
  | nil game =>
      cases hstopped
      exact hsecond
  | step hdone _ ih => exact .step hdone (ih hstopped)
  | stop hstop => exact absurd hstopped (hstop middle)

/-- The snapshot without what was given up is what is left of it in play. -/
def Tracks (snapshot : List CardId) (gone : CardId → Prop)
    (game : GameState) : Prop :=
  ∀ id ∈ snapshot, id ∈ game.zones.battlefield ↔ ¬gone id

/-- One obligation gives up its own permanent or nothing. -/
theorem Tracks.step {snapshot : List CardId} {gone : CardId → Prop}
    {o : Obligation} {after : GameState}
    (htracks : Tracks snapshot gone o.before) (hcontained : o.Contained) (hdone : o.outcome = .ok after ()) :
    Tracks snapshot (fun id => gone id ∨ (o.paid = false ∧ id = o.permanent))
      after := by
  intro id hid
  rw [not_or, ← htracks id hid]
  by_cases hown : id = o.permanent
  · subst hown
    rw [hcontained.own after _ hdone]
    simp [and_comm]
  · rw [(hcontained.others after _ hdone id hown).1]
    simp [hown]

/-- In a run of contained obligations everything named is in play just when
nothing named was given up before. -/
theorem Run.inPlay_iff {snapshot : List CardId} {game : GameState}
    {obligations : List Obligation} {outcome : Outcome Unit}
    (hrun : Run game obligations outcome)
    (hcontained : ∀ o ∈ obligations, o.Contained)
    (hlisted : ∀ o ∈ obligations, o.permanent ∈ snapshot ∧ o.source ∈ snapshot)
    {gone : CardId → Prop} (htracks : Tracks snapshot gone game) :
    (∀ o ∈ obligations, o.permanent ∈ o.before.zones.battlefield ∧
        o.source ∈ o.before.zones.battlefield) ↔
      (∀ o ∈ obligations, ¬gone o.permanent ∧ ¬gone o.source) ∧
        obligations.Pairwise Spares := by
  induction hrun generalizing gone with
  | nil game => simp
  | @step o after rest outcome hdone hrest ih =>
      obtain ⟨hown, hothers⟩ := List.forall_mem_cons.mp hcontained
      obtain ⟨hin, hrestIn⟩ := List.forall_mem_cons.mp hlisted
      have hnext := ih hothers hrestIn (htracks.step hown hdone)
      rw [List.forall_mem_cons, List.forall_mem_cons, List.pairwise_cons,
        hnext, htracks _ hin.1, htracks _ hin.2]
      constructor
      · rintro ⟨hfirst, hkept, hpairs⟩
        refine ⟨⟨hfirst, fun later hlater => ?_⟩, fun later hlater => ?_,
          hpairs⟩
        · obtain ⟨hpermanent, hsource⟩ := hkept later hlater
          exact ⟨fun hgone => hpermanent (.inl hgone),
            fun hgone => hsource (.inl hgone)⟩
        · intro hunpaid
          obtain ⟨hpermanent, hsource⟩ := hkept later hlater
          exact ⟨fun heq => hpermanent (.inr ⟨hunpaid, heq⟩),
            fun heq => hsource (.inr ⟨hunpaid, heq⟩)⟩
      · rintro ⟨⟨hfirst, hkept⟩, hspared, hpairs⟩
        refine ⟨hfirst, fun later hlater => ?_, hpairs⟩
        obtain ⟨hpermanent, hsource⟩ := hkept later hlater
        constructor
        · rintro (hgone | ⟨hunpaid, heq⟩)
          · exact hpermanent hgone
          · exact (hspared later hlater hunpaid).1 heq
        · rintro (hgone | ⟨hunpaid, heq⟩)
          · exact hsource hgone
          · exact (hspared later hlater hunpaid).2 heq
  | @stop o hstop =>
      have hin := hlisted o (List.mem_singleton.mpr rfl)
      simp [htracks _ hin.1, htracks _ hin.2]

end Obligation

namespace TaxMethods

open Obligation

variable (methods : TaxMethods) (active : PlayerId) (snapshot : List CardId)

/-- What becomes of the next permanent on a list: it is passed over, or an
obligation is imposed on it, which may stop the pass. -/
theorem imposeTax_cases (tax : UpkeepTax) (id : CardId) (rest : List CardId)
    (game : GameState) :
    methods.imposeTax active tax (id :: rest) game =
        methods.imposeTax active tax rest game ∨
      ∃ o : Obligation,
        (o.source = tax.source ∧ o.permanent = id ∧ o.before = game ∧
          methods.executeUnlessCostWrapper active
            { generic := tax.unlessCost } id game.message =
              (o.paid, o.outcome)) ∧
        ((∃ after, o.outcome = .ok after () ∧
            methods.imposeTax active tax (id :: rest) game =
              (o :: (methods.imposeTax active tax rest after).1,
                (methods.imposeTax active tax rest after).2)) ∨
          ((∀ after, o.outcome ≠ .ok after ()) ∧
            methods.imposeTax active tax (id :: rest) game =
              ([o], o.outcome))) := by
  rw [imposeTax]
  split
  · exact .inl rfl
  · right
    obtain ⟨paid, outcome⟩ := methods.executeUnlessCostWrapper active
      { generic := tax.unlessCost } id game.message
    refine ⟨⟨tax.source, id, game, paid, outcome⟩, ⟨rfl, rfl, rfl, rfl⟩, ?_⟩
    rcases outcome with _ | ⟨after, error | ⟨⟩⟩
    · exact .inr ⟨fun other => by simp [Outcome.ok], rfl⟩
    · exact .inr ⟨fun other => by simp [Outcome.ok], rfl⟩
    · exact .inl ⟨after, rfl, rfl⟩

/-- The obligations of one tax are a run; they name its source and, each once
at most, the permanents on its list. -/
theorem imposeTax_spec (tax : UpkeepTax) (list : List CardId)
    (game : GameState) :
    Run game (methods.imposeTax active tax list game).1
        (methods.imposeTax active tax list game).2 ∧
      ((methods.imposeTax active tax list game).1.map
        Obligation.permanent).Sublist list ∧
      ∀ o ∈ (methods.imposeTax active tax list game).1,
        o.source = tax.source := by
  induction list generalizing game with
  | nil =>
      rw [imposeTax]
      exact ⟨.nil game, List.Sublist.refl _, List.forall_mem_nil _⟩
  | cons id rest ih =>
      rcases imposeTax_cases methods active tax id rest game with
        hskip | ⟨o, ⟨hsource, rfl, rfl, -⟩, ⟨after, hdone, himposed⟩ |
          ⟨hstop, himposed⟩⟩
      · rw [hskip]
        obtain ⟨hrun, hlist, hsources⟩ := ih game
        exact ⟨hrun, hlist.cons id, hsources⟩
      · rw [himposed]
        obtain ⟨hrun, hlist, hsources⟩ := ih after
        exact ⟨.step hdone hrun, hlist.cons_cons _,
          List.forall_mem_cons.mpr ⟨hsource, hsources⟩⟩
      · rw [himposed]
        exact ⟨.stop hstop, (List.nil_sublist rest).cons_cons _,
          List.forall_mem_singleton.mpr hsource⟩

/-- Contained obligations leave the control of the rest of the list alone. -/
theorem imposeTax_controlled (tax : UpkeepTax) {list : List CardId}
    {game : GameState} (hnodup : list.Nodup)
    (hcontrolled : ∀ id ∈ list,
      (game.getCard id).map Card.controller = some active)
    (hcontained : ∀ o ∈ (methods.imposeTax active tax list game).1,
      o.Contained) :
    ∀ o ∈ (methods.imposeTax active tax list game).1,
      (o.before.getCard o.permanent).map Card.controller = some active := by
  induction list generalizing game with
  | nil =>
      rw [imposeTax]
      exact List.forall_mem_nil _
  | cons id rest ih =>
      obtain ⟨hid, hrest⟩ := List.nodup_cons.mp hnodup
      obtain ⟨hfirst, hlater⟩ := List.forall_mem_cons.mp hcontrolled
      rcases imposeTax_cases methods active tax id rest game with
        hskip | ⟨o, ⟨hsource, rfl, rfl, -⟩, ⟨after, hdone, himposed⟩ |
          ⟨hstop, himposed⟩⟩
      · rw [hskip] at hcontained ⊢
        exact ih hrest hlater hcontained
      · rw [himposed] at hcontained ⊢
        obtain ⟨hown, hothers⟩ := List.forall_mem_cons.mp hcontained
        refine List.forall_mem_cons.mpr ⟨hfirst, ih hrest ?_ hothers⟩
        intro other hother
        have hne : other ≠ o.permanent := fun heq => hid (heq ▸ hother)
        rw [(hown.others after _ hdone other hne).2]
        exact hlater other hother
      · rw [himposed]
        exact List.forall_mem_singleton.mpr hfirst

theorem affectedPermanents_controlled {tax : UpkeepTax} {game : GameState}
    {id : CardId}
    (hid : id ∈ methods.affectedPermanents active snapshot tax game) :
    (game.getCard id).map Card.controller = some active := by
  have hlisted := (List.mem_filter.mp hid).2
  cases hcard : game.getCard id with
  | none => simp [hcard] at hlisted
  | some permanent =>
      rw [hcard, Bool.and_eq_true, beq_iff_eq] at hlisted
      rw [Option.map_some, hlisted.1]

/-- After one tax the pass goes on with the next, or it has stopped. -/
theorem imposeTaxes_cases (tax : UpkeepTax) (rest : List UpkeepTax)
    (game : GameState) :
    (∃ after,
        (methods.imposeTax active tax
          (methods.affectedPermanents active snapshot tax game) game).2 =
            .ok after () ∧
        methods.imposeTaxes active snapshot (tax :: rest) game =
          ((methods.imposeTax active tax
              (methods.affectedPermanents active snapshot tax game) game).1 ++
            (methods.imposeTaxes active snapshot rest after).1,
            (methods.imposeTaxes active snapshot rest after).2)) ∨
      methods.imposeTaxes active snapshot (tax :: rest) game =
        methods.imposeTax active tax
          (methods.affectedPermanents active snapshot tax game) game := by
  rw [imposeTaxes]
  generalize methods.imposeTax active tax
    (methods.affectedPermanents active snapshot tax game) game = first
  obtain ⟨obligations, outcome⟩ := first
  rcases outcome with _ | ⟨after, error | ⟨⟩⟩
  · exact .inr rfl
  · exact .inr rfl
  · exact .inl ⟨after, rfl, rfl⟩

/-- All taxes together: a run that names sources of the taxes and permanents of
the snapshot, and each pair once. -/
theorem imposeTaxes_spec {taxes : List UpkeepTax} (hsnapshot : snapshot.Nodup)
    (htaxes : (taxes.map UpkeepTax.source).Nodup) (game : GameState) :
    Run game (methods.imposeTaxes active snapshot taxes game).1
        (methods.imposeTaxes active snapshot taxes game).2 ∧
      (∀ o ∈ (methods.imposeTaxes active snapshot taxes game).1,
        o.permanent ∈ snapshot ∧ o.source ∈ taxes.map UpkeepTax.source) ∧
      ((methods.imposeTaxes active snapshot taxes game).1.map
        fun o => (o.source, o.permanent)).Nodup := by
  induction taxes generalizing game with
  | nil =>
      rw [imposeTaxes]
      exact ⟨.nil game, List.forall_mem_nil _, List.nodup_nil⟩
  | cons tax rest ih =>
      obtain ⟨hfresh, hrest⟩ := List.nodup_cons.mp htaxes
      obtain ⟨hrun, hlist, hsource⟩ := imposeTax_spec methods active tax
        (methods.affectedPermanents active snapshot tax game) game
      have hlisted : ∀ o ∈ (methods.imposeTax active tax
          (methods.affectedPermanents active snapshot tax game) game).1,
          o.permanent ∈ snapshot ∧
            o.source ∈ (tax :: rest).map UpkeepTax.source := by
        intro o ho
        refine ⟨List.mem_of_mem_filter (hlist.subset
          (List.mem_map_of_mem ho)), ?_⟩
        rw [hsource o ho]
        exact List.mem_cons_self
      have honce : ((methods.imposeTax active tax
          (methods.affectedPermanents active snapshot tax game) game).1.map
            fun o => (o.source, o.permanent)).Nodup := by
        apply List.Nodup.of_map Prod.snd
        rw [List.map_map]
        exact hlist.nodup (hsnapshot.filter _)
      rcases imposeTaxes_cases methods active snapshot tax rest game with
        ⟨after, hdone, htaxed⟩ | htaxed
      · rw [htaxed]
        obtain ⟨hlater, hlaterListed, hlaterOnce⟩ := ih hrest after
        refine ⟨hrun.append hdone hlater, ?_, ?_⟩
        · intro o ho
          rcases List.mem_append.mp ho with ho | ho
          · exact hlisted o ho
          · obtain ⟨hpermanent, hin⟩ := hlaterListed o ho
            exact ⟨hpermanent, List.mem_cons_of_mem _ hin⟩
        · rw [List.map_append, List.nodup_append]
          refine ⟨honce, hlaterOnce, ?_⟩
          intro pair hpair other hother heq
          obtain ⟨o, ho, rfl⟩ := List.mem_map.mp hpair
          obtain ⟨later, hin, hsame⟩ := List.mem_map.mp hother
          rw [← hsame, Prod.mk.injEq] at heq
          apply hfresh
          rw [← hsource o ho, heq.1]
          exact (hlaterListed later hin).2
      · rw [htaxed]
        exact ⟨hrun, hlisted, honce⟩

/-- Contained obligations are imposed on permanents of the active player. -/
theorem imposeTaxes_controlled {taxes : List UpkeepTax}
    (hsnapshot : snapshot.Nodup) {game : GameState}
    (hcontained : ∀ o ∈ (methods.imposeTaxes active snapshot taxes game).1,
      o.Contained) :
    ∀ o ∈ (methods.imposeTaxes active snapshot taxes game).1,
      (o.before.getCard o.permanent).map Card.controller = some active := by
  induction taxes generalizing game with
  | nil =>
      rw [imposeTaxes]
      exact List.forall_mem_nil _
  | cons tax rest ih =>
      have hlist (id : CardId)
          (hid : id ∈ methods.affectedPermanents active snapshot tax game) :=
        affectedPermanents_controlled methods active snapshot hid
      have hfirst := imposeTax_controlled methods active tax
        (hsnapshot.filter _) hlist
      rcases imposeTaxes_cases methods active snapshot tax rest game with
        ⟨after, hdone, htaxed⟩ | htaxed
      · rw [htaxed] at hcontained ⊢
        obtain ⟨hone, hlater⟩ := List.forall_mem_append.mp hcontained
        exact List.forall_mem_append.mpr ⟨hfirst hone, ih hlater⟩
      · rw [htaxed] at hcontained ⊢
        exact hfirst hcontained

/-- The sources of the taxes, in the order of the snapshot. -/
theorem grantStatics_sources (snapshot : List CardId) (game : GameState) :
    ((methods.grantStatics snapshot game).map UpkeepTax.source).Sublist
      snapshot := by
  induction snapshot with
  | nil => exact List.Sublist.refl _
  | cons id rest ih =>
      rw [grantStatics, List.filterMap_cons]
      split
      · exact ih.cons id
      · next tax htax =>
        obtain ⟨card, -, hcard⟩ := Option.bind_eq_some_iff.mp htax
        obtain ⟨found, -, rfl⟩ := Option.map_eq_some_iff.mp hcard
        exact ih.cons_cons id

/-- Nothing moves, changes hands or starts to wait for a move. -/
structure Still (before after : GameState) : Prop where
  zones : after.zones = before.zones
  cards : GameState.SameView Card.controller after.cards before.cards
  delayedTriggers : after.delayedTriggers = before.delayedTriggers

theorem Still.refl (game : GameState) : Still game game :=
  ⟨rfl, .refl _, rfl⟩

theorem Still.trans {first second third : GameState}
    (hfirst : Still first second) (hsecond : Still second third) :
    Still first third :=
  ⟨hsecond.zones.trans hfirst.zones, hsecond.cards.trans hfirst.cards,
    hsecond.delayedTriggers.trans hfirst.delayedTriggers⟩

theorem Still.controller {before after : GameState}
    (hstill : Still before after) (id : CardId) :
    (after.getCard id).map Card.controller =
      (before.getCard id).map Card.controller := by
  rw [GameState.getCard, GameState.getCard, EntityStore.get, EntityStore.get]
  split
  · rfl
  · exact hstill.cards id.raw

/-- Mana sources that are only tapped. -/
def TapsInPlace : Prop :=
  ∀ game player source hint,
    (methods.tapForManaAndUpdateHint game player source hint).Ensures
      (Still game)

section Paying

variable {methods} (htaps : methods.TapsInPlace) (player : PlayerId)
  (cost : ManaCost)

theorem payMana_still (game : GameState) :
    (game.payMana player cost).Ensures (Still game) := by
  have hlogged : Still game (game.logManaPool player) := by
    rw [GameState.logManaPool]
    split
    · exact ⟨rfl, .refl _, rfl⟩
    · exact .refl game
  rw [GameState.payMana]
  split
  · exact .error hlogged _
  · rw [GameState.spendMana]
    split
    · split
      · exact .ok ⟨hlogged.zones, hlogged.cards, hlogged.delayedTriggers⟩ _
      · exact .error hlogged _
    · exact .error hlogged _

theorem deduct_still {game after : GameState} {paid : Bool}
    (hpay : deduct player cost game = some (after, paid)) :
    Still game after := by
  obtain ⟨⟨spent, result⟩, hspent, heq⟩ := Option.map_eq_some_iff.mp hpay
  cases heq
  exact payMana_still player cost game spent result hspent

include htaps in
theorem tapAll_still {sources : List CardId} {hint : ManaCost}
    {game after : GameState} {tapped : Bool}
    (htap : methods.tapAll player sources hint game = some (after, tapped)) :
    Still game after := by
  induction sources generalizing game hint with
  | nil =>
      cases htap
      exact .refl _
  | cons source rest ih =>
      have hsource := htaps game player source hint
      rw [tapAll] at htap
      generalize methods.tapForManaAndUpdateHint game player source hint =
        tap at hsource htap
      rcases tap with _ | ⟨middle, error | left⟩
      · cases htap
      · cases htap
        exact hsource after _ rfl
      · exact (hsource middle _ rfl).trans (ih htap)

include htaps in
theorem payManaCostByTapping_still {game after : GameState} {paid : Bool}
    (hpay : methods.payManaCostByTapping player cost game =
      some (after, paid)) : Still game after := by
  rw [payManaCostByTapping] at hpay
  split at hpay
  · exact deduct_still player cost hpay
  · dsimp only at hpay
    split at hpay
    · cases hpay
      exact .refl _
    · next order _ =>
      split at hpay
      · cases hpay
      · next tapped htap =>
        cases hpay
        exact tapAll_still htaps player htap
      · next tapped htap =>
        exact (tapAll_still htaps player htap).trans
          (deduct_still player cost hpay)

end Paying

section Sacrifices

variable {methods} {depth : Nat}

/-- No delayed trigger waits for a permanent to leave the battlefield. -/
def Unawaited (game : GameState) : Prop :=
  ∀ id zone, game.delayedTriggers.findZoneChangeTriggers id .battlefield
    zone = []

/-- A permanent that is sacrificed leaves the battlefield, and that is all. -/
theorem sacrificeSelf_spec (hdepth : methods.depth = depth + 1) (id : CardId)
    {game : GameState} (hunawaited : Unawaited game) :
    ∃ after, methods.sacrificeSelf id game = .ok after () ∧
      after.zones.battlefield = game.zones.battlefield.erase id ∧
      GameState.SameView Card.controller after.cards game.cards ∧
      after.delayedTriggers = game.delayedTriggers := by
  rw [sacrificeSelf]
  split
  · next hheld =>
    dsimp only
    generalize (match game.getCard id with
      | some card => card.owner
      | none => ((game.players.head?).map Player.id).getD ⟨0⟩) = owner
    obtain ⟨hcards, htriggers⟩ := game.returning_moveUntilTriggers id
      .battlefield (game.deathDestinationForCard id) owner
    have hbattlefield := game.battlefield_of_death id owner
    refine ⟨_, ?_, hbattlefield, hcards, htriggers⟩
    rw [hdepth]
    exact GameState.moveCard_of_untriggered methods.executor depth htriggers
      (hunawaited _ _)
  · next habsent =>
    refine ⟨game, rfl, ?_, .refl _, rfl⟩
    rw [List.erase_of_not_mem]
    exact fun hmem => habsent (List.contains_iff_mem.mpr hmem)

/-- What a sacrifice leaves, and what paying in place leaves, is contained. -/
theorem contained_of_still {o : Obligation} {left : List CardId}
    (hnodup : o.before.zones.battlefield.Nodup)
    (hleft : left = if o.paid then o.before.zones.battlefield
      else o.before.zones.battlefield.erase o.permanent)
    (houtcome : ∀ after result, o.outcome = some (after, result) →
      after.zones.battlefield = left ∧
        GameState.SameView Card.controller after.cards o.before.cards) :
    o.Contained := by
  constructor
  · intro after result hafter
    rw [(houtcome after result hafter).1, hleft]
    cases hpaid : o.paid with
    | true => simp
    | false => simp [hnodup.mem_erase_iff]
  · intro after result hafter id hne
    obtain ⟨hbattlefield, hcards⟩ := houtcome after result hafter
    constructor
    · rw [hbattlefield, hleft]
      split
      · rfl
      · exact List.mem_erase_of_ne hne
    · rw [GameState.getCard, GameState.getCard, EntityStore.get,
        EntityStore.get]
      split
      · rfl
      · exact hcards id.raw

/-- Where sources are only tapped and nothing waits, a paid obligation moves
nothing and an unpaid one takes its permanent. -/
theorem executeUnlessCostWrapper_spec (htaps : methods.TapsInPlace)
    (hdepth : methods.depth = depth + 1) {payer : PlayerId} {cost : ManaCost}
    {id : CardId} {game after : GameState} {paid : Bool}
    {outcome : Outcome Unit} {result : Except MtgError Unit}
    (hunawaited : Unawaited game)
    (hexecuted : methods.executeUnlessCostWrapper payer cost id game =
      (paid, outcome)) (hafter : outcome = some (after, result)) :
    after.zones.battlefield =
        (if paid then game.zones.battlefield
          else game.zones.battlefield.erase id) ∧
      GameState.SameView Card.controller after.cards game.cards ∧
      after.delayedTriggers = game.delayedTriggers := by
  have hgone {standing : GameState} (hstill : Still game standing)
      (hleft : methods.sacrificeSelf id standing = some (after, result)) :
      after.zones.battlefield = game.zones.battlefield.erase id ∧
        GameState.SameView Card.controller after.cards game.cards ∧
        after.delayedTriggers = game.delayedTriggers := by
    have hwaiting : Unawaited standing := by
      rw [Unawaited, hstill.delayedTriggers]
      exact hunawaited
    obtain ⟨left, hsacrificed, hbattlefield, hcards, htriggers⟩ :=
      sacrificeSelf_spec hdepth id hwaiting
    rw [hsacrificed] at hleft
    cases hleft
    rw [hbattlefield, hstill.zones]
    exact ⟨rfl, hcards.trans hstill.cards,
      htriggers.trans hstill.delayedTriggers⟩
  rw [executeUnlessCostWrapper] at hexecuted
  split at hexecuted
  · split at hexecuted
    · cases hexecuted
      cases hafter
    · next spent hpaid =>
      cases hexecuted
      cases hafter
      have hstill := payManaCostByTapping_still htaps payer cost hpaid
      rw [hstill.zones]
      exact ⟨rfl, hstill.cards, hstill.delayedTriggers⟩
    · next failed hfailed =>
      cases hexecuted
      exact hgone (payManaCostByTapping_still htaps payer cost hfailed) hafter
  · cases hexecuted
    exact hgone (.refl game) hafter

/-- No permanent is listed twice and no delayed trigger waits for one. -/
structure Quiet (game : GameState) : Prop where
  nodup : game.zones.battlefield.Nodup
  unawaited : Unawaited game

/-- One obligation in a quiet game is contained, and leaves it quiet. -/
theorem contained_of_quiet (htaps : methods.TapsInPlace)
    (hdepth : methods.depth = depth + 1) {payer : PlayerId} {cost : ManaCost}
    {o : Obligation} (hquiet : Quiet o.before)
    (hexecuted : methods.executeUnlessCostWrapper payer cost o.permanent
      o.before.message = (o.paid, o.outcome)) :
    o.Contained ∧ ∀ after result, o.outcome = some (after, result) →
      Quiet after := by
  have hspec (after : GameState) (result : Except MtgError Unit)
      (hafter : o.outcome = some (after, result)) :=
    executeUnlessCostWrapper_spec htaps hdepth
      (show Unawaited o.before.message from hquiet.unawaited) hexecuted hafter
  constructor
  · apply contained_of_still hquiet.nodup rfl
    intro after result hafter
    obtain ⟨hbattlefield, hcards, -⟩ := hspec after result hafter
    exact ⟨hbattlefield, hcards⟩
  · intro after result hafter
    obtain ⟨hbattlefield, -, htriggers⟩ := hspec after result hafter
    constructor
    · rw [hbattlefield]
      split
      · exact hquiet.nodup
      · exact hquiet.nodup.erase _
    · rw [Unawaited, htriggers]
      exact hquiet.unawaited

theorem imposeTax_contained (htaps : methods.TapsInPlace)
    (hdepth : methods.depth = depth + 1) (active : PlayerId) (tax : UpkeepTax)
    (list : List CardId) {game : GameState} (hquiet : Quiet game) :
    (∀ o ∈ (methods.imposeTax active tax list game).1, o.Contained) ∧
      ∀ after result, (methods.imposeTax active tax list game).2 =
        some (after, result) → Quiet after := by
  induction list generalizing game with
  | nil =>
      rw [imposeTax]
      refine ⟨List.forall_mem_nil _, fun after result hafter => ?_⟩
      cases hafter
      exact hquiet
  | cons id rest ih =>
      rcases imposeTax_cases methods active tax id rest game with
        hskip | ⟨o, ⟨-, rfl, rfl, hexecuted⟩, himposed⟩
      · rw [hskip]
        exact ih hquiet
      · obtain ⟨hcontained, hleft⟩ :=
          contained_of_quiet htaps hdepth hquiet hexecuted
        rcases himposed with ⟨after, hdone, himposed⟩ | ⟨-, himposed⟩
        · rw [himposed]
          obtain ⟨hlater, hlast⟩ := ih (hleft after _ hdone)
          exact ⟨List.forall_mem_cons.mpr ⟨hcontained, hlater⟩, hlast⟩
        · rw [himposed]
          exact ⟨List.forall_mem_singleton.mpr hcontained, hleft⟩

theorem imposeTaxes_contained (htaps : methods.TapsInPlace)
    (hdepth : methods.depth = depth + 1) (active : PlayerId)
    (snapshot : List CardId) (taxes : List UpkeepTax) {game : GameState}
    (hquiet : Quiet game) :
    ∀ o ∈ (methods.imposeTaxes active snapshot taxes game).1,
      o.Contained := by
  induction taxes generalizing game with
  | nil =>
      rw [imposeTaxes]
      exact List.forall_mem_nil _
  | cons tax rest ih =>
      obtain ⟨hfirst, hleft⟩ := imposeTax_contained htaps hdepth active tax
        (methods.affectedPermanents active snapshot tax game) hquiet
      rcases imposeTaxes_cases methods active snapshot tax rest game with
        ⟨after, hdone, htaxed⟩ | htaxed
      · rw [htaxed]
        exact List.forall_mem_append.mpr ⟨hfirst, ih (hleft after _ hdone)⟩
      · rw [htaxed]
        exact hfirst

end Sacrifices

/-- Taxes on artifacts, by their amount, where nothing else is printed. -/
def onArtifacts : TaxMethods where
  taxOf
    | .other amount => some (.allArtifacts, amount.toUInt8)
    | _ => none
  effects :=
    { calculateCdaPt _ _ := some none
      opalescencePt _ _ := none
      calculateModifyptEffects _ _ := some (0, 0)
      otherSelectorApplies _ _ _ _ := false
      countCardsMatchingFilter _ _ _ _ := 0 }
  tapForManaAndUpdateHint game _ _ hint := .ok game hint
  executor := GameState.idleExecutor
  depth := 1

/-- Two artifacts, two floating mana and sources of these taxes. -/
def taxedArtifacts (amounts : List Nat) : GameState where
  cards := ⟨(List.range 2).map (fun i => some
      { id := ⟨i⟩
        owner := ⟨0⟩
        controller := ⟨0⟩
        definition.cache.isArtifact := true }) ++
    amounts.zipIdx.map fun (amount, i) => some
      { id := ⟨i + 2⟩
        owner := ⟨1⟩
        controller := ⟨1⟩
        staticAbilities := [.other amount] }⟩
  players := [{ id := ⟨0⟩, manaPool := { colorless := 2 } }, { id := ⟨1⟩ }]
  zones :=
    { battlefield := (List.range (amounts.length + 2)).map CardId.mk
      playerZones := [(⟨0⟩, {}), (⟨1⟩, {})] }
  turn := { activePlayer := ⟨0⟩ }

end TaxMethods

end DeepScry
