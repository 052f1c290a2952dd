/-
The incrementally maintained source cache against a rebuild.  A board is the
battlefield with the card store; every event is reported to the cache as it
happens.
-/
import DeepScry.ManaSourceCache
import Mathlib.Algebra.BigOperators.Group.List.Basic
import Mathlib.Data.List.Nodup
import Mathlib.Data.List.Count

namespace DeepScry

open Saturating

structure Board where
  battlefield : List CardId
  cards : EntityStore Card

namespace Board

/-- The card behind an id when the player's cache tracks it. -/
def sourceOf (board : Board) (player : PlayerId) (id : CardId) :
    Option Card :=
  (board.cards.tryGet id.raw).filter fun card =>
    card.owner == player && card.isManaSource

/-- Whether the id belongs on the list of this class. -/
def listed (board : Board) (player : PlayerId) (cls : SourceClass)
    (id : CardId) : Bool :=
  (board.sourceOf player id).any fun card => card.sourceClass == cls

/-- What the card adds to the untapped total of a colour. -/
def worth (board : Board) (player : PlayerId) (color : Color)
    (id : CardId) : Nat :=
  match board.sourceOf player id with
  | some card =>
      if card.sourceClass = .simple color ∧ card.tapped = false then
        card.sourceAmount.toNat
      else 0
  | none => 0

/-- The untapped mana of one colour, without the width of the counter. -/
def untappedTotal (board : Board) (player : PlayerId) (color : Color) : Nat :=
  (board.battlefield.map (board.worth player color)).sum

end Board

inductive BoardEvent where
  | enters (id : CardId)
  | leaves (id : CardId)
  | taps (id : CardId)
  | untaps (id : CardId)
  | revises (id : CardId) (card : Card)

/-- What a card keeps while it is on the battlefield. -/
structure Card.SameSource (card revised : Card) : Prop where
  owner : revised.owner = card.owner
  isCreature : revised.isCreature = card.isCreature
  chosenColor : revised.chosenColor = card.chosenColor
  isManaSource : revised.isManaSource = card.isManaSource
  manaProduction : revised.manaProduction = card.manaProduction
  tapped : revised.tapped = card.tapped

theorem Card.SameSource.sourceClass {card revised : Card}
    (hsame : card.SameSource revised) :
    revised.sourceClass = card.sourceClass := by
  rw [Card.sourceClass, Card.sourceClass, hsame.isCreature, hsame.chosenColor,
    hsame.manaProduction]

theorem Card.SameSource.sourceAmount {card revised : Card}
    (hsame : card.SameSource revised) :
    revised.sourceAmount = card.sourceAmount := by
  rw [Card.sourceAmount, Card.sourceAmount, hsame.manaProduction]

namespace Board

/-- The events a board admits.  Off the battlefield a card may change in any
way; on it, only in what no cache looks at. -/
def Admits (board : Board) : BoardEvent → Prop
  | .enters id => id ∉ board.battlefield ∧ (board.cards.tryGet id.raw).isSome
  | .leaves id => id ∈ board.battlefield
  | .taps id => id ∈ board.battlefield ∧
      ∃ card, board.cards.tryGet id.raw = some card ∧ card.tapped = false
  | .untaps id => id ∈ board.battlefield ∧
      ∃ card, board.cards.tryGet id.raw = some card ∧ card.tapped = true
  | .revises id revised => id ∈ board.battlefield →
      ∃ card, board.cards.tryGet id.raw = some card ∧ card.SameSource revised

def apply (board : Board) : BoardEvent → Board
  | .enters id => { board with battlefield := board.battlefield ++ [id] }
  | .leaves id => { board with battlefield := board.battlefield.erase id }
  | .taps id => { board with cards := board.cards.modify id.raw Card.tap }
  | .untaps id => { board with cards := board.cards.modify id.raw Card.untap }
  | .revises id revised =>
      { board with cards := board.cards.modify id.raw fun _ => revised }

end Board

namespace ManaSourceCache

/-- The handler of an event, called with the card as the event left it. -/
def report (cache : ManaSourceCache) (cards : EntityStore Card) :
    BoardEvent → ManaSourceCache
  | .enters id =>
      match cards.tryGet id.raw with
      | some card => cache.onCardEntered id card
      | none => cache
  | .leaves id =>
      match cards.tryGet id.raw with
      | some card => cache.onCardLeft id card
      | none => cache
  | .taps id =>
      match cards.tryGet id.raw with
      | some card => cache.onTap id card
      | none => cache
  | .untaps id =>
      match cards.tryGet id.raw with
      | some card => cache.onUntap id card
      | none => cache
  | .revises _ _ => cache

/-- The same lists in the same order, and the same totals. -/
structure SameSources (cache other : ManaSourceCache) : Prop where
  sources : cache.sources = other.sources
  complexSources : cache.complexSources = other.complexSources
  untapped : cache.untapped = other.untapped

/-- Boards and caches reached by reported events from a freshly rebuilt
cache (a new cache on an empty battlefield, say); `ok` restricts the events. -/
inductive Reached (ok : Board → BoardEvent → Prop) (player : PlayerId) :
    Board → ManaSourceCache → Prop
  | rebuilt {board : Board} (hnodup : board.battlefield.Nodup) :
      Reached ok player board
        ((new player).rebuildFromBattlefield board.battlefield board.cards)
  | event {board : Board} {cache : ManaSourceCache} {e : BoardEvent}
      (hreached : Reached ok player board cache) (hadmits : board.Admits e)
      (hok : ok board e) :
      Reached ok player (board.apply e)
        (cache.report (board.apply e).cards e)

/-- What the cache holds in terms of the board alone: the rebuild, spelled
out. -/
structure Coherent (player : PlayerId) (board : Board)
    (cache : ManaSourceCache) : Prop where
  playerId : cache.playerId = player
  sources : ∀ color, cache.sources color =
    board.battlefield.filter (board.listed player (.simple color))
  complexSources : cache.complexSources =
    board.battlefield.filter (board.listed player .complex)
  untapped : ∀ color, cache.untapped color =
    UInt32.ofNat (board.untappedTotal player color)

theorem report_playerId (cache : ManaSourceCache) (cards : EntityStore Card)
    (e : BoardEvent) : (cache.report cards e).playerId = cache.playerId := by
  cases e with
  | enters id => cases hcard : cards.tryGet id.raw <;> simp [report, hcard]
  | leaves id => cases hcard : cards.tryGet id.raw <;> simp [report, hcard]
  | taps id => cases hcard : cards.tryGet id.raw <;> simp [report, hcard]
  | untaps id => cases hcard : cards.tryGet id.raw <;> simp [report, hcard]
  | revises id revised => rfl

section Coherence

variable {player : PlayerId} {board : Board} {cache : ManaSourceCache}

theorem sourceOf_of_tryGet {id : CardId} {card : Card}
    (hcard : board.cards.tryGet id.raw = some card)
    (hplayer : cache.playerId = player) :
    board.sourceOf player id =
      if cache.tracks card then some card else none := by
  rw [Board.sourceOf, hcard, tracks, hplayer]
  rfl

theorem listed_eq {id : CardId} {card : Card}
    (hsource : board.sourceOf player id = some card) (cls : SourceClass) :
    board.listed player cls id = (card.sourceClass == cls) := by
  rw [Board.listed, hsource]
  rfl

theorem worth_eq {id : CardId} {card : Card}
    (hsource : board.sourceOf player id = some card) (color : Color) :
    board.worth player color id =
      if card.sourceClass = .simple color ∧ card.tapped = false then
        card.sourceAmount.toNat
      else 0 := by
  rw [Board.worth, hsource]

theorem not_listed {id : CardId} (hnone : board.sourceOf player id = none)
    (cls : SourceClass) : board.listed player cls id = false := by
  rw [Board.listed, hnone]
  rfl

theorem worth_zero {id : CardId} (hnone : board.sourceOf player id = none)
    (color : Color) : board.worth player color id = 0 := by
  rw [Board.worth, hnone]

/-- A card enters at the end of its list. -/
theorem report_enters (board : Board) (hplayer : cache.playerId = player)
    (id : CardId) :
    let entered := cache.report board.cards (.enters id)
    entered.playerId = player ∧
      (∀ color, entered.sources color = cache.sources color ++
        [id].filter (board.listed player (.simple color))) ∧
      entered.complexSources = cache.complexSources ++
        [id].filter (board.listed player .complex) ∧
      ∀ color, entered.untapped color = cache.untapped color +
        UInt32.ofNat (board.worth player color id) := by
  cases hcard : board.cards.tryGet id.raw with
  | none =>
      have hsource : board.sourceOf player id = none := by
        rw [Board.sourceOf, hcard]
        rfl
      simp [report, hcard, hplayer, not_listed hsource, worth_zero hsource]
  | some card =>
      have hsource := sourceOf_of_tryGet hcard hplayer
      by_cases htracks : cache.tracks card = true
      · rw [if_pos htracks] at hsource
        simp only [report, hcard, onCardEntered, htracks, if_true]
        cases hclass : card.sourceClass with
        | simple own =>
            refine ⟨hplayer, fun color => ?_, ?_, fun color => ?_⟩
            · by_cases hown : color = own
              · subst hown
                simp [listed_eq hsource, hclass]
              · simp [listed_eq hsource, hclass, hown, Ne.symm hown]
            · simp [listed_eq hsource, hclass]
            · rw [worth_eq hsource, hclass]
              by_cases hown : color = own
              · subst hown
                by_cases htap : card.tapped = true <;> simp [htap]
              · by_cases htap : card.tapped = true <;>
                  simp [htap, hown, Ne.symm hown]
        | complex => simp [hplayer, listed_eq hsource, worth_eq hsource, hclass]
      · rw [if_neg htracks] at hsource
        simp [report, hcard, onCardEntered, htracks, hplayer,
          not_listed hsource, worth_zero hsource]

/-- Entering a whole list of cards one after the other. -/
theorem foldl_enters (board : Board) (hplayer : cache.playerId = player)
    (ids : List CardId) :
    let entered := ids.foldl
      (fun cache id => cache.report board.cards (.enters id)) cache
    entered.playerId = player ∧
      (∀ color, entered.sources color = cache.sources color ++
        ids.filter (board.listed player (.simple color))) ∧
      entered.complexSources = cache.complexSources ++
        ids.filter (board.listed player .complex) ∧
      ∀ color, entered.untapped color = cache.untapped color +
        UInt32.ofNat ((ids.map (board.worth player color)).sum) := by
  induction ids generalizing cache with
  | nil => simp [hplayer]
  | cons id rest ih =>
      obtain ⟨hid, hsources, hcomplex, huntapped⟩ :=
        report_enters board hplayer id
      obtain ⟨hid', hsources', hcomplex', huntapped'⟩ := ih hid
      refine ⟨hid', fun color => ?_, ?_, fun color => ?_⟩
      · rw [List.foldl_cons, hsources', hsources, List.append_assoc,
          ← List.filter_append]
        rfl
      · rw [List.foldl_cons, hcomplex', hcomplex, List.append_assoc,
          ← List.filter_append]
        rfl
      · rw [List.foldl_cons, huntapped', huntapped, List.map_cons,
          List.sum_cons, UInt32.ofNat_add, UInt32.add_assoc]

theorem rebuild_coherent (hplayer : cache.playerId = player) (board : Board) :
    Coherent player board
      (cache.rebuildFromBattlefield board.battlefield board.cards) := by
  have hnew : (new cache.playerId).playerId = player := hplayer
  obtain ⟨hid, hsources, hcomplex, huntapped⟩ :=
    foldl_enters board hnew board.battlefield
  refine ⟨hid, hsources, hcomplex, fun color => ?_⟩
  rw [Board.untappedTotal, ← UInt32.zero_add (UInt32.ofNat _)]
  exact huntapped color

/-- Two coherent caches of one board agree. -/
theorem Coherent.sameSources {other : ManaSourceCache}
    (hcache : Coherent player board cache)
    (hother : Coherent player board other) : cache.SameSources other where
  sources := funext fun color => by rw [hcache.sources, hother.sources]
  complexSources := by rw [hcache.complexSources, hother.complexSources]
  untapped := funext fun color => by rw [hcache.untapped, hother.untapped]

theorem Coherent.enters (hcache : Coherent player board cache)
    (id : CardId) :
    Coherent player (board.apply (.enters id))
      (cache.report (board.apply (.enters id)).cards (.enters id)) := by
  obtain ⟨hid, hsources, hcomplex, huntapped⟩ :=
    report_enters board hcache.playerId id
  refine ⟨hid, fun color => ?_, ?_, fun color => ?_⟩
  · exact (hsources color).trans (by
      rw [hcache.sources, ← List.filter_append]; rfl)
  · exact hcomplex.trans (by
      rw [hcache.complexSources, ← List.filter_append]; rfl)
  · refine (huntapped color).trans ?_
    rw [hcache.untapped, ← UInt32.ofNat_add]
    congr 1
    change _ = ((board.battlefield ++ [id]).map (board.worth player color)).sum
    rw [List.map_append, List.sum_append]
    simp [Board.untappedTotal]

/-- The lists hold an id of the battlefield exactly when it is listed. -/
theorem Coherent.contains_sources (hcache : Coherent player board cache)
    {id : CardId} (hmem : id ∈ board.battlefield) (color : Color) :
    (cache.sources color).contains id =
      board.listed player (.simple color) id := by
  rw [hcache.sources, Bool.eq_iff_iff]
  simp [hmem]

/-- Either the cache tracks the card, or its handlers ignore it. -/
theorem tracks_cases (board : Board) (hplayer : cache.playerId = player)
    (id : CardId) :
    (∃ card, board.cards.tryGet id.raw = some card ∧
      cache.tracks card = true ∧ board.sourceOf player id = some card) ∨
    (board.sourceOf player id = none ∧
      ∀ card, board.cards.tryGet id.raw = some card →
        cache.tracks card = false) := by
  cases hcard : board.cards.tryGet id.raw with
  | none => exact Or.inr ⟨by simp [Board.sourceOf, hcard], by simp⟩
  | some card =>
      have hsource := sourceOf_of_tryGet hcard hplayer
      by_cases htracks : cache.tracks card = true
      · rw [if_pos htracks] at hsource
        exact Or.inl ⟨card, rfl, htracks, hsource⟩
      · rw [if_neg htracks] at hsource
        refine Or.inr ⟨hsource, ?_⟩
        rintro _ ⟨⟩
        exact Bool.eq_false_of_not_eq_true htracks

theorem Coherent.leaves (hcache : Coherent player board cache) {id : CardId}
    (hmem : id ∈ board.battlefield)
    (hroom : ∀ color, board.untappedTotal player color < 2 ^ 32) :
    Coherent player (board.apply (.leaves id))
      (cache.report (board.apply (.leaves id)).cards (.leaves id)) := by
  have htotal : ∀ color, board.untappedTotal player color =
      board.worth player color id +
        (board.apply (.leaves id)).untappedTotal player color :=
    fun color => (List.sum_map_erase (board.worth player color) hmem).symm
  have hlist : ∀ cls, (board.battlefield.filter
      (board.listed player cls)).erase id =
        (board.apply (.leaves id)).battlefield.filter
          ((board.apply (.leaves id)).listed player cls) :=
    fun cls => List.erase_filter
  change Coherent player (board.apply (.leaves id))
    (cache.report board.cards (.leaves id))
  rcases tracks_cases board hcache.playerId id with
    ⟨card, hcard, htracks, hsource⟩ | ⟨hsource, hignored⟩
  · simp only [report, hcard, onCardLeft, htracks, if_true]
    constructor
    · exact hcache.playerId
    · intro color
      rw [← hlist, ← hcache.sources]
    · rw [← hlist, ← hcache.complexSources]
    · intro color
      have hlt := hroom color
      change (if ((cache.sources color).contains id && !card.tapped) = true
        then sub32 (cache.untapped color) card.sourceAmount
        else cache.untapped color) = _
      rw [hcache.contains_sources hmem, hcache.untapped, listed_eq hsource]
      rw [htotal, worth_eq hsource] at hlt ⊢
      by_cases howed : card.sourceClass = .simple color ∧ card.tapped = false
      · rw [if_pos howed] at hlt ⊢
        rw [if_pos (by simp [howed])]
        exact sub32_ofNat_add _ _ hlt
      · rw [if_neg howed, if_neg (by simpa using howed), Nat.zero_add]
  · have hreport : cache.report board.cards (.leaves id) = cache := by
      cases hcard : board.cards.tryGet id.raw with
      | none => simp [report, hcard]
      | some card => simp [report, hcard, onCardLeft, hignored card hcard]
    have hself : ∀ cls, board.battlefield.filter (board.listed player cls) =
        (board.battlefield.filter (board.listed player cls)).erase id := by
      intro cls
      rw [List.erase_of_not_mem]
      simp [not_listed hsource]
    rw [hreport]
    constructor
    · exact hcache.playerId
    · intro color
      rw [hcache.sources, hself, hlist]
    · rw [hcache.complexSources, hself, hlist]
    · intro color
      rw [hcache.untapped, htotal, worth_zero hsource, Nat.zero_add]

/-- The card's colour, found by searching the lists. -/
theorem Coherent.colorOf (hcache : Coherent player board cache) {id : CardId}
    (hmem : id ∈ board.battlefield) {card : Card}
    (hsource : board.sourceOf player id = some card) :
    cache.colorOf id =
      match card.sourceClass with
      | .simple color => some color
      | .complex => none := by
  have hlists : ∀ color, (cache.sources color).contains id =
      (card.sourceClass == .simple color) := fun color => by
    rw [hcache.contains_sources hmem, listed_eq hsource]
  rw [ManaSourceCache.colorOf]
  simp only [hlists]
  cases card.sourceClass with
  | simple color => cases color <;> decide
  | complex => decide

theorem sourceOf_modify_ne {id other : CardId} (hne : id ≠ other)
    (f : Card → Card) :
    Board.sourceOf { board with cards := board.cards.modify id.raw f } player
      other = board.sourceOf player other := by
  have hraw : id.raw ≠ other.raw := fun heq => hne (by
    cases id
    cases other
    exact congrArg CardId.mk heq)
  simp only [Board.sourceOf, EntityStore.tryGet_modify_ne _ hraw]

/-- What a change to a card must keep for its place on the lists. -/
def KeepsClass (board : Board) (id : CardId) (f : Card → Card) : Prop :=
  ∀ card, board.cards.tryGet id.raw = some card →
    (f card).owner = card.owner ∧ (f card).isManaSource = card.isManaSource ∧
      (f card).sourceClass = card.sourceClass

theorem sourceOf_modify_self (player : PlayerId) {id : CardId}
    {f : Card → Card}
    (hkeeps : KeepsClass board id f) :
    Board.sourceOf { board with cards := board.cards.modify id.raw f } player
      id = (board.sourceOf player id).map f := by
  cases hcard : board.cards.tryGet id.raw with
  | none => simp [Board.sourceOf, hcard]
  | some card =>
      obtain ⟨howner, hsource, -⟩ := hkeeps card hcard
      simp only [Board.sourceOf, EntityStore.tryGet_modify_self, hcard,
        Option.map_some, Option.filter, howner, hsource]
      split <;> rfl

/-- Such a change leaves the lists alone. -/
theorem listed_modify {id : CardId} {f : Card → Card}
    (hkeeps : KeepsClass board id f) (cls : SourceClass) :
    Board.listed { board with cards := board.cards.modify id.raw f } player
      cls = board.listed player cls := by
  funext other
  by_cases hid : id = other
  · subst hid
    rw [Board.listed, Board.listed, sourceOf_modify_self player hkeeps]
    cases hsource : board.sourceOf player id with
    | none => rfl
    | some card =>
        have hcard := (Option.filter_eq_some_iff.mp hsource).1
        simp [(hkeeps card hcard).2.2]
  · rw [Board.listed, Board.listed, sourceOf_modify_ne hid]

/-- It moves a total by what the card was and is worth. -/
theorem untappedTotal_modify (player : PlayerId) {id : CardId}
    (f : Card → Card)
    (hnodup : board.battlefield.Nodup) (hmem : id ∈ board.battlefield)
    (color : Color) :
    let changed : Board := { board with cards := board.cards.modify id.raw f }
    changed.untappedTotal player color + board.worth player color id =
      board.untappedTotal player color + changed.worth player color id := by
  have hrest : (board.battlefield.erase id).map (Board.worth
      { board with cards := board.cards.modify id.raw f } player color) =
        (board.battlefield.erase id).map (board.worth player color) := by
    apply List.map_congr_left
    intro other hother
    have hne : id ≠ other := by
      rintro rfl
      exact hnodup.not_mem_erase hother
    rw [Board.worth, Board.worth, sourceOf_modify_ne hne]
  simp only [Board.untappedTotal]
  rw [← List.sum_map_erase (board.worth player color) hmem,
    ← List.sum_map_erase (Board.worth { board with
      cards := board.cards.modify id.raw f } player color) hmem, hrest]
  omega

theorem Coherent.of_modify {id : CardId} {f : Card → Card}
    {reported : ManaSourceCache} (hkeeps : KeepsClass board id f)
    (hcache : Coherent player board cache)
    (hid : reported.playerId = cache.playerId)
    (hsources : reported.sources = cache.sources)
    (hcomplex : reported.complexSources = cache.complexSources)
    (huntapped : ∀ color, reported.untapped color = UInt32.ofNat
      (Board.untappedTotal { board with
        cards := board.cards.modify id.raw f } player color)) :
    Coherent player { board with cards := board.cards.modify id.raw f }
      reported where
  playerId := hid.trans hcache.playerId
  sources := fun color => by rw [hsources, hcache.sources, listed_modify hkeeps]
  complexSources := by
    rw [hcomplex, hcache.complexSources, listed_modify hkeeps]
  untapped := huntapped

theorem keepsClass_tap (id : CardId) : KeepsClass board id Card.tap :=
  fun _ _ => ⟨rfl, rfl, rfl⟩

theorem keepsClass_untap (id : CardId) : KeepsClass board id Card.untap :=
  fun _ _ => ⟨rfl, rfl, rfl⟩

/-- A tapped card is worth nothing. -/
theorem worth_of_tapped {id : CardId}
    (htap : ∀ card, board.sourceOf player id = some card →
      card.tapped = true) (color : Color) :
    board.worth player color id = 0 := by
  cases hsource : board.sourceOf player id with
  | none => exact worth_zero hsource color
  | some card => simp [worth_eq hsource, htap card hsource]

/-- A card that is on no list of a colour is worth nothing to its total. -/
theorem worth_of_not_listed {id : CardId} {color : Color}
    (hlisted : board.listed player (.simple color) id = false) :
    board.worth player color id = 0 := by
  cases hsource : board.sourceOf player id with
  | none => exact worth_zero hsource color
  | some card =>
      rw [listed_eq hsource, beq_eq_false_iff_ne] at hlisted
      rw [worth_eq hsource, if_neg fun howed => hlisted howed.1]

/-- A handler that changes the counter of the card's colour as the total of
this colour changes. -/
theorem Coherent.toggles (hcache : Coherent player board cache) {id : CardId}
    (hnodup : board.battlefield.Nodup) (hmem : id ∈ board.battlefield)
    {card : Card} (hcard : board.cards.tryGet id.raw = some card)
    {f : Card → Card} (hkeeps : KeepsClass board id f)
    (change : UInt32 → UInt32) {reported : ManaSourceCache}
    (hreported : reported = if cache.tracks card then
        match cache.colorOf id with
        | some color =>
            { cache with
              untapped := Function.update cache.untapped color
                (change (cache.untapped color)) }
        | none => cache
      else cache)
    (hchange : ∀ color, board.sourceOf player id = some card →
      card.sourceClass = .simple color →
        change (.ofNat (board.untappedTotal player color)) =
          .ofNat (Board.untappedTotal { board with
            cards := board.cards.modify id.raw f } player color)) :
    Coherent player { board with cards := board.cards.modify id.raw f }
      reported := by
  have hstill : ∀ color, board.listed player (.simple color) id = false →
      Board.untappedTotal { board with
        cards := board.cards.modify id.raw f } player color =
          board.untappedTotal player color := by
    intro color hlisted
    have hmoved := untappedTotal_modify player f hnodup hmem color
    have hbefore := worth_of_not_listed hlisted
    have hafter := worth_of_not_listed
      ((congrFun (listed_modify hkeeps (.simple color)) id).trans hlisted)
    omega
  have hunreported (hnone : ∀ color,
      board.listed player (.simple color) id = false)
      (hsame : reported = cache) :
      Coherent player { board with cards := board.cards.modify id.raw f }
        reported := by
    subst hsame
    refine hcache.of_modify hkeeps rfl rfl rfl fun color => ?_
    rw [hcache.untapped, hstill color (hnone color)]
  rcases tracks_cases board hcache.playerId id with
    ⟨own, hown, htracks, hsource⟩ | ⟨hsource, hignored⟩
  · rw [hcard] at hown
    cases hown
    rw [if_pos htracks, hcache.colorOf hmem hsource] at hreported
    cases hclass : card.sourceClass with
    | simple own =>
        rw [hclass] at hreported
        subst hreported
        refine hcache.of_modify hkeeps rfl rfl rfl fun color => ?_
        by_cases hsame : color = own
        · subst hsame
          simp only [Function.update_self]
          rw [hcache.untapped]
          exact hchange color hsource hclass
        · simp only [Function.update_of_ne hsame]
          rw [hcache.untapped, hstill]
          simp [listed_eq hsource, hclass, Ne.symm hsame]
    | complex =>
        rw [hclass] at hreported
        apply hunreported _ hreported
        intro color
        rw [listed_eq hsource, hclass]
        rfl
  · rw [hignored card hcard, if_neg Bool.false_ne_true] at hreported
    exact hunreported (fun color => not_listed hsource _) hreported

theorem Coherent.taps (hcache : Coherent player board cache) {id : CardId}
    (hnodup : board.battlefield.Nodup) (hmem : id ∈ board.battlefield)
    {card : Card} (hcard : board.cards.tryGet id.raw = some card)
    (huntap : card.tapped = false)
    (hroom : ∀ color, board.untappedTotal player color < 2 ^ 32) :
    Coherent player (board.apply (.taps id))
      (cache.report (board.apply (.taps id)).cards (.taps id)) := by
  have hafter : (board.apply (.taps id)).cards.tryGet id.raw =
      some card.tap := by
    simp [Board.apply, hcard]
  simp only [report, hafter]
  refine hcache.toggles hnodup hmem hcard (keepsClass_tap id)
    (fun counter => sub32 counter card.sourceAmount) rfl ?_
  intro color hsource hclass
  have hmoved := untappedTotal_modify player Card.tap hnodup hmem color
  have hzero : (board.apply (.taps id)).worth player color id = 0 := by
    apply worth_of_tapped
    intro tapped htapped
    have hstored := (Option.filter_eq_some_iff.mp htapped).1
    rw [hafter] at hstored
    cases hstored
    rfl
  have hlt := hroom color
  rw [worth_eq hsource, if_pos ⟨hclass, huntap⟩] at hmoved
  simp only [Board.apply] at hmoved hzero
  rw [hzero, Nat.add_zero] at hmoved
  rw [← hmoved, Nat.add_comm] at hlt ⊢
  exact sub32_ofNat_add _ _ hlt

theorem Coherent.untaps (hcache : Coherent player board cache) {id : CardId}
    (hnodup : board.battlefield.Nodup) (hmem : id ∈ board.battlefield)
    {card : Card} (hcard : board.cards.tryGet id.raw = some card)
    (htap : card.tapped = true) :
    Coherent player (board.apply (.untaps id))
      (cache.report (board.apply (.untaps id)).cards (.untaps id)) := by
  have hafter : (board.apply (.untaps id)).cards.tryGet id.raw =
      some card.untap := by
    simp [Board.apply, hcard]
  simp only [report, hafter]
  refine hcache.toggles hnodup hmem hcard (keepsClass_untap id)
    (fun counter => counter + card.sourceAmount) rfl ?_
  intro color hsource hclass
  have hmoved := untappedTotal_modify player Card.untap hnodup hmem color
  have hzero : board.worth player color id = 0 := by
    rw [worth_eq hsource, if_neg fun howed => by simp [htap] at howed]
  have hsource' := @sourceOf_modify_self board player id _ (keepsClass_untap id)
  rw [hsource] at hsource'
  dsimp only at hmoved
  rw [hzero, Nat.add_zero, worth_eq hsource', if_pos ⟨hclass, rfl⟩] at hmoved
  rw [hmoved, UInt32.ofNat_add, UInt32.ofNat_toNat]
  rfl

theorem Coherent.revises (hcache : Coherent player board cache) {id : CardId}
    {revised : Card} (hnodup : board.battlefield.Nodup)
    (hadmits : board.Admits (.revises id revised)) :
    Coherent player (board.apply (.revises id revised)) cache := by
  by_cases hmem : id ∈ board.battlefield
  · obtain ⟨card, hcard, hsame⟩ := hadmits hmem
    have hkeeps : KeepsClass board id fun _ => revised := by
      intro stored hstored
      rw [hcard] at hstored
      cases hstored
      exact ⟨hsame.owner, hsame.isManaSource, hsame.sourceClass⟩
    refine hcache.of_modify hkeeps (by rfl) (by rfl) (by rfl)
      fun color => ?_
    have hmoved := untappedTotal_modify player
      (fun _ => revised) hnodup hmem color
    have hworth : Board.worth { board with
        cards := board.cards.modify id.raw fun _ => revised } player color id =
          board.worth player color id := by
      have hsource := sourceOf_modify_self player hkeeps
      cases hown : board.sourceOf player id with
      | none => 
          rw [hown] at hsource
          rw [worth_zero hown, worth_zero hsource]
      | some stored =>
          have hstored := (Option.filter_eq_some_iff.mp hown).1
          rw [hcard] at hstored
          cases hstored
          rw [hown] at hsource
          rw [worth_eq hown, worth_eq hsource, hsame.sourceClass,
            hsame.tapped, hsame.sourceAmount]
    rw [hcache.untapped]
    congr 1
    simp only at hmoved
    omega
  · -- Nobody looks at the card.
    have hsource : ∀ other ∈ board.battlefield,
        (board.apply (.revises id revised)).sourceOf player other =
          board.sourceOf player other := by
      intro other hother
      apply sourceOf_modify_ne
      rintro rfl
      exact hmem hother
    have hlist : ∀ cls, board.battlefield.filter (board.listed player cls) =
        board.battlefield.filter
          ((board.apply (.revises id revised)).listed player cls) := by
      intro cls
      apply List.filter_congr
      intro other hother
      rw [Board.listed, Board.listed, hsource other hother]
    constructor
    · exact hcache.playerId
    · intro color
      rw [hcache.sources, hlist]
      rfl
    · rw [hcache.complexSources, hlist]
      rfl
    · intro color
      have htotal : board.untappedTotal player color =
          (board.apply (.revises id revised)).untappedTotal player color := by
        apply congrArg List.sum
        apply List.map_congr_left
        intro other hother
        rw [Board.worth, Board.worth, hsource other hother]
      rw [hcache.untapped, htotal]

/-- Before a card is tapped or leaves, every untapped total is below 2^32. -/
def RoomToRemove (player : PlayerId) (board : Board) : BoardEvent → Prop
  | .leaves _ => ∀ color, board.untappedTotal player color < 2 ^ 32
  | .taps _ => ∀ color, board.untappedTotal player color < 2 ^ 32
  | .enters _ => True
  | .untaps _ => True
  | .revises _ _ => True

theorem Coherent.event {e : BoardEvent}
    (hcache : Coherent player board cache) (hnodup : board.battlefield.Nodup)
    (hadmits : board.Admits e) (hroom : RoomToRemove player board e) :
    Coherent player (board.apply e)
      (cache.report (board.apply e).cards e) := by
  cases e with
  | enters id => exact hcache.enters id
  | leaves id => exact hcache.leaves hadmits hroom
  | taps id =>
      obtain ⟨hmem, card, hcard, huntap⟩ := hadmits
      exact hcache.taps hnodup hmem hcard huntap hroom
  | untaps id =>
      obtain ⟨hmem, card, hcard, htap⟩ := hadmits
      exact hcache.untaps hnodup hmem hcard htap
  | revises id revised => exact hcache.revises hnodup hadmits

end Coherence

/-- No event brings a card onto the battlefield twice. -/
theorem apply_nodup {board : Board} {e : BoardEvent}
    (hnodup : board.battlefield.Nodup) (hadmits : board.Admits e) :
    (board.apply e).battlefield.Nodup := by
  cases e with
  | enters id =>
      exact List.nodup_append.mpr ⟨hnodup, List.nodup_singleton id, by
        rintro other hother _ hid rfl
        rw [List.mem_singleton] at hid
        subst hid
        exact hadmits.1 hother⟩
  | leaves id => exact hnodup.erase id
  | taps id => exact hnodup
  | untaps id => exact hnodup
  | revises id revised => exact hnodup

/-- Along every run the cache says what the board says. -/
theorem reached_coherent {player : PlayerId} {board : Board}
    {cache : ManaSourceCache}
    (hreached : Reached (RoomToRemove player) player board cache) :
    board.battlefield.Nodup ∧ Coherent player board cache := by
  induction hreached with
  | rebuilt hnodup => exact ⟨hnodup, rebuild_coherent (by rfl) _⟩
  | event hreached hadmits hok ih =>
      obtain ⟨hnodup, hcache⟩ := ih
      exact ⟨apply_nodup hnodup hadmits, hcache.event hnodup hadmits hok⟩

/-- After every run of reported events the lists, with their order, and the
totals are those of a rebuild of the resulting battlefield. -/
theorem reached_eq_rebuild {player : PlayerId} {board : Board}
    {cache : ManaSourceCache}
    (hreached : Reached (RoomToRemove player) player board cache) :
    cache.SameSources
      (cache.rebuildFromBattlefield board.battlefield board.cards) := by
  obtain ⟨-, hcache⟩ := reached_coherent hreached
  exact hcache.sameSources (rebuild_coherent hcache.playerId board)

/-- A land that taps for `amount` green mana. -/
def greenLand (amount : UInt8) (id : Nat) : Card where
  id := ⟨id⟩
  owner := ⟨0⟩
  controller := ⟨0⟩
  definition.cache.isLand := true
  definition.cache.isManaSource := true
  definition.cache.manaProduction := { kind := .fixed .green, amount := amount }

/-- The first `k` of `n` green lands on the battlefield. -/
def landBoard (amount : UInt8) (n k : Nat) : Board where
  battlefield := (List.range k).map CardId.mk
  cards := ⟨(List.range n).map fun id => some (greenLand amount id)⟩

theorem landBoard_tryGet (amount : UInt8) {n k id : Nat} (hlt : id < n) :
    (landBoard amount n k).cards.tryGet id = some (greenLand amount id) := by
  simp [landBoard, EntityStore.tryGet, hlt]

/-- The lands enter one by one. -/
theorem reached_landBoard {ok : Board → BoardEvent → Prop}
    (hok : ∀ board id, ok board (.enters id)) (amount : UInt8) (n : Nat) :
    ∀ k ≤ n, ∃ cache, Reached ok ⟨0⟩ (landBoard amount n k) cache ∧
      Coherent ⟨0⟩ (landBoard amount n k) cache := by
  intro k
  induction k with
  | zero =>
      intro _
      exact ⟨_, .rebuilt List.nodup_nil, rebuild_coherent (by rfl) _⟩
  | succ k ih =>
      intro hle
      obtain ⟨cache, hreached, hcache⟩ := ih (Nat.le_of_succ_le hle)
      have hnext : landBoard amount n (k + 1) =
          (landBoard amount n k).apply (.enters ⟨k⟩) := by
        simp [landBoard, Board.apply, List.range_succ]
      have hadmits : (landBoard amount n k).Admits (.enters ⟨k⟩) := by
        constructor
        · simp [landBoard]
        · rw [landBoard_tryGet amount hle]
          rfl
      rw [hnext]
      exact ⟨_, hreached.event hadmits (hok _ _), hcache.enters _⟩

/-- A forest enters and is tapped. -/
theorem reached_eq_rebuild_forest :
    ∃ board cache, Reached (RoomToRemove ⟨0⟩) ⟨0⟩ board cache ∧
      board.battlefield = [⟨0⟩] ∧ cache.SameSources
        (cache.rebuildFromBattlefield board.battlefield board.cards) := by
  obtain ⟨cache, hreached, -⟩ : ∃ cache, Reached (RoomToRemove ⟨0⟩) ⟨0⟩
      (landBoard 1 1 1) cache ∧ _ :=
    reached_landBoard (fun _ _ => trivial) 1 1 1 le_rfl
  have htapped : Reached (RoomToRemove ⟨0⟩) ⟨0⟩
      ((landBoard 1 1 1).apply (.taps ⟨0⟩)) _ :=
    hreached.event ⟨by decide, greenLand 1 0, rfl, rfl⟩
      (fun color => by cases color <;> decide)
  exact ⟨_, _, htapped, rfl, reached_eq_rebuild htapped⟩

theorem landBoard_worth (amount : UInt8) {n id : Nat} (k : Nat)
    (hlt : id < n) :
    (landBoard amount n k).sourceOf ⟨0⟩ ⟨id⟩ = some (greenLand amount id) ∧
      (landBoard amount n k).worth ⟨0⟩ .green ⟨id⟩ =
        (greenLand amount id).sourceAmount.toNat := by
  have hsource : (landBoard amount n k).sourceOf ⟨0⟩ ⟨id⟩ =
      some (greenLand amount id) := by
    rw [Board.sourceOf, landBoard_tryGet amount hlt]
    rfl
  exact ⟨hsource, by rw [worth_eq hsource, if_pos ⟨rfl, rfl⟩]⟩

theorem landBoard_untappedTotal (n : Nat) :
    (landBoard 255 n n).untappedTotal ⟨0⟩ .green = n * 255 := by
  have hall : ∀ value ∈ (landBoard 255 n n).battlefield.map
      ((landBoard 255 n n).worth ⟨0⟩ .green), value = 255 := by
    intro value hvalue
    obtain ⟨id, hid, rfl⟩ := List.mem_map.mp hvalue
    obtain ⟨i, hi, rfl⟩ := List.mem_map.mp hid
    exact (landBoard_worth 255 n (List.mem_range.mp hi)).2
  rw [Board.untappedTotal, List.sum_eq_card_nsmul _ 255 hall]
  simp [landBoard]

/-- Tapping the first of `n` lands: what the counter does, and what is left
on the board. -/
theorem tap_landBoard {n : Nat} (hpos : 0 < n) {cache : ManaSourceCache}
    (hcache : Coherent ⟨0⟩ (landBoard 255 n n) cache) :
    (cache.report ((landBoard 255 n n).apply (.taps ⟨0⟩)).cards
        (.taps ⟨0⟩)).untapped .green = sub32 (UInt32.ofNat (n * 255)) 255 ∧
      ((landBoard 255 n n).apply (.taps ⟨0⟩)).untappedTotal ⟨0⟩ .green =
        n * 255 - 255 := by
  have hmem : (⟨0⟩ : CardId) ∈ (landBoard 255 n n).battlefield := by
    simp [landBoard, hpos]
  have hnodup : (landBoard 255 n n).battlefield.Nodup := by
    apply List.Nodup.map _ List.nodup_range
    intro i j heq
    exact CardId.mk.inj heq
  have hafter : ((landBoard 255 n n).apply (.taps ⟨0⟩)).cards.tryGet 0 =
      some (greenLand 255 0).tap := by
    simp [Board.apply, landBoard_tryGet 255 hpos]
  obtain ⟨hsource, hworth⟩ := landBoard_worth 255 n hpos
  constructor
  · have htracks : cache.tracks (greenLand 255 0).tap = true := by
      rw [tracks, hcache.playerId]
      rfl
    have hcolor : cache.colorOf ⟨0⟩ = some .green :=
      hcache.colorOf hmem hsource
    simp only [report, hafter, onTap, htracks, if_true, hcolor]
    rw [Function.update_self, hcache.untapped, landBoard_untappedTotal]
    rfl
  · have hmoved := untappedTotal_modify ⟨0⟩ Card.tap hnodup hmem
      .green
    have hzero : ((landBoard 255 n n).apply (.taps ⟨0⟩)).worth ⟨0⟩ .green ⟨0⟩ =
        0 := by
      apply worth_of_tapped
      intro card hcard
      have hstored := (Option.filter_eq_some_iff.mp hcard).1
      rw [hafter] at hstored
      cases hstored
      rfl
    have hworth' : (greenLand 255 0).sourceAmount.toNat = 255 := by decide
    rw [hworth, hworth', landBoard_untappedTotal] at hmoved
    rw [Board.apply] at hzero ⊢
    omega

/-- With 16843010 lands that tap for 255 mana the counter has wrapped to 254
when the first one is tapped. -/
theorem reached_not_eq_rebuild :
    ∃ cache, Reached (fun _ _ => True) ⟨0⟩
      ((landBoard 255 16843010 16843010).apply (.taps ⟨0⟩)) cache ∧
      ¬ cache.SameSources (cache.rebuildFromBattlefield
        ((landBoard 255 16843010 16843010).apply (.taps ⟨0⟩)).battlefield
        ((landBoard 255 16843010 16843010).apply (.taps ⟨0⟩)).cards) := by
  generalize hn : 16843010 = n
  have hpos : 0 < n := by omega
  obtain ⟨cache, hreached, hcache⟩ : ∃ cache, Reached (fun _ _ => True) ⟨0⟩
      (landBoard 255 n n) cache ∧ Coherent ⟨0⟩ (landBoard 255 n n) cache :=
    reached_landBoard (fun _ _ => trivial) 255 n n le_rfl
  obtain ⟨hcounter, htotal⟩ := tap_landBoard hpos hcache
  have hadmits : (landBoard 255 n n).Admits (.taps ⟨0⟩) :=
    ⟨by simp [landBoard, hpos], _, landBoard_tryGet 255 hpos, rfl⟩
  refine ⟨_, hreached.event hadmits trivial, fun hsame => ?_⟩
  have hrebuilt := (rebuild_coherent
    ((report_playerId cache ((landBoard 255 n n).apply (.taps ⟨0⟩)).cards
      (.taps ⟨0⟩)).trans hcache.playerId)
    ((landBoard 255 n n).apply (.taps ⟨0⟩))).untapped .green
  rw [← congrFun hsame.untapped .green, hcounter, htotal, ← hn] at hrebuilt
  revert hrebuilt
  decide

end ManaSourceCache

end DeepScry
