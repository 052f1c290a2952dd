/-
The library searches of an opponent as an observer replays them: when the
lookup in the reveal log returns what the search at a position found.
-/
import DeepScry.StateSyncRun

namespace DeepScry

/-- The card an opponent fetched, told by a reveal of a search that hides its
name. -/
def fetchOf (searcher : PlayerId) : StateSyncEntry → Option CardId
  | .revealCard owner card reason =>
      if owner != searcher || reason != .searched || !card.name.isEmpty then
        none
      else some card.cardId
  | _ => none

theorem fetchOf_eq_some_iff {searcher : PlayerId} {entry : StateSyncEntry}
    {card : CardId} :
    fetchOf searcher entry = some card ↔
      ∃ reveal, entry = .revealCard searcher reveal .searched ∧
        reveal.name.isEmpty = true ∧ reveal.cardId = card := by
  cases entry with
  | revealCard owner reveal reason =>
      simp only [fetchOf, StateSyncEntry.revealCard.injEq]
      constructor
      · intro hfetch
        split at hfetch
        · cases hfetch
        · next hdummy =>
          simp only [Bool.or_eq_true, bne_iff_ne, ne_eq, Bool.not_eq_true',
            not_or, not_not, Bool.not_eq_false] at hdummy
          obtain ⟨⟨rfl, rfl⟩, hname⟩ := hdummy
          exact ⟨reveal, ⟨rfl, rfl, rfl⟩, hname, Option.some.inj hfetch⟩
      · rintro ⟨other, ⟨rfl, rfl, rfl⟩, hname, rfl⟩
        simp [hname]
  | _ => simp [fetchOf]

namespace StateSyncBuffer

/-- Keep the match with the greatest action count up to the target; of two, the
later one in the log. -/
def pickFetch (searcher : PlayerId) (targetAction : Nat)
    (best : Option (Nat × CardId)) (entry : Nat × StateSyncEntry) :
    Option (Nat × CardId) :=
  match fetchOf searcher entry.2 with
  | none => best
  | some card =>
      if entry.1 ≤ targetAction &&
          best.all fun found => found.1 ≤ entry.1 then
        some (entry.1, card)
      else best

/-- `searched_card_for`. -/
def searchedCardFor (buf : StateSyncBuffer) (searcher : PlayerId)
    (targetAction : Nat) : Option CardId :=
  (buf.revealLog.entries.foldl (pickFetch searcher targetAction) none).map
    Prod.snd

/-- The best match among the entries up to the target. -/
structure Picked (searcher : PlayerId) (targetAction : Nat)
    (entries : List (Nat × StateSyncEntry))
    (best : Option (Nat × CardId)) : Prop where
  matching : ∀ found ∈ best, found.1 ≤ targetAction ∧ ∃ entry,
    (found.1, entry) ∈ entries ∧ fetchOf searcher entry = some found.2
  greatest : ∀ entry ∈ entries, (fetchOf searcher entry.2).isSome →
    entry.1 ≤ targetAction → ∃ found ∈ best, entry.1 ≤ found.1

variable {searcher : PlayerId} {targetAction : Nat}

theorem Picked.step {entries : List (Nat × StateSyncEntry)}
    {best : Option (Nat × CardId)}
    (hpicked : Picked searcher targetAction entries best)
    (entry : Nat × StateSyncEntry) :
    Picked searcher targetAction (entries ++ [entry])
      (pickFetch searcher targetAction best entry) := by
  have hold : ∀ found ∈ best, found.1 ≤ targetAction ∧ ∃ other,
      (found.1, other) ∈ entries ++ [entry] ∧
        fetchOf searcher other = some found.2 := by
    intro found hfound
    obtain ⟨hle, other, hmem, hfetch⟩ := hpicked.matching found hfound
    exact ⟨hle, other, List.mem_append_left _ hmem, hfetch⟩
  rw [pickFetch]
  cases hfetch : fetchOf searcher entry.2 with
  | none =>
      refine ⟨hold, ?_⟩
      intro other hmem hsome hle
      rcases List.mem_append.mp hmem with hmem | hmem
      · exact hpicked.greatest other hmem hsome hle
      · rw [List.mem_singleton.mp hmem, hfetch] at hsome
        cases hsome
  | some card =>
      dsimp only
      split
      · next hbetter =>
        rw [Bool.and_eq_true, decide_eq_true_eq, Option.all_eq_true]
          at hbetter
        obtain ⟨hle, habove⟩ := hbetter
        constructor
        · intro found hfound
          cases Option.mem_some_iff.mp hfound
          exact ⟨hle, entry.2, by simp, hfetch⟩
        · intro other hmem hsome hother
          refine ⟨_, rfl, ?_⟩
          rcases List.mem_append.mp hmem with hmem | hmem
          · obtain ⟨found, hfound, hbelow⟩ :=
              hpicked.greatest other hmem hsome hother
            exact hbelow.trans (of_decide_eq_true (habove found hfound))
          · rw [List.mem_singleton.mp hmem]
      · next hworse =>
        refine ⟨hold, ?_⟩
        intro other hmem hsome hother
        rcases List.mem_append.mp hmem with hmem | hmem
        · exact hpicked.greatest other hmem hsome hother
        · rw [List.mem_singleton.mp hmem] at hother ⊢
          rw [Bool.and_eq_true, decide_eq_true_eq, Option.all_eq_true]
            at hworse
          simp only [hother, decide_eq_true_eq, true_and, not_forall]
            at hworse
          obtain ⟨found, hfound, hlt⟩ := hworse
          exact ⟨found, hfound, (Nat.lt_of_not_le hlt).le⟩

theorem picked_foldl (entries : List (Nat × StateSyncEntry)) :
    Picked searcher targetAction entries
      (entries.foldl (pickFetch searcher targetAction) none) := by
  induction entries using List.reverseRecOn with
  | nil => constructor <;> simp
  | append_singleton entries entry ih =>
      rw [List.foldl_append]
      exact ih.step entry

end StateSyncBuffer

/-- One search of a library: whose, at which action count, and the card that it
found, if any. -/
structure LibrarySearch where
  searcher : PlayerId
  actionCount : Nat
  found : Option CardId
deriving DecidableEq

open StateSyncBuffer

section Observing

variable (processCardReveal :
  GameState → PlayerId → CardReveal → RevealReason → GameState)

/-- The searches of a game as they reach the log of the observer.  Only a
search that finds a card is told, by one reveal at its own action count; other
deltas and resends arrive in between, entries are applied, and a rewind resets
the cursors for the replay. -/
inductive Observes : List LibrarySearch → StateSyncBuffer → Prop where
  | start : Observes [] {}
  | found {searches : List LibrarySearch} {buf after : StateSyncBuffer}
      {searcher : PlayerId} {actionCount : Nat} {card : CardId}
      {entry : StateSyncEntry} (hobserves : Observes searches buf)
      (hlater : ∀ earlier ∈ searches, earlier.actionCount < actionCount)
      (hnew : buf.revealLog.get actionCount = none)
      (hentry : fetchOf searcher entry = some card)
      (hpush : buf.pushStateSyncAt actionCount entry = some after) :
      Observes (searches ++ [⟨searcher, actionCount, some card⟩]) after
  | failed {searches : List LibrarySearch} {buf : StateSyncBuffer}
      {searcher : PlayerId} {actionCount : Nat}
      (hobserves : Observes searches buf)
      (hlater : ∀ earlier ∈ searches, earlier.actionCount < actionCount) :
      Observes (searches ++ [⟨searcher, actionCount, none⟩]) buf
  | other {searches : List LibrarySearch} {buf after : StateSyncBuffer}
      {actionCount : Nat} {entry : StateSyncEntry}
      (hobserves : Observes searches buf)
      (hother : (∀ searcher, fetchOf searcher entry = none) ∨
        (buf.revealLog.get actionCount).isSome)
      (hpush : buf.pushStateSyncAt actionCount entry = some after) :
      Observes searches after
  | applied {searches : List LibrarySearch} {buf : StateSyncBuffer}
      (hobserves : Observes searches buf) (shadow : ShadowGame)
      (watermark targetAction : Nat) :
      Observes searches (buf.applyStateSyncUpToFrontier processCardReveal
        shadow watermark targetAction).1
  | rewound {searches : List LibrarySearch} {buf : StateSyncBuffer}
      (hobserves : Observes searches buf) :
      Observes searches buf.resetStateSyncCursor

/-- The hidden fetches in the log are the searches that found a card. -/
structure TracksSearches (searches : List LibrarySearch)
    (buf : StateSyncBuffer) : Prop where
  increasing : searches.Pairwise fun search later =>
    search.actionCount < later.actionCount
  logged : ∀ entry ∈ buf.revealLog.entries, ∀ searcher card,
    fetchOf searcher entry.2 = some card →
      ⟨searcher, entry.1, some card⟩ ∈ searches
  told : ∀ search ∈ searches, ∀ card, search.found = some card →
    ∃ entry, (search.actionCount, entry) ∈ buf.revealLog.entries ∧
      fetchOf search.searcher entry = some card

variable {processCardReveal} {searches : List LibrarySearch}
  {buf after : StateSyncBuffer}

theorem TracksSearches.congr (htracks : TracksSearches searches buf)
    (hsame : after.revealLog = buf.revealLog) :
    TracksSearches searches after := by
  refine ⟨htracks.increasing, ?_, ?_⟩ <;> rw [hsame]
  · exact htracks.logged
  · exact htracks.told

theorem increasing_concat (htracks : TracksSearches searches buf)
    {search : LibrarySearch}
    (hlater : ∀ earlier ∈ searches,
      earlier.actionCount < search.actionCount) :
    (searches ++ [search]).Pairwise fun search later =>
      search.actionCount < later.actionCount := by
  rw [List.pairwise_append]
  refine ⟨htracks.increasing, List.pairwise_singleton _ _, ?_⟩
  intro earlier hmem later hlast
  rw [List.mem_singleton.mp hlast]
  exact hlater earlier hmem

theorem fetchOf_unique {searcher other : PlayerId} {entry : StateSyncEntry}
    {card card' : CardId} (hfetch : fetchOf searcher entry = some card)
    (hfetch' : fetchOf other entry = some card') :
    other = searcher ∧ card' = card := by
  obtain ⟨reveal, rfl, -, rfl⟩ := fetchOf_eq_some_iff.mp hfetch
  obtain ⟨reveal', heq, -, rfl⟩ := fetchOf_eq_some_iff.mp hfetch'
  cases heq
  exact ⟨rfl, rfl⟩

/-- A push that does not panic leaves the reveals, for a reorder or a resend,
or adds its own entry. -/
theorem pushStateSyncAt_reveals {actionCount : Nat} {entry : StateSyncEntry}
    (hpush : buf.pushStateSyncAt actionCount entry = some after) :
    after.revealLog = buf.revealLog ∧
        (entry.isLibraryReorder = true ∨
          (buf.revealLog.get actionCount).isSome) ∨
      (buf.revealLog.get actionCount).isSome = false ∧
        buf.revealLog.insertSorted actionCount entry =
          some after.revealLog := by
  rcases pushStateSyncAt_cases hpush with ⟨rfl, hresent⟩ |
    ⟨hclass, -, -, log, -, rfl⟩ | ⟨hclass, -, hnew, log, hinsert, rfl⟩
  · left
    refine ⟨rfl, ?_⟩
    cases hclass : entry.isLibraryReorder with
    | true => exact Or.inl rfl
    | false =>
        rw [Resent, hclass] at hresent
        exact Or.inr hresent
  · exact Or.inl ⟨rfl, Or.inl hclass⟩
  · right
    rw [Resent, hclass] at hnew
    exact ⟨Bool.eq_false_iff.mpr hnew, hinsert⟩

theorem TracksSearches.found (htracks : TracksSearches searches buf)
    {searcher : PlayerId} {actionCount : Nat} {card : CardId}
    {entry : StateSyncEntry}
    (hlater : ∀ earlier ∈ searches, earlier.actionCount < actionCount)
    (hentry : fetchOf searcher entry = some card)
    (hinsert : buf.revealLog.insertSorted actionCount entry =
      some after.revealLog) :
    TracksSearches (searches ++ [⟨searcher, actionCount, some card⟩])
      after := by
  have hentries := ActionLog.insertSorted_eq_some hinsert
  refine ⟨increasing_concat htracks hlater, ?_, ?_⟩
  · intro logged hmem other card' hfetch
    rw [hentries] at hmem
    rcases SortedMap.mem_insert hmem with rfl | hmem
    · obtain ⟨rfl, rfl⟩ := fetchOf_unique hentry hfetch
      simp
    · exact List.mem_append_left _ (htracks.logged logged hmem other _ hfetch)
  · intro search hmem card' hfound
    rcases List.mem_append.mp hmem with hmem | hmem
    · obtain ⟨told, htold, hfetch⟩ := htracks.told search hmem card' hfound
      exact ⟨told, ActionLog.subset_of_insertSorted hinsert htold, hfetch⟩
    · rw [List.mem_singleton.mp hmem] at hfound ⊢
      cases hfound
      exact ⟨entry, ActionLog.mem_of_insertSorted hinsert, hentry⟩

theorem TracksSearches.failed (htracks : TracksSearches searches buf)
    {searcher : PlayerId} {actionCount : Nat}
    (hlater : ∀ earlier ∈ searches, earlier.actionCount < actionCount) :
    TracksSearches (searches ++ [⟨searcher, actionCount, none⟩]) buf := by
  refine ⟨increasing_concat htracks hlater, ?_, ?_⟩
  · intro logged hmem other card hfetch
    exact List.mem_append_left _ (htracks.logged logged hmem other card hfetch)
  · intro search hmem card hfound
    rcases List.mem_append.mp hmem with hmem | hmem
    · exact htracks.told search hmem card hfound
    · rw [List.mem_singleton.mp hmem] at hfound
      cases hfound

theorem TracksSearches.other (htracks : TracksSearches searches buf)
    {actionCount : Nat} {entry : StateSyncEntry}
    (hother : ∀ searcher, fetchOf searcher entry = none)
    (hinsert : buf.revealLog.insertSorted actionCount entry =
      some after.revealLog) :
    TracksSearches searches after := by
  have hentries := ActionLog.insertSorted_eq_some hinsert
  refine ⟨htracks.increasing, ?_, ?_⟩
  · intro logged hmem searcher card hfetch
    rw [hentries] at hmem
    rcases SortedMap.mem_insert hmem with rfl | hmem
    · rw [hother searcher] at hfetch
      cases hfetch
    · exact htracks.logged logged hmem searcher card hfetch
  · intro search hmem card hfound
    obtain ⟨told, htold, hfetch⟩ := htracks.told search hmem card hfound
    exact ⟨told, ActionLog.subset_of_insertSorted hinsert htold, hfetch⟩

theorem applyStateSyncUpToFrontier_revealLog (shadow : ShadowGame)
    (watermark targetAction : Nat) :
    (buf.applyStateSyncUpToFrontier processCardReveal shadow watermark
      targetAction).1.revealLog = buf.revealLog := by
  simp only [applyStateSyncUpToFrontier]
  split <;> simp [applyInitialLibraryOrders_eq]

/-- Over the whole run the log keeps track of the searches. -/
theorem Observes.tracks (hobserves : Observes processCardReveal searches buf) :
    TracksSearches searches buf := by
  induction hobserves with
  | start => constructor <;> simp [ActionLog.new]
  | found _ hlater hnew hentry hpush ih =>
      rcases pushStateSyncAt_reveals hpush with ⟨-, hclass | hresent⟩ |
        ⟨-, hinsert⟩
      · obtain ⟨reveal, rfl, -⟩ := fetchOf_eq_some_iff.mp hentry
        cases hclass
      · rw [hnew] at hresent
        cases hresent
      · exact ih.found hlater hentry hinsert
  | failed _ hlater ih => exact ih.failed hlater
  | other _ hother hpush ih =>
      rcases pushStateSyncAt_reveals hpush with ⟨hsame, -⟩ |
        ⟨hnone, hinsert⟩
      · exact ih.congr hsame
      · rcases hother with hother | hresent
        · exact ih.other hother hinsert
        · rw [hnone] at hresent
          cases hresent
  | applied _ shadow watermark targetAction ih =>
      exact ih.congr
        (applyStateSyncUpToFrontier_revealLog shadow watermark targetAction)
  | rewound _ ih => exact ih.congr rfl

/-- Two searches at one action count are one. -/
theorem TracksSearches.eq_of_actionCount
    (htracks : TracksSearches searches buf) {search other : LibrarySearch}
    (hmem : search ∈ searches) (hother : other ∈ searches)
    (hsame : search.actionCount = other.actionCount) : search = other := by
  by_contra hne
  have hdistinct : searches.Pairwise fun search later =>
      search.actionCount ≠ later.actionCount :=
    htracks.increasing.imp fun hlt => hlt.ne
  have : Std.Symm fun search later : LibrarySearch =>
      search.actionCount ≠ later.actionCount := ⟨fun _ _ hne => hne.symm⟩
  exact hdistinct.forall hmem hother hne hsame

/-- A search that finds a card is looked up as that card. -/
theorem TracksSearches.searchedCardFor_found
    (htracks : TracksSearches searches buf) {search : LibrarySearch}
    (hmem : search ∈ searches) {card : CardId}
    (hfound : search.found = some card) :
    buf.searchedCardFor search.searcher search.actionCount = some card := by
  have hpicked : Picked search.searcher search.actionCount
      buf.revealLog.entries _ := picked_foldl buf.revealLog.entries
  obtain ⟨told, htold, hfetch⟩ := htracks.told search hmem card hfound
  obtain ⟨best, hbest, hle⟩ := hpicked.greatest _ htold
    (by rw [hfetch]; rfl) le_rfl
  obtain ⟨hbound, entry, hentry, hother⟩ := hpicked.matching best hbest
  have hsame : search.actionCount = best.1 := le_antisymm hle hbound
  have hsearch := htracks.eq_of_actionCount hmem
    (htracks.logged _ hentry _ _ hother) hsame
  rw [hsearch] at hfound
  cases hfound
  rw [searchedCardFor, Option.mem_def.mp hbest]
  rfl

/-- A search that finds nothing is looked up as the last card that the same
player fetched before it. -/
theorem TracksSearches.searchedCardFor_failed
    (htracks : TracksSearches searches buf) {search : LibrarySearch}
    (hmem : search ∈ searches) (hfailed : search.found = none) :
    buf.searchedCardFor search.searcher search.actionCount = none ↔
      ∀ earlier ∈ searches, earlier.searcher = search.searcher →
        earlier.actionCount < search.actionCount → earlier.found = none := by
  have hpicked : Picked search.searcher search.actionCount
      buf.revealLog.entries _ := picked_foldl buf.revealLog.entries
  rw [searchedCardFor, Option.map_eq_none_iff]
  constructor
  · intro hnone earlier hearlier hsearcher hlt
    rw [hnone] at hpicked
    by_contra hcard
    obtain ⟨card, hcard⟩ := Option.ne_none_iff_exists'.mp hcard
    obtain ⟨told, htold, hfetch⟩ := htracks.told earlier hearlier card hcard
    rw [hsearcher] at hfetch
    obtain ⟨best, hbest, -⟩ := hpicked.greatest _ htold
      (by rw [hfetch]; rfl) hlt.le
    cases hbest
  · intro hnever
    rw [Option.eq_none_iff_forall_not_mem]
    intro best hbest
    obtain ⟨hbound, entry, hentry, hfetch⟩ := hpicked.matching best hbest
    have hlogged := htracks.logged _ hentry _ _ hfetch
    rcases hbound.lt_or_eq with hlt | hsame
    · cases hnever _ hlogged rfl hlt
    · rw [← htracks.eq_of_actionCount hlogged hmem hsame] at hfailed
      cases hfailed

/-- At each search, in the first pass and in every replay, the lookup returns
what the search found exactly when a search that fails comes after no
successful one of the same player. -/
theorem Observes.searchedCardFor_iff
    (hobserves : Observes processCardReveal searches buf)
    {search : LibrarySearch} (hmem : search ∈ searches) :
    buf.searchedCardFor search.searcher search.actionCount = search.found ↔
      (search.found = none → ∀ earlier ∈ searches,
        earlier.searcher = search.searcher →
          earlier.actionCount < search.actionCount →
            earlier.found = none) := by
  cases hfound : search.found with
  | none =>
      rw [hobserves.tracks.searchedCardFor_failed hmem hfound]
      simp
  | some card =>
      simp [hobserves.tracks.searchedCardFor_found hmem hfound]

end Observing

/-- A search at 10 fetches card 7, and the search at 20 fails. -/
def fetchThenDecline : List LibrarySearch :=
  [⟨⟨1⟩, 10, some ⟨7⟩⟩, ⟨⟨1⟩, 20, none⟩]

/-- The reveal that hides the name of the fetched card. -/
def fetchReveal : StateSyncEntry :=
  .revealCard ⟨1⟩ { cardId := ⟨7⟩, name := "" } .searched

/-- What the observer has logged after the two searches. -/
def fetchThenDeclineLog : StateSyncBuffer :=
  { revealLog := ⟨[(10, fetchReveal)], List.pairwise_singleton _ _⟩ }

theorem fetchThenDecline_observed :
    Observes (fun game _ _ _ => game) fetchThenDecline
      fetchThenDeclineLog := by
  have hfetch : fetchOf ⟨1⟩ fetchReveal = some ⟨7⟩ :=
    fetchOf_eq_some_iff.mpr ⟨_, rfl, rfl, rfl⟩
  have hfound : Observes (fun game _ _ _ => game)
      ([] ++ [⟨⟨1⟩, 10, some ⟨7⟩⟩]) fetchThenDeclineLog :=
    .found .start (by simp) rfl hfetch rfl
  exact hfound.failed (by simp)

theorem fetchThenDecline_searchedCardFor :
    fetchThenDeclineLog.searchedCardFor ⟨1⟩ 10 = some ⟨7⟩ := by
  have hmem : (⟨⟨1⟩, 10, some ⟨7⟩⟩ : LibrarySearch) ∈ fetchThenDecline := by
    decide
  refine (Observes.searchedCardFor_iff fetchThenDecline_observed hmem).mpr ?_
  intro hnone
  cases hnone

/-- The lookup for the search that failed returns the card of the search before
it. -/
theorem searchedCardFor_after_decline :
    ∃ searches buf, Observes (fun game _ _ _ => game) searches buf ∧
      ¬∀ search ∈ searches,
        buf.searchedCardFor search.searcher search.actionCount =
          search.found := by
  refine ⟨fetchThenDecline, fetchThenDeclineLog, fetchThenDecline_observed, ?_⟩
  intro hall
  have hdeclined : fetchThenDeclineLog.searchedCardFor ⟨1⟩ 20 = none :=
    hall ⟨⟨1⟩, 20, none⟩ (by decide)
  exact absurd hdeclined (by decide)

end DeepScry
