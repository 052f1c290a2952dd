/-
Keywords granted until end of turn, and what clearing them gives back.
-/
import DeepScry.KeywordTable

namespace DeepScry

namespace KeywordTable

/-- The keywords of a card, and those it has until end of turn. -/
structure Card where
  keywords : KeywordSet := .new
  tempKeywordsUntilEot : KeywordSet := .new

/-- A plain or a parameterised keyword to be granted. -/
inductive Grant where
  | plain (keyword : Keyword)
  | parameterised (args : KeywordArgs)

namespace Grant

def keyword : Grant → Keyword
  | plain keyword => keyword
  | parameterised args => args.keyword

/-- The arguments that come with a grant. -/
def stored : Grant → List KeywordArgs
  | plain _ => []
  | parameterised args => [args]

def isFiltered (grant : Grant) : Bool :=
  grant.stored.any KeywordArgs.isFiltered

/-- The grant can be taken back: its arguments go with their keyword, and a
build that checks its assertions does not panic on it. -/
def Clears (debug : Bool) (grant : Grant) : Prop :=
  grant.isFiltered = false ∧ (debug → grant.keyword.isComplex = false)

/-- The grant names a keyword that the card has not, and that no earlier grant
of the sequence names. -/
def Adds (keywords : KeywordSet) (grants : List Grant) (grant : Grant) :
    Prop :=
  ∃ before after, grants = before ++ grant :: after ∧
    keywords.contains grant.keyword = false ∧
    ∀ earlier ∈ before, earlier.keyword ≠ grant.keyword

end Grant

namespace Card

/-- `grant_keyword_until_eot`: the card, and whether the keyword is new. -/
def grantKeywordUntilEot (debug : Bool) (card : Card) (keyword : Keyword) :
    Option (Card × Bool) :=
  if card.keywords.contains keyword then some (card, false)
  else do
    let keywords ← card.keywords.insert debug keyword
    let temp ← card.tempKeywordsUntilEot.insert debug keyword
    return ({ keywords, tempKeywordsUntilEot := temp }, true)

/-- `grant_keyword_args_until_eot`, which tracks the keyword with the plain
`insert`. -/
def grantKeywordArgsUntilEot (debug : Bool) (card : Card)
    (args : KeywordArgs) : Option (Card × Bool) :=
  if card.keywords.contains args.keyword then some (card, false)
  else do
    let temp ← card.tempKeywordsUntilEot.insert debug args.keyword
    return ({ keywords := card.keywords.insertComplex args,
              tempKeywordsUntilEot := temp }, true)

def clearTempKeywordsUntilEot (card : Card) : Card where
  keywords := card.tempKeywordsUntilEot.iter.foldl .remove card.keywords
  tempKeywordsUntilEot := .new

def grant (debug : Bool) (card : Card) : Grant → Option (Card × Bool)
  | .plain keyword => card.grantKeywordUntilEot debug keyword
  | .parameterised args => card.grantKeywordArgsUntilEot debug args

/-- A sequence of grants, or a panic where the build checks its assertions. -/
def grantAll (debug : Bool) (card : Card) (grants : List Grant) :
    Option Card :=
  grants.foldlM (fun card given => (card.grant debug given).map Prod.fst) card

end Card

namespace Grant

variable {keywords : KeywordSet} {grants : List Grant} {given first : Grant}

theorem keyword_of_mem_stored {args : KeywordArgs}
    (hargs : args ∈ given.stored) : args.keyword = given.keyword := by
  cases given <;> simp_all [stored, keyword]

theorem adds_cons :
    Adds keywords (first :: grants) given ↔
      (given = first ∧ keywords.contains first.keyword = false) ∨
        (Adds keywords grants given ∧ first.keyword ≠ given.keyword) := by
  constructor
  · rintro ⟨before, after, hsplit, habsent, hearlier⟩
    cases before with
    | nil =>
      obtain ⟨rfl, -⟩ := List.cons.inj hsplit
      exact .inl ⟨rfl, habsent⟩
    | cons head before =>
      obtain ⟨rfl, hrest⟩ := List.cons.inj hsplit
      simp only [List.mem_cons, forall_eq_or_imp] at hearlier
      exact .inr ⟨⟨before, after, hrest, habsent, hearlier.2⟩, hearlier.1⟩
  · rintro (⟨rfl, habsent⟩ | ⟨⟨before, after, rfl, habsent, hearlier⟩, hne⟩)
    · exact ⟨[], grants, rfl, habsent, by simp⟩
    · refine ⟨first :: before, after, rfl, habsent, ?_⟩
      simp only [List.mem_cons, forall_eq_or_imp]
      exact ⟨hne, hearlier⟩

theorem Adds.absent (hadds : Adds keywords grants given) :
    keywords.contains given.keyword = false := by
  obtain ⟨_, _, _, habsent, _⟩ := hadds
  exact habsent

end Grant

namespace KeywordSet

variable {set : KeywordSet} {keyword : Keyword}

@[simp] theorem mem_iter : keyword ∈ set.iter ↔ keyword ∈ set.keywords := by
  simp [iter]

theorem keywords_foldl_remove (removed : List Keyword) :
    keyword ∈ (removed.foldl remove set).keywords ↔
      keyword ∈ set.keywords ∧ keyword ∉ removed := by
  induction removed generalizing set with
  | nil => simp
  | cons first removed ih =>
    simp only [List.foldl_cons, ih, remove, Finset.mem_sdiff,
      Finset.mem_singleton, List.mem_cons, not_or, and_assoc]

theorem args_foldl_remove (removed : List Keyword) :
    (removed.foldl remove set).args = set.args.filter fun args =>
      !(args.keyword.isComplex && removed.contains args.keyword) := by
  induction removed generalizing set with
  | nil => simp
  | cons first removed ih =>
    rw [List.foldl_cons, ih, remove]
    split
    · next hcomplex =>
      rw [List.filter_filter]
      apply List.filter_congr
      intro args _
      by_cases hfirst : args.keyword = first <;> simp [hfirst, hcomplex]
    · next hsimple =>
      apply List.filter_congr
      intro args _
      by_cases hfirst : args.keyword = first <;> simp [hfirst, hsimple]

/-- How many stored arguments belong to a keyword that takes none. -/
def filteredCount (set : KeywordSet) : Nat :=
  set.args.countP KeywordArgs.isFiltered

/-- Removals leave every filtered argument where it is. -/
theorem filteredCount_foldl_remove (removed : List Keyword) :
    (removed.foldl remove set).filteredCount = set.filteredCount := by
  rw [filteredCount, args_foldl_remove, List.countP_filter, filteredCount]
  apply List.countP_congr
  intro args _
  rw [args.isComplex_keyword]
  cases args.isFiltered <;> simp

end KeywordSet

namespace Card

variable {debug : Bool} {start card next : Card} {given : Grant}
  {grants : List Grant}

/-- The card with a keyword that it did not have. -/
def added (card : Card) (given : Grant) : Card where
  keywords :=
    { keywords := card.keywords.keywords ∪ {given.keyword},
      args := card.keywords.args ++ given.stored }
  tempKeywordsUntilEot :=
    { card.tempKeywordsUntilEot with
      keywords := card.tempKeywordsUntilEot.keywords ∪ {given.keyword} }

theorem grant_eq :
    (card.grant debug given).map Prod.fst =
      if card.keywords.contains given.keyword then some card
      else if debug && given.keyword.isComplex then none
      else some (card.added given) := by
  cases hc : card.keywords.contains given.keyword with
  | true =>
    cases given <;> simp_all [grant, grantKeywordUntilEot,
      grantKeywordArgsUntilEot, Grant.keyword]
  | false =>
    cases hbuild : debug && given.keyword.isComplex with
    | true =>
      cases given <;> simp_all [grant, grantKeywordUntilEot,
        grantKeywordArgsUntilEot, Grant.keyword, KeywordSet.insert]
    | false =>
      cases given with
      | plain keyword =>
        have hinsert (set : KeywordSet) := set.insert_of_build hbuild
        simp_all [grant, grantKeywordUntilEot, Grant.keyword, added,
          Grant.stored]
      | parameterised args =>
        have hinsert (set : KeywordSet) := set.insert_of_build hbuild
        simp_all [grant, grantKeywordArgsUntilEot, Grant.keyword, added,
          Grant.stored, KeywordSet.insertComplex]

theorem grantAll_cons :
    card.grantAll debug (given :: grants) =
      if card.keywords.contains given.keyword then card.grantAll debug grants
      else if debug && given.keyword.isComplex then none
      else (card.added given).grantAll debug grants := by
  rw [grantAll, List.foldlM_cons, grant_eq]
  split <;> [rfl; split] <;> rfl

/-- The card has gained keywords and arguments that a clearing takes away. -/
def Held (start card : Card) : Prop :=
  ∃ (new : Finset Keyword) (extra : List KeywordArgs),
    card.keywords.keywords = start.keywords.keywords ∪ new ∧
    card.tempKeywordsUntilEot.keywords =
      start.tempKeywordsUntilEot.keywords ∪ new ∧
    (∀ keyword ∈ new, keyword ∉ start.keywords.keywords) ∧
    card.keywords.args = start.keywords.args ++ extra ∧
    ∀ args ∈ extra, args.keyword ∈ new ∧ args.keyword.isComplex = true

theorem Held.refl (start : Card) : Held start start :=
  ⟨∅, [], by simp⟩

theorem Held.added (hheld : Held start card) (hclears : given.Clears debug)
    (habsent : card.keywords.contains given.keyword = false) :
    Held start (card.added given) := by
  obtain ⟨new, extra, hkeywords, htemp, hnew, hargs, hextra⟩ := hheld
  refine ⟨new ∪ {given.keyword}, extra ++ given.stored, ?_, ?_, ?_, ?_, ?_⟩
  · simp [Card.added, hkeywords]
  · simp [Card.added, htemp]
  · simp only [KeywordSet.contains, hkeywords, decide_eq_false_iff_not,
      Finset.mem_union, not_or] at habsent
    simp only [Finset.mem_union, Finset.mem_singleton]
    rintro keyword (hkeyword | rfl)
    · exact hnew keyword hkeyword
    · exact habsent.1
  · simp [Card.added, hargs]
  · intro args hmem
    rw [List.mem_append] at hmem
    rcases hmem with hmem | hmem
    · simp [hextra args hmem]
    · have hplain : args.isFiltered = false := by
        have hnone := hclears.1
        simp only [Grant.isFiltered, List.any_eq_false] at hnone
        exact Bool.eq_false_of_not_eq_true (hnone args hmem)
      rw [args.isComplex_keyword, hplain, Grant.keyword_of_mem_stored hmem]
      simp

/-- Grants that can be taken back are all granted, and only add what a
clearing takes away. -/
theorem Held.grantAll (hheld : Held start card)
    (hclears : ∀ given, Grant.Adds card.keywords grants given →
      given.Clears debug) :
    ∃ next, card.grantAll debug grants = some next ∧ Held start next := by
  induction grants generalizing card with
  | nil => exact ⟨card, rfl, hheld⟩
  | cons given grants ih =>
    rw [grantAll_cons]
    cases hc : card.keywords.contains given.keyword with
    | true =>
      apply ih hheld
      intro later hlater
      apply hclears later
      refine Grant.adds_cons.mpr (.inr ⟨hlater, fun hsame => ?_⟩)
      have habsent := hlater.absent
      rw [← hsame, hc] at habsent
      cases habsent
    | false =>
      have hgiven : given.Clears debug :=
        hclears given (Grant.adds_cons.mpr (.inl ⟨rfl, hc⟩))
      have hbuild : (debug && given.keyword.isComplex) = false := by
        cases debug
        · rfl
        · exact hgiven.2 rfl
      simp only [hbuild, Bool.false_eq_true, if_false]
      apply ih (hheld.added hgiven hc)
      intro later hlater
      apply hclears later
      obtain ⟨before, after, hsplit, habsent, hearlier⟩ := hlater
      simp only [KeywordSet.contains, decide_eq_false_iff_not] at habsent
      simp only [Card.added, Finset.mem_union, Finset.mem_singleton, not_or]
        at habsent
      refine Grant.adds_cons.mpr (.inr ⟨⟨before, after, hsplit, ?_, hearlier⟩,
        fun hsame => habsent.2 hsame.symm⟩)
      simp [KeywordSet.contains, habsent.1]

theorem mem_keywords_clear {keyword : Keyword} :
    keyword ∈ card.clearTempKeywordsUntilEot.keywords.keywords ↔
      keyword ∈ card.keywords.keywords ∧
        keyword ∉ card.tempKeywordsUntilEot.keywords := by
  rw [clearTempKeywordsUntilEot, KeywordSet.keywords_foldl_remove,
    KeywordSet.mem_iter]

/-- A clearing takes away what was gained, where nothing that was tracked
before is on the card. -/
theorem Held.clear (hheld : Held start card) (hkept : start.keywords.Kept)
    (hnone : ∀ keyword ∈ start.tempKeywordsUntilEot.keywords,
      keyword ∉ start.keywords.keywords) :
    card.clearTempKeywordsUntilEot.keywords = start.keywords := by
  obtain ⟨new, extra, hkeywords, htemp, hnew, hargs, hextra⟩ := hheld
  have htracked : ∀ keyword ∈ start.keywords.keywords,
      keyword ∉ card.tempKeywordsUntilEot.keywords := by
    intro keyword hkeyword hmem
    rw [htemp, Finset.mem_union] at hmem
    rcases hmem with hmem | hmem
    · exact hnone keyword hmem hkeyword
    · exact hnew keyword hmem hkeyword
  have hall : card.clearTempKeywordsUntilEot.keywords.keywords =
      start.keywords.keywords := by
    ext keyword
    rw [mem_keywords_clear, hkeywords, htemp]
    simp only [Finset.mem_union, not_or]
    constructor
    · rintro ⟨hold | hgained, -, hlost⟩
      · exact hold
      · exact absurd hgained hlost
    · intro hold
      have hlost := htracked keyword hold
      rw [htemp, Finset.mem_union, not_or] at hlost
      exact ⟨.inl hold, hlost⟩
  have hstored : card.clearTempKeywordsUntilEot.keywords.args =
      start.keywords.args := by
    rw [clearTempKeywordsUntilEot, KeywordSet.args_foldl_remove, hargs,
      List.filter_append]
    have hold : start.keywords.args.filter (fun args =>
        !(args.keyword.isComplex &&
          card.tempKeywordsUntilEot.iter.contains args.keyword)) =
        start.keywords.args := by
      rw [List.filter_eq_self]
      intro args hmem
      cases hcomplex : args.keyword.isComplex with
      | false => rfl
      | true => simp [htracked args.keyword (hkept args hmem hcomplex)]
    have hgained : extra.filter (fun args =>
        !(args.keyword.isComplex &&
          card.tempKeywordsUntilEot.iter.contains args.keyword)) = [] := by
      rw [List.filter_eq_nil_iff]
      intro args hmem
      simp [hextra args hmem, htemp]
    rw [hold, hgained, List.append_nil]
  rcases hclear : card.clearTempKeywordsUntilEot.keywords with ⟨all, stored⟩
  rw [hclear] at hall hstored
  subst hall hstored
  rfl

/-- Grants only add to the tracked keywords. -/
theorem tracked_grantAll (h : card.grantAll debug grants = some next) :
    card.tempKeywordsUntilEot.keywords ⊆
      next.tempKeywordsUntilEot.keywords := by
  induction grants generalizing card with
  | nil =>
    obtain rfl := Option.some.inj h
    exact Finset.Subset.refl _
  | cons given grants ih =>
    rw [grantAll_cons] at h
    cases hc : card.keywords.contains given.keyword with
    | true =>
      simp only [hc, if_true] at h
      exact ih h
    | false =>
      cases hbuild : debug && given.keyword.isComplex with
      | true => simp [hc, hbuild] at h
      | false =>
        simp only [hc, hbuild, Bool.false_eq_true, if_false] at h
        exact Finset.Subset.trans Finset.subset_union_left (ih h)

theorem filteredCount_added :
    (card.added given).keywords.filteredCount =
      card.keywords.filteredCount +
        given.stored.countP KeywordArgs.isFiltered := by
  simp [added, KeywordSet.filteredCount]

/-- Each added grant of a filtered argument is one more for good. -/
theorem filteredCount_grantAll
    (h : card.grantAll debug grants = some next) :
    card.keywords.filteredCount ≤ next.keywords.filteredCount ∧
      ((∃ given, Grant.Adds card.keywords grants given ∧
          ¬ given.Clears debug) →
        card.keywords.filteredCount < next.keywords.filteredCount) := by
  induction grants generalizing card with
  | nil =>
    obtain rfl := Option.some.inj h
    refine ⟨Nat.le_refl _, ?_⟩
    rintro ⟨given, ⟨before, after, hsplit, -⟩, -⟩
    simp at hsplit
  | cons given grants ih =>
    rw [grantAll_cons] at h
    cases hc : card.keywords.contains given.keyword with
    | true =>
      simp only [hc, if_true] at h
      refine ⟨(ih h).1, ?_⟩
      rintro ⟨later, hadds, hkeeps⟩
      rcases Grant.adds_cons.mp hadds with ⟨-, habsent⟩ | ⟨hadds, -⟩
      · rw [hc] at habsent
        cases habsent
      · exact (ih h).2 ⟨later, hadds, hkeeps⟩
    | false =>
      cases hbuild : debug && given.keyword.isComplex with
      | true => simp [hc, hbuild] at h
      | false =>
        simp only [hc, hbuild, Bool.false_eq_true, if_false] at h
        obtain ⟨hle, hlt⟩ := ih h
        rw [filteredCount_added] at hle hlt
        refine ⟨by omega, ?_⟩
        rintro ⟨later, hadds, hkeeps⟩
        rcases Grant.adds_cons.mp hadds with ⟨rfl, -⟩ | ⟨hadds, hne⟩
        · have hfiltered : later.isFiltered = true := by
            by_contra hplain
            apply hkeeps
            refine ⟨Bool.eq_false_of_not_eq_true hplain, ?_⟩
            rintro rfl
            simpa using hbuild
          have hone : 0 < later.stored.countP KeywordArgs.isFiltered := by
            rw [List.countP_pos_iff]
            exact List.any_eq_true.mp hfiltered
          omega
        · have hrest : Grant.Adds (card.added given).keywords grants later := by
            obtain ⟨before, after, hsplit, habsent, hearlier⟩ := hadds
            refine ⟨before, after, hsplit, ?_, hearlier⟩
            simp only [KeywordSet.contains, decide_eq_false_iff_not] at habsent
            simpa [KeywordSet.contains, added, habsent] using hne.symm
          have hmore := hlt ⟨later, hrest, hkeeps⟩
          omega

/-- The grants go through, and clearing them gives the keywords back. -/
def Restored (debug : Bool) (card : Card) (grants : List Grant) : Prop :=
  ∃ next, card.grantAll debug grants = some next ∧
    next.clearTempKeywordsUntilEot.keywords = card.keywords

/-- The keywords are given back exactly where none of them was tracked before
and each grant that adds one can be taken back. -/
theorem restored_iff (hkept : card.keywords.Kept) :
    card.Restored debug grants ↔
      (∀ keyword ∈ card.tempKeywordsUntilEot.keywords,
        keyword ∉ card.keywords.keywords) ∧
      ∀ given, Grant.Adds card.keywords grants given →
        given.Clears debug := by
  constructor
  · rintro ⟨next, hnext, hclear⟩
    constructor
    · intro keyword htracked hkeyword
      rw [← hclear, mem_keywords_clear] at hkeyword
      exact hkeyword.2 (tracked_grantAll hnext htracked)
    · intro given hadds
      by_contra hkeeps
      have hmore := (filteredCount_grantAll hnext).2 ⟨given, hadds, hkeeps⟩
      have hcount := congrArg KeywordSet.filteredCount hclear
      rw [clearTempKeywordsUntilEot,
        KeywordSet.filteredCount_foldl_remove] at hcount
      omega
  · rintro ⟨hnone, hclears⟩
    obtain ⟨next, hnext, hheld⟩ := (Held.refl card).grantAll hclears
    exact ⟨next, hnext, hheld.clear hkept hnone⟩

end Card

/-- In every build, a keyword set reached by operations keeps its arguments
with their keywords exactly where no operation stored a filtered argument; and
until-end-of-turn grants on a card with such a set are undone by clearing them
exactly where nothing tracked before is on the card and no grant that adds a
keyword stores a filtered argument or, where assertions are checked, names a
keyword with arguments. -/
theorem arguments_kept_iff (debug : Bool) (ops : List SetOp)
    (set : KeywordSet) (hrun : SetOp.run debug .new ops = some set) :
    (set.Coherent ↔ ∀ op ∈ ops, op.storesFiltered = false) ∧
      ∀ (temp : KeywordSet) (grants : List Grant),
        ({ keywords := set, tempKeywordsUntilEot := temp } : Card).Restored
            debug grants ↔
          (∀ keyword ∈ temp.keywords, keyword ∉ set.keywords) ∧
          ∀ given, Grant.Adds set grants given → given.Clears debug := by
  refine ⟨SetOp.run_coherent_iff hrun, fun temp grants => ?_⟩
  exact Card.restored_iff (SetOp.run_kept KeywordSet.new_kept hrun)

/-- A printed parameterised keyword and two grants of flying. -/
theorem arguments_kept_landwalk :
    ({ keywords := KeywordSet.insertComplex .new (.landwalk "Forest") } :
      Card).Restored true [.plain .flying, .plain .flying] := by
  have hkept := (arguments_kept_iff true [.insertComplex (.landwalk "Forest")]
    (KeywordSet.insertComplex .new (.landwalk "Forest")) rfl).2 .new
    [.plain .flying, .plain .flying]
  refine hkept.mpr ⟨by simp [KeywordSet.new], ?_⟩
  rintro given ⟨before, after, hsplit, -⟩
  have hgiven : given ∈ [Grant.plain .flying, .plain .flying] := by
    simp [hsplit]
  obtain rfl : given = .plain .flying := by simpa using hgiven
  exact ⟨rfl, fun _ => rfl⟩

/-- The filtered argument is not found, stays after its keyword is removed,
and a grant of it, like a checked grant of landwalk, is not undone. -/
theorem filtered_argument_outlives :
    (∃ set, SetOp.run true .new
        [.insertComplex (.mustBeBlockedByAllFiltered "Creature.withFlying"),
          .remove .mustBeBlockedByAll] = some set ∧ ¬ set.Coherent) ∧
      ¬ ({} : Card).Restored false
        [.parameterised (.mustBeBlockedByAllFiltered "Creature.withFlying")] ∧
      ¬ ({} : Card).Restored true [.parameterised (.landwalk "Forest")] := by
  have hadds (args : KeywordArgs) : Grant.Adds .new [.parameterised args]
      (.parameterised args) :=
    ⟨[], [], rfl, by simp [KeywordSet.new, KeywordSet.contains], by simp⟩
  obtain ⟨set, hrun⟩ : ∃ set, SetOp.run true .new
      [.insertComplex (.mustBeBlockedByAllFiltered "Creature.withFlying"),
        .remove .mustBeBlockedByAll] = some set := ⟨_, rfl⟩
  refine ⟨⟨set, hrun, fun hcoherent => ?_⟩, fun hrestored => ?_,
    fun hrestored => ?_⟩
  · cases (SetOp.run_coherent_iff hrun).mp hcoherent _ List.mem_cons_self
  · cases (((Card.restored_iff KeywordSet.new_kept).mp hrestored).2 _
      (hadds _)).1
  · cases (((Card.restored_iff KeywordSet.new_kept).mp hrestored).2 _
      (hadds _)).2 rfl

end KeywordTable

end DeepScry
