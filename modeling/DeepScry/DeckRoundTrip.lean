/-
Writing a deck that was read from a file and reading it again: the names come
back unless one still ends in a plus sign.
-/
import DeepScry.DeckAccount

namespace DeepScry

open TextLines

/-- A name that a line of a deck file can hold. -/
structure CleanName (name : List Char) : Prop where
  ne_nil : name ≠ []
  trimmed : Trimmed name
  noPipe : '|' ∉ name
  noBreak : '\n' ∉ name

/-- Two plus signs at the end, with whitespace between them at most. -/
def DoublyMarked (name : List Char) : Prop :=
  ∃ stem spaces, name = stem ++ '+' :: (spaces ++ ['+']) ∧
    spaces.all isWhitespace = true

namespace DeckLoader

theorem nameText_trimmed (rest : List Char) : Trimmed (nameText rest) := by
  rw [nameText]
  split <;> exact trimmed_trim _

theorem nameText_sublist (rest : List Char) :
    (nameText rest).Sublist rest := by
  rw [nameText]
  split
  · next name set hsplit =>
    obtain ⟨hrest, -⟩ := splitOnce_eq_some hsplit
    rw [hrest]
    exact (trim_sublist name).trans (List.sublist_append_left ..)
  · exact trim_sublist rest

theorem nameText_noPipe (rest : List Char) : '|' ∉ nameText rest := by
  rw [nameText]
  split
  · next name set hsplit =>
    exact fun hmem =>
      (splitOnce_eq_some hsplit).2 ((trim_sublist name).mem hmem)
  · next hsplit =>
    exact fun hmem =>
      splitOnce_eq_none_iff.mp hsplit ((trim_sublist rest).mem hmem)

/-- A trimmed name without a pipe is read as it stands. -/
theorem nameText_eq {name : List Char} (htrimmed : Trimmed name)
    (hpipe : '|' ∉ name) : nameText name = name := by
  rw [nameText, splitOnce_eq_none_iff.mpr hpipe]
  exact htrimmed.trim_eq

theorem stripFoil_sublist (name : List Char) :
    (stripFoil name).Sublist name := by
  rw [stripFoil]
  split
  · exact (trim_sublist _).trans (List.dropLast_sublist name)
  · exact List.Sublist.refl name

theorem stripFoil_trimmed {name : List Char} (htrimmed : Trimmed name) :
    Trimmed (stripFoil name) := by
  rw [stripFoil]
  split
  · exact trimmed_trim _
  · exact htrimmed

/-- Only a name that ends in a plus sign is changed. -/
theorem stripFoil_eq_self_iff {name : List Char} :
    stripFoil name = name ↔ name.getLast? ≠ some '+' := by
  constructor
  · intro heq hlast
    rw [stripFoil, if_pos hlast] at heq
    have hle := (trim_sublist name.dropLast).length_le
    have hne : name ≠ [] := by
      rintro rfl
      cases hlast
    rw [heq, List.length_dropLast] at hle
    have hpos := List.length_pos_iff.mpr hne
    omega
  · intro hlast
    rw [stripFoil, if_neg hlast]

/-- Taking whitespace off the end of a text whose first character is none. -/
theorem trim_concat_plus {stem spaces : List Char}
    (htrimmed : Trimmed (stem ++ '+' :: (spaces ++ ['+'])))
    (hspaces : spaces.all isWhitespace = true) :
    trim (stem ++ '+' :: spaces) = stem ++ ['+'] := by
  have hstart : (stem ++ '+' :: spaces).dropWhile isWhitespace =
      stem ++ '+' :: spaces := by
    cases stem with
    | nil => simp [show isWhitespace '+' = false by decide]
    | cons c rest => simp [htrimmed.head c rfl]
  have hplus : ¬ isWhitespace '+' = true := by decide
  rw [trim, hstart]
  clear hstart htrimmed
  induction spaces using List.reverseRecOn with
  | nil => exact List.rdropWhile_concat_neg isWhitespace stem '+' hplus
  | append_singleton spaces c ih =>
      rw [List.all_append, Bool.and_eq_true] at hspaces
      have hc : isWhitespace c = true := by simpa using hspaces.2
      have hshape : stem ++ '+' :: (spaces ++ [c]) =
          (stem ++ '+' :: spaces) ++ [c] := by simp
      rw [hshape, List.rdropWhile_concat_pos _ _ _ hc]
      exact ih hspaces.1

/-- A name keeps a plus sign exactly when it had two. -/
theorem stripFoil_getLast?_iff {name : List Char} (htrimmed : Trimmed name) :
    (stripFoil name).getLast? = some '+' ↔ DoublyMarked name := by
  constructor
  · intro hlast
    by_cases hmarked : name.getLast? = some '+'
    · rw [stripFoil, if_pos hmarked] at hlast
      obtain ⟨stem, hstem⟩ : ∃ stem, trim name.dropLast = stem ++ ['+'] :=
        List.getLast?_eq_some_iff.mp hlast
      obtain ⟨front, rfl⟩ := List.getLast?_eq_some_iff.mp hmarked
      rw [List.dropLast_concat] at hstem
      have hhead : ∀ c, front.head? = some c → isWhitespace c = false := by
        intro c hc
        exact htrimmed.head c (by rw [List.head?_append, hc]; rfl)
      obtain ⟨spaces, hfront, hspaces⟩ := eq_trim_append hhead
      rw [hstem] at hfront
      exact ⟨stem, spaces, by rw [hfront]; simp, hspaces⟩
    · rw [stripFoil, if_neg hmarked] at hlast
      exact absurd hlast hmarked
  · rintro ⟨stem, spaces, rfl, hspaces⟩
    have hmarked : (stem ++ '+' :: (spaces ++ ['+'])).getLast? =
        some '+' := by
      rw [← List.cons_append, ← List.append_assoc]
      exact List.getLast?_concat
    have hfront : (stem ++ '+' :: (spaces ++ ['+'])).dropLast =
        stem ++ '+' :: spaces := by
      rw [← List.cons_append, ← List.append_assoc]
      exact List.dropLast_concat
    rw [stripFoil, if_pos hmarked, hfront,
      trim_concat_plus htrimmed hspaces]
    exact List.getLast?_concat

/-- What a line gives has a name that such a line can hold. -/
theorem parseEntry_clean {line : List Char} {entry : DeckEntry}
    (hbreak : '\n' ∉ line) (hentry : parseEntry line = some entry) :
    CleanName entry.cardName := by
  rw [parseEntry] at hentry
  split at hentry
  · next count rest hsplit =>
    split at hentry
    · next value hvalue =>
      dsimp only at hentry
      split at hentry
      · cases hentry
      · next hempty =>
        cases hentry
        have hrest : (stripFoil (nameText rest)).Sublist rest :=
          (stripFoil_sublist _).trans (nameText_sublist rest)
        obtain ⟨hline, -⟩ := splitOnce_eq_some hsplit
        constructor
        · simpa using hempty
        · exact stripFoil_trimmed (nameText_trimmed rest)
        · exact fun hmem =>
            nameText_noPipe rest ((stripFoil_sublist _).mem hmem)
        · intro hmem
          apply hbreak
          rw [hline]
          simp [hrest.mem hmem]
    · cases hentry
  · cases hentry

theorem mem_lines_of_mem_cardLinesFrom {kind : DeckSection}
    {line : List Char} {before all : List (List Char)}
    (hmem : (kind, line) ∈ cardLinesFrom before all) : line ∈ all := by
  induction all generalizing before with
  | nil => cases hmem
  | cons first rest ih =>
      rcases List.mem_append.mp hmem with hfirst | hrest
      · split at hfirst
        · cases List.mem_singleton.mp hfirst
          exact List.mem_cons_self
        · cases hfirst
      · exact List.mem_cons_of_mem first (ih hrest)

/-- Every entry of a deck that was read has a clean name. -/
theorem entries_clean (content : List Char) (kind : DeckSection) :
    ∀ entry ∈ (parseWithProblems content).deckList.entries kind,
      CleanName entry.cardName := by
  intro entry hentry
  rw [(parseWithProblems_accounts content).1, mem_entriesOf] at hentry
  obtain ⟨line, hline, hparse⟩ := hentry
  have hbreak := not_mem_of_mem_lines (mem_lines_of_mem_cardLinesFrom hline)
  exact parseEntry_clean (fun hmem => hbreak ((trim_sublist line).mem hmem))
    hparse

section EntryLines

variable {entry : DeckEntry} (hclean : CleanName entry.cardName)
include hclean

theorem entryLine_trimmed : Trimmed (DeckList.entryLine entry) := by
  obtain ⟨-, hdigits, hne⟩ := showU8_spec entry.count
  constructor
  · intro c hc
    obtain ⟨first, rest, hshow⟩ := List.exists_cons_of_ne_nil hne
    rw [DeckList.entryLine, hshow] at hc
    cases hc
    rw [hshow, List.all_cons, Bool.and_eq_true] at hdigits
    exact isWhitespace_of_isDigit hdigits.1
  · intro c hc
    apply hclean.trimmed.last
    rw [← hc, DeckList.entryLine, List.getLast?_append_of_ne_nil _ (by simp),
      List.getLast?_cons_of_ne_nil hclean.ne_nil]

theorem entryLine_noBreak : '\n' ∉ DeckList.entryLine entry := by
  obtain ⟨-, hdigits, -⟩ := showU8_spec entry.count
  rw [DeckList.entryLine, List.mem_append, List.mem_cons]
  rintro (hcount | hspace | hname)
  · have hdigit := List.all_eq_true.mp hdigits _ hcount
    cases hdigit
  · cases hspace
  · exact hclean.noBreak hname

/-- The line of an entry is a card line. -/
theorem isCardLine_entryLine :
    isCardLine (DeckList.entryLine entry) = true := by
  obtain ⟨-, hdigits, hne⟩ := showU8_spec entry.count
  obtain ⟨first, rest, hshow⟩ := List.exists_cons_of_ne_nil hne
  rw [hshow, List.all_cons, Bool.and_eq_true] at hdigits
  have hhash : first ≠ '#' := by
    rintro rfl
    cases hdigits.1
  have hbracket : first ≠ '[' := by
    rintro rfl
    cases hdigits.1
  rw [isCardLine, (entryLine_trimmed hclean).trim_eq, DeckList.entryLine,
    hshow]
  simp [hhash, hbracket, hdigits.1]

/-- It is read as the entry whose name has one more plus sign taken off. -/
theorem outcome_entryLine :
    outcome (DeckList.entryLine entry) =
      if (stripFoil entry.cardName).isEmpty then
        .inr (.parseFail (DeckList.entryLine entry))
      else .inl { entry with cardName := stripFoil entry.cardName } := by
  obtain ⟨hparse, hdigits, -⟩ := showU8_spec entry.count
  have hspace : ' ' ∉ showU8 entry.count := by
    intro hmem
    cases List.all_eq_true.mp hdigits _ hmem
  have hsplit : splitOnce ' ' (DeckList.entryLine entry) =
      some (showU8 entry.count, entry.cardName) :=
    splitOnce_append hspace entry.cardName
  rw [outcome, (entryLine_trimmed hclean).trim_eq, parseEntry, hsplit]
  simp only [hparse, nameText_eq hclean.trimmed hclean.noPipe]
  cases hempty : (stripFoil entry.cardName).isEmpty <;> simp

end EntryLines

theorem cardLinesFrom_append (before first second : List (List Char)) :
    cardLinesFrom before (first ++ second) =
      cardLinesFrom before first ++
        cardLinesFrom (before ++ first) second := by
  induction first generalizing before with
  | nil => simp [cardLinesFrom]
  | cons line rest ih => simp [cardLinesFrom, ih]

/-- Lines of entries are all found in the section in force, and leave it. -/
theorem cardLinesFrom_entryLines (before : List (List Char))
    {entries : List DeckEntry}
    (hclean : ∀ entry ∈ entries, CleanName entry.cardName) :
    cardLinesFrom before (entries.map DeckList.entryLine) =
        entries.map (fun entry =>
          (sectionInForce before, DeckList.entryLine entry)) := by
  induction entries generalizing before with
  | nil => rfl
  | cons entry rest ih =>
      obtain ⟨hentry, hrest⟩ := List.forall_mem_cons.mp hclean
      have hcard := isCardLine_entryLine hentry
      obtain ⟨hheader, -⟩ := readLine_of_card {} hcard
      rw [List.map_cons, cardLinesFrom, if_pos hcard, ih _ hrest,
        sectionInForce_concat, hheader]
      rfl

/-- A written section is found again under its header. -/
theorem cardLinesFrom_sectionLines (before : List (List Char))
    {header : String} {kind : DeckSection}
    (hheader : headerSection header.toList = some kind)
    (hcard : isCardLine header.toList = false) (always : Bool)
    {entries : List DeckEntry}
    (hclean : ∀ entry ∈ entries, CleanName entry.cardName) :
    cardLinesFrom before (DeckList.sectionLines header always entries) =
      entries.map fun entry => (kind, DeckList.entryLine entry) := by
  rw [DeckList.sectionLines]
  split
  · next hnone =>
    rw [Bool.and_eq_true] at hnone
    rw [List.isEmpty_iff.mp hnone.1]
    rfl
  · have hblank : isCardLine [] = false := by decide
    have hforce : sectionInForce (before ++ [[]] ++ [header.toList]) =
        kind := by
      rw [sectionInForce_concat, hheader, Option.getD_some]
    simp only [cardLinesFrom, hblank, hcard, Bool.false_eq_true, if_false,
      List.nil_append]
    rw [cardLinesFrom_entryLines _ hclean, hforce]

/-- The line of the deck name is metadata, whatever the name. -/
theorem nameLine_spec (name : List Char) :
    isCardLine ("Name=".toList ++ name) = false := by
  have hstart : ∀ c, ("Name=".toList ++ name).head? = some c →
      isWhitespace c = false := by
    rintro c ⟨⟩
    decide
  obtain ⟨spaces, htext, hspaces⟩ := eq_trim_append hstart
  have hequals : '=' ∈ trim ("Name=".toList ++ name) := by
    have hmem : '=' ∈ trim ("Name=".toList ++ name) ++ spaces := by
      rw [← htext]
      simp
    rcases List.mem_append.mp hmem with hin | hspace
    · exact hin
    · exact absurd (List.all_eq_true.mp hspaces _ hspace) (by decide)
  have hhead : (trim ("Name=".toList ++ name)).head? = some 'N' := by
    have hne := List.ne_nil_of_mem hequals
    have hfirst : (trim ("Name=".toList ++ name) ++ spaces).head? =
        (trim ("Name=".toList ++ name)).head? :=
      List.head?_append_of_ne_nil _ hne
    rw [← hfirst, ← htext]
    rfl
  rw [isCardLine]
  generalize trim ("Name=".toList ++ name) = line at hequals hhead
  simp [hequals, hhead, show 'N'.isDigit = false by decide]

theorem stripCr_nameLine (name : List Char) :
    ∃ rest, stripCr ("Name=".toList ++ name) = "Name=".toList ++ rest := by
  by_cases hname : name = []
  · exact ⟨[], by rw [hname]; decide⟩
  · rw [stripCr]
    split
    · exact ⟨name.dropLast, List.dropLast_append_of_ne_nil hname⟩
    · exact ⟨name, rfl⟩

/-- A written section is read line by line. -/
theorem sectionLines_plain {header : String}
    (hbreak : '\n' ∉ header.toList)
    (hstrip : stripCr header.toList = header.toList) (always : Bool)
    {entries : List DeckEntry}
    (hclean : ∀ entry ∈ entries, CleanName entry.cardName) :
    ∀ line ∈ DeckList.sectionLines header always entries,
      '\n' ∉ line ∧ stripCr line = line := by
  intro line hline
  rw [DeckList.sectionLines] at hline
  split at hline
  · cases hline
  · rcases List.mem_cons.mp hline with rfl | hline
    · exact ⟨List.not_mem_nil, rfl⟩
    rcases List.mem_cons.mp hline with rfl | hline
    · exact ⟨hbreak, hstrip⟩
    obtain ⟨entry, hentry, rfl⟩ := List.mem_map.mp hline
    have hname := hclean entry hentry
    exact ⟨entryLine_noBreak hname, (entryLine_trimmed hname).stripCr_eq⟩

/-- An entry as it is read from its own line. -/
def reread (entry : DeckEntry) : DeckEntry :=
  { entry with cardName := stripFoil entry.cardName }

/-- The entries of a written section, as they are read again. -/
theorem entriesOf_entryLines {kind own : DeckSection}
    {entries : List DeckEntry}
    (hentries : ∀ entry ∈ entries, CleanName entry.cardName) :
    entriesOf kind (entries.map fun entry =>
        (own, DeckList.entryLine entry)) =
      if own = kind then
        (entries.filter fun entry =>
          !(reread entry).cardName.isEmpty).map reread
      else [] := by
  induction entries with
  | nil => cases own <;> cases kind <;> rfl
  | cons entry rest ih =>
      obtain ⟨hentry, hrest⟩ := List.forall_mem_cons.mp hentries
      have houtcome := outcome_entryLine hentry
      have ih := ih hrest
      simp only [entriesOf] at ih ⊢
      rw [List.map_cons, List.filterMap_cons, ih, houtcome]
      by_cases hown : own = kind <;>
        cases hempty : (stripFoil entry.cardName).isEmpty <;>
          simp [hown, reread, hempty]

/-- No problem is found exactly where every name keeps something. -/
theorem problemsOf_entryLines {own : DeckSection}
    {entries : List DeckEntry}
    (hentries : ∀ entry ∈ entries, CleanName entry.cardName) :
    problemsOf (entries.map fun entry =>
        (own, DeckList.entryLine entry)) = [] ↔
      ∀ entry ∈ entries, (reread entry).cardName ≠ [] := by
  have hright : ∀ entry ∈ entries,
      (outcome (DeckList.entryLine entry)).getRight? = none ↔
        (reread entry).cardName ≠ [] := by
    intro entry hentry
    rw [outcome_entryLine (hentries entry hentry), reread]
    cases hempty : stripFoil entry.cardName <;> simp
  rw [problemsOf, List.filterMap_map, List.filterMap_eq_nil_iff]
  exact forall₂_congr hright

/-- An entry is read back as it is unless its name ends in a plus sign. -/
theorem reread_eq_iff {entry : DeckEntry} :
    reread entry = entry ↔ entry.cardName.getLast? ≠ some '+' := by
  rw [← stripFoil_eq_self_iff, reread]
  constructor
  · exact fun heq => congrArg DeckEntry.cardName heq
  · intro heq
    rw [heq]

section Written

variable {deck : DeckList}
  (hclean : ∀ kind, ∀ entry ∈ deck.entries kind, CleanName entry.cardName)
  {name : Option (List Char)}
  (hname : ∀ text, name = some text → '\n' ∉ text)
include hclean hname

/-- The card lines of a written deck are the lines of its entries. -/
theorem cardLines_toDckFormat :
    cardLines (deck.toDckFormat name) =
      ((deck.entries .commander).map fun entry =>
        (DeckSection.commander, DeckList.entryLine entry)) ++
      ((deck.entries .main).map fun entry =>
        (DeckSection.main, DeckList.entryLine entry)) ++
      ((deck.entries .sideboard).map fun entry =>
        (DeckSection.sideboard, DeckList.entryLine entry)) := by
  have hheaders : headerSection "[Commander]".toList = some .commander ∧
      headerSection "[Main]".toList = some .main ∧
        headerSection "[Sideboard]".toList = some .sideboard := by
    decide +kernel
  have hcommander := hclean .commander
  have hmain := hclean .main
  have hsideboard := hclean .sideboard
  simp only [DeckList.entries] at hcommander hmain hsideboard ⊢
  have hblocks : ∀ line ∈
      DeckList.sectionLines "[Commander]" false deck.commanders ++
        DeckList.sectionLines "[Main]" true deck.mainDeck ++
          DeckList.sectionLines "[Sideboard]" false deck.sideboard,
      '\n' ∉ line ∧ stripCr line = line := by
    intro line hline
    rcases List.mem_append.mp hline with hline | hline
    · rcases List.mem_append.mp hline with hline | hline
      · exact sectionLines_plain (by decide +kernel) (by decide +kernel)
          _ hcommander _ hline
      · exact sectionLines_plain (by decide +kernel) (by decide +kernel)
          _ hmain _ hline
    · exact sectionLines_plain (by decide +kernel) (by decide +kernel)
        _ hsideboard _ hline
  have hnameBreak : '\n' ∉ "Name=".toList ++ name.getD "Deck".toList := by
    rw [List.mem_append, not_or]
    refine ⟨by decide, ?_⟩
    cases name with
    | none => decide
    | some text => exact hname text rfl
  obtain ⟨rest, hrest⟩ := stripCr_nameLine (name.getD "Deck".toList)
  have hlines : lines (deck.toDckFormat name) = "[metadata]".toList ::
      ("Name=".toList ++ rest) ::
      (DeckList.sectionLines "[Commander]" false deck.commanders ++
        DeckList.sectionLines "[Main]" true deck.mainDeck ++
          DeckList.sectionLines "[Sideboard]" false deck.sideboard) := by
    rw [DeckList.toDckFormat, lines_unlines]
    · rw [List.map_cons, List.map_cons, hrest,
        List.map_congr_left fun line hline => (hblocks line hline).2,
        List.map_id']
      rfl
    · intro line hline
      rcases List.mem_cons.mp hline with rfl | hline
      · decide
      rcases List.mem_cons.mp hline with rfl | hline
      · exact hnameBreak
      · exact (hblocks line hline).1
  have hmetadata : isCardLine "[metadata]".toList = false := by
    decide +kernel
  rw [cardLines, hlines, cardLinesFrom, hmetadata, cardLinesFrom,
    nameLine_spec, cardLinesFrom_append, cardLinesFrom_append,
    cardLinesFrom_sectionLines _ hheaders.1 (by decide +kernel) _ hcommander,
    cardLinesFrom_sectionLines _ hheaders.2.1 (by decide +kernel) _ hmain,
    cardLinesFrom_sectionLines _ hheaders.2.2 (by decide +kernel) _ hsideboard]
  simp

/-- No problem is found exactly where every name is left with a text. -/
theorem problems_toDckFormat :
    (parseWithProblems (deck.toDckFormat name)).problems = [] ↔
      ∀ kind, ∀ entry ∈ deck.entries kind,
        (reread entry).cardName ≠ [] := by
  have hproblems := (parseWithProblems_accounts (deck.toDckFormat name)).2
  rw [cardLines_toDckFormat hclean hname] at hproblems
  rw [hproblems, problemsOf_append, problemsOf_append,
    List.append_eq_nil_iff, List.append_eq_nil_iff,
    problemsOf_entryLines (hclean .commander),
    problemsOf_entryLines (hclean .main),
    problemsOf_entryLines (hclean .sideboard)]
  constructor
  · rintro ⟨⟨hcommander, hmain⟩, hsideboard⟩ kind
    cases kind with
    | main => exact hmain
    | sideboard => exact hsideboard
    | commander => exact hcommander
  · exact fun hall => ⟨⟨hall .commander, hall .main⟩, hall .sideboard⟩

/-- A section whose names are left with a text is read entry by entry. -/
theorem entries_toDckFormat {kind : DeckSection}
    (hkept : ∀ entry ∈ deck.entries kind, (reread entry).cardName ≠ []) :
    (parseWithProblems (deck.toDckFormat name)).deckList.entries kind =
      (deck.entries kind).map reread := by
  have hentries := (parseWithProblems_accounts (deck.toDckFormat name)).1
  rw [cardLines_toDckFormat hclean hname] at hentries
  have hfilter : (deck.entries kind).filter (fun entry =>
      !(reread entry).cardName.isEmpty) = deck.entries kind := by
    apply List.filter_eq_self.mpr
    intro entry hentry
    simpa using hkept entry hentry
  rw [hentries, entriesOf_append, entriesOf_append,
    entriesOf_entryLines (hclean .commander),
    entriesOf_entryLines (hclean .main),
    entriesOf_entryLines (hclean .sideboard)]
  cases kind <;> simp [hfilter]

/-- A deck is read back exactly where no name ends in a plus sign. -/
theorem rereads_iff :
    ((parseWithProblems (deck.toDckFormat name)).problems = [] ∧
        (parseWithProblems (deck.toDckFormat name)).deckList = deck) ↔
      ∀ kind, ∀ entry ∈ deck.entries kind,
        entry.cardName.getLast? ≠ some '+' := by
  have hnone := problems_toDckFormat hclean hname
  constructor
  · rintro ⟨hnoProblem, hdeck⟩ kind entry hentry
    have hmap := entries_toDckFormat hclean hname (hnone.mp hnoProblem kind)
    rw [hdeck] at hmap
    rw [← reread_eq_iff]
    exact List.map_inj_left.mp (hmap.symm.trans (List.map_id' _).symm) entry
      hentry
  · intro hplain
    have hself : ∀ kind, ∀ entry ∈ deck.entries kind,
        reread entry = entry :=
      fun kind entry hentry => reread_eq_iff.mpr (hplain kind entry hentry)
    have hkept : ∀ kind, ∀ entry ∈ deck.entries kind,
        (reread entry).cardName ≠ [] := by
      intro kind entry hentry
      rw [hself kind entry hentry]
      exact (hclean kind entry hentry).ne_nil
    refine ⟨hnone.mpr hkept, DeckList.ext_entries fun kind => ?_⟩
    rw [entries_toDckFormat hclean hname (hkept kind),
      List.map_congr_left (hself kind), List.map_id']

end Written

/-- A card line that gives an entry whose name text has two plus signs. -/
def DoublyFoiled (line : List Char) : Prop :=
  ∃ count rest value, splitOnce ' ' (trim line) = some (count, rest) ∧
    parseU8 count = some value ∧ DoublyMarked (nameText rest)

theorem doublyFoiled_iff {line : List Char} :
    DoublyFoiled line ↔ ∃ entry, parseEntry (trim line) = some entry ∧
      entry.cardName.getLast? = some '+' := by
  constructor
  · rintro ⟨count, rest, value, hsplit, hvalue, hmarked⟩
    have hlast :=
      (stripFoil_getLast?_iff (nameText_trimmed rest)).mpr hmarked
    have hne : (stripFoil (nameText rest)).isEmpty = false := by
      cases hname : stripFoil (nameText rest) with
      | nil => simp [hname] at hlast
      | cons c name => rfl
    exact ⟨_, by simp only [parseEntry, hsplit, hvalue, hne]; rfl, hlast⟩
  · rintro ⟨entry, hentry, hlast⟩
    rw [parseEntry] at hentry
    split at hentry
    · next count rest hsplit =>
      split at hentry
      · next value hvalue =>
        dsimp only at hentry
        split at hentry
        · cases hentry
        · cases hentry
          exact ⟨count, rest, value, hsplit, hvalue,
            (stripFoil_getLast?_iff (nameText_trimmed rest)).mp hlast⟩
      · cases hentry
    · cases hentry

/-- The deck read from a file comes back from the file it is written to exactly
where no card line names a card with two plus signs at its end: reading takes
off one of them each time. -/
theorem written_deck_rereads_iff (content : List Char)
    (name : Option (List Char))
    (hname : ∀ text, name = some text → '\n' ∉ text) :
    ((parseWithProblems ((parseWithProblems content).deckList.toDckFormat
        name)).problems = [] ∧
      (parseWithProblems ((parseWithProblems content).deckList.toDckFormat
        name)).deckList = (parseWithProblems content).deckList) ↔
      ∀ line ∈ cardLines content, ¬ DoublyFoiled line.2 := by
  rw [rereads_iff (entries_clean content) hname]
  simp only [(parseWithProblems_accounts content).1, mem_entriesOf,
    doublyFoiled_iff]
  constructor
  · rintro hplain ⟨kind, line⟩ hline ⟨entry, hentry, hlast⟩
    exact hplain kind entry ⟨line, hline, hentry⟩ hlast
  · rintro hplain kind entry ⟨line, hline, hentry⟩ hlast
    exact hplain (kind, line) hline ⟨entry, hentry, hlast⟩

/-- A plain deck comes back. -/
theorem written_deck_rereads_bolt :
    (parseWithProblems ((parseWithProblems "4 Lightning Bolt|M10".toList
        ).deckList.toDckFormat (some "Burn".toList))).deckList =
      (parseWithProblems "4 Lightning Bolt|M10".toList).deckList := by
  have hname : ∀ text, some "Burn".toList = some text → '\n' ∉ text := by
    rintro text ⟨⟩
    decide +kernel
  apply ((written_deck_rereads_iff "4 Lightning Bolt|M10".toList
    (some "Burn".toList) hname).mpr ?_).2
  rintro line hline hfoiled
  have hcards : cardLines "4 Lightning Bolt|M10".toList =
      [(.main, "4 Lightning Bolt|M10".toList)] := by decide +kernel
  rw [hcards, List.mem_singleton] at hline
  subst hline
  obtain ⟨entry, hentry, hlast⟩ := doublyFoiled_iff.mp hfoiled
  have hbolt : parseEntry (trim "4 Lightning Bolt|M10".toList) =
      some ⟨"Lightning Bolt".toList, 4⟩ := by decide +kernel
  rw [hbolt] at hentry
  cases hentry
  exact absurd hlast (by decide +kernel)

/-- The second plus sign is lost on the way. -/
theorem doubly_foiled_deck_not_reread :
    (parseWithProblems ((parseWithProblems "1 Ornithopter++".toList
        ).deckList.toDckFormat none)).deckList ≠
      (parseWithProblems "1 Ornithopter++".toList).deckList := by
  decide +kernel

end DeckLoader

end DeepScry
