/-
Counting the cards of a zone that match a filter: one filter, and several
filters joined by commas.
-/
import DeepScry.GameState
import DeepScry.TextLines
import Mathlib.Data.Finset.Card
import Mathlib.Data.List.Dedup

namespace DeepScry

open TextLines

/-- The qualifiers that ask for an owner or a controller. -/
inductive Ownership where
  | youOwn
  | oppOwn
  | youCtrl
  | oppCtrl
deriving DecidableEq

namespace Ownership

def ofQualifier : String → Option Ownership
  | "YouOwn" => some youOwn
  | "OppOwn" => some oppOwn
  | "YouCtrl" => some youCtrl
  | "OppCtrl" => some oppCtrl
  | _ => none

def holds (ownership : Ownership) (player : PlayerId) (card : Card) : Bool :=
  match ownership with
  | youOwn => card.owner == player
  | oppOwn => card.owner != player
  | youCtrl => card.controller == player
  | oppCtrl => card.controller != player

/-- Relative to the owner of the zone. -/
def isYours : Ownership → Bool
  | youOwn | youCtrl => true
  | oppOwn | oppCtrl => false

end Ownership

/-- A color qualifier. -/
def colorQualifier : String → Option Color
  | "White" => some .white
  | "Blue" => some .blue
  | "Black" => some .black
  | "Red" => some .red
  | "Green" => some .green
  | _ => none

/-- `Lesson.White+YouOwn`: a type, then its qualifiers. -/
structure CardFilter where
  typeFilter : String
  quals : List String

namespace CardFilter

def parse (text : List Char) : CardFilter :=
  match splitOnce '.' text with
  | none => ⟨String.ofList text, []⟩
  | some (before, after) =>
      ⟨String.ofList before, (after.splitOn '+').map String.ofList⟩

variable (filter : CardFilter)

/-- The first ownership qualifier; without one, the cards one owns. -/
def ownership : Ownership :=
  (filter.quals.findSome? Ownership.ofQualifier).getD .youOwn

def isWildcard : Bool :=
  filter.typeFilter == "" || filter.typeFilter == "Card" ||
    filter.typeFilter == "Permanent"

/-- A word that is no card type is a subtype. -/
def typeOk (card : Card) : Bool :=
  match filter.typeFilter with
  | "" | "Card" | "Permanent" => true
  | "Land" => card.isLand
  | "Artifact" => card.isArtifact
  | "Creature" => card.isCreature
  | "Enchantment" => card.isEnchantment
  | "Instant" => card.types.contains .instant
  | "Sorcery" => card.types.contains .sorcery
  | "Planeswalker" => card.types.contains .planeswalker
  | other => card.subtypes.contains other

/-- All color qualifiers hold. -/
def colorsOk (card : Card) : Bool :=
  filter.quals.all fun q => (colorQualifier q).all fun color =>
    card.colors.contains color

/-- What both copies of the test ask of a card. -/
def ownedType (player : PlayerId) (card : Card) : Bool :=
  filter.ownership.holds player card && filter.typeOk card

end CardFilter

namespace GameState

variable (game : GameState) (player : PlayerId) (zone : Zone)

/-- The cards that are looked at; the stack and the command zone are not. -/
def filterZone : List CardId :=
  match zone with
  | .battlefield => game.zones.battlefield
  | .stack | .command => []
  | zone => ((game.zones.getPlayerZones player).bind fun own =>
      own.getZone zone).getD []

/-- A card of a shadow game without an instance is of the zone's owner. -/
def reservedMatches (filter : CardFilter) : Bool :=
  game.isShadowGame && filter.isWildcard && filter.ownership.isYours &&
    !filter.quals.any fun q => (colorQualifier q).isSome

/-- The test of a single filter. -/
def matchesFilter (text : List Char) (id : CardId) : Bool :=
  let filter := CardFilter.parse text
  match game.card? id with
  | none => game.reservedMatches filter
  | some card => filter.ownedType player card && filter.colorsOk card

def countSingle (text : List Char) : Nat :=
  (game.filterZone player zone).countP (game.matchesFilter player text)

/-- One part of a comma filter: nothing if no card of the zone passes the test
of the part, else every card of its type and owner. -/
def insertPart (matched : Finset CardId) (part : List Char) : Finset CardId :=
  let part := trim part
  if part.isEmpty then matched
  else if game.countSingle player zone part = 0 then matched
  else
    let filter := CardFilter.parse part
    (game.filterZone player zone).foldl
      (fun matched id =>
        match game.card? id with
        | none => matched
        | some card =>
            if filter.ownedType player card then insert id matched
            else matched)
      matched

/-- `count_cards_matching_filter`.  A part of a comma filter holds no comma,
so it is counted as a single filter. -/
def countCardsMatchingFilter (filter : String) : Nat :=
  if filter.toList.contains ',' then
    ((filter.toList.splitOn ',').foldl (game.insertPart player zone) ∅).card
  else game.countSingle player zone filter.toList

/-- The distinct cards of the zone that a single filter counts. -/
def countedByAny (filters : List (List Char)) : Finset CardId :=
  (game.filterZone player zone).toFinset.filter fun id =>
    filters.any fun text => game.matchesFilter player text id

/-- An existing card of the type and owner that a part asks for, where the
part takes anything at all. -/
def takenByPart (text : List Char) (id : CardId) : Bool :=
  !(trim text).isEmpty &&
    (game.filterZone player zone).any (game.matchesFilter player (trim text)) &&
      (game.card? id).any ((CardFilter.parse (trim text)).ownedType player)

/-- Cards that a part takes though no filter counts them. -/
def wronglyCounted (filters : List (List Char)) : Finset CardId :=
  (game.filterZone player zone).toFinset.filter fun id =>
    (filters.any fun text => game.takenByPart player zone text id) &&
      !filters.any fun text => game.matchesFilter player text id

/-- Cards that a filter counts though no part takes them. -/
def wronglyMissed (filters : List (List Char)) : Finset CardId :=
  (game.filterZone player zone).toFinset.filter fun id =>
    (filters.any fun text => game.matchesFilter player text id) &&
      !filters.any fun text => game.takenByPart player zone text id

variable {game player zone}

theorem mem_foldl_ownedType (filter : CardFilter) (ids : List CardId)
    (matched : Finset CardId) (id : CardId) :
    id ∈ ids.foldl
      (fun matched id =>
        match game.card? id with
        | none => matched
        | some card =>
            if filter.ownedType player card then insert id matched
            else matched)
      matched ↔
    id ∈ matched ∨
      id ∈ ids ∧ (game.card? id).any (filter.ownedType player) = true := by
  induction ids generalizing matched with
  | nil => simp
  | cons first rest ih =>
      rw [List.foldl_cons, ih, List.mem_cons]
      cases hcard : game.card? first with
      | none =>
          have hne (hany : (game.card? id).any (filter.ownedType player) =
              true) : id ≠ first := by
            rintro rfl
            rw [hcard] at hany
            cases hany
          constructor
          · rintro (hold | ⟨hrest, hany⟩)
            · exact Or.inl hold
            · exact Or.inr ⟨Or.inr hrest, hany⟩
          · rintro (hold | ⟨hfirst | hrest, hany⟩)
            · exact Or.inl hold
            · exact absurd hfirst (hne hany)
            · exact Or.inr ⟨hrest, hany⟩
      | some card =>
          by_cases hid : id = first
          · subst hid
            dsimp only
            split <;> simp_all
          · dsimp only
            split <;> simp [hid]

theorem mem_insertPart (matched : Finset CardId) (text : List Char)
    (id : CardId) :
    id ∈ game.insertPart player zone matched text ↔
      id ∈ matched ∨
        id ∈ game.filterZone player zone ∧
          game.takenByPart player zone text id = true := by
  have hcount : game.countSingle player zone (trim text) = 0 ↔
      (game.filterZone player zone).any
        (game.matchesFilter player (trim text)) = false := by
    rw [countSingle, List.countP_eq_zero, List.any_eq_false]
  rw [insertPart, takenByPart]
  cases hempty : (trim text).isEmpty with
  | true => simp
  | false =>
      cases hany : (game.filterZone player zone).any
          (game.matchesFilter player (trim text)) with
      | false => simp [hcount.mpr hany]
      | true =>
          have hpos : game.countSingle player zone (trim text) ≠ 0 := by
            rw [ne_eq, hcount, hany]
            exact Bool.true_eq_false_eq_False
          rw [if_neg Bool.false_ne_true, if_neg hpos, mem_foldl_ownedType]
          simp

theorem mem_foldl_insertPart (parts : List (List Char))
    (matched : Finset CardId) (id : CardId) :
    id ∈ parts.foldl (game.insertPart player zone) matched ↔
      id ∈ matched ∨
        id ∈ game.filterZone player zone ∧
          (parts.any fun text =>
            game.takenByPart player zone text id) = true := by
  induction parts generalizing matched with
  | nil => simp
  | cons text rest ih =>
      rw [List.foldl_cons, ih, mem_insertPart, List.any_cons, Bool.or_eq_true]
      constructor
      · rintro ((hold | ⟨hzone, htaken⟩) | ⟨hzone, hrest⟩)
        · exact Or.inl hold
        · exact Or.inr ⟨hzone, Or.inl htaken⟩
        · exact Or.inr ⟨hzone, Or.inr hrest⟩
      · rintro (hold | ⟨hzone, htaken | hrest⟩)
        · exact Or.inl (Or.inl hold)
        · exact Or.inl (Or.inr ⟨hzone, htaken⟩)
        · exact Or.inr ⟨hzone, hrest⟩

/-- The cards that some part takes. -/
theorem foldl_insertPart (parts : List (List Char)) :
    parts.foldl (game.insertPart player zone) ∅ =
      (game.filterZone player zone).toFinset.filter fun id =>
        parts.any fun text => game.takenByPart player zone text id := by
  ext id
  rw [mem_foldl_insertPart, Finset.mem_filter, List.mem_toFinset]
  simp

/-- Two parts of a set are equally large if as many elements are only in the
one as only in the other. -/
theorem card_filter_eq_iff {α : Type} (s : Finset α) (p q : α → Bool) :
    (s.filter fun a => p a).card = (s.filter fun a => q a).card ↔
      (s.filter fun a => p a && !q a).card =
        (s.filter fun a => q a && !p a).card := by
  have hsplit (p q : α → Bool) : (s.filter fun a => p a).card =
      (s.filter fun a => p a && q a).card +
        (s.filter fun a => p a && !q a).card := by
    rw [← Finset.card_filter_add_card_filter_not (fun a => q a = true),
      Finset.filter_filter, Finset.filter_filter]
    simp
  have hboth : (s.filter fun a => q a && p a) =
      s.filter fun a => p a && q a := by
    simp only [Bool.and_comm]
  rw [hsplit p q, hsplit q p, hboth]
  omega

variable (game player zone) in
/-- One filter counts no card of the zone twice; several count as many cards
wrongly as they miss. -/
def CountsUnion (filters : List (List Char)) : Prop :=
  match filters with
  | [text] => ((game.filterZone player zone).filter
      (game.matchesFilter player text)).Nodup
  | _ => (game.wronglyCounted player zone filters).card =
      (game.wronglyMissed player zone filters).card

/-- A list is as long as its set is large if it holds nothing twice. -/
theorem card_toFinset_eq_length_iff (ids : List CardId) :
    ids.length = ids.toFinset.card ↔ ids.Nodup := by
  rw [List.card_toFinset]
  constructor
  · intro hlength
    rw [← List.dedup_eq_self]
    exact (List.dedup_sublist ids).eq_of_length hlength.symm
  · intro hnodup
    rw [hnodup.dedup]

theorem countSingle_eq_iff (text : List Char) :
    game.countSingle player zone text =
        (game.countedByAny player zone [text]).card ↔
      ((game.filterZone player zone).filter
        (game.matchesFilter player text)).Nodup := by
  have hset : game.countedByAny player zone [text] =
      ((game.filterZone player zone).filter
        (game.matchesFilter player text)).toFinset := by
    rw [countedByAny, List.toFinset_filter]
    simp
  rw [hset, countSingle, List.countP_eq_length_filter,
    card_toFinset_eq_length_iff]

/-- A comma filter counts the cards that its parts count, without counting one
twice, exactly where it misses as many as it counts wrongly. -/
theorem countsUnion_iff {filters : List (List Char)} (hne : filters ≠ [])
    (hcommas : ∀ text ∈ filters, ',' ∉ text) :
    game.countCardsMatchingFilter player zone
        (String.ofList ([','].intercalate filters)) =
      (game.countedByAny player zone filters).card ↔
      game.CountsUnion player zone filters := by
  rw [countCardsMatchingFilter, String.toList_ofList,
    List.splitOn_intercalate ',' hcommas hne]
  rcases filters with - | ⟨text, - | ⟨second, rest⟩⟩
  · exact absurd rfl hne
  · have hsingle : [','].intercalate [text] = text := by simp
    have hnone : text.contains ',' = false := by
      rw [List.contains_eq_mem, decide_eq_false_iff_not]
      exact hcommas text List.mem_cons_self
    rw [hsingle, hnone, if_neg Bool.false_ne_true, countSingle_eq_iff,
      CountsUnion]
  · have hcomma : ([','].intercalate (text :: second :: rest)).contains ',' =
        true := by
      rw [List.contains_eq_mem, decide_eq_true_eq, List.intercalate_cons_cons]
      simp
    rw [if_pos hcomma, foldl_insertPart, countedByAny, card_filter_eq_iff]
    rfl

/-- A white and a red creature of the first player. -/
def twoCreatures : GameState where
  turn := { activePlayer := ⟨0⟩ }
  zones := { battlefield := [⟨1⟩, ⟨2⟩] }
  cards := ⟨[none,
    some
      { id := ⟨1⟩, owner := ⟨0⟩, controller := ⟨0⟩, colors := [.white]
        definition.cache.isCreature := true },
    some
      { id := ⟨2⟩, owner := ⟨0⟩, controller := ⟨0⟩, colors := [.red]
        definition.cache.isCreature := true }]⟩

/-- Both creatures are counted by their colors. -/
theorem countsUnion_colors :
    twoCreatures.countCardsMatchingFilter ⟨0⟩ .battlefield
      (String.ofList ([','].intercalate
        ["Creature.Red".toList, "Creature.White".toList])) =
      (twoCreatures.countedByAny ⟨0⟩ .battlefield
        ["Creature.Red".toList, "Creature.White".toList]).card := by
  apply (countsUnion_iff _ _).mpr
  · unfold CountsUnion
    decide +kernel
  · decide
  · decide +kernel

/-- White creatures and lands: the red creature is counted, too. -/
theorem not_countsUnion :
    twoCreatures.countCardsMatchingFilter ⟨0⟩ .battlefield
        (String.ofList ([','].intercalate
          ["Creature.White".toList, "Land".toList])) ≠
      (twoCreatures.countedByAny ⟨0⟩ .battlefield
        ["Creature.White".toList, "Land".toList]).card := by
  decide +kernel

end GameState

end DeepScry
