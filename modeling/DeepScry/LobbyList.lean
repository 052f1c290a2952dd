/-
The list of waiting games of the lobby, and when its pages cover the list.
-/
import Mathlib
import DeepScry.SortedPages

namespace DeepScry

open SortedPages

namespace Lobby

def defaultListGamesLimit : UInt32 := 20

def maxListGamesLimit : UInt32 := 100

/-- A game that waits for its second player. -/
structure PendingGame where
  id : UInt64
  name : String
  creatorName : String
  hasPassword : Bool
  createdAtMs : UInt64
deriving DecidableEq

structure LobbyGameEntry where
  name : String
  creatorName : String
  hasPassword : Bool
  createdAtMs : UInt64
deriving DecidableEq

structure ListGamesQuery where
  filter : Option String := none
  limit : UInt32 := 0
  offset : UInt32 := 0

/-- The waiting games by key. -/
structure LobbyState where
  waitingGames : List (String × PendingGame)
  nodupKeys : (waitingGames.map Prod.fst).Nodup

def LobbyState.values (lobby : LobbyState) : List PendingGame :=
  lobby.waitingGames.map Prod.snd

def PendingGame.entry (game : PendingGame) : LobbyGameEntry where
  name := game.name
  creatorName := game.creatorName
  hasPassword := game.hasPassword
  createdAtMs := game.createdAtMs

/-- `str::contains`. -/
def containsText (text needle : String) : Bool :=
  decide (needle.toList <:+: text.toList)

variable (toLowercase : String → String)

/-- The case-insensitive filter on the game name or the creator name. -/
def matchesFilter (filter : Option String) (entry : LobbyGameEntry) : Bool :=
  match filter.filter (fun needle => !needle.isEmpty) with
  | none => true
  | some needle =>
      containsText (toLowercase entry.name) (toLowercase needle) ||
        containsText (toLowercase entry.creatorName) (toLowercase needle)

/-- All entries by creation time, from one iteration over the map. -/
def sortedEntries (order : List PendingGame) : List LobbyGameEntry :=
  (order.map PendingGame.entry).mergeSort fun a b =>
    a.createdAtMs ≤ b.createdAtMs

/-- `list_waiting_paged`, where the map is iterated in the given order. -/
def listWaitingPaged (order : List PendingGame)
    (query : Option ListGamesQuery) : List LobbyGameEntry × UInt32 :=
  let all := sortedEntries order
  match query with
  | none => (all, all.length.toUInt32)
  | some q =>
      let all := all.filter (matchesFilter toLowercase q.filter)
      let total := all.length.toUInt32
      let limit :=
        if q.limit = 0 then defaultListGamesLimit
        else min q.limit maxListGamesLimit
      let offset := q.offset.toNat
      let stop := min (offset + limit.toNat) all.length
      let page :=
        if offset ≥ all.length then []
        else (all.drop offset).take (stop - offset)
      (page, total)

/-- The entries that a filter lets through. -/
def LobbyState.matching (lobby : LobbyState) (filter : Option String) :
    List LobbyGameEntry :=
  (lobby.values.map PendingGame.entry).filter
    (matchesFilter toLowercase filter)

/-- The answer to the call for one page. -/
def callPage (filter : Option String) (limit : UInt32)
    (order : List PendingGame) (index : Nat) :
    List LobbyGameEntry × UInt32 :=
  listWaitingPaged toLowercase order
    (some { filter, limit, offset := (index * limit.toNat).toUInt32 })

/-- The pages at the multiples of the limit up to the total. -/
def collectPages (filter : Option String) (limit : UInt32)
    (orders : Nat → List PendingGame) : List LobbyGameEntry :=
  let total := (callPage toLowercase filter limit (orders 0) 0).2
  (List.range (total.toNat / limit.toNat + 1)).flatMap fun index =>
    (callPage toLowercase filter limit (orders index) index).1

/-- However the map is iterated in each call, the pages hold every matching
entry once and are as many as the total says. -/
def PagesCover (lobby : LobbyState) (filter : Option String)
    (limit : UInt32) : Prop :=
  ∀ orders : Nat → List PendingGame,
    (∀ call, (orders call).Perm lobby.values) →
      (collectPages toLowercase filter limit orders).Perm
          (lobby.matching toLowercase filter) ∧
        ∀ call index, (collectPages toLowercase filter limit orders).length =
          (callPage toLowercase filter limit (orders call) index).2.toNat

def createdAt (entry : LobbyGameEntry) : Nat := entry.createdAtMs.toNat

/-- The matching entries in one order. -/
def listed (filter : Option String) (order : List PendingGame) :
    List LobbyGameEntry :=
  (sortedEntries order).filter (matchesFilter toLowercase filter)

variable {toLowercase} {lobby : LobbyState} {filter : Option String}
  {limit : UInt32} {order : List PendingGame}

def earlier (a b : LobbyGameEntry) : Bool :=
  a.createdAtMs ≤ b.createdAtMs

theorem earlier_trans (a b c : LobbyGameEntry) (hab : earlier a b)
    (hbc : earlier b c) : earlier a c := by
  simp only [earlier, decide_eq_true_eq] at hab hbc ⊢
  exact UInt64.le_trans hab hbc

theorem earlier_total (a b : LobbyGameEntry) :
    earlier a b || earlier b a := by
  simpa [earlier] using UInt64.le_total a.createdAtMs b.createdAtMs

theorem sortedEntries_sorted : Sorted createdAt (sortedEntries order) := by
  have hsorted := List.pairwise_mergeSort earlier_trans earlier_total
    (order.map PendingGame.entry)
  exact hsorted.imp fun hle => UInt64.le_iff_toNat_le.mp (of_decide_eq_true hle)

theorem listed_sorted : Sorted createdAt (listed toLowercase filter order) :=
  sortedEntries_sorted.filter _

theorem listed_perm (horder : order.Perm lobby.values) :
    (listed toLowercase filter order).Perm
      (lobby.matching toLowercase filter) :=
  ((List.mergeSort_perm _ _).trans (horder.map _)).filter _

theorem toNat_toUInt32 {n : Nat} : n.toUInt32.toNat = n % 2 ^ 32 := by
  simp

theorem callPage_total {index : Nat} :
    (callPage toLowercase filter limit order index).2 =
      (listed toLowercase filter order).length.toUInt32 := rfl

theorem callPage_page (hlimit : 0 < limit) (hmax : limit ≤ maxListGamesLimit)
    {index : Nat} (hindex : index * limit.toNat < 2 ^ 32) :
    (callPage toLowercase filter limit order index).1 =
      page (listed toLowercase filter order) limit.toNat index := by
  have hnonzero : limit ≠ 0 := by
    rintro rfl
    cases hlimit
  have hmin : min limit maxListGamesLimit = limit := if_pos hmax
  have hoffset : (index * limit.toNat).toUInt32.toNat =
      index * limit.toNat := by
    rw [toNat_toUInt32, Nat.mod_eq_of_lt hindex]
  simp only [callPage, listWaitingPaged, hnonzero, if_false, hmin, hoffset,
    page, listed]
  generalize (sortedEntries order).filter _ = all
  split
  · next hlate => simp [List.drop_of_length_le hlate]
  · next hearly =>
    rw [List.take_eq_take_iff, List.length_drop]
    omega

/-- An order of the images is the images of an order. -/
theorem exists_map_eq_of_perm_map {α β : Type*} {f : α → β} {images : List β}
    {items : List α} (hperm : images.Perm (items.map f)) :
    ∃ order : List α, order.map f = images ∧ order.Perm items := by
  induction images generalizing items with
  | nil =>
    obtain rfl := List.map_eq_nil_iff.mp (List.nil_perm.mp hperm)
    exact ⟨[], rfl, List.Perm.refl _⟩
  | cons image images ih =>
    obtain ⟨item, hitem, rfl⟩ := List.mem_map.mp
      (hperm.mem_iff.mp List.mem_cons_self)
    obtain ⟨before, after, rfl⟩ := List.append_of_mem hitem
    have hrest : images.Perm ((before ++ after).map f) := by
      rw [List.map_append, List.map_cons] at hperm
      rw [List.map_append]
      exact (List.perm_cons _).mp (hperm.trans List.perm_middle)
    obtain ⟨order, rfl, horder⟩ := ih hrest
    exact ⟨item :: order, rfl, (horder.cons item).trans List.perm_middle.symm⟩

/-- Every sorted order of the matching entries is listed from some iteration
of the map. -/
theorem exists_listed {entries : List LobbyGameEntry}
    (hsorted : Sorted createdAt entries)
    (hperm : entries.Perm (lobby.matching toLowercase filter)) :
    ∃ order : List PendingGame, order.Perm lobby.values ∧
      listed toLowercase filter order = entries := by
  have himages := hperm
  rw [LobbyState.matching, List.filter_map] at himages
  obtain ⟨games, hgames, hvalues⟩ := exists_map_eq_of_perm_map himages
  let order := games ++ lobby.values.filter fun game =>
    !matchesFilter toLowercase filter game.entry
  have horder : order.Perm lobby.values :=
    (hvalues.append_right _).trans (List.filter_append_perm _ _)
  refine ⟨order, horder, ?_⟩
  have hall : ∀ entry ∈ entries,
      matchesFilter toLowercase filter entry = true := by
    intro entry hentry
    exact (List.mem_filter.mp (hperm.mem_iff.mp hentry)).2
  have hsublist : entries.Sublist (listed toLowercase filter order) := by
    rw [← List.filter_eq_self.mpr hall]
    apply List.Sublist.filter
    apply List.sublist_mergeSort earlier_trans earlier_total
    · exact hsorted.imp fun hle =>
        decide_eq_true (UInt64.le_iff_toNat_le.mpr hle)
    · rw [List.map_append, hgames]
      exact List.sublist_append_left _ _
  exact (hsublist.eq_of_length
    (hperm.length_eq.trans (listed_perm horder).length_eq.symm)).symm

theorem length_listed (horder : order.Perm lobby.values) :
    (listed toLowercase filter order).length =
      (lobby.matching toLowercase filter).length :=
  (listed_perm horder).length_eq

theorem toNat_pos (hlimit : 0 < limit) : 0 < limit.toNat :=
  UInt32.lt_iff_toNat_lt.mp hlimit

/-- The collected pages are cut from the listed orders. -/
theorem collectPages_eq (hlimit : 0 < limit)
    (hmax : limit ≤ maxListGamesLimit) {orders : Nat → List PendingGame}
    (horders : ∀ call, (orders call).Perm lobby.values)
    (hcount : (lobby.matching toLowercase filter).length < 2 ^ 32) :
    collectPages toLowercase filter limit orders =
      (List.range ((lobby.matching toLowercase filter).length /
        limit.toNat + 1)).flatMap fun index =>
          page (listed toLowercase filter (orders index)) limit.toNat
            index := by
  rw [collectPages, callPage_total, length_listed (horders 0),
    toNat_toUInt32, Nat.mod_eq_of_lt hcount]
  apply List.flatMap_congr
  intro index hindex
  apply callPage_page hlimit hmax
  have hbefore := Nat.le_of_lt_succ (List.mem_range.mp hindex)
  have hoffset := Nat.mul_le_of_le_div _ _ _ hbefore
  omega

theorem pagesCover_count (hcover : PagesCover toLowercase lobby filter limit) :
    (lobby.matching toLowercase filter).length < 2 ^ 32 := by
  obtain ⟨hperm, htotal⟩ := hcover (fun _ => lobby.values)
    fun _ => List.Perm.refl _
  have htotal := htotal 0 0
  rw [hperm.length_eq, callPage_total, length_listed (List.Perm.refl _),
    toNat_toUInt32] at htotal
  rw [htotal]
  exact Nat.mod_lt _ (by decide)

theorem length_le_pages (entries : List LobbyGameEntry) {size : Nat}
    (hsize : 0 < size) :
    entries.length ≤ (entries.length / size + 1) * size :=
  Nat.le_of_lt (Nat.lt_mul_of_div_lt (Nat.lt_succ_self _) hsize)

/-- Pages that always cover the list keep ties together. -/
theorem PagesCover.tiesTogether (hlimit : 0 < limit)
    (hmax : limit ≤ maxListGamesLimit)
    (hcover : PagesCover toLowercase lobby filter limit) :
    TiesTogether createdAt (lobby.matching toLowercase filter)
      limit.toNat := by
  have hsize := toNat_pos hlimit
  apply (pages_perm_iff hsize (length_le_pages _ hsize)).mp
  intro sorted hsorted
  choose orders horders hlisted using fun index =>
    exists_listed (hsorted index).1 (hsorted index).2
  have hperm := (hcover orders horders).1
  rw [collectPages_eq hlimit hmax horders (pagesCover_count hcover)] at hperm
  simpa only [hlisted] using hperm

/-- The pages at the multiples of an allowed limit cover the list, however the
map is iterated, exactly where the total fits in a `u32` and the different
games of one creation time stand on one page. -/
theorem pagesCover_iff (toLowercase : String → String) (lobby : LobbyState)
    (filter : Option String) (limit : UInt32) (hlimit : 0 < limit)
    (hmax : limit ≤ maxListGamesLimit) :
    PagesCover toLowercase lobby filter limit ↔
      (lobby.matching toLowercase filter).length < 2 ^ 32 ∧
        TiesTogether createdAt (lobby.matching toLowercase filter)
          limit.toNat := by
  constructor
  · intro hcover
    exact ⟨pagesCover_count hcover, hcover.tiesTogether hlimit hmax⟩
  · rintro ⟨hcount, hties⟩ orders horders
    have hsize := toNat_pos hlimit
    have hpages := collectPages_eq hlimit hmax horders hcount
    have hperm := hties.pages_perm hsize (length_le_pages _ hsize)
      fun index => ⟨listed_sorted, listed_perm (horders index)⟩
    rw [← hpages] at hperm
    refine ⟨hperm, fun call index => ?_⟩
    rw [hperm.length_eq, callPage_total, length_listed (horders call),
      toNat_toUInt32, Nat.mod_eq_of_lt hcount]

/-- Two waiting games that were created at the given times. -/
def twoGames (first second : UInt64) : LobbyState where
  waitingGames :=
    [("alpha", ⟨1, "alpha", "Ann", false, first⟩),
      ("bravo", ⟨2, "bravo", "Bob", false, second⟩)]
  nodupKeys := by simp

theorem pagesCover_twoGames :
    PagesCover String.toLower (twoGames 100 101) none 1 :=
  (pagesCover_iff String.toLower (twoGames 100 101) none 1 (by decide)
    (by decide)).mpr ⟨by decide, by unfold TiesTogether; decide +kernel⟩

/-- Two games of one millisecond can change places between two pages. -/
theorem not_pagesCover_twoGames :
    ¬ PagesCover String.toLower (twoGames 100 100) none 1 := by
  intro hcover
  have hties := hcover.tiesTogether (by decide) (by decide)
  revert hties
  unfold TiesTogether
  decide +kernel

end Lobby

end DeepScry
