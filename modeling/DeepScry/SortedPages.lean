/-
Pages of items sorted by a key, where every page may be cut from another
sorted order of the same items.
-/
import Mathlib.Data.List.Perm.Basic
import Mathlib.Data.List.Perm.Lattice
import Mathlib.Data.List.Nodup

namespace DeepScry

namespace SortedPages

variable {α : Type*}

def page (items : List α) (size index : Nat) : List α :=
  (items.drop (index * size)).take size

theorem take_succ_page (items : List α) (size index : Nat) :
    items.take ((index + 1) * size) =
      items.take (index * size) ++ page items size index := by
  rw [page, ← List.take_add, Nat.succ_mul]

/-- The pages of one order are the order. -/
theorem flatMap_page (items : List α) (size count : Nat) :
    (List.range count).flatMap (page items size) =
      items.take (count * size) := by
  induction count with
  | zero => simp
  | succ count ih =>
    rw [List.range_succ, List.flatMap_append, ih, take_succ_page]
    simp

/-- Where the parts of two concatenations agree but for one, so does it. -/
theorem perm_of_flatMap_perm {β : Type*} {f g : β → List α}
    {indices : List β} (hnodup : indices.Nodup) {index : β}
    (hindex : index ∈ indices)
    (hsame : ∀ other, other ≠ index → f other = g other)
    (hperm : (indices.flatMap f).Perm (indices.flatMap g)) :
    (f index).Perm (g index) := by
  obtain ⟨before, after, rfl⟩ := List.append_of_mem hindex
  rw [List.nodup_append, List.nodup_cons] at hnodup
  have hbefore : before.flatMap f = before.flatMap g := by
    apply List.flatMap_congr
    intro other hother
    exact hsame other fun hsame =>
      hnodup.2.2 other hother index List.mem_cons_self hsame
  have hafter : after.flatMap f = after.flatMap g := by
    apply List.flatMap_congr
    intro other hother
    apply hsame other
    rintro rfl
    exact hnodup.2.1.1 hother
  simp only [List.flatMap_append, List.flatMap_cons, hbefore, hafter,
    List.perm_append_left_iff, List.perm_append_right_iff] at hperm
  exact hperm

variable (key : α → Nat)

def Sorted (items : List α) : Prop :=
  items.Pairwise fun a b => key a ≤ key b

/-- Different items of one key stand on one page of a sorted order. -/
def TiesTogether (items : List α) (size : Nat) : Prop :=
  ∀ a ∈ items, ∀ b ∈ items, key a = key b → a ≠ b →
    items.countP (fun item => key item < key a) / size =
      (items.countP (fun item => key item ≤ key a) - 1) / size

variable {key} {items others : List α} {size : Nat}

/-- A sorted order lists what is below a key, at it and above it. -/
theorem Sorted.split (hsorted : Sorted key items) (level : Nat) :
    items = items.filter (fun item => key item < level) ++
      (items.filter (fun item => key item = level) ++
        items.filter (fun item => level < key item)) := by
  induction items with
  | nil => rfl
  | cons first items ih =>
    obtain ⟨hfirst, hrest⟩ := List.pairwise_cons.mp hsorted
    have hbelow : level ≤ key first →
        items.filter (fun item => key item < level) = [] := by
      intro hlevel
      rw [List.filter_eq_nil_iff]
      intro item hitem
      simpa using Nat.le_trans hlevel (hfirst item hitem)
    have hat : level < key first →
        items.filter (fun item => key item = level) = [] := by
      intro hlevel
      rw [List.filter_eq_nil_iff]
      intro item hitem
      have hle := hfirst item hitem
      simp only [decide_eq_true_eq]
      omega
    have ih := ih hrest
    rcases Nat.lt_trichotomy (key first) level with hlt | heq | hgt
    · rw [List.filter_cons_of_pos (by simpa using hlt),
        List.filter_cons_of_neg (by simp; omega),
        List.filter_cons_of_neg (by simp; omega), List.cons_append, ← ih]
    · rw [List.filter_cons_of_neg (by simp; omega),
        List.filter_cons_of_pos (by simpa using heq),
        List.filter_cons_of_neg (by simp; omega), List.cons_append]
      rw [hbelow (by omega)] at ih ⊢
      rw [List.nil_append] at ih ⊢
      rw [← ih]
    · rw [List.filter_cons_of_neg (by simp; omega),
        List.filter_cons_of_neg (by simp; omega),
        List.filter_cons_of_pos (by simpa using hgt)]
      rw [hbelow (by omega), hat hgt] at ih ⊢
      rw [List.nil_append, List.nil_append] at ih ⊢
      rw [← ih]

theorem countP_le (key : α → Nat) (items : List α) (level : Nat) :
    items.countP (fun item => key item ≤ level) =
      items.countP (fun item => key item < level) +
        (items.filter fun item => key item = level).length := by
  induction items with
  | nil => rfl
  | cons first items ih =>
    simp only [List.countP_cons, List.filter_cons, ih, decide_eq_true_eq]
    rcases Nat.lt_trichotomy (key first) level with hlt | heq | hgt
    · simp [hlt, Nat.le_of_lt hlt, Nat.ne_of_lt hlt]
      omega
    · simp [heq]
      omega
    · simp [Nat.not_le.mpr hgt, Nat.not_lt.mpr (Nat.le_of_lt hgt),
        Nat.ne_of_gt hgt]

theorem TiesTogether.perm (hties : TiesTogether key items size)
    (hperm : items.Perm others) : TiesTogether key others size := by
  intro a ha b hb hkey hne
  rw [← hperm.countP_eq, ← hperm.countP_eq]
  exact hties a (hperm.mem_iff.mpr ha) b (hperm.mem_iff.mpr hb) hkey hne

/-- The items of a key that a page boundary cuts apart are all the same. -/
theorem TiesTogether.same (hties : TiesTogether key items size)
    {level count : Nat} (hsize : 0 < size)
    (hbelow : items.countP (fun item => key item < level) < count * size)
    (habove : count * size < items.countP fun item => key item ≤ level)
    {a b : α} (ha : a ∈ items.filter fun item => key item = level)
    (hb : b ∈ items.filter fun item => key item = level) : a = b := by
  by_contra hne
  simp only [List.mem_filter, decide_eq_true_eq] at ha hb
  have hpage := hties a ha.1 b hb.1 (ha.2.trans hb.2.symm) hne
  rw [ha.2] at hpage
  have hfirst := (Nat.div_lt_iff_lt_mul hsize).mpr hbelow
  have hlast := (Nat.le_div_iff_mul_le hsize).mpr (Nat.le_pred_of_lt habove)
  simp only [Nat.pred_eq_sub_one] at hlast
  omega

/-- Two lists of one item each are equal where their lengths are. -/
theorem eq_of_all_same (hall : ∀ a ∈ items, ∀ b ∈ items, a = b)
    (hperm : items.Perm others) : items = others := by
  cases items with
  | nil => exact (List.nil_perm.mp hperm).symm
  | cons first rest =>
    have hitems : first :: rest =
        List.replicate (first :: rest).length first :=
      List.eq_replicate_of_mem fun b hb => hall b hb first List.mem_cons_self
    have hothers : others = List.replicate others.length first :=
      List.eq_replicate_of_mem fun b hb =>
        hall b (hperm.mem_iff.mpr hb) first List.mem_cons_self
    rw [hitems, hothers, hperm.length_eq]

/-- At most the items before a position have a smaller key. -/
theorem Sorted.countP_lt_le (hsorted : Sorted key items) {position : Nat}
    (hlong : position < items.length) :
    items.countP (fun item => key item < key items[position]) ≤ position := by
  have hcut := List.take_append_drop position items
  rw [List.drop_eq_getElem_cons hlong] at hcut
  generalize items[position] = first at hcut ⊢
  rw [← hcut, Sorted, List.pairwise_append, List.pairwise_cons] at hsorted
  have hnone : (first :: items.drop (position + 1)).countP
      (fun item => key item < key first) = 0 := by
    rw [List.countP_eq_zero]
    intro item hitem
    rcases List.mem_cons.mp hitem with rfl | hitem
    · simp
    · simpa using hsorted.2.1.1 item hitem
  rw [← hcut, List.countP_append, hnone]
  exact Nat.le_trans List.countP_le_length (List.length_take_le _ _)

/-- The items up to a position have a key that is no larger. -/
theorem Sorted.lt_countP_le (hsorted : Sorted key items) {position : Nat}
    (hlong : position < items.length) :
    position < items.countP fun item => key item ≤ key items[position] := by
  have hcut := List.take_append_drop position items
  rw [List.drop_eq_getElem_cons hlong] at hcut
  have hlength : (items.take position).length = position :=
    List.length_take_of_le (Nat.le_of_lt hlong)
  generalize items[position] = first at hcut ⊢
  rw [← hcut, Sorted, List.pairwise_append] at hsorted
  have hall : (items.take position).countP
      (fun item => key item ≤ key first) = position := by
    rw [List.countP_eq_length.mpr, hlength]
    intro item hitem
    simpa using hsorted.2.2 item hitem first List.mem_cons_self
  rw [← hcut, List.countP_append, hall, List.countP_cons]
  simp

/-- A cut between the end of the first and the end of the second part. -/
theorem take_append_append {below at' above : List α} {position : Nat}
    (hfrom : below.length ≤ position)
    (hupto : position ≤ below.length + at'.length) :
    (below ++ (at' ++ above)).take position =
      below ++ at'.take (position - below.length) := by
  rw [List.take_append, List.take_of_length_le hfrom,
    List.take_append_of_le_length (by omega)]

/-- Two sorted orders have the same items before a page boundary. -/
theorem Sorted.take_perm (hsorted : Sorted key items)
    (hother : Sorted key others) (hperm : items.Perm others)
    (hsize : 0 < size) (hties : TiesTogether key items size) (count : Nat) :
    (items.take (count * size)).Perm (others.take (count * size)) := by
  by_cases hlong : count * size < items.length
  · have hfrom := hsorted.countP_lt_le hlong
    have hupto := hsorted.lt_countP_le hlong
    generalize key items[count * size] = level at hfrom hupto
    have hbelow : (items.filter fun item => key item < level).Perm
        (others.filter fun item => key item < level) := hperm.filter _
    have hat : (items.filter fun item => key item = level).Perm
        (others.filter fun item => key item = level) := hperm.filter _
    have hbelowLength := List.countP_eq_length_filter ▸ hfrom
    have huptoLength := countP_le key items level ▸ hupto
    rw [List.countP_eq_length_filter] at huptoLength
    rw [hsorted.split level, hother.split level,
      take_append_append hbelowLength (by omega),
      take_append_append (by rw [← hbelow.length_eq]; exact hbelowLength)
        (by rw [← hbelow.length_eq, ← hat.length_eq]; omega),
      ← hbelow.length_eq]
    apply hbelow.append
    rcases Nat.eq_or_lt_of_le hfrom with hfirst | hinside
    · rw [List.countP_eq_length_filter] at hfirst
      simp [hfirst]
    · rw [eq_of_all_same (fun a ha b hb =>
        hties.same hsize hinside hupto ha hb) hat]
  · rw [List.take_of_length_le (by omega),
      List.take_of_length_le (by rw [← hperm.length_eq]; omega)]
    exact hperm

/-- Two sorted orders have the same items on each page. -/
theorem Sorted.page_perm (hsorted : Sorted key items)
    (hother : Sorted key others) (hperm : items.Perm others)
    (hsize : 0 < size) (hties : TiesTogether key items size) (index : Nat) :
    (page items size index).Perm (page others size index) := by
  have hbefore := hsorted.take_perm hother hperm hsize hties index
  have hafter := hsorted.take_perm hother hperm hsize hties (index + 1)
  rw [take_succ_page, take_succ_page] at hafter
  have hrest := (hbefore.symm.append_right (page items size index)).trans
    hafter
  exact (List.perm_append_left_iff _).mp hrest

/-- Pages cut from any sorted orders list every item once, where ties are kept
together. -/
theorem TiesTogether.pages_perm (hties : TiesTogether key items size)
    (hsize : 0 < size) {count : Nat} (hcount : items.length ≤ count * size)
    {orders : Nat → List α} (horders : ∀ index, Sorted key (orders index) ∧
      (orders index).Perm items) :
    ((List.range count).flatMap fun index =>
      page (orders index) size index).Perm items := by
  have hpages : ((List.range count).flatMap fun index =>
      page (orders index) size index).Perm
      ((List.range count).flatMap (page (orders 0) size)) := by
    apply List.Perm.flatMap_left
    intro index _
    exact (horders index).1.page_perm (horders 0).1
      ((horders index).2.trans (horders 0).2.symm) hsize
      (hties.perm (horders index).2.symm) index
  rw [flatMap_page, List.take_of_length_le
    (by rw [(horders 0).2.length_eq]; exact hcount)] at hpages
  exact hpages.trans (horders 0).2

/-- Two neighbours of one key, with the items before and after them. -/
theorem Sorted.exchange {low high : List α} {a b : α} {level : Nat}
    (hlow : ∀ item ∈ low, key item ≤ level) (ha : key a = level)
    (hb : key b = level) (hhigh : ∀ item ∈ high, level ≤ key item)
    (hlowSorted : Sorted key low) (hhighSorted : Sorted key high) :
    Sorted key (low ++ a :: b :: high) := by
  simp only [Sorted, List.pairwise_append, List.pairwise_cons, List.mem_cons,
    forall_eq_or_imp, ha, hb]
  refine ⟨hlowSorted, ⟨⟨Nat.le_refl _, hhigh⟩, hhigh, hhighSorted⟩, ?_⟩
  intro item hitem
  refine ⟨hlow item hitem, hlow item hitem, fun other hother => ?_⟩
  exact Nat.le_trans (hlow item hitem) (hhigh other hother)

/-- The page that ends after the first of two neighbours. -/
theorem page_of_take {low high : List α} {a : α} {index : Nat}
    (hlow : low.length + 1 = (index + 1) * size) (hsize : 0 < size) :
    page (low ++ a :: high) size index = low.drop (index * size) ++ [a] := by
  have hbefore : index * size ≤ low.length := by
    rw [Nat.succ_mul] at hlow
    omega
  have hlength : (low.drop (index * size)).length + 1 = size := by
    rw [List.length_drop]
    rw [Nat.succ_mul] at hlow
    omega
  have hone : size - (low.drop (index * size)).length = 1 := by omega
  rw [page, List.drop_append_of_le_length hbefore, List.take_append,
    List.take_of_length_le (by omega), hone]
  rfl

/-- The items below the key of `a`, those of its key apart from `a` and `b`,
and the items above it. -/
structure Levels (key : α → Nat) (items : List α) (a b : α)
    (below level above : List α) : Prop where
  perm : (below ++ a :: b :: (level ++ above)).Perm items
  below_sorted : Sorted key below
  above_sorted : Sorted key above
  below_le : ∀ item ∈ below, key item ≤ key a
  level_eq : ∀ item ∈ level, key item = key a
  le_above : ∀ item ∈ above, key a ≤ key item
  below_count : below.length = items.countP fun item => key item < key a
  level_count : below.length + level.length + 2 =
    items.countP fun item => key item ≤ key a

theorem exists_levels {a b : α} (ha : a ∈ items) (hb : b ∈ items)
    (hkey : key a = key b) (hne : a ≠ b) :
    ∃ below level above, Levels key items a b below level above := by
  classical
  let sorted := items.mergeSort fun x y => key x ≤ key y
  have hsorted : Sorted key sorted := by
    have h : sorted.Pairwise fun x y => decide (key x ≤ key y) = true :=
      List.pairwise_mergeSort (by simpa using fun a b c => Nat.le_trans)
        (by simpa using fun a b => Nat.le_total (key a) (key b)) items
    exact h.imp fun hle => by simpa using hle
  have hperm : sorted.Perm items := List.mergeSort_perm _ _
  have hsplit := hsorted.split (key a)
  have hma : a ∈ sorted.filter fun item => key item = key a := by
    simpa using hperm.mem_iff.mpr ha
  have hmb : b ∈ (sorted.filter fun item => key item = key a).erase a := by
    rw [List.mem_erase_of_ne hne.symm]
    simpa [hkey] using hperm.mem_iff.mpr hb
  have hsame : (sorted.filter fun item => key item = key a).Perm
      (a :: b :: ((sorted.filter fun item => key item = key a).erase a).erase
        b) :=
    (List.perm_cons_erase hma).trans ((List.perm_cons_erase hmb).cons a)
  generalize ((sorted.filter fun item => key item = key a).erase a).erase b =
    level at hsame
  refine ⟨sorted.filter fun item => key item < key a, level,
    sorted.filter fun item => key a < key item, ?_, hsorted.filter _,
    hsorted.filter _, ?_, ?_, ?_, ?_, ?_⟩
  · exact ((hsame.symm.append_right _).append_left _).trans
      (hsplit ▸ hperm)
  · intro item hitem
    simpa using Nat.le_of_lt (by simpa using (List.mem_filter.mp hitem).2)
  · intro item hitem
    have hmem := hsame.mem_iff.mpr
      (List.mem_cons_of_mem _ (List.mem_cons_of_mem _ hitem))
    simpa using (List.mem_filter.mp hmem).2
  · intro item hitem
    simpa using Nat.le_of_lt (by simpa using (List.mem_filter.mp hitem).2)
  · rw [← List.countP_eq_length_filter, hperm.countP_eq]
  · have hcount := hsame.length_eq
    simp only [List.length_cons] at hcount
    rw [← hperm.countP_eq, countP_le, List.countP_eq_length_filter]
    omega

/-- Two items of one key can stand on both sides of any position among the
items of their key. -/
theorem exists_exchange {a b : α} (ha : a ∈ items) (hb : b ∈ items)
    (hkey : key a = key b) (hne : a ≠ b) {position : Nat}
    (hfrom : items.countP (fun item => key item < key a) < position)
    (hupto : position < items.countP fun item => key item ≤ key a) :
    ∃ low high, low.length + 1 = position ∧
      Sorted key (low ++ a :: b :: high) ∧
      Sorted key (low ++ b :: a :: high) ∧
      (low ++ a :: b :: high).Perm items := by
  obtain ⟨below, level, above, h⟩ := exists_levels ha hb hkey hne
  rw [← h.below_count] at hfrom
  rw [← h.level_count] at hupto
  have hequal (part : List α) (hpart : ∀ item ∈ part, item ∈ level) :
      Sorted key part := by
    apply List.pairwise_of_forall_mem_list
    intro x hx y hy
    exact Nat.le_of_eq ((h.level_eq x (hpart x hx)).trans
      (h.level_eq y (hpart y hy)).symm)
  let low := below ++ level.take (position - 1 - below.length)
  let high := level.drop (position - 1 - below.length) ++ above
  have hlow : ∀ item ∈ low, key item ≤ key a := by
    intro item hitem
    rcases List.mem_append.mp hitem with hitem | hitem
    · exact h.below_le item hitem
    · exact Nat.le_of_eq (h.level_eq item (List.mem_of_mem_take hitem))
  have hhigh : ∀ item ∈ high, key a ≤ key item := by
    intro item hitem
    rcases List.mem_append.mp hitem with hitem | hitem
    · exact Nat.le_of_eq (h.level_eq item (List.mem_of_mem_drop hitem)).symm
    · exact h.le_above item hitem
  have hlowSorted : Sorted key low := by
    refine List.pairwise_append.mpr ⟨h.below_sorted,
      hequal _ fun _ => List.mem_of_mem_take, fun x hx y hy => ?_⟩
    rw [h.level_eq y (List.mem_of_mem_take hy)]
    exact h.below_le x hx
  have hhighSorted : Sorted key high := by
    refine List.pairwise_append.mpr ⟨hequal _ fun _ => List.mem_of_mem_drop,
      h.above_sorted, fun x hx y hy => ?_⟩
    rw [h.level_eq x (List.mem_of_mem_drop hx)]
    exact h.le_above y hy
  refine ⟨low, high, ?_, ?_, ?_, ?_⟩
  · simp only [low, List.length_append, List.length_take]
    omega
  · exact Sorted.exchange hlow rfl hkey.symm hhigh hlowSorted hhighSorted
  · exact Sorted.exchange hlow hkey.symm rfl hhigh hlowSorted hhighSorted
  · refine List.Perm.trans ?_ h.perm
    simp only [low, high, List.append_assoc]
    apply List.Perm.append_left
    have hlevel : level.take (position - 1 - below.length) ++
        (level.drop (position - 1 - below.length) ++ above) =
        level ++ above := by
      rw [← List.append_assoc, List.take_append_drop]
    have hfront := (List.perm_middle.trans (List.perm_middle.cons a) :
      (level.take (position - 1 - below.length) ++ a :: b ::
        (level.drop (position - 1 - below.length) ++ above)).Perm _)
    rw [hlevel] at hfront
    exact hfront

/-- Where all sorted orders give the same pages, ties are kept together. -/
theorem tiesTogether_of_page_perm (hsize : 0 < size) {count : Nat}
    (hcount : items.length ≤ count * size)
    (hpages : ∀ first second, Sorted key first → Sorted key second →
      first.Perm items → second.Perm items → ∀ index < count,
        (page first size index).Perm (page second size index)) :
    TiesTogether key items size := by
  intro a ha b hb hkey hne
  by_contra hapart
  have hle := countP_le key items (key a)
  have hsome : 0 < (items.filter fun item => key item = key a).length :=
    List.length_pos_of_mem (List.mem_filter.mpr ⟨ha, by simp⟩)
  have hmono : items.countP (fun item => key item < key a) / size <
      (items.countP (fun item => key item ≤ key a) - 1) / size :=
    Nat.lt_of_le_of_ne (Nat.div_le_div_right (by omega)) hapart
  -- the last page boundary among the items of the key
  obtain ⟨index, hindex⟩ : ∃ index, (items.countP
      (fun item => key item ≤ key a) - 1) / size = index + 1 :=
    Nat.exists_eq_succ_of_ne_zero (Nat.ne_zero_of_lt hmono)
  have hfrom : items.countP (fun item => key item < key a) <
      (index + 1) * size := by
    rw [← Nat.div_lt_iff_lt_mul hsize, ← hindex]
    exact hmono
  have hupto : (index + 1) * size <
      items.countP fun item => key item ≤ key a := by
    have h := (Nat.le_div_iff_mul_le hsize).mp (Nat.le_of_eq hindex.symm)
    omega
  obtain ⟨low, high, hlow, hfirst, hsecond, hperm⟩ :=
    exists_exchange ha hb hkey hne hfrom hupto
  have hswap : (low ++ b :: a :: high).Perm (low ++ a :: b :: high) :=
    (List.Perm.swap a b high).append_left low
  have hbound : index < count := by
    have hlast := Nat.lt_of_lt_of_le hupto
      (Nat.le_trans List.countP_le_length hcount)
    have h := Nat.lt_of_mul_lt_mul_right hlast
    omega
  have hpage := hpages _ _ hfirst hsecond hperm (hswap.trans hperm) index
    hbound
  rw [page_of_take hlow hsize, page_of_take hlow hsize,
    List.perm_append_left_iff, List.singleton_perm_singleton] at hpage
  exact hne hpage

/-- Pages that are each cut from some sorted order always list every item
once, exactly where ties are kept together. -/
theorem pages_perm_iff (hsize : 0 < size) {count : Nat}
    (hcount : items.length ≤ count * size) :
    (∀ orders : Nat → List α, (∀ index, Sorted key (orders index) ∧
        (orders index).Perm items) →
      ((List.range count).flatMap fun index =>
        page (orders index) size index).Perm items) ↔
      TiesTogether key items size := by
  constructor
  · intro hall
    apply tiesTogether_of_page_perm hsize hcount
    intro first second hfirst hsecond hfirstPerm hsecondPerm index hindex
    have hmixed := hall (fun other => if other = index then first else second)
      fun other => by
        split
        · exact ⟨hfirst, hfirstPerm⟩
        · exact ⟨hsecond, hsecondPerm⟩
    have hplain := hall (fun _ => second) fun _ => ⟨hsecond, hsecondPerm⟩
    have hpart := perm_of_flatMap_perm List.nodup_range
      (List.mem_range.mpr hindex)
      (fun other hother => by simp only [hother, if_false])
      (hmixed.trans hplain.symm)
    simpa using hpart
  · intro hties orders horders
    exact hties.pages_perm hsize hcount horders

end SortedPages

end DeepScry
