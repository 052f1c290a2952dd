/-
Maps as lists of entries with strictly increasing keys.  Two such lists with
the same lookups are equal.
-/
import Mathlib.Data.List.Sort
import Mathlib.Order.Defs.LinearOrder

namespace SortedMap

universe u v

variable {K : Type u} {V : Type v} [LinearOrder K]

/-- The keys strictly increase. -/
def Sorted (m : List (K × V)) : Prop :=
  m.Pairwise fun entry entry' => entry.1 < entry'.1

/-- The value of the first entry with the key. -/
def lookup (m : List (K × V)) (k : K) : Option V :=
  (m.find? fun entry => entry.1 == k).map Prod.snd

/-- Put an entry in its place, over the one with the same key. -/
def insert (k : K) (v : V) : List (K × V) → List (K × V)
  | [] => [(k, v)]
  | entry :: rest =>
      if k < entry.1 then (k, v) :: entry :: rest
      else if k = entry.1 then (k, v) :: rest
      else entry :: insert k v rest

def erase (k : K) (m : List (K × V)) : List (K × V) :=
  m.filter fun entry => entry.1 != k

omit [LinearOrder K] in
theorem lookup_cons [DecidableEq K] (entry : K × V) (rest : List (K × V))
    (k : K) :
    ((entry :: rest).find? fun entry => entry.1 == k).map Prod.snd =
      if entry.1 = k then some entry.2
      else (rest.find? fun entry => entry.1 == k).map Prod.snd := by
  rw [List.find?_cons]
  by_cases hkey : entry.1 = k
  · simp [hkey]
  · simp [hkey, beq_eq_false_iff_ne.mpr hkey]

omit [LinearOrder K] in
/-- What a lookup finds is an entry. -/
theorem mem_of_lookup [DecidableEq K] {m : List (K × V)} {k : K} {v : V}
    (hfound : (m.find? fun entry => entry.1 == k).map Prod.snd = some v) :
    (k, v) ∈ m := by
  obtain ⟨entry, hentry, rfl⟩ := Option.map_eq_some_iff.mp hfound
  have hkey : entry.1 = k := by simpa using List.find?_some hentry
  rw [← hkey]
  exact List.mem_of_find?_eq_some hentry

theorem mem_insert {k : K} {v : V} {m : List (K × V)} {entry : K × V}
    (hmem : entry ∈ insert k v m) : entry = (k, v) ∨ entry ∈ m := by
  induction m with
  | nil => exact Or.inl (List.mem_singleton.mp hmem)
  | cons head rest ih =>
      rw [insert] at hmem
      split at hmem
      · exact List.mem_cons.mp hmem
      · split at hmem
        · rcases List.mem_cons.mp hmem with heq | hrest
          · exact Or.inl heq
          · exact Or.inr (List.mem_cons_of_mem _ hrest)
        · rcases List.mem_cons.mp hmem with rfl | hrest
          · exact Or.inr List.mem_cons_self
          · rcases ih hrest with heq | hmem
            · exact Or.inl heq
            · exact Or.inr (List.mem_cons_of_mem _ hmem)

/-- A new last entry with a key above the last one. -/
theorem Sorted.concat {m : List (K × V)} (hsorted : Sorted m)
    {entry : K × V} (hlast : ∀ last ∈ m.getLast?, last.1 < entry.1) :
    Sorted (m ++ [entry]) := by
  apply List.pairwise_append.mpr
  refine ⟨hsorted, List.pairwise_singleton _ _, ?_⟩
  intro old hold new hnew
  rw [List.mem_singleton.mp hnew]
  obtain ⟨init, last, rfl⟩ :=
    (List.eq_nil_or_concat' m).resolve_left (List.ne_nil_of_mem hold)
  rw [List.getLast?_concat] at hlast
  have hlt := hlast last rfl
  rcases List.mem_append.mp hold with hinit | hend
  · exact ((List.pairwise_append.mp hsorted).2.2 old hinit last
      (List.mem_singleton_self last)).trans hlt
  · rw [List.mem_singleton.mp hend]
    exact hlt

theorem Sorted.nodup_keys {m : List (K × V)} (hsorted : Sorted m) :
    (m.map Prod.fst).Nodup := by
  apply List.pairwise_map.mpr
  exact hsorted.imp fun hlt => hlt.ne

theorem Sorted.insert {m : List (K × V)} (hsorted : Sorted m) (k : K)
    (v : V) : Sorted (insert k v m) := by
  induction m with
  | nil => exact List.pairwise_singleton _ _
  | cons head rest ih =>
      obtain ⟨hhead, hrest⟩ := List.pairwise_cons.mp hsorted
      rw [SortedMap.insert]
      split
      · next hlt =>
        apply List.pairwise_cons.mpr
        refine ⟨fun entry hentry => ?_, hsorted⟩
        rcases List.mem_cons.mp hentry with rfl | hentry
        · exact hlt
        · exact hlt.trans (hhead entry hentry)
      · next hge =>
        split
        · next heq =>
          subst heq
          exact List.pairwise_cons.mpr ⟨hhead, hrest⟩
        · next hne =>
          apply List.pairwise_cons.mpr
          refine ⟨fun entry hentry => ?_, ih hrest⟩
          rcases mem_insert hentry with rfl | hentry
          · exact lt_of_le_of_ne (not_lt.mp hge) (Ne.symm hne)
          · exact hhead entry hentry

theorem Sorted.erase {m : List (K × V)} (hsorted : Sorted m) (k : K) :
    Sorted (erase k m) :=
  hsorted.filter _

theorem Sorted.map {m : List (K × V)} (hsorted : Sorted m)
    {f : K × V → K × V} (hf : ∀ entry, (f entry).1 = entry.1) :
    Sorted (m.map f) := by
  apply List.Pairwise.map f _ hsorted
  intro entry entry' hlt
  rwa [hf, hf]

theorem lookup_insert (m : List (K × V)) (k : K) (v : V) (other : K) :
    lookup (insert k v m) other =
      if k = other then some v else lookup m other := by
  induction m with
  | nil =>
      rw [insert, lookup, lookup_cons]
      rfl
  | cons head rest ih =>
      rw [lookup] at ih
      rw [insert, lookup, lookup]
      split
      · rw [lookup_cons]
      · split
        · next heq =>
          rw [lookup_cons, lookup_cons, ← heq]
          split <;> rfl
        · next hne =>
          rw [lookup_cons, lookup_cons, ih]
          split
          · next hother =>
            rw [if_neg]
            intro heq
            exact hne (heq.trans hother.symm)
          · rfl

theorem lookup_erase (m : List (K × V)) (k other : K) :
    lookup (erase k m) other = if k = other then none else lookup m other := by
  induction m with
  | nil =>
      rw [erase, lookup]
      split <;> rfl
  | cons head rest ih =>
      rw [erase, lookup] at ih
      rw [erase, lookup, lookup, List.filter_cons]
      split
      · next hkeep =>
        rw [lookup_cons, lookup_cons, ih]
        split
        · next hother =>
          rw [if_neg]
          intro heq
          simp [heq, hother] at hkeep
        · rfl
      · next hdrop =>
        have hkey : head.1 = k := by simpa using hdrop
        rw [ih, lookup_cons, hkey]
        split <;> rfl

/-- In a sorted list the lookup finds every entry. -/
theorem Sorted.lookup_eq_some_iff {m : List (K × V)} (hsorted : Sorted m)
    {k : K} {v : V} : lookup m k = some v ↔ (k, v) ∈ m := by
  induction m with
  | nil => simp [lookup]
  | cons head rest ih =>
      obtain ⟨hhead, hrest⟩ := List.pairwise_cons.mp hsorted
      have ih := ih hrest
      rw [lookup] at ih
      rw [lookup, lookup_cons, List.mem_cons]
      split
      · next hkey =>
        constructor
        · intro heq
          left
          rw [← hkey, ← Option.some.inj heq]
        · rintro (heq | hmem)
          · rw [← heq]
          · have hlt := hhead _ hmem
            exact absurd hkey hlt.ne
      · next hkey =>
        rw [ih]
        constructor
        · exact Or.inr
        · rintro (heq | hmem)
          · exact absurd (by rw [← heq]) hkey
          · exact hmem

/-- Sorted lists with the same lookups are equal. -/
theorem Sorted.ext {m m' : List (K × V)} (hsorted : Sorted m)
    (hsorted' : Sorted m') (hlookup : ∀ k, lookup m k = lookup m' k) :
    m = m' := by
  have : Std.Irrefl fun entry entry' : K × V => entry.1 < entry'.1 :=
    ⟨fun entry => lt_irrefl entry.1⟩
  have : Std.Antisymm fun entry entry' : K × V => entry.1 < entry'.1 :=
    ⟨fun _ _ hlt hgt => absurd hgt hlt.asymm⟩
  apply List.Pairwise.eq_of_mem_iff hsorted hsorted'
  rintro ⟨k, v⟩
  rw [← hsorted.lookup_eq_some_iff, ← hsorted'.lookup_eq_some_iff, hlookup]

/-- Taking out a new entry. -/
theorem erase_insert {m : List (K × V)} (hsorted : Sorted m) {k : K}
    (hnew : lookup m k = none) (v : V) : erase k (insert k v m) = m := by
  apply ((hsorted.insert k v).erase k).ext hsorted
  intro other
  rw [lookup_erase, lookup_insert]
  split
  · next heq => rw [← heq, hnew]
  · rfl

/-- A change of the values, some of which go. -/
theorem Sorted.filterMap {m : List (K × V)} (hsorted : Sorted m)
    {f : K → V → Option V} :
    Sorted (m.filterMap fun entry => (f entry.1 entry.2).map (entry.1, ·)) := by
  apply List.Pairwise.filterMap _ _ hsorted
  intro entry entry' hlt kept hkept kept' hkept'
  obtain ⟨_, -, rfl⟩ := Option.map_eq_some_iff.mp hkept
  obtain ⟨_, -, rfl⟩ := Option.map_eq_some_iff.mp hkept'
  exact hlt

theorem Sorted.lookup_filterMap {m : List (K × V)} (hsorted : Sorted m)
    (f : K → V → Option V) (k : K) :
    lookup (m.filterMap fun entry => (f entry.1 entry.2).map (entry.1, ·)) k =
      (lookup m k).bind (f k) := by
  apply Option.ext
  intro v
  rw [hsorted.filterMap.lookup_eq_some_iff, List.mem_filterMap,
    Option.bind_eq_some_iff]
  constructor
  · rintro ⟨⟨k', v'⟩, hmem, hv⟩
    obtain ⟨_, hf, heq⟩ := Option.map_eq_some_iff.mp hv
    cases heq
    exact ⟨v', hsorted.lookup_eq_some_iff.mpr hmem, hf⟩
  · rintro ⟨v', hlookup, hf⟩
    refine ⟨(k, v'), hsorted.lookup_eq_some_iff.mp hlookup, ?_⟩
    rw [hf]
    rfl

theorem lookup_map (m : List (K × V)) (f : K → V → V) (k : K) :
    lookup (m.map fun entry => (entry.1, f entry.1 entry.2)) k =
      (lookup m k).map (f k) := by
  induction m with
  | nil => rfl
  | cons head rest ih =>
      rw [lookup, lookup] at ih
      rw [List.map_cons, lookup, lookup, lookup_cons, lookup_cons, ih]
      split
      · next hkey => rw [Option.map_some, hkey]
      · rfl

theorem erase_map {W : Type v} (f : V → W) (k : K) (m : List (K × V)) :
    erase k (m.map fun entry => (entry.1, f entry.2)) =
      (erase k m).map fun entry => (entry.1, f entry.2) := by
  simp [erase, List.filter_map, Function.comp_def]

theorem insert_map {W : Type v} (f : V → W) (k : K) (v : V)
    (m : List (K × V)) :
    insert k (f v) (m.map fun entry => (entry.1, f entry.2)) =
      (insert k v m).map fun entry => (entry.1, f entry.2) := by
  induction m with
  | nil => rfl
  | cons head rest ih =>
      by_cases hlt : k < head.1
      · simp [SortedMap.insert, hlt]
      · by_cases heq : k = head.1
        · simp [SortedMap.insert, heq]
        · simp [SortedMap.insert, hlt, heq, ih]

/-- Erase the keys one after another. -/
def eraseAll (keys : List K) (m : List (K × V)) : List (K × V) :=
  keys.foldl (fun m k => erase k m) m

theorem Sorted.eraseAll {m : List (K × V)} (hsorted : Sorted m)
    (keys : List K) : Sorted (eraseAll keys m) := by
  induction keys generalizing m with
  | nil => exact hsorted
  | cons key rest ih => exact ih (hsorted.erase key)

theorem lookup_eraseAll (keys : List K) (m : List (K × V)) (k : K) :
    lookup (eraseAll keys m) k = if k ∈ keys then none else lookup m k := by
  induction keys generalizing m with
  | nil => rfl
  | cons key rest ih =>
      have hrest := ih (erase key m)
      rw [lookup_erase] at hrest
      calc lookup (eraseAll (key :: rest) m) k
          = lookup (eraseAll rest (erase key m)) k := rfl
        _ = if k ∈ key :: rest then none else lookup m k := by
          rw [hrest]
          by_cases hkey : key = k
          · simp [hkey]
          · simp [hkey, Ne.symm hkey]

theorem eraseAll_map {W : Type v} (f : V → W) (keys : List K)
    (m : List (K × V)) :
    eraseAll keys (m.map fun entry => (entry.1, f entry.2)) =
      (eraseAll keys m).map fun entry => (entry.1, f entry.2) := by
  induction keys generalizing m with
  | nil => rfl
  | cons key rest ih =>
      have hrest := ih (erase key m)
      rw [← erase_map] at hrest
      exact hrest

/-- Keys that no entry has. -/
theorem eraseAll_of_not_mem {keys : List K} {m : List (K × V)}
    (hkeys : ∀ entry ∈ m, entry.1 ∉ keys) : eraseAll keys m = m := by
  induction keys with
  | nil => rfl
  | cons key rest ih =>
      have hkey : erase key m = m := by
        apply List.filter_eq_self.mpr
        intro entry hentry
        have hne := List.ne_of_not_mem_cons (hkeys entry hentry)
        simpa using hne
      have hrest := ih fun entry hentry =>
        List.not_mem_of_not_mem_cons (hkeys entry hentry)
      calc eraseAll (key :: rest) m = eraseAll rest (erase key m) := rfl
        _ = m := by rw [hkey, hrest]

/-- Insert the entries one after another. -/
def insertAll (m : List (K × V)) (entries : List (K × V)) : List (K × V) :=
  entries.foldl (fun m entry => insert entry.1 entry.2 m) m

theorem insertAll_cons (m : List (K × V)) (entry : K × V)
    (rest : List (K × V)) :
    insertAll m (entry :: rest) =
      insertAll (insert entry.1 entry.2 m) rest := rfl

theorem Sorted.insertAll {m : List (K × V)} (hsorted : Sorted m)
    (entries : List (K × V)) : Sorted (insertAll m entries) := by
  induction entries generalizing m with
  | nil => exact hsorted
  | cons entry rest ih => exact ih (hsorted.insert entry.1 entry.2)

/-- Entries with the same keys, whose values agree at `k` up to `f`, keep the
agreement of two maps there. -/
theorem lookup_insertAll_congr {W : Type v} {f : V → W} {k : K}
    {m m' entries entries' : List (K × V)}
    (hstart : (lookup m k).map f = (lookup m' k).map f)
    (hentries : List.Forall₂
      (fun entry entry' => entry.1 = entry'.1 ∧
        (entry.1 = k → f entry.2 = f entry'.2)) entries entries') :
    (lookup (insertAll m entries) k).map f =
      (lookup (insertAll m' entries') k).map f := by
  induction hentries generalizing m m' with
  | nil => exact hstart
  | @cons entry entry' rest rest' hentry _ ih =>
      apply ih
      rw [lookup_insert, lookup_insert, ← hentry.1]
      by_cases hkey : entry.1 = k
      · simp [hkey, hentry.2 hkey]
      · simp [hkey, hstart]

/-- No entry has the key. -/
theorem lookup_insertAll_of_ne {k : K} {m entries : List (K × V)}
    (hne : ∀ entry ∈ entries, entry.1 ≠ k) :
    lookup (insertAll m entries) k = lookup m k := by
  induction entries generalizing m with
  | nil => rfl
  | cons entry rest ih =>
      have hrest := ih (m := insert entry.1 entry.2 m) fun other hother =>
        hne other (List.mem_cons_of_mem entry hother)
      have hentry := hne entry List.mem_cons_self
      calc lookup (insertAll m (entry :: rest)) k
          = lookup (insert entry.1 entry.2 m) k := hrest
        _ = lookup m k := by rw [lookup_insert, if_neg hentry]

end SortedMap
