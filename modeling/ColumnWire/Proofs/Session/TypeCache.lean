import Mathlib.Tactic.Common
import ColumnWire.Session.TypeCache

/-!
# Sound type caches

What a lookup does to the entries of a cache follows from what is known of maps of bounded size: there are
three cases (`get_cases`). A cache is sound when it holds what parsing
gives. Every cache that lookups can lead to is sound (`TypeCache.Reachable.sound`), and a sound cache
answers what parsing answers (`TypeCache.Sound.get_eq_parse`).
-/

namespace ColumnWire.Session.TypeCache

open ColumnWire.Cell

variable {L : LruMap String ColumnType}

/-- Descriptors and their types, the one that was looked up last first. -/
def entries (c : TypeCache L) : List (String × ColumnType) :=
  L.entries c.cache

/-- The entry of a descriptor. -/
def find? (c : TypeCache L) (descriptor : String) : Option (String × ColumnType) :=
  c.entries.find? (·.1 == descriptor)

variable {c : TypeCache L} {d : String}

/-! ## One lookup -/

/-- A descriptor that is found moves to the front. -/
lemma get_of_found {entry : String × ColumnType} (h : c.find? d = some entry) :
    ∃ cache, c.get d = (.ok entry.2, { c with cache, hits := c.hits + 1 }) ∧
      L.entries cache = entry :: c.entries.filter (·.1 != d) ∧ L.capacity cache = c.capacity := by
  have hvalue := L.get_value d c.cache
  have hentries := L.entries_get d c.cache
  rw [show (L.entries c.cache).find? (·.1 == d) = some entry from h] at hvalue hentries
  refine ⟨(L.get d c.cache).2, ?_, hentries, L.capacity_get d c.cache⟩
  unfold TypeCache.get
  rw [← Prod.eta (L.get d c.cache), hvalue]
  rfl

/-- A descriptor that is not found is parsed, and the map that was looked into has the same entries. -/
lemma get_of_not_found (h : c.find? d = none) :
    ∃ cache, (L.get d c.cache = (none, cache)) ∧ L.entries cache = c.entries ∧
      L.capacity cache = c.capacity := by
  have hvalue := L.get_value d c.cache
  have hentries := L.entries_get d c.cache
  rw [show (L.entries c.cache).find? (·.1 == d) = none from h] at hvalue hentries
  rw [Option.toList_none, List.nil_append] at hentries
  exact ⟨(L.get d c.cache).2, Prod.ext hvalue rfl, hentries.trans (filter_of_find?_eq_none h),
    L.capacity_get d c.cache⟩

/-- What is no type leaves the entries as they are. -/
lemma get_of_unknown {e : TypeError} (h : c.find? d = none) (hparse : ColumnType.parse d = .error e) :
    ∃ cache, c.get d = (.error e, { c with cache, misses := c.misses + 1 }) ∧
      L.entries cache = c.entries ∧ L.capacity cache = c.capacity := by
  obtain ⟨cache, hget, hentries, hcapacity⟩ := get_of_not_found h
  refine ⟨cache, ?_, hentries, hcapacity⟩
  unfold TypeCache.get
  simp only [hget, hparse]

/-- A new type stands at the front, and the last one goes if there is no room for it. -/
lemma get_of_parsed {t : ColumnType} (h : c.find? d = none) (hparse : ColumnType.parse d = .ok t) :
    ∃ cache, c.get d = (.ok t, { c with cache, misses := c.misses + 1 }) ∧
      L.entries cache = ((d, t) :: c.entries).take c.capacity ∧ L.capacity cache = c.capacity := by
  obtain ⟨cache, hget, hentries, hcapacity⟩ := get_of_not_found h
  refine ⟨L.put d t cache, ?_, ?_, (L.capacity_put d t cache).trans hcapacity⟩
  · unfold TypeCache.get
    simp only [hget, hparse]
  · rw [L.entries_put, hentries, hcapacity, filter_of_find?_eq_none h]

/-- A lookup does one of these three things. -/
lemma get_cases (c : TypeCache L) (d : String) :
    (∃ entry cache, c.find? d = some entry ∧
        c.get d = (.ok entry.2, { c with cache, hits := c.hits + 1 }) ∧
        L.entries cache = entry :: c.entries.filter (·.1 != d) ∧ L.capacity cache = c.capacity) ∨
      (∃ e cache, c.find? d = none ∧ ColumnType.parse d = .error e ∧
        c.get d = (.error e, { c with cache, misses := c.misses + 1 }) ∧
        L.entries cache = c.entries ∧ L.capacity cache = c.capacity) ∨
      ∃ t cache, c.find? d = none ∧ ColumnType.parse d = .ok t ∧
        c.get d = (.ok t, { c with cache, misses := c.misses + 1 }) ∧
        L.entries cache = ((d, t) :: c.entries).take c.capacity ∧ L.capacity cache = c.capacity := by
  cases hfind : c.find? d with
  | some entry =>
      obtain ⟨cache, h⟩ := get_of_found hfind
      exact .inl ⟨entry, cache, rfl, h⟩
  | none =>
      cases hparse : ColumnType.parse d with
      | error e =>
          obtain ⟨cache, h⟩ := get_of_unknown hfind hparse
          exact .inr (.inl ⟨e, cache, rfl, rfl, h⟩)
      | ok t =>
          obtain ⟨cache, h⟩ := get_of_parsed hfind hparse
          exact .inr (.inr ⟨t, cache, rfl, rfl, h⟩)

/-! ## Sound caches -/

/-- The cache holds what parsing gives. -/
def Sound (c : TypeCache L) : Prop :=
  ∀ entry ∈ c.entries, ColumnType.parse entry.1 = .ok entry.2

/-- The caches that lookups lead to. -/
inductive Reachable : TypeCache L → Prop where
  /-- An empty cache. -/
  | new (capacity : Nat) : Reachable (new capacity)
  /-- The cache after a lookup. -/
  | get {c : TypeCache L} (h : Reachable c) (descriptor : String) : Reachable (c.get descriptor).2
  /-- The cache after it was cleared. -/
  | clear {c : TypeCache L} (h : Reachable c) : Reachable c.clear

/-- An empty cache has no entries. -/
@[simp] lemma entries_new (capacity : Nat) : (new capacity : TypeCache L).entries = [] :=
  L.entries_empty _

/-- Nor has one that was cleared. -/
@[simp] lemma entries_clear (c : TypeCache L) : c.clear.entries = [] :=
  L.entries_clear _

/-- An empty cache is sound. -/
lemma new_sound (capacity : Nat) : (new capacity : TypeCache L).Sound := by
  intro entry hentry
  rw [entries_new] at hentry
  cases hentry

/-- What is found in a sound cache is what parsing gives. -/
lemma Sound.parse_of_found (h : c.Sound) {entry : String × ColumnType} (hfind : c.find? d = some entry) :
    ColumnType.parse d = .ok entry.2 := by
  have hname : entry.1 = d := by
    simpa using List.find?_some hfind
  rw [← hname]
  exact h entry (List.mem_of_find?_eq_some hfind)

/-- A lookup keeps a cache sound. -/
lemma Sound.get (h : c.Sound) (d : String) : (c.get d).2.Sound := by
  intro e he
  obtain ⟨entry, cache, hfind, hget, hentries, -⟩ | ⟨_, cache, -, -, hget, hentries, -⟩ |
    ⟨t, cache, -, hparse, hget, hentries, -⟩ := c.get_cases d
  · rw [hget, entries, hentries, List.mem_cons] at he
    rcases he with rfl | he
    · exact h e (List.mem_of_find?_eq_some hfind)
    · exact h e (List.mem_filter.1 he).1
  · rw [hget, entries, hentries] at he
    exact h e he
  · rw [hget, entries, hentries] at he
    rcases List.mem_cons.1 (List.mem_of_mem_take he) with rfl | he
    · exact hparse
    · exact h e he

/-- A sound cache answers what parsing answers. -/
lemma Sound.get_eq_parse (h : c.Sound) (d : String) : (c.get d).1 = ColumnType.parse d := by
  obtain ⟨entry, cache, hfind, hget, -⟩ | ⟨e, cache, -, hparse, hget, -⟩ |
    ⟨t, cache, -, hparse, hget, -⟩ := c.get_cases d
  · rw [hget, h.parse_of_found hfind]
  · rw [hget, hparse]
  · rw [hget, hparse]

/-- Every cache that lookups lead to is sound. -/
lemma Reachable.sound (h : c.Reachable) : c.Sound := by
  induction h with
  | new capacity => exact new_sound capacity
  | get _ descriptor ih => exact ih.get descriptor
  | clear _ _ =>
      intro entry hentry
      rw [entries_clear] at hentry
      cases hentry

end ColumnWire.Session.TypeCache
