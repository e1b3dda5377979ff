import Mathlib.Data.Finset.Card
import Mathlib.Data.List.Induction
import Mathlib.Tactic.Common
import ColumnWire.Proofs.Session.TypeCache

/-!
# The types that are kept

What a cache holds depends on the lookups before alone: the descriptors of types among them, each once
and the one looked up last first (`recency`), as many as fit in. A lookup keeps this up
(`HoldsRecent.get`), so it holds after any lookups (`holdsRecent_after`). A descriptor is found in the
cache exactly when it lies among the first of that order, and it stands there behind the descriptors
that were looked up since (`recency_append_cons`).

Main statement: `lookup_after`.
-/

namespace ColumnWire.Session.TypeCache

open ColumnWire.Cell

/-- Whether a descriptor is one of a type. -/
def isDescriptor (d : String) : Bool :=
  (ColumnType.parse d).isOk

/-- Of descriptors that were looked up, the last one first, those of types in the order of their last
lookups. -/
def recency : List String → List String
  | [] => []
  | d :: before =>
    if isDescriptor d then d :: (recency before).filter (· ≠ d) else recency before

/-- The cache after lookups, in the order they are made. -/
def after (L : LruMap String ColumnType) (capacity : Nat) (ds : List String) : TypeCache L :=
  ds.foldl (fun c d => (c.get d).2) (new capacity)

variable {L : LruMap String ColumnType}

/-- One lookup more is a lookup in the cache so far. -/
lemma after_concat (capacity : Nat) (ds : List String) (d : String) :
    after L capacity (ds ++ [d]) = ((after L capacity ds).get d).2 := by
  simp [after]

variable {c : TypeCache L} {d : String} {history : List String}

/-! ## The order of lookups -/

/-- A type among the lookups stands in their order. -/
lemma mem_recency : d ∈ recency history ↔ d ∈ history ∧ isDescriptor d = true := by
  induction history with
  | nil => simp [recency]
  | cons a before ih =>
      rw [recency]
      by_cases ha : isDescriptor a = true
      · rw [if_pos ha, List.mem_cons, List.mem_filter, ih, List.mem_cons]
        by_cases hd : d = a
        · simp [hd, ha]
        · simp [hd]
      · rw [if_neg ha, ih, List.mem_cons]
        by_cases hd : d = a
        · simp [hd, ha]
        · simp [hd]

/-- It stands there once. -/
lemma nodup_recency (history : List String) : (recency history).Nodup := by
  induction history with
  | nil => simp [recency]
  | cons a before ih =>
      rw [recency]
      split
      · exact List.nodup_cons.2 ⟨by simp, ih.filter _⟩
      · exact ih

/-- There are as many as distinct types were looked up. -/
lemma length_recency (history : List String) :
    (recency history).length = (history.filter isDescriptor).toFinset.card := by
  have hsame : (recency history).toFinset = (history.filter isDescriptor).toFinset := by
    ext d
    rw [List.mem_toFinset, List.mem_toFinset, mem_recency, List.mem_filter]
  rw [← hsame, List.toFinset_card_of_nodup (nodup_recency history)]

/-- A type stands behind those that were looked up since. -/
lemma recency_append_cons (hd : isDescriptor d = true) {since before : List String}
    (hsince : d ∉ since) :
    ∃ others, recency (since ++ d :: before) = recency since ++ d :: others := by
  induction since with
  | nil =>
      refine ⟨(recency before).filter (· ≠ d), ?_⟩
      change recency (d :: before) = d :: _
      rw [recency, if_pos hd]
  | cons a since ih =>
      obtain ⟨hne, hrest⟩ := not_or.1 (mt List.mem_cons.2 hsince)
      obtain ⟨others, hothers⟩ := ih hrest
      rw [List.cons_append, recency, recency, hothers]
      by_cases ha : isDescriptor a = true
      · refine ⟨others.filter (· ≠ a), ?_⟩
        rw [if_pos ha, if_pos ha, List.filter_append, List.filter_cons_of_pos (by simpa using hne),
          List.cons_append]
      · exact ⟨others, by rw [if_neg ha, if_neg ha]⟩

/-! ## The first of a list -/

/-- Without a member of the first `n`, these are the first `n` still. -/
lemma take_filter_of_notMem {l : List String} {n : Nat} (h : d ∉ l.take n) :
    (l.filter (· ≠ d)).take n = l.take n := by
  induction l generalizing n with
  | nil => simp
  | cons a rest ih =>
      cases n with
      | zero => simp
      | succ n =>
          rw [List.take_succ_cons, List.mem_cons, not_or] at h
          rw [List.filter_cons_of_pos (by simpa using Ne.symm h.1), List.take_succ_cons,
            List.take_succ_cons, ih h.2]

/-- Without one of the first `n + 1`, of which it is the only one of its kind, `n` are left of them. -/
lemma take_filter_of_mem {l : List String} {n : Nat} (hl : l.Nodup) (h : d ∈ l.take (n + 1)) :
    (l.filter (· ≠ d)).take n = (l.take (n + 1)).filter (· ≠ d) := by
  induction l generalizing n with
  | nil => simp
  | cons a rest ih =>
      obtain ⟨ha, hrest⟩ := List.nodup_cons.1 hl
      rw [List.take_succ_cons]
      by_cases hd : d = a
      · subst hd
        have hkeep {l : List String} (hl : d ∉ l) : l.filter (· ≠ d) = l :=
          List.filter_eq_self.2 fun x hx => by
            simpa using fun h : x = d => hl (h ▸ hx)
        have hnone : d ∉ rest.take n := fun hmem => ha (List.mem_of_mem_take hmem)
        rw [List.filter_cons_of_neg (by simp), List.filter_cons_of_neg (by simp), hkeep ha,
          hkeep hnone]
      · have hmem : d ∈ rest.take n := by
          rw [List.take_succ_cons, List.mem_cons] at h
          exact h.resolve_left hd
        have hkept : decide (a ≠ d) = true := by simpa using Ne.symm hd
        cases n with
        | zero => simp at hmem
        | succ n =>
            rw [List.filter_cons_of_pos (p := (· ≠ d)) hkept,
              List.filter_cons_of_pos (p := (· ≠ d)) hkept, List.take_succ_cons, ih hrest hmem]

/-! ## What a cache holds -/

/-- The cache holds the types that were looked up last, as many as fit in. -/
structure HoldsRecent (history : List String) (c : TypeCache L) : Prop where
  /-- Something fits in. -/
  room : 0 < c.capacity
  /-- Their descriptors, in the order of their last lookups. -/
  names : c.entries.map (·.1) = (recency history).take c.capacity

/-- A descriptor is found exactly when its type is among those. -/
lemma HoldsRecent.find?_isSome (h : HoldsRecent history c) :
    (c.find? d).isSome = true ↔ d ∈ (recency history).take c.capacity := by
  rw [← h.names, find?, List.find?_isSome, List.mem_map]
  simp only [beq_iff_eq]

/-- A descriptor that is found is one of a type. -/
lemma HoldsRecent.isDescriptor_of_find? (h : HoldsRecent history c)
    (hfind : (c.find? d).isSome = true) : isDescriptor d = true :=
  (mem_recency.1 (List.mem_of_mem_take (h.find?_isSome.1 hfind))).2

/-- The names without one of them are those of the entries without it. -/
lemma map_filter_ne (entries : List (String × ColumnType)) :
    (entries.filter (·.1 != d)).map (·.1) = (entries.map (·.1)).filter (· ≠ d) := by
  rw [List.filter_map]
  congr 1
  refine List.filter_congr fun e _ => ?_
  by_cases he : e.1 = d <;> simp [he]

/-- Whether a descriptor is one of a type is what parsing says. -/
lemma isDescriptor_of_parse_ok {t : ColumnType} (h : ColumnType.parse d = .ok t) :
    isDescriptor d = true := by
  rw [isDescriptor, h]
  rfl

/-- What is no type is no descriptor of one. -/
lemma isDescriptor_of_parse_error {e : TypeError} (h : ColumnType.parse d = .error e) :
    isDescriptor d = false := by
  rw [isDescriptor, h]
  rfl

/-- A lookup keeps up what the cache holds. -/
lemma HoldsRecent.get (h : HoldsRecent history c) (d : String) :
    HoldsRecent (d :: history) (c.get d).2 := by
  obtain ⟨n, hn⟩ : ∃ n, c.capacity = n + 1 := ⟨c.capacity - 1, by have := h.room; omega⟩
  have hfound := h.find?_isSome (d := d)
  rw [hn] at hfound
  obtain ⟨entry, cache, hfind, hget, hentries, hcapacity⟩ |
    ⟨e, cache, -, hparse, hget, hentries, hcapacity⟩ |
    ⟨t, cache, hfind, hparse, hget, hentries, hcapacity⟩ := c.get_cases d
  all_goals
    rw [hget]
    refine ⟨Nat.lt_of_lt_of_eq h.room hcapacity.symm, ?_⟩
    rw [recency, entries, capacity, hentries, hcapacity]
  · have hname : entry.1 = d := by simpa using List.find?_some hfind
    have htype := h.isDescriptor_of_find? (by rw [hfind]; rfl)
    have hmem := hfound.1 (by rw [hfind]; rfl)
    rw [if_pos htype, List.map_cons, map_filter_ne, h.names, hname, hn, List.take_succ_cons,
      take_filter_of_mem (nodup_recency history) hmem]
  · rw [if_neg (by simp [isDescriptor_of_parse_error hparse]), h.names]
  · have hshort : d ∉ (recency history).take n := by
      intro hshort
      have hsome := hfound.2 ((List.take_prefix_take_left (Nat.le_succ n)).subset hshort)
      rw [hfind] at hsome
      cases hsome
    rw [if_pos (isDescriptor_of_parse_ok hparse), List.map_take, List.map_cons, h.names, hn,
      List.take_succ_cons, List.take_succ_cons, List.take_take, Nat.min_eq_left (Nat.le_succ n),
      take_filter_of_notMem hshort]

/-- A lookup leaves the capacity as it is. -/
@[simp] lemma get_capacity (c : TypeCache L) (d : String) : (c.get d).2.capacity = c.capacity := by
  obtain ⟨entry, cache, -, hget, -, hcapacity⟩ | ⟨e, cache, -, -, hget, -, hcapacity⟩ |
    ⟨t, cache, -, -, hget, -, hcapacity⟩ := c.get_cases d
  all_goals rw [hget, ← hcapacity, capacity]

/-- What is no type leaves the types as they are. -/
lemma HoldsRecent.get_error (h : HoldsRecent history c) {e : TypeError}
    (hparse : ColumnType.parse d = .error e) : (c.get d).2.entries = c.entries := by
  cases hfind : c.find? d with
  | some entry =>
      have htype := h.isDescriptor_of_find? (by rw [hfind]; rfl)
      rw [isDescriptor_of_parse_error hparse] at htype
      cases htype
  | none =>
      obtain ⟨cache, hget, hentries, -⟩ := get_of_unknown hfind hparse
      rw [hget, ← hentries, entries]

/-- A lookup is counted once, as a find or as none. -/
lemma get_counts (c : TypeCache L) (d : String) :
    ((c.get d).2.hits = c.hits + 1 ∧ (c.get d).2.misses = c.misses ∧ (c.find? d).isSome = true) ∨
      ((c.get d).2.hits = c.hits ∧ (c.get d).2.misses = c.misses + 1 ∧
        (c.find? d).isSome = false) := by
  obtain ⟨entry, cache, hfind, hget, -⟩ | ⟨e, cache, hfind, -, hget, -⟩ |
    ⟨t, cache, hfind, -, hget, -⟩ := c.get_cases d
  · rw [hget, hfind]
    exact .inl ⟨rfl, rfl, rfl⟩
  all_goals
    rw [hget, hfind]
    exact .inr ⟨rfl, rfl, rfl⟩

/-! ## After any lookups -/

variable {capacity : Nat}

/-- The capacity stays. -/
lemma after_capacity (capacity : Nat) (ds : List String) :
    (after L capacity ds).capacity = max capacity 1 := by
  induction ds using List.reverseRecOn with
  | nil => exact L.capacity_empty _ (by omega)
  | append_singleton ds d ih => rw [after_concat, get_capacity, ih]

/-- A cache holds the types that were looked up last. -/
lemma holdsRecent_after (capacity : Nat) (ds : List String) :
    HoldsRecent ds.reverse (after L capacity ds) := by
  induction ds using List.reverseRecOn with
  | nil =>
      have hcapacity := after_capacity (L := L) capacity []
      refine ⟨by omega, ?_⟩
      simp [after, recency]
  | append_singleton ds d ih =>
      rw [after_concat, List.reverse_append, List.reverse_singleton, List.singleton_append]
      exact ih.get d

/-- Every lookup is counted. -/
lemma hits_add_misses_after (capacity : Nat) (ds : List String) :
    (after L capacity ds).hits + (after L capacity ds).misses = UInt64.ofNat ds.length := by
  induction ds using List.reverseRecOn with
  | nil => rfl
  | append_singleton ds d ih =>
      rw [after_concat, List.length_append, List.length_singleton, UInt64.ofNat_add, ← ih,
        show UInt64.ofNat 1 = 1 from rfl]
      rcases get_counts (after L capacity ds) d with ⟨hhits, hmisses, _⟩ | ⟨hhits, hmisses, _⟩
      · rw [hhits, hmisses]
        ac_rfl
      · rw [hhits, hmisses]
        ac_rfl

/-- Fewer lookups than there are words are counted exactly. -/
lemma toNat_hits_add_misses_after (capacity : Nat) {ds : List String} (h : ds.length < UInt64.size) :
    (after L capacity ds).hits.toNat + (after L capacity ds).misses.toNat = ds.length := by
  induction ds using List.reverseRecOn with
  | nil => rfl
  | append_singleton ds d ih =>
      have hsize : UInt64.size = 2 ^ 64 := rfl
      rw [List.length_append, List.length_singleton] at h ⊢
      have hsum := ih (by omega)
      have hsucc {n : UInt64} (hn : n.toNat ≤ ds.length) : (n + 1).toNat = n.toNat + 1 := by
        rw [UInt64.toNat_add, UInt64.toNat_one]
        exact Nat.mod_eq_of_lt (by omega)
      rw [after_concat]
      rcases get_counts (after L capacity ds) d with ⟨hhits, hmisses, _⟩ | ⟨hhits, hmisses, _⟩
      · rw [hhits, hmisses, hsucc (by omega)]
        omega
      · rw [hhits, hmisses, hsucc (by omega)]
        omega

/-- Lookups lead to reachable caches. -/
lemma reachable_after (capacity : Nat) (ds : List String) : (after L capacity ds).Reachable := by
  induction ds using List.reverseRecOn with
  | nil => exact .new capacity
  | append_singleton ds d ih =>
      rw [after_concat]
      exact ih.get d

/-- A type is among the first `k` of the lookups exactly when fewer than `k` others were looked up
since. -/
lemma mem_take_recency {ds : List String} {k : Nat} :
    d ∈ (recency ds.reverse).take k ↔
      ∃ before since, ds = before ++ d :: since ∧ d ∉ since ∧ isDescriptor d = true ∧
        (since.filter isDescriptor).toFinset.card < k := by
  -- With the last lookup of `d` at hand, its place is the number of the types since.
  have hplace {before since : List String} (hd : isDescriptor d = true) (hsince : d ∉ since) :
      d ∈ (recency (before ++ d :: since).reverse).take k ↔
        (since.filter isDescriptor).toFinset.card < k := by
    have hback : d ∉ since.reverse := fun h => hsince (List.mem_reverse.1 h)
    obtain ⟨others, hothers⟩ :
        ∃ others, recency (since.reverse ++ d :: before.reverse) = recency since.reverse ++ d :: others :=
      recency_append_cons hd hback
    have hlength := length_recency since.reverse
    rw [List.filter_reverse, List.toFinset_reverse] at hlength
    have hnone : d ∉ recency since.reverse := fun h => hback (mem_recency.1 h).1
    rw [List.reverse_append, List.reverse_cons, List.append_assoc, List.singleton_append, hothers,
      ← hlength, List.take_append, List.mem_append]
    constructor
    · rintro (h | h)
      · exact absurd (List.mem_of_mem_take h) hnone
      · by_contra hle
        rw [Nat.sub_eq_zero_of_le (Nat.not_lt.1 hle)] at h
        simp at h
    · intro hlt
      right
      obtain ⟨m, hm⟩ : ∃ m, k - (recency since.reverse).length = m + 1 :=
        ⟨k - (recency since.reverse).length - 1, by omega⟩
      rw [hm, List.take_succ_cons]
      exact List.mem_cons_self
  constructor
  · intro h
    obtain ⟨hmem, hd⟩ := mem_recency.1 (List.mem_of_mem_take h)
    obtain ⟨since, before, hsplit, hsince⟩ := List.eq_append_cons_of_mem hmem
    have hds : ds = before.reverse ++ d :: since.reverse := by
      rw [← List.reverse_reverse ds, hsplit]
      simp
    have hlast : d ∉ since.reverse := fun h => hsince (List.mem_reverse.1 h)
    exact ⟨_, _, hds, hlast, hd, (hplace hd hlast).1 (hds ▸ h)⟩
  · rintro ⟨before, since, rfl, hsince, hd, hcard⟩
    exact (hplace hd hsince).2 hcard

/-- After any lookups in a new cache over any map of bounded size, one lookup more answers what parsing
answers; every lookup was counted once, in words, and no more types are kept than the capacity says. The
lookup is found exactly when the descriptor was one of a type and fewer than as many others were looked up
since its last lookup, and what is no type leaves the cache as it is. -/
theorem lookup_after (L : LruMap String ColumnType) (capacity : Nat) (ds : List String) (d : String) :
    ((after L capacity ds).get d).1 = ColumnType.parse d ∧
      (after L capacity ds).hits + (after L capacity ds).misses = UInt64.ofNat ds.length ∧
      (ds.length < UInt64.size →
        (after L capacity ds).hits.toNat + (after L capacity ds).misses.toNat = ds.length) ∧
      (after L capacity ds).length ≤ max capacity 1 ∧
      (((after L capacity ds).get d).2.hits = (after L capacity ds).hits + 1 ↔
        ∃ before since, ds = before ++ d :: since ∧ d ∉ since ∧ isDescriptor d = true ∧
          (since.filter isDescriptor).toFinset.card < max capacity 1) ∧
      ∀ e, ColumnType.parse d = .error e →
        ((after L capacity ds).get d).2.entries = (after L capacity ds).entries := by
  have hrecent := holdsRecent_after (L := L) capacity ds
  have hcapacity := after_capacity (L := L) capacity ds
  refine ⟨(reachable_after capacity ds).sound.get_eq_parse d, hits_add_misses_after capacity ds,
    toNat_hits_add_misses_after capacity, ?_, ?_, fun e => hrecent.get_error⟩
  · have hnames := congrArg List.length hrecent.names
    rw [List.length_map, List.length_take, hcapacity] at hnames
    rw [length, L.length_eq, show (L.entries _).length = _ from hnames]
    exact Nat.min_le_left _ _
  · rw [← mem_take_recency, ← hcapacity, ← hrecent.find?_isSome]
    rcases get_counts (after L capacity ds) d with ⟨hhits, _, hfound⟩ | ⟨hhits, _, hfound⟩
    · simp [hhits, hfound]
    · simp [hhits, hfound]

/-- Lookups of four types and of what is none. -/
def lookups : List String :=
  ["UInt8", "String", "Decimal", "UInt8", "Date"]

/-- A list with room for two types holds the first one, which was looked up again, and the last one: the
first one is found, the second one is not, and what is no type leaves both. -/
theorem lookup_after_eviction :
    (after .ofList 2 lookups).hits.toNat + (after .ofList 2 lookups).misses.toNat = 5 ∧
      (after .ofList 2 lookups).length ≤ 2 ∧
      ((after .ofList 2 lookups).get "UInt8").2.hits = (after .ofList 2 lookups).hits + 1 ∧
      ((after .ofList 2 lookups).get "String").1 = ColumnType.parse "String" ∧
      ((after .ofList 2 lookups).get "String").2.hits ≠ (after .ofList 2 lookups).hits + 1 ∧
      ColumnType.parse "Decimal" = .error (.unknownType "Decimal") ∧
      ((after .ofList 2 lookups).get "Decimal").2.entries = (after .ofList 2 lookups).entries := by
  obtain ⟨-, -, hcount, hlength, hfound, -⟩ := lookup_after .ofList 2 lookups "UInt8"
  obtain ⟨hstring, -, -, -, hevicted, -⟩ := lookup_after .ofList 2 lookups "String"
  obtain ⟨-, -, -, -, -, hrefused⟩ := lookup_after .ofList 2 lookups "Decimal"
  have hparse : ColumnType.parse "Decimal" = .error (.unknownType "Decimal") := by
    rw [ColumnType.parse, ColumnType.parseWithin]
    rfl
  refine ⟨hcount (by decide), hlength, hfound.2 ?_, hstring, fun h => ?_, hparse, hrefused _ hparse⟩
  · exact ⟨["UInt8", "String", "Decimal"], ["Date"], rfl, by decide, by decide +kernel,
      by decide +kernel⟩
  · have hrecent : "String" ∈ (recency lookups.reverse).take (max 2 1) :=
      mem_take_recency.2 (hevicted.1 h)
    exact absurd hrecent (by decide +kernel)

end ColumnWire.Session.TypeCache
