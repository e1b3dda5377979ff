/-!
# Maps of bounded size

A map that holds so many keys and, when it is full, parts with the key that was used longest ago.
`LruMap` is what is known of such maps: how each operation changes the entries, read from the key that
was used last to the one that was used first. `LruMap.ofList` keeps the entries in a list in that order.
-/

namespace ColumnWire.Session

/-- Maps of bounded size, and what their operations do to the entries. -/
structure LruMap (κ ν : Type) [BEq κ] where
  /-- A map. -/
  Map : Type
  /-- A map without entries that has room for so many. -/
  empty : Nat → Map
  /-- The value of a key, which is used by that. -/
  get : κ → Map → Option ν × Map
  /-- Gives a key a value, and uses it by that. -/
  put : κ → ν → Map → Map
  /-- Takes all entries away. -/
  clear : Map → Map
  /-- The number of entries. -/
  length : Map → Nat
  /-- The greatest number of entries. -/
  capacity : Map → Nat
  /-- The entries, the one that was used last first. -/
  entries : Map → List (κ × ν)
  /-- A new map is empty. -/
  entries_empty : ∀ n, entries (empty n) = []
  /-- It has the room that was asked for. -/
  capacity_empty : ∀ n, 0 < n → capacity (empty n) = n
  /-- A key has the value of its entry. -/
  get_value : ∀ k m, (get k m).1 = ((entries m).find? (·.1 == k)).map (·.2)
  /-- An entry that is looked up moves to the front. -/
  entries_get : ∀ k m,
    entries (get k m).2 = ((entries m).find? (·.1 == k)).toList ++ (entries m).filter (·.1 != k)
  /-- Looking a key up leaves the room. -/
  capacity_get : ∀ k m, capacity (get k m).2 = capacity m
  /-- A key with its new value stands at the front, and what there is no room for goes from the end. -/
  entries_put : ∀ k v m,
    entries (put k v m) = ((k, v) :: (entries m).filter (·.1 != k)).take (capacity m)
  /-- Giving a key a value leaves the room. -/
  capacity_put : ∀ k v m, capacity (put k v m) = capacity m
  /-- A cleared map is empty. -/
  entries_clear : ∀ m, entries (clear m) = []
  /-- Clearing leaves the room. -/
  capacity_clear : ∀ m, capacity (clear m) = capacity m
  /-- The entries are counted. -/
  length_eq : ∀ m, length m = (entries m).length

/-- Entries in the order of their last uses. -/
structure RecentList (κ ν : Type) where
  /-- The greatest number of entries. -/
  capacity : Nat
  /-- The entries, the one that was used last first. -/
  entries : List (κ × ν) := []

namespace RecentList

variable {κ ν : Type} [BEq κ]

/-- The value of a key, whose entry moves to the front. -/
def get (k : κ) (m : RecentList κ ν) : Option ν × RecentList κ ν :=
  match m.entries.find? (·.1 == k) with
  | some entry => (some entry.2, { m with entries := entry :: m.entries.filter (·.1 != k) })
  | none => (none, m)

/-- Puts a key with its value to the front. -/
def put (k : κ) (v : ν) (m : RecentList κ ν) : RecentList κ ν :=
  { m with entries := ((k, v) :: m.entries.filter (·.1 != k)).take m.capacity }

end RecentList

/-- Without an entry of a key, all entries are of other keys. -/
theorem filter_of_find?_eq_none {κ ν : Type} [BEq κ] {k : κ} {entries : List (κ × ν)}
    (h : entries.find? (·.1 == k) = none) : entries.filter (·.1 != k) = entries := by
  refine List.filter_eq_self.2 fun entry hentry => ?_
  have hne := List.find?_eq_none.1 h entry hentry
  simpa [bne] using hne

/-- Maps that keep their entries in a list. -/
def LruMap.ofList {κ ν : Type} [BEq κ] : LruMap κ ν where
  Map := RecentList κ ν
  empty capacity := { capacity }
  get := RecentList.get
  put := RecentList.put
  clear m := { m with entries := [] }
  length m := m.entries.length
  capacity := RecentList.capacity
  entries := RecentList.entries
  entries_empty _ := rfl
  capacity_empty _ _ := rfl
  get_value k m := by
    unfold RecentList.get
    cases m.entries.find? (·.1 == k) <;> rfl
  entries_get k m := by
    unfold RecentList.get
    cases hfind : m.entries.find? (·.1 == k) with
    | some entry => rfl
    | none => exact (filter_of_find?_eq_none hfind).symm
  capacity_get k m := by
    unfold RecentList.get
    cases m.entries.find? (·.1 == k) <;> rfl
  entries_put _ _ _ := rfl
  capacity_put _ _ _ := rfl
  entries_clear _ := rfl
  capacity_clear _ := rfl
  length_eq _ := rfl

end ColumnWire.Session
