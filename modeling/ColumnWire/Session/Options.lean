/-!
# Options

Names with a value each, in ascending order of the names. Main statement: `insert` keeps the order, so
each name has one value, the last one given.
-/

namespace ColumnWire.Session

/-- Puts an entry in its place, instead of one of the same name. -/
def insertEntry (k v : String) : List (String × String) → List (String × String)
  | [] => [(k, v)]
  | (a, b) :: rest =>
    if k < a then (k, v) :: (a, b) :: rest
    else if k = a then (k, v) :: rest
    else (a, b) :: insertEntry k v rest

theorem mem_insertEntry {k v : String} {p : String × String} {l : List (String × String)}
    (h : p ∈ insertEntry k v l) : p = (k, v) ∨ p ∈ l := by
  induction l with
  | nil => simpa [insertEntry] using h
  | cons q rest ih =>
    obtain ⟨a, b⟩ := q
    simp only [insertEntry] at h
    split at h
    · simpa using h
    · split at h
      · simp only [List.mem_cons] at h ⊢
        rcases h with h | h
        · exact .inl h
        · exact .inr (.inr h)
      · simp only [List.mem_cons] at h ⊢
        rcases h with h | h
        · exact .inr (.inl h)
        · rcases ih h with h | h
          · exact .inl h
          · exact .inr (.inr h)

theorem pairwise_insertEntry {k v : String} {l : List (String × String)}
    (h : l.Pairwise fun p q => p.1 < q.1) : (insertEntry k v l).Pairwise fun p q => p.1 < q.1 := by
  induction l with
  | nil => simp [insertEntry]
  | cons q rest ih =>
    obtain ⟨a, b⟩ := q
    rw [List.pairwise_cons] at h
    simp only [insertEntry]
    split
    · rename_i hk
      refine List.pairwise_cons.2 ⟨?_, List.pairwise_cons.2 h⟩
      intro p hp
      rcases List.mem_cons.1 hp with rfl | hp
      · exact hk
      · exact String.lt_trans hk (h.1 p hp)
    · split
      · rename_i he
        subst he
        exact List.pairwise_cons.2 ⟨h.1, h.2⟩
      · rename_i hn he
        refine List.pairwise_cons.2 ⟨?_, ih h.2⟩
        intro p hp
        rcases mem_insertEntry hp with rfl | hp
        · by_cases hl : a < k
          · exact hl
          · exact absurd (String.le_antisymm (String.not_lt.1 hl) (String.not_lt.1 hn)) he
        · exact h.1 p hp

/-- Names with values, in the order of the names. -/
structure Options where
  /-- The names and their values. -/
  entries : List (String × String)
  /-- The names ascend. -/
  ascending : entries.Pairwise fun p q => p.1 < q.1
  deriving DecidableEq

namespace Options

/-- No options. -/
def empty : Options := ⟨[], List.Pairwise.nil⟩

/-- The options with a name set to a value. -/
def insert (o : Options) (k v : String) : Options :=
  ⟨insertEntry k v o.entries, pairwise_insertEntry o.ascending⟩

end Options

end ColumnWire.Session
