import Mathlib.Tactic.Common
import ColumnWire.Text.Split

/-!
# Cuts of texts

A text is cut at the first or the last occurrence of a separator, exactly where the part before it or
behind it does not have the separator (`splitFirst_eq_some_iff`, `splitLast_eq_some_iff`). The cut at
every occurrence is the library's `List.splitOn`, and the inverse of joining the parts
(`splitEvery_joinWith`, `joinWith_splitEvery`).
-/

namespace ColumnWire.Text

variable {c x : Char} {s a b part separator : List Char} {parts : List (List Char)}

/-! ## One cut -/

/-- A text is not cut at what it does not have. -/
lemma splitFirst_eq_none_iff : splitFirst c s = none ↔ c ∉ s := by
  induction s with
  | nil => simp [splitFirst]
  | cons x rest ih =>
      unfold splitFirst
      by_cases hx : x = c
      · simp [hx]
      · simp [hx, ih, Ne.symm hx]

/-- A text is cut where the part before does not have the separator. -/
lemma splitFirst_append (h : c ∉ a) (b : List Char) : splitFirst c (a ++ c :: b) = some (a, b) := by
  induction a with
  | nil => simp [splitFirst]
  | cons x rest ih =>
      have hx : x ≠ c := fun hx => h (hx ▸ List.mem_cons_self)
      have hrest := ih fun hc => h (List.mem_cons_of_mem x hc)
      simp [splitFirst, hx, hrest]

/-- Both parts of a cut are parts of the text. -/
lemma splitFirst_eq_some_iff : splitFirst c s = some (a, b) ↔ s = a ++ c :: b ∧ c ∉ a := by
  constructor
  · intro h
    induction s generalizing a with
    | nil => cases h
    | cons x rest ih =>
        unfold splitFirst at h
        by_cases hx : x = c
        · rw [if_pos hx] at h
          cases h
          exact ⟨by rw [hx, List.nil_append], List.not_mem_nil⟩
        · rw [if_neg hx, Option.map_eq_some_iff] at h
          obtain ⟨⟨a', b'⟩, hcut, hparts⟩ := h
          cases hparts
          obtain ⟨rfl, hc⟩ := ih hcut
          exact ⟨rfl, by simp [hc, Ne.symm hx]⟩
  · rintro ⟨rfl, h⟩
    exact splitFirst_append h b

/-- The last cut is the first one from behind. -/
lemma splitLast_eq_some_iff : splitLast c s = some (a, b) ↔ s = a ++ c :: b ∧ c ∉ b := by
  unfold splitLast
  rw [Option.map_eq_some_iff]
  constructor
  · rintro ⟨⟨back, front⟩, hcut, hparts⟩
    cases hparts
    obtain ⟨hs, hc⟩ := splitFirst_eq_some_iff.1 hcut
    refine ⟨?_, by simpa using hc⟩
    rw [← List.reverse_reverse s, hs]
    simp
  · rintro ⟨rfl, hc⟩
    refine ⟨(b.reverse, a.reverse), splitFirst_eq_some_iff.2 ⟨by simp, by simpa using hc⟩, ?_⟩
    simp

/-- A text is not cut at what it does not have. -/
lemma splitLast_eq_none_iff : splitLast c s = none ↔ c ∉ s := by
  rw [splitLast, Option.map_eq_none_iff, splitFirst_eq_none_iff, List.mem_reverse]

/-! ## Every cut -/

/-- Joining is the library's. -/
lemma joinWith_eq_intercalate (separator : List Char) (parts : List (List Char)) :
    joinWith separator parts = separator.intercalate parts := by
  induction parts with
  | nil => rfl
  | cons part rest ih =>
      cases rest with
      | nil => simp [joinWith]
      | cons part' rest =>
          rw [joinWith, ih, List.intercalate_cons_cons]
          simp

/-- Cutting at every occurrence is the library's. -/
lemma splitEvery_eq_splitOn (c : Char) (s : List Char) : splitEvery c s = s.splitOn c := by
  induction s with
  | nil => rfl
  | cons x rest ih =>
      rw [splitEvery, ih, List.splitOn_cons_eq_if_modifyHead]
      by_cases hx : x = c
      · simp [hx]
      · obtain ⟨part, more, hparts⟩ := List.exists_cons_of_ne_nil (List.splitOn_ne_nil c rest)
        simp [hx, hparts]

/-- Parts without the separator come back from their text. -/
lemma splitEvery_joinWith (h : ∀ part ∈ parts, c ∉ part) (hne : parts ≠ []) :
    splitEvery c (joinWith [c] parts) = parts := by
  rw [joinWith_eq_intercalate, splitEvery_eq_splitOn]
  exact List.splitOn_intercalate c h hne

/-- The text comes back from its parts. -/
lemma joinWith_splitEvery (c : Char) (s : List Char) : joinWith [c] (splitEvery c s) = s := by
  rw [joinWith_eq_intercalate, splitEvery_eq_splitOn, List.intercalate_splitOn]

/-- There is a part. -/
lemma splitEvery_ne_nil (c : Char) (s : List Char) : splitEvery c s ≠ [] := by
  rw [splitEvery_eq_splitOn]
  exact List.splitOn_ne_nil c s

/-- Between the cuts the separator does not occur. -/
lemma notMem_of_mem_splitEvery (h : part ∈ splitEvery c s) : c ∉ part := by
  induction s generalizing part with
  | nil =>
      rw [splitEvery, List.mem_singleton] at h
      simp [h]
  | cons x rest ih =>
      rw [splitEvery] at h
      by_cases hx : x = c
      · rw [if_pos hx] at h
        rcases List.mem_cons.1 h with rfl | h
        · exact List.not_mem_nil
        · exact ih h
      · obtain ⟨first, more, hparts⟩ := List.exists_cons_of_ne_nil (splitEvery_ne_nil c rest)
        rw [if_neg hx, hparts] at h
        rw [hparts] at ih
        rcases List.mem_cons.1 h with rfl | h
        · simp [Ne.symm hx, ih List.mem_cons_self]
        · exact ih (List.mem_cons_of_mem _ h)

/-- Behind the first of several parts stands a separator. -/
lemma joinWith_cons (h : parts ≠ []) (separator part : List Char) :
    joinWith separator (part :: parts) = part ++ separator ++ joinWith separator parts := by
  obtain ⟨part', rest, rfl⟩ := List.exists_cons_of_ne_nil h
  rw [joinWith]
  simp

/-- Parts with separators between them end with the last one. -/
lemma exists_joinWith_concat (separator : List Char) (parts : List (List Char)) (part : List Char) :
    ∃ front, joinWith separator (parts ++ [part]) = front ++ part := by
  induction parts with
  | nil => exact ⟨[], rfl⟩
  | cons first rest ih =>
      obtain ⟨front, hfront⟩ := ih
      have hne : rest ++ [part] ≠ [] := by simp
      refine ⟨first ++ separator ++ front, ?_⟩
      rw [List.cons_append, joinWith_cons hne, hfront]
      simp

/-- A character of parts with separators between them is one of a part or of a separator. -/
lemma mem_joinWith (h : x ∈ joinWith separator parts) :
    (∃ part ∈ parts, x ∈ part) ∨ x ∈ separator := by
  induction parts with
  | nil => cases h
  | cons part rest ih =>
      by_cases hrest : rest = []
      · subst hrest
        exact .inl ⟨part, List.mem_cons_self, h⟩
      rw [joinWith_cons hrest, List.mem_append, List.mem_append] at h
      rcases h with (h | h) | h
      · exact .inl ⟨part, List.mem_cons_self, h⟩
      · exact .inr h
      · rcases ih h with ⟨part', hmem, hx⟩ | hx
        · exact .inl ⟨part', List.mem_cons_of_mem _ hmem, hx⟩
        · exact .inr hx

/-- A character of a part is one of the whole. -/
lemma mem_joinWith_of_mem (h : part ∈ parts) (hx : x ∈ part) : x ∈ joinWith separator parts := by
  induction parts with
  | nil => cases h
  | cons first rest ih =>
      by_cases hrest : rest = []
      · subst hrest
        obtain rfl := List.mem_singleton.1 h
        exact hx
      rw [joinWith_cons hrest, List.mem_append, List.mem_append]
      rcases List.mem_cons.1 h with rfl | h
      · exact .inl (.inl hx)
      · exact .inr (ih h)

end ColumnWire.Text
