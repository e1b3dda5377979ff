import Mathlib.Tactic.Common
import ColumnWire.Cell.Descriptor
import ColumnWire.Proofs.Cell.Normal
import ColumnWire.Proofs.Cell.Parsing
import ColumnWire.Proofs.Cell.Written
import ColumnWire.Proofs.Packet.RoundTrip

/-!
# Solid types

A type is solid when it has no tuple without elements. Every descriptor names a solid type
(`ColumnType.parse_solid`), and a value in a column of a solid type takes a byte or more. The bytes of
a value therefore bound every length in it (`ColumnType.sized_of_write`).
-/

namespace ColumnWire.Cell

open ColumnWire.Wire ColumnWire.Packet

namespace ColumnType

mutual

/-- No tuple type without elements stands in the type. -/
def Solid : ColumnType → Prop
  | .array t => t.Solid
  | .nullable t => t.Solid
  | .lowCardinality t => t.Solid
  | .tuple ts => ts ≠ [] ∧ AllSolid ts
  | .map tk tv => tk.Solid ∧ tv.Solid
  | _ => True

/-- All types of a list are solid. -/
def AllSolid : List ColumnType → Prop
  | [] => True
  | t :: ts => t.Solid ∧ AllSolid ts

end

/-- All types of a list are solid when each of them is. -/
lemma allSolid_iff {ts : List ColumnType} : AllSolid ts ↔ ∀ t ∈ ts, t.Solid := by
  induction ts with
  | nil => simp [AllSolid]
  | cons t ts ih => simp [AllSolid, ih]

/-! ## Descriptors -/

/-- A scalar type is solid. -/
lemma solid_of_mem_scalars {t : ColumnType} (h : t ∈ scalars) : t.Solid := by
  have hall : ∀ u ∈ scalars, u.Solid := by simp [scalars, Solid]
  exact hall t h

/-- A composite is solid when it has a part at least and its parts are solid. -/
lemma solid_iff {t : ColumnType} {c : Composite} {ts : List ColumnType}
    (h : t.composition? = some (c, ts)) : t.Solid ↔ ts ≠ [] ∧ ∀ u ∈ ts, u.Solid := by
  cases t <;> cases h <;> simp [Solid, allSolid_iff]

/-- A descriptor with composites up to some depth names a solid type. -/
lemma parseWithin_solid {depth : Nat} {s : List Char} {t : ColumnType}
    (h : parseWithin depth s = .ok t) : t.Solid := by
  induction depth generalizing s t with
  | zero =>
      rcases parseWithin_eq_ok h with hname | ⟨_, _, _, hdepth, _⟩
      · exact solid_of_mem_scalars (scalar?_eq_some.1 hname).1
      · cases hdepth
  | succ depth ih =>
      rcases parseWithin_eq_ok h with hname | ⟨_, c, inside, hdepth, _, hread⟩
      · exact solid_of_mem_scalars (scalar?_eq_some.1 hname).1
      · cases hdepth
        obtain ⟨ts, ps, hparts, hne, _, hall⟩ := Composite.read_eq_ok (parseWithin_trim depth) hread
        refine (solid_iff hparts).2 ⟨hne, fun u hu => ?_⟩
        obtain ⟨p, _, hp⟩ := exists_of_mem_forall₂ hall hu
        exact ih hp

/-- A descriptor names a solid type. -/
lemma parse_solid {descriptor : String} {t : ColumnType} (h : parse descriptor = .ok t) : t.Solid :=
  parseWithin_solid h

/-! ## Written bytes -/

/-- What begins with a number has one byte or more. -/
lemma encode_append_length_pos (n : UInt64) (u : Bytes) : 0 < (Varint.encode n ++ u).length := by
  have hpos := encode_length_pos n
  rw [List.length_append]
  omega

/-- A tuple with an element that takes a byte or more does as well. -/
lemma writeTuple_length_pos {ts : List ColumnType} {items : List Value} {w : Bytes}
    (hne : ts ≠ []) (hts : ∀ t ∈ ts, ∀ v u, t.write v = ⟨u, none⟩ → 0 < u.length)
    (hlength : items.length = ts.length) (h : writeTuple ts items = ⟨w, none⟩) : 0 < w.length := by
  cases ts with
  | nil => exact absurd rfl hne
  | cons t ts =>
      cases items with
      | nil => cases hlength
      | cons v vs =>
          obtain ⟨u, u', hu, _, rfl⟩ := Written.andThen_eq_ok.1 h
          have hpos := hts t List.mem_cons_self v u hu
          rw [List.length_append]
          omega

/-- A value in a column of a solid type is written in one byte or more. -/
lemma write_length_pos {t : ColumnType} (ht : t.Solid) {v : Value} {w : Bytes}
    (h : t.write v = ⟨w, none⟩) : 0 < w.length := by
  induction t generalizing v w with
  | text =>
      obtain ⟨s, _, rfl⟩ := write_text_eq_ok.1 h
      exact textField_length_pos s
  | integer k =>
      obtain ⟨i, _, _, rfl⟩ := write_integer_eq_ok.1 h
      exact encode_length_pos _
  | float32 =>
      obtain ⟨x, _, rfl⟩ := write_float32_eq_ok.1 h
      simp [encodeBinary32]
  | float64 =>
      obtain ⟨x, _, rfl⟩ := write_float64_eq_ok.1 h
      simp [encodeBinary64]
  | date =>
      obtain ⟨d, _, _, rfl⟩ := write_date_eq_ok.1 h
      exact encode_length_pos _
  | dateTime =>
      obtain ⟨t, _, _, rfl⟩ := write_dateTime_eq_ok.1 h
      exact encode_length_pos _
  | array t _ =>
      obtain ⟨items, u, _, _, rfl⟩ := write_array_eq_ok.1 h
      exact encode_append_length_pos _ u
  | nullable t _ =>
      rcases write_nullable_eq_ok.1 h with ⟨_, rfl⟩ | ⟨_, u, _, rfl⟩
      · exact encode_length_pos 1
      · exact encode_append_length_pos 0 u
  | lowCardinality t _ =>
      obtain ⟨u, _, rfl⟩ := write_lowCardinality_eq_ok.1 h
      exact encode_append_length_pos 1 _
  | tuple ts ih =>
      obtain ⟨hne, hall⟩ := ht
      obtain ⟨items, _, hlength, hitems⟩ := write_tuple_eq_ok.1 h
      refine writeTuple_length_pos hne (fun t hmem v u hu => ?_) hlength hitems
      exact ih t hmem (allSolid_iff.1 hall t hmem) hu
  | map tk tv _ _ =>
      obtain ⟨entries, u, _, _, rfl⟩ := write_map_eq_ok.1 h
      exact encode_append_length_pos _ u

/-! ## Lengths -/

/-- The bytes of values of a type bound the lengths in each of them. -/
def Bounds (t : ColumnType) : Prop :=
  ∀ v w, t.write v = ⟨w, none⟩ → w.length < UInt64.size → v.Sized

/-- Written items are no more than their bytes, which bound the lengths in them. -/
lemma writeItems_sized {t : ColumnType} (ht : t.Solid) (hbounds : t.Bounds) {items : List Value}
    {w : Bytes} (h : writeItems t.write items = ⟨w, none⟩) (hfit : w.length < UInt64.size) :
    items.length ≤ w.length ∧ Value.ItemsSized items := by
  induction items generalizing w with
  | nil => exact ⟨Nat.zero_le _, trivial⟩
  | cons v vs ih =>
      obtain ⟨u, u', hu, hu', rfl⟩ := Written.andThen_eq_ok.1 h
      rw [List.length_append] at hfit ⊢
      have hpos := write_length_pos ht hu
      obtain ⟨hlength, hsized⟩ := ih hu' (by omega)
      refine ⟨?_, hbounds v u hu (by omega), hsized⟩
      rw [List.length_cons]
      omega

/-- Written pairs are no more than their bytes, which bound the lengths in them. -/
lemma writeEntries_sized {tk tv : ColumnType} (hk : tk.Solid) (hbk : tk.Bounds) (hbv : tv.Bounds)
    {entries : List (Value × Value)} {w : Bytes}
    (h : writeEntries tk.write tv.write entries = ⟨w, none⟩) (hfit : w.length < UInt64.size) :
    entries.length ≤ w.length ∧ Value.EntriesSized entries := by
  induction entries generalizing w with
  | nil => exact ⟨Nat.zero_le _, trivial⟩
  | cons entry rest ih =>
      obtain ⟨key, value⟩ := entry
      obtain ⟨u, u', hu, hu', rfl⟩ := Written.andThen_eq_ok.1 h
      obtain ⟨x, x', hx, hx', rfl⟩ := Written.andThen_eq_ok.1 hu'
      rw [List.length_append, List.length_append] at hfit ⊢
      have hpos := write_length_pos hk hu
      obtain ⟨hlength, hsized⟩ := ih hx' (by omega)
      refine ⟨?_, hbk key u hu (by omega), hbv value x hx (by omega), hsized⟩
      rw [List.length_cons]
      omega

/-- The written elements of a tuple bound the lengths in them. -/
lemma writeTuple_sized {ts : List ColumnType} (hts : ∀ t ∈ ts, t.Bounds) {items : List Value}
    {w : Bytes} (hlength : items.length = ts.length) (h : writeTuple ts items = ⟨w, none⟩)
    (hfit : w.length < UInt64.size) : Value.ItemsSized items := by
  induction ts generalizing items w with
  | nil =>
      obtain rfl : items = [] := List.length_eq_zero_iff.1 hlength
      exact trivial
  | cons t ts ih =>
      cases items with
      | nil => cases hlength
      | cons v vs =>
          obtain ⟨u, u', hu, hu', rfl⟩ := Written.andThen_eq_ok.1 h
          rw [List.length_append] at hfit
          refine ⟨hts t List.mem_cons_self v u hu (by omega), ?_⟩
          exact ih (fun t' ht' => hts t' (List.mem_cons_of_mem t ht')) (Nat.succ.inj hlength) hu'
            (by omega)

/-- The bytes of a value in a column of a solid type bound the lengths in it. -/
lemma sized_of_write {t : ColumnType} (ht : t.Solid) : t.Bounds := by
  induction t with
  | text =>
      intro v w h hfit
      obtain ⟨s, rfl, rfl⟩ := write_text_eq_ok.1 h
      exact Nat.lt_of_le_of_lt (TextField.utf8_length_le s) hfit
  | integer k =>
      intro v w h _
      obtain ⟨i, hi, _⟩ := write_integer_eq_ok.1 h
      cases v <;> first | exact trivial | cases hi
  | float32 =>
      intro v w h _
      obtain ⟨x, rfl | ⟨y, rfl, _⟩, _⟩ := write_float32_eq_ok.1 h <;> exact trivial
  | float64 =>
      intro v w h _
      obtain ⟨x, hx, _⟩ := write_float64_eq_ok.1 h
      cases v <;> first | exact trivial | cases hx
  | date =>
      intro v w h _
      obtain ⟨d, rfl, _⟩ := write_date_eq_ok.1 h
      exact trivial
  | dateTime =>
      intro v w h _
      obtain ⟨t, rfl, _⟩ := write_dateTime_eq_ok.1 h
      exact trivial
  | array t ih =>
      intro v w h hfit
      obtain ⟨items, u, rfl, hu, rfl⟩ := write_array_eq_ok.1 h
      rw [List.length_append] at hfit
      obtain ⟨hlength, hsized⟩ := writeItems_sized (t := t) ht (ih ht) hu (by omega)
      exact ⟨by omega, hsized⟩
  | nullable t ih =>
      intro v w h hfit
      rcases write_nullable_eq_ok.1 h with ⟨rfl, _⟩ | ⟨_, u, hu, rfl⟩
      · exact trivial
      · rw [List.length_append] at hfit
        exact ih ht v u hu (by omega)
  | lowCardinality t ih =>
      intro v w h hfit
      obtain ⟨u, hu, rfl⟩ := write_lowCardinality_eq_ok.1 h
      rw [List.length_append, List.length_append] at hfit
      exact ih ht v u hu (by omega)
  | tuple ts ih =>
      intro v w h hfit
      have hts : ∀ t ∈ ts, t.Bounds := fun t hmem => ih t hmem (allSolid_iff.1 ht.2 t hmem)
      obtain ⟨items, rfl, hlength, hitems⟩ := write_tuple_eq_ok.1 h
      exact writeTuple_sized hts hlength hitems hfit
  | map tk tv ihk ihv =>
      intro v w h hfit
      obtain ⟨entries, u, rfl, hu, rfl⟩ := write_map_eq_ok.1 h
      rw [List.length_append] at hfit
      obtain ⟨hlength, hsized⟩ := writeEntries_sized ht.1 (ihk ht.1) (ihv ht.2) hu (by omega)
      exact ⟨by omega, hsized⟩

end ColumnType

end ColumnWire.Cell
