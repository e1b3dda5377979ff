import Mathlib.Tactic.Common
import ColumnWire.Proofs.Cell.RoundTrip
import ColumnWire.Proofs.Cell.Solid
import ColumnWire.Proofs.Stream.Consuming

/-!
# Values take bytes

A value that is read in a column of a solid type takes a byte or more, whatever the bytes are
(`ColumnType.read_consumes`): each scalar does, the composites with a count or a flag in front of them do
because of it, and a tuple does because of its first element. Only a tuple without elements would take
nothing, and no descriptor names a type with one in it (`ColumnType.parse_solid`).
-/

namespace ColumnWire.Cell

open ColumnWire.Wire ColumnWire.Time ColumnWire.Stream Tape

/-- A plain read takes what the read takes. -/
lemma plain_consumes {α : Type} {r : Reader α} (h : Consumes r) : Consumes (plain r) := by
  intro s v t hs hr
  unfold plain at hr
  cases ht : r s with
  | error e t' => simp [ht] at hr
  | ok a t' =>
      rw [ht] at hr
      cases hr
      exact h s v t hs ht

/-- A number among values takes a byte or more. -/
lemma plain_varint_consumes : Consumes (plain Input.readVarint) :=
  plain_consumes
    (Input.readVarint_refines.consumes Varint.decoder_prefixStable Varint.decoder_consuming)

/-- Answering at once takes bytes, or none. -/
lemma pure_advances {α : Type} (a : α) : Advances (pure a : ValueReader α) :=
  Advances.composes.pure a

namespace ColumnType

/-- Reading a value takes bytes. -/
lemma read_advances (t : ColumnType) : Advances t.read :=
  t.read_local.advances

/-- The elements of a tuple take bytes. -/
lemma readTuple_advances (ts : List ColumnType) : Advances (readTuple ts) := by
  induction ts with
  | nil => exact pure_advances []
  | cons t ts ih =>
      exact Advances.composes.bind t.read_advances fun v =>
        Advances.composes.bind ih fun vs => pure_advances (v :: vs)

/-- A value that is read in a column of a solid type takes a byte or more. -/
theorem read_consumes {t : ColumnType} (ht : t.Solid) : Consumes t.read := by
  induction t with
  | text =>
      have htext := Input.readText_refines.consumes TextField.decoder_prefixStable
        TextField.decoder_consuming
      exact (plain_consumes htext).bind fun _ => pure_advances _
  | integer k =>
      refine plain_varint_consumes.bind fun raw => ?_
      cases k.ofPattern raw with
      | none => exact Advances.throw _
      | some n => exact pure_advances _
  | float32 =>
      have hread := Input.readBinary32_refines.consumes binary32_prefixStable binary32_consuming
      exact (plain_consumes hread).bind fun _ => pure_advances _
  | float64 =>
      have hread := Input.readBinary64_refines.consumes binary64_prefixStable binary64_consuming
      exact (plain_consumes hread).bind fun _ => pure_advances _
  | date =>
      refine plain_varint_consumes.bind fun days => ?_
      cases Date.ofDay? days.toNat with
      | none => exact Advances.throw _
      | some d => exact pure_advances _
  | dateTime =>
      refine plain_varint_consumes.bind fun seconds => ?_
      cases Moment.ofSeconds? seconds.toNat 0 with
      | none => exact Advances.throw _
      | some t => exact pure_advances _
  | array t _ =>
      refine plain_varint_consumes.bind fun count => ?_
      exact Advances.composes.bind (Advances.composes.repeated t.read_advances count.toNat)
        fun items => pure_advances _
  | tuple ts ih =>
      obtain ⟨hne, hsolid⟩ := ht
      obtain ⟨t, ts, rfl⟩ := List.exists_cons_of_ne_nil hne
      have hitems : Consumes (readTuple (t :: ts)) :=
        (ih t List.mem_cons_self hsolid.1).bind fun v =>
          Advances.composes.bind (readTuple_advances ts) fun vs => pure_advances _
      exact hitems.bind fun items => pure_advances _
  | map tk tv _ _ =>
      refine plain_varint_consumes.bind fun count => ?_
      have hentry : Advances (readEntry tk.read tv.read) :=
        Advances.composes.bind tk.read_advances fun k =>
          Advances.composes.bind tv.read_advances fun v => pure_advances _
      exact Advances.composes.bind (Advances.composes.repeated hentry count.toNat)
        fun entries => pure_advances _
  | nullable t _ =>
      refine plain_varint_consumes.bind fun isNull => ?_
      split
      · exact pure_advances _
      · exact t.read_advances
  | lowCardinality t _ =>
      refine plain_varint_consumes.bind fun size => ?_
      refine Advances.composes.bind (Advances.composes.repeated t.read_advances size.toNat)
        fun entries => Advances.composes.bind plain_varint_consumes.advances fun index => ?_
      cases entries[index.toNat]? with
      | none => exact Advances.throw _
      | some v => exact pure_advances _

/-- A key and a value of solid types take a byte or more. -/
lemma readEntry_consumes {tk tv : ColumnType} (hk : tk.Solid) :
    Consumes (readEntry tk.read tv.read) :=
  (read_consumes hk).bind fun _ =>
    Advances.composes.bind tv.read_advances fun _ => pure_advances _

end ColumnType

end ColumnWire.Cell
