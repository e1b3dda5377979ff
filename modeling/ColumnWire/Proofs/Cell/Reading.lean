import Mathlib.Tactic.Common
import ColumnWire.Proofs.Cell.Normal
import ColumnWire.Proofs.Stream.Unnoticed

/-!
# What reading a value is made of

A value is read by plain reads of fields, one after the other, and refused for what it is: no other
step is taken. A property that holds of those steps and is kept by sequencing therefore holds of reading
in a column of any type (`ColumnType.read_of_steps`): reading a value leaves the drained transport alone
(`ColumnType.read_preserves_drained`) and does not notice what reads do not notice
(`ColumnType.read_commutes`).
-/

namespace ColumnWire.Cell

open ColumnWire.Wire ColumnWire.Number ColumnWire.Time ColumnWire.Stream

/-- What holds of plain reads and of refusing a value, and is kept by sequencing, holds of reading a
value of any type. -/
theorem ColumnType.read_of_steps {Q : (α : Type) → ValueReader α → Prop} (h : Composes Q)
    (hread : ∀ {α : Type} (op : ReadOp α), Q α (plain op.reader))
    (hrefuse : ∀ e : TypeError, e.isStream = false → Q Value (throw e)) (t : ColumnType) :
    Q Value t.read := by
  have hvarint : Q UInt64 (plain Input.readVarint) := hread .varint
  induction t with
  | text => exact h.bind (hread .text) fun _ => h.pure _
  | integer k =>
      refine h.bind hvarint fun raw => ?_
      cases k.ofPattern raw with
      | none => exact hrefuse _ rfl
      | some n => exact h.pure _
  | float32 => exact h.bind (hread .binary32) fun _ => h.pure _
  | float64 => exact h.bind (hread .binary64) fun _ => h.pure _
  | date =>
      refine h.bind hvarint fun days => ?_
      cases Date.ofDay? days.toNat with
      | none => exact hrefuse _ rfl
      | some d => exact h.pure _
  | dateTime =>
      refine h.bind hvarint fun seconds => ?_
      cases Moment.ofSeconds? seconds.toNat 0 with
      | none => exact hrefuse _ rfl
      | some t => exact h.pure _
  | array t ih =>
      exact h.bind hvarint fun count => h.bind (h.repeated ih count.toNat) fun _ => h.pure _
  | nullable t ih =>
      refine h.bind hvarint fun isNull => ?_
      split
      · exact h.pure _
      · exact ih
  | lowCardinality t ih =>
      refine h.bind hvarint fun size => h.bind (h.repeated ih size.toNat) fun entries =>
        h.bind hvarint fun index => ?_
      cases entries[index.toNat]? with
      | none => exact hrefuse _ rfl
      | some v => exact h.pure _
  | tuple ts ih =>
      have hitems : Q (List Value) (readTuple ts) := by
        induction ts with
        | nil => exact h.pure _
        | cons t ts ihts =>
            refine h.bind (ih t List.mem_cons_self) fun v => ?_
            exact h.bind (ihts fun u hu => ih u (List.mem_cons_of_mem t hu)) fun vs => h.pure _
      exact h.bind hitems fun _ => h.pure _
  | map tk tv ihk ihv =>
      have hentry : Q (Value × Value) (readEntry tk.read tv.read) :=
        h.bind ihk fun _ => h.bind ihv fun _ => h.pure _
      exact h.bind hvarint fun count => h.bind (h.repeated hentry count.toNat) fun _ => h.pure _

/-! ## What reading a value leaves -/

/-- A plain read leaves the input that the read leaves. -/
@[simp] lemma finalState_plain {α : Type} (r : Reader α) (s : Input) :
    finalState (plain r s) = finalState (r s) := by
  unfold plain
  cases r s <;> rfl

/-- A plain read maps states as the read does. -/
lemma plain_commutes {α : Type} {r : Reader α} {f : Input → Input} (h : Commutes f r) :
    Commutes f (plain r) := by
  intro s
  have hr := h s
  unfold plain
  cases hs : r s with
  | ok a t => simp [hr, hs]
  | error e t => simp [hr, hs]

/-- Reading a value leaves the drained transport alone. -/
lemma ColumnType.read_preserves_drained {drained : Transport} (t : ColumnType) :
    Preserves (fun s : Input => s.transport.drained = drained) t.read := by
  refine read_of_steps Preserves.composes (fun op s hs => ?_) (fun _ _ => Preserves.throw _) t
  rw [finalState_plain]
  exact op.preserves_drained s hs

/-- Reading a value does not notice what reads do not notice. -/
lemma ColumnType.read_commutes {f : Input → Input} (h : Input.Unnoticed f) (t : ColumnType) :
    Commutes f t.read :=
  read_of_steps Commutes.composes (fun op => plain_commutes (h.read op))
    (fun _ _ => Commutes.throw _) t

end ColumnWire.Cell
