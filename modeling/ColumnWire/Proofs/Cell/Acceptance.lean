import Mathlib.Data.List.Forall2
import Mathlib.Tactic.Common
import Mathlib.Tactic.TFAE
import ColumnWire.Cell.Emit
import ColumnWire.Proofs.Cell.Inhabited
import ColumnWire.Proofs.Cell.RoundTrip

/-!
# Which values are accepted

`Conforms t v` says which values a column of a type takes: of a scalar type those whose number, day or
moment the type can hold, whatever their own width or precision is, and of a composite type those whose
parts conform to its parts. A value conforms exactly when it is written without an error
(`ColumnType.write_succeeds_iff`); each direction goes over the type.

Written to an output, part by part, a value adds the bytes of `ColumnType.write` behind the pending ones
and stops at the same error (`ColumnType.emit_eq`); so the output accepts just the values that conform
and never loses a pending byte (`ColumnType.emit_accepts`). Where there may be no value, the types, the
writer and the reader agree (`ColumnType.isNullable_tfae`).
-/

namespace ColumnWire.Cell

open ColumnWire.Wire ColumnWire.Number ColumnWire.Time ColumnWire.Stream

/-! ## Writing to an output -/

namespace Written

/-- The bytes are added whether or not there is an error behind them. -/
lemma emit_apply (w : Written) (o : Output) :
    w.emit o = w.error.elim (.ok () (o.write w.bytes)) fun e => .error e (o.write w.bytes) := by
  obtain ⟨b, _ | e⟩ := w <;> rfl

/-- Behind the pending bytes stand those of the part. -/
lemma finalState_emit (w : Written) (o : Output) : finalState (w.emit o) = o.write w.bytes := by
  obtain ⟨b, _ | e⟩ := w <;> rfl

/-- Bytes are added as the part that they are. -/
lemma emitBytes_eq (b : Bytes) : emitBytes b = (⟨b, none⟩ : Written).emit := by
  funext o
  rfl

/-- An error alone adds nothing. -/
lemma throw_eq (e : TypeError) : (throw e : ValueWriter) = (refuse e).emit := by
  funext o
  simp [emit_apply, refuse, Output.write]

/-- No bytes add nothing. -/
lemma pure_eq : (pure () : ValueWriter) = (⟨[], none⟩ : Written).emit := by
  funext o
  simp [emit_apply, Output.write]

/-- Two parts are added one behind the other, unless the first one ends with an error. -/
lemma emit_andThen (a b : Written) : (a.andThen b).emit = a.emit >>= fun _ => b.emit := by
  funext o
  obtain ⟨u, _ | e⟩ := a
  · rw [bind_ok (emit_apply ⟨u, none⟩ o)]
    simp [emit_apply, andThen, Output.write]
  · rw [bind_error (emit_apply ⟨u, some e⟩ o)]
    rfl

/-- The members of a list are added one behind the other. -/
lemma forM_items {put : Value → ValueWriter} {write : Value → Written}
    (h : ∀ v, put v = (write v).emit) (items : List Value) :
    forM items put = (writeItems write items).emit := by
  induction items with
  | nil => exact pure_eq
  | cons v vs ih => rw [List.forM_cons, writeItems, emit_andThen, h, ih]

/-- The pairs of a list are added one behind the other. -/
lemma forM_entries {putKey putValue : Value → ValueWriter} {writeKey writeValue : Value → Written}
    (hk : ∀ v, putKey v = (writeKey v).emit) (hv : ∀ v, putValue v = (writeValue v).emit)
    (entries : List (Value × Value)) :
    (forM entries fun e => putKey e.1 >>= fun _ => putValue e.2) =
      (writeEntries writeKey writeValue entries).emit := by
  induction entries with
  | nil => exact pure_eq
  | cons e rest ih =>
      rw [List.forM_cons, writeEntries, emit_andThen, emit_andThen, hk, hv, ih, bind_assoc]

end Written

namespace ColumnType

/-- The elements of a tuple are added one behind the other, each in its type. -/
lemma emitTuple_eq {ts : List ColumnType} (hts : ∀ t ∈ ts, ∀ v, t.emit v = (t.write v).emit)
    (items : List Value) : emitTuple ts items = (writeTuple ts items).emit := by
  induction ts generalizing items with
  | nil => exact Written.pure_eq
  | cons t ts ih =>
      cases items with
      | nil => exact Written.pure_eq
      | cons v vs =>
          rw [emitTuple, writeTuple, Written.emit_andThen, hts t List.mem_cons_self,
            ih fun u hu => hts u (List.mem_cons_of_mem t hu)]

/-- A value is added to an output by its bytes, up to its error if there is one. -/
lemma emit_eq (t : ColumnType) (v : Value) : t.emit v = (t.write v).emit := by
  induction t generalizing v with
  | array t ih =>
      unfold emit write
      cases v with
      | array items =>
          dsimp only
          rw [Written.emit_andThen, Written.forM_items ih]
      | _ => exact Written.throw_eq _
  | tuple ts ih =>
      unfold emit write
      cases v with
      | tuple items =>
          dsimp only
          split
          · exact emitTuple_eq ih items
          · exact Written.throw_eq _
      | _ => exact Written.throw_eq _
  | map tk tv ihk ihv =>
      unfold emit write
      cases v with
      | map entries =>
          dsimp only
          rw [Written.emit_andThen, Written.forM_entries ihk ihv]
      | _ => exact Written.throw_eq _
  | nullable t ih =>
      rw [emit, write]
      split
      · exact Written.emitBytes_eq _
      · rw [Written.emit_andThen, Written.emitBytes_eq, ih]
  | lowCardinality t ih =>
      rw [emit, write, Written.emit_andThen, Written.emit_andThen, Written.emitBytes_eq,
        Written.emitBytes_eq, ih]
  | _ => rfl

end ColumnType

/-! ## Conforming values -/

/-- The value is one that a column of the type takes. -/
inductive Conforms : ColumnType → Value → Prop where
  /-- A text. -/
  | text (s : String) : Conforms .text (.text s)
  /-- An integer of any type whose value the type has. -/
  | integer {k : IntegerType} {n : SizedInt} (h : k.Holds n.val) : Conforms (.integer k) (.integer n)
  /-- A single-precision number in its own precision. -/
  | single (x : Binary32) : Conforms .float32 (.float32 x)
  /-- A double-precision number that is rounded. -/
  | rounded (x : Binary64) : Conforms .float32 (.float64 x)
  /-- A double-precision number in its own precision. -/
  | double (x : Binary64) : Conforms .float64 (.float64 x)
  /-- A single-precision number that is widened. -/
  | widened (x : Binary32) : Conforms .float64 (.float32 x)
  /-- A day from 1970-01-01 on. -/
  | date {d : Date} (h : 0 ≤ d.day) : Conforms .date (.date d)
  /-- A moment from the start of 1970 on. -/
  | dateTime {t : Moment} (h : 0 ≤ t.seconds) : Conforms .dateTime (.dateTime t)
  /-- A sequence of values that conform to the type of its elements. -/
  | array {t : ColumnType} {items : List Value} (h : ∀ v ∈ items, Conforms t v) :
      Conforms (.array t) (.array items)
  /-- As many values as there are types, each of which conforms to its own. -/
  | tuple {ts : List ColumnType} {items : List Value} (h : List.Forall₂ Conforms ts items) :
      Conforms (.tuple ts) (.tuple items)
  /-- Pairs of keys and values that conform to their types. -/
  | map {tk tv : ColumnType} {entries : List (Value × Value)} (hkey : ∀ e ∈ entries, Conforms tk e.1)
      (hvalue : ∀ e ∈ entries, Conforms tv e.2) : Conforms (.map tk tv) (.map entries)
  /-- No value. -/
  | null (t : ColumnType) : Conforms (.nullable t) .null
  /-- A value where there may be none. -/
  | nullable {t : ColumnType} {v : Value} (h : Conforms t v) : Conforms (.nullable t) v
  /-- A value in a dictionary. -/
  | lowCardinality {t : ColumnType} {v : Value} (h : Conforms t v) : Conforms (.lowCardinality t) v

namespace Written

/-- The part is just its bytes, without an error. -/
def Succeeds (a : Written) : Prop :=
  ∃ w, a = ⟨w, none⟩

/-- A part is added to an output without an error exactly when it has none. -/
lemma emit_eq_ok_iff {a : Written} {o : Output} : (∃ o', a.emit o = .ok () o') ↔ a.Succeeds := by
  obtain ⟨b, _ | e⟩ := a <;> simp [emit_apply, Succeeds]

instance (a : Written) : Decidable a.Succeeds :=
  decidable_of_iff (a.error.isNone = true) (by obtain ⟨b, _ | e⟩ := a <;> simp [Succeeds])

/-- Two parts succeed when each of them does. -/
lemma succeeds_andThen {a b : Written} : (a.andThen b).Succeeds ↔ a.Succeeds ∧ b.Succeeds := by
  constructor
  · rintro ⟨w, hw⟩
    obtain ⟨u, v, hu, hv, _⟩ := andThen_eq_ok.1 hw
    exact ⟨⟨u, hu⟩, ⟨v, hv⟩⟩
  · rintro ⟨⟨u, hu⟩, ⟨v, hv⟩⟩
    exact ⟨u ++ v, andThen_eq_ok.2 ⟨u, v, hu, hv, rfl⟩⟩

/-- The members of a list are written when each of them is. -/
lemma succeeds_writeItems {write : Value → Written} {items : List Value} :
    (writeItems write items).Succeeds ↔ ∀ v ∈ items, (write v).Succeeds := by
  induction items with
  | nil => simp [writeItems, Succeeds]
  | cons v vs ih => rw [writeItems, succeeds_andThen, ih, List.forall_mem_cons]

/-- The pairs of a list are written when each key and each value is. -/
lemma succeeds_writeEntries {writeKey writeValue : Value → Written} {entries : List (Value × Value)} :
    (writeEntries writeKey writeValue entries).Succeeds ↔
      ∀ e ∈ entries, (writeKey e.1).Succeeds ∧ (writeValue e.2).Succeeds := by
  induction entries with
  | nil => simp [writeEntries, Succeeds]
  | cons e rest ih =>
      rw [writeEntries, succeeds_andThen, succeeds_andThen, ih, List.forall_mem_cons, and_assoc]

/-- As many elements as there are types are written when each is written in its type. -/
lemma succeeds_writeTuple {ts : List ColumnType} {items : List Value} :
    items.length = ts.length ∧ (ColumnType.writeTuple ts items).Succeeds ↔
      List.Forall₂ (fun t v => (t.write v).Succeeds) ts items := by
  induction ts generalizing items with
  | nil => cases items <;> simp [ColumnType.writeTuple, Succeeds]
  | cons t ts ih =>
      cases items with
      | nil => simp
      | cons v vs =>
          rw [ColumnType.writeTuple, succeeds_andThen, List.forall₂_cons, ← ih,
            List.length_cons, List.length_cons, Nat.add_right_cancel_iff]
          exact and_left_comm

end Written

namespace ColumnType

/-- What is written without an error conforms to the type. -/
lemma conforms_of_succeeds {t : ColumnType} {v : Value} (h : (t.write v).Succeeds) :
    Conforms t v := by
  obtain ⟨w, h⟩ := h
  induction t generalizing v w with
  | text =>
      obtain ⟨s, rfl, _⟩ := write_text_eq_ok.1 h
      exact .text s
  | integer k =>
      obtain ⟨i, hint, hholds, _⟩ := write_integer_eq_ok.1 h
      cases v <;> cases hint
      exact .integer hholds
  | float32 =>
      obtain ⟨x, rfl | ⟨y, rfl, _⟩, _⟩ := write_float32_eq_ok.1 h
      · exact .single x
      · exact .rounded y
  | float64 =>
      obtain ⟨x, hx, _⟩ := write_float64_eq_ok.1 h
      cases v <;> cases hx
      · exact .widened _
      · exact .double _
  | date =>
      obtain ⟨d, rfl, hfirst, _⟩ := write_date_eq_ok.1 h
      exact .date hfirst
  | dateTime =>
      obtain ⟨t, rfl, hfirst, _⟩ := write_dateTime_eq_ok.1 h
      exact .dateTime hfirst
  | array t ih =>
      obtain ⟨items, u, rfl, hu, _⟩ := write_array_eq_ok.1 h
      refine .array fun v hv => ?_
      obtain ⟨x, hx⟩ := Written.succeeds_writeItems.1 ⟨u, hu⟩ v hv
      exact ih x hx
  | nullable t ih =>
      rcases write_nullable_eq_ok.1 h with ⟨rfl, _⟩ | ⟨_, u, hu, _⟩
      · exact .null t
      · exact .nullable (ih u hu)
  | lowCardinality t ih =>
      obtain ⟨u, hu, _⟩ := write_lowCardinality_eq_ok.1 h
      exact .lowCardinality (ih u hu)
  | tuple ts ih =>
      obtain ⟨items, rfl, hlength, hitems⟩ := write_tuple_eq_ok.1 h
      -- What is known of each type joins the pairing of the types with the elements.
      have hall := Written.succeeds_writeTuple.1 ⟨hlength, w, hitems⟩
      refine .tuple (((List.forall₂_and_left _ _).2 ⟨ih, hall⟩).imp ?_)
      rintro t v ⟨hconforms, x, hx⟩
      exact hconforms x hx
  | map tk tv ihk ihv =>
      obtain ⟨entries, u, rfl, hu, _⟩ := write_map_eq_ok.1 h
      have hall := Written.succeeds_writeEntries.1 ⟨u, hu⟩
      refine .map (fun e he => ?_) fun e he => ?_
      · obtain ⟨⟨x, hx⟩, _⟩ := hall e he
        exact ihk x hx
      · obtain ⟨_, x, hx⟩ := hall e he
        exact ihv x hx

/-- A value that conforms to the type is written without an error. -/
lemma succeeds_of_conforms {t : ColumnType} {v : Value} (h : Conforms t v) :
    (t.write v).Succeeds := by
  induction t generalizing v with
  | text =>
      cases h with
      | text s => exact ⟨_, write_text_eq_ok.2 ⟨s, rfl, rfl⟩⟩
  | integer k =>
      cases h with
      | integer hholds => exact ⟨_, write_integer_eq_ok.2 ⟨_, rfl, hholds, rfl⟩⟩
  | float32 =>
      cases h with
      | single x => exact ⟨_, write_float32_eq_ok.2 ⟨x, .inl rfl, rfl⟩⟩
      | rounded x => exact ⟨_, write_float32_eq_ok.2 ⟨_, .inr ⟨x, rfl, rfl⟩, rfl⟩⟩
  | float64 =>
      cases h with
      | double x => exact ⟨_, write_float64_eq_ok.2 ⟨x, rfl, rfl⟩⟩
      | widened x => exact ⟨_, write_float64_eq_ok.2 ⟨_, rfl, rfl⟩⟩
  | date =>
      cases h with
      | date hfirst => exact ⟨_, write_date_eq_ok.2 ⟨_, rfl, hfirst, rfl⟩⟩
  | dateTime =>
      cases h with
      | dateTime hfirst => exact ⟨_, write_dateTime_eq_ok.2 ⟨_, rfl, hfirst, rfl⟩⟩
  | array t ih =>
      cases h with
      | array hitems =>
          obtain ⟨u, hu⟩ := Written.succeeds_writeItems.2 fun v hv => ih (hitems v hv)
          exact ⟨_, write_array_eq_ok.2 ⟨_, u, rfl, hu, rfl⟩⟩
  | nullable t ih =>
      -- No value may conform to the inner type too, but it is written without looking at that type.
      by_cases hnull : v = .null
      · exact ⟨_, write_nullable_eq_ok.2 (.inl ⟨hnull, rfl⟩)⟩
      · cases h with
        | null => exact absurd rfl hnull
        | nullable hinner =>
            obtain ⟨u, hu⟩ := ih hinner
            exact ⟨_, write_nullable_eq_ok.2 (.inr ⟨hnull, u, hu, rfl⟩)⟩
  | lowCardinality t ih =>
      cases h with
      | lowCardinality hinner =>
          obtain ⟨u, hu⟩ := ih hinner
          exact ⟨_, write_lowCardinality_eq_ok.2 ⟨u, hu, rfl⟩⟩
  | tuple ts ih =>
      cases h with
      | tuple hitems =>
          have hall : List.Forall₂ (fun t v => (t.write v).Succeeds) ts _ :=
            ((List.forall₂_and_left _ _).2 ⟨ih, hitems⟩).imp fun t v h => h.1 h.2
          obtain ⟨hlength, w, hw⟩ := Written.succeeds_writeTuple.2 hall
          exact ⟨w, write_tuple_eq_ok.2 ⟨_, rfl, hlength, hw⟩⟩
  | map tk tv ihk ihv =>
      cases h with
      | map hkey hvalue =>
          obtain ⟨u, hu⟩ := Written.succeeds_writeEntries.2 fun e he =>
            ⟨ihk (hkey e he), ihv (hvalue e he)⟩
          exact ⟨_, write_map_eq_ok.2 ⟨_, u, rfl, hu, rfl⟩⟩

/-- A value is written without an error exactly when it conforms to the type. -/
lemma write_succeeds_iff {t : ColumnType} {v : Value} : (t.write v).Succeeds ↔ Conforms t v :=
  ⟨conforms_of_succeeds, succeeds_of_conforms⟩

instance (t : ColumnType) (v : Value) : Decidable (Conforms t v) :=
  decidable_of_iff (t.write v).Succeeds write_succeeds_iff

/-- A missing value passes through a dictionary to where it is allowed, but not out of a sequence. -/
example :
    Conforms (.nullable (.array (.lowCardinality (.nullable (.integer .uint8)))))
        (.array [.integer ⟨.int64, 255, by decide⟩, .null]) ∧
      ¬ Conforms (.lowCardinality (.array (.integer .uint8))) (.array [.null]) := by
  decide

/-- An output takes a value in a column of a type exactly when the value conforms to the type. Whether it
does or not, the pending bytes stay where they are, and only bytes that do not depend on them are added
behind them. -/
theorem emit_accepts (t : ColumnType) (v : Value) (o : Output) :
    ((∃ o', t.emit v o = .ok () o') ↔ Conforms t v) ∧
      (finalState (t.emit v o)).pending = o.pending ++ (t.write v).bytes := by
  rw [emit_eq, Written.finalState_emit, Written.emit_eq_ok_iff, write_succeeds_iff]
  exact ⟨Iff.rfl, rfl⟩

/-! ## Missing values -/

/-- Where there may be no value, none conforms. -/
lemma conforms_null {t : ColumnType} (h : t.isNullable = true) : Conforms t .null := by
  induction t with
  | nullable t _ => exact .null t
  | lowCardinality t ih => exact .lowCardinality (ih h)
  | _ => cases h

/-- A type is nullable exactly when no value is written in a column of it without an error, exactly when
some bytes are read as no value wherever they lie ahead, and exactly when any input at all is read so. -/
theorem isNullable_tfae (t : ColumnType) :
    List.TFAE [
      t.isNullable = true,
      ∃ w, t.write .null = ⟨w, none⟩,
      ∃ b, ∀ (s : Input) (rest : Bytes), s.unread = b ++ rest →
        ∃ s', t.read s = .ok .null s' ∧ s'.unread = rest,
      ∃ s s', t.read s = .ok .null s'] := by
  tfae_have 1 → 2 := fun h => write_succeeds_iff.2 (conforms_null h)
  tfae_have 2 → 3 := by
    rintro ⟨w, hw⟩
    refine ⟨w, fun s rest hs => ?_⟩
    obtain ⟨s', hread, hrest, _⟩ := write_reads t .null w hw trivial s rest trivial hs
    rw [normal_null] at hread
    exact ⟨s', hread, hrest⟩
  tfae_have 3 → 4 := by
    rintro ⟨b, hb⟩
    obtain ⟨s', hread, _⟩ := hb (Input.holding b) [] (by rw [Input.unread_holding, List.append_nil])
    exact ⟨_, s', hread⟩
  tfae_have 4 → 1 := by
    rintro ⟨s, s', hread⟩
    exact Inhabits.null_iff.1 (read_inhabits t s .null s' hread)
  tfae_finish

end ColumnType

end ColumnWire.Cell
