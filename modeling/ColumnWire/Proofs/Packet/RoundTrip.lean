import Mathlib.Tactic.Common
import ColumnWire.Proofs.Packet.Frame
import ColumnWire.Proofs.Wire.RoundTrip

/-!
# Written packets of a server are read back

The bytes of a block's header, of counters and of an exception with all its causes spell them. Lengths
are counted in words of 64 bits, so the only condition is that there are fewer than `2 ^ 64` bytes in
all; a header must also have a column if it has rows. Elapsed time comes back in whole milliseconds.

An exception is written link by link. Taking the links leaves them on a stack with the innermost on top
(`ServerException.links_spells`), and nesting them from there gives the exception back
(`ServerException.relink_links`).
-/

namespace ColumnWire.Packet

open ColumnWire.Wire Decoder

/-! ## Lengths -/

/-- Parts that take a byte or more are no more than their bytes. -/
lemma length_le_flatMap {α : Type} {write : α → Bytes} (h : ∀ a, 0 < (write a).length) (l : List α) :
    l.length ≤ (l.flatMap write).length := by
  induction l with
  | nil => simp
  | cons a rest ih =>
      have ha := h a
      rw [List.flatMap_cons, List.length_append, List.length_cons]
      omega

/-- A part has no more bytes than all parts. -/
lemma length_le_flatMap_of_mem {α : Type} (write : α → Bytes) {l : List α} {a : α} (h : a ∈ l) :
    (write a).length ≤ (l.flatMap write).length := by
  induction l with
  | nil => cases h
  | cons b rest ih =>
      rw [List.flatMap_cons, List.length_append]
      rcases List.mem_cons.1 h with rfl | h
      · omega
      · have hrest := ih h
        omega

/-- A number is written in one byte or more. -/
lemma encode_length_pos (v : UInt64) : 0 < (Varint.encode v).length :=
  List.length_pos_iff.2 (Varint.encode_ne_nil v)

/-- A text is written in one byte or more. -/
lemma textField_length_pos (s : String) : 0 < (TextField.encode s).length := by
  have hlength := encode_length_pos (UInt64.ofNat (utf8 s).length)
  rw [TextField.encode, BinaryField.encode, List.length_append]
  omega

/-- A text whose field has fewer than `2 ^ 64` bytes is spelled by its field. -/
lemma textField_spells {s : String} (h : (TextField.encode s).length < UInt64.size) :
    TextField.decoder.Spells (TextField.encode s) s :=
  TextField.encode_spells (Nat.lt_of_le_of_lt (TextField.utf8_length_le s) h)

/-- The fuel of a decoder is enough when it is enough for the bytes of a value alone. -/
lemma spells_of_fuel {α : Type} {d : Nat → Decoder α} {w : Bytes} {v : α}
    (h : ∀ fuel, w.length ≤ fuel → (d fuel).Spells w v) :
    Spells (fun p => d p.length p) w v := by
  intro rest
  exact h _ (by simp) rest

/-! ## Blocks -/

/-- The tagged fields of a block spell its information. -/
lemma BlockInfo.encode_spells (i : BlockInfo) : BlockInfo.decoder.Spells i.encode i := by
  refine spells_of_fuel (d := fun fuel => decodeFields fuel {}) fun fuel hfuel => ?_
  have hfields : ∃ more, fuel = more + 3 := by
    have h1 := encode_length_pos 1
    have h2 := encode_length_pos 2
    have h0 := encode_length_pos 0
    simp only [encode, List.length_append] at hfuel
    exact ⟨fuel - 3, by omega⟩
  obtain ⟨more, rfl⟩ := hfields
  apply (Varint.encode_spells 1).bind
  apply (Varint.encodeFlag_spells i.isOverflows).bind
  apply (Varint.encode_spells 2).bind
  apply (Varint.encode_spells i.bucketNum).bind
  exact (Varint.encode_spells 0).bind_nil (Spells.pure _)

/-- The bytes of a column's name and type spell the column. -/
lemma BlockHeader.column_spells {c : Column}
    (h : (TextField.encode c.name ++ TextField.encode c.typeName).length < UInt64.size) :
    column.Spells (TextField.encode c.name ++ TextField.encode c.typeName) c := by
  rw [List.length_append] at h
  exact (textField_spells (by omega)).bind ((textField_spells (by omega)).bind_nil (Spells.pure _))

/-- The bytes of a header spell it. -/
theorem BlockHeader.encode_spells {h : BlockHeader} (hcolumns : h.columns = [] → h.rows = 0)
    (hfit : h.encode.length < UInt64.size) : BlockHeader.decoder.Spells h.encode h := by
  obtain ⟨info, tables, columns, rows⟩ := h
  simp only [encode, List.length_append] at hfit
  have htables := length_le_flatMap textField_length_pos tables
  have hcount : columns.length ≤
      (columns.flatMap fun c => TextField.encode c.name ++ TextField.encode c.typeName).length := by
    refine length_le_flatMap (fun c => ?_) columns
    have hname := textField_length_pos c.name
    rw [List.length_append]
    omega
  obtain ⟨htablesCount, htablesNat⟩ := Varint.encode_length_spells (n := tables.length) (by omega)
  obtain ⟨hcolumnsCount, hcolumnsNat⟩ := Varint.encode_length_spells (n := columns.length) (by omega)
  have htablesSpells : Spells (repeated (UInt64.ofNat tables.length).toNat TextField.decoder)
      (tables.flatMap TextField.encode) tables := by
    rw [htablesNat]
    refine Spells.repeated fun s hs => textField_spells ?_
    have hmem := length_le_flatMap_of_mem TextField.encode hs
    omega
  have hcolumnsSpells : Spells (repeated (UInt64.ofNat columns.length).toNat column)
      (columns.flatMap fun c => TextField.encode c.name ++ TextField.encode c.typeName) columns := by
    rw [hcolumnsNat]
    refine Spells.repeated fun c hc => column_spells ?_
    have hmem := length_le_flatMap_of_mem
      (fun c : Column => TextField.encode c.name ++ TextField.encode c.typeName) hc
    omega
  have hoccupied : ¬ (UInt64.ofNat columns.length = 0 ∧ 0 < rows) := by
    rintro ⟨hzero, hrows⟩
    rw [hzero] at hcolumnsNat
    have hempty : columns = [] := List.length_eq_zero_iff.1 hcolumnsNat.symm
    rw [show rows = 0 from hcolumns hempty] at hrows
    exact absurd hrows (by decide)
  refine (BlockInfo.encode_spells info).bind (htablesCount.bind (htablesSpells.bind
    (hcolumnsCount.bind ((Varint.encode_spells rows).bind ?_))))
  rw [if_neg hoccupied]
  exact hcolumnsSpells.bind_nil (Spells.pure _)

/-! ## Counters -/

/-- The bytes of counters of the running query spell them. -/
lemma Progress.encodeBody_spells (p : Progress) : Progress.decoder.Spells p.encodeBody p :=
  (Varint.encode_spells p.rows).bind ((Varint.encode_spells p.bytes).bind
    ((Varint.encode_spells p.totalRows).bind_nil (Spells.pure _)))

/-- Counters of the whole query as the other end sees them: with elapsed time in whole milliseconds. -/
def ProfileInfo.visible (p : ProfileInfo) : ProfileInfo :=
  { p with elapsedSeconds := ofMillis (millis p.elapsedSeconds) }

/-- The bytes of counters of the whole query spell what is visible of them. -/
lemma ProfileInfo.encodeBody_spells (p : ProfileInfo) :
    ProfileInfo.decoder.Spells p.encodeBody p.visible :=
  (Varint.encode_spells p.rowsRead).bind ((Varint.encode_spells p.bytesRead).bind
    ((Varint.encode_spells (millis p.elapsedSeconds)).bind_nil (Spells.pure _)))

/-! ## Exceptions -/

/-- The bytes of one link spell it. -/
lemma Fault.encodeLink_spells {f : Fault} {more : Bool}
    (h : (f.encodeLink more).length < UInt64.size) :
    ServerException.link.Spells (f.encodeLink more) (f, more) := by
  simp only [encodeLink, List.length_append] at h
  exact (Varint.encode_spells f.code).bind ((textField_spells (by omega)).bind
    ((textField_spells (by omega)).bind ((textField_spells (by omega)).bind
      ((Varint.encodeFlag_spells more).bind_nil (Spells.pure _)))))

/-- A link takes a byte or more. -/
lemma Fault.encodeLink_length_pos (f : Fault) (more : Bool) : 0 < (f.encodeLink more).length := by
  have hcode := encode_length_pos f.code
  rw [encodeLink, List.length_append]
  omega

namespace ServerException

/-- What holds of exceptions without a cause, and of any with a cause of which it holds, holds of all. -/
@[induction_eliminator]
lemma induction {motive : ServerException → Prop} (last : ∀ f, motive ⟨f, none⟩)
    (caused : ∀ f cause, motive cause → motive ⟨f, some cause⟩) : ∀ e, motive e
  | ⟨f, none⟩ => last f
  | ⟨f, some cause⟩ => caused f cause (induction last caused cause)

/-- The bytes of an exception spell its links, the innermost on the top of the stack. -/
lemma links_spells {e : ServerException} {fuel : Nat} (stack : List ServerException)
    (hfuel : e.encodeBody.length ≤ fuel) (hfit : e.encodeBody.length < UInt64.size) :
    (links fuel stack).Spells e.encodeBody ((e.faults.map bare).reverse ++ stack) := by
  induction e generalizing fuel stack with
  | last f =>
      rw [encodeBody] at hfuel hfit ⊢
      have hpos := f.encodeLink_length_pos false
      cases fuel with
      | zero => omega
      | succ fuel => exact (Fault.encodeLink_spells hfit).bind_nil (Spells.pure _)
  | caused f cause ih =>
      rw [encodeBody, List.length_append] at hfuel hfit
      have hpos := f.encodeLink_length_pos true
      cases fuel with
      | zero => omega
      | succ fuel =>
          rw [encodeBody, faults, List.map_cons, List.reverse_cons, List.append_assoc]
          apply (Fault.encodeLink_spells (by omega)).bind
          exact ih (bare f :: stack) (by omega) (by omega)

/-- Taken off the stack, the links of an exception are nested as they were. -/
lemma relink_links (e : ServerException) (stack : List ServerException) :
    relink none ((e.faults.map bare).reverse ++ stack) = relink (some e) stack := by
  induction e generalizing stack with
  | last f => rfl
  | caused f cause ih =>
      rw [faults, List.map_cons, List.reverse_cons, List.append_assoc, ih]
      rfl

/-- The exception of its own links is the exception itself. -/
lemma assemble_links (e : ServerException) : assemble (e.faults.map bare).reverse = pure e := by
  have hlinks := relink_links e []
  rw [List.append_nil] at hlinks
  rw [assemble, hlinks]
  rfl

end ServerException

/-- The bytes of an exception spell it, with all its causes. -/
theorem ServerException.encodeBody_spells {e : ServerException}
    (hfit : e.encodeBody.length < UInt64.size) :
    ServerException.decoder.Spells e.encodeBody e := by
  refine spells_of_fuel (d := fun fuel => links fuel [] >>= assemble) fun fuel hfuel => ?_
  have hlinks := links_spells [] hfuel hfit
  rw [List.append_nil] at hlinks
  refine hlinks.bind_nil ?_
  rw [assemble_links]
  exact Spells.pure e

end ColumnWire.Packet
