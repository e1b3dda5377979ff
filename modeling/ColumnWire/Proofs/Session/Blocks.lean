import Mathlib.Data.List.Forall2
import Mathlib.Tactic.Common
import ColumnWire.Proofs.Cell.Inhabited
import ColumnWire.Proofs.Session.Response

/-!
# The blocks of a result

Every block of a result stands in the bytes that were received (`receiveResult_standsIn`): behind whole
packets and the code of its kind there are a table name, the header of the block and its row section
(`StandsIn`). The header says how many rows there are and which descriptors their columns have, and the
row section has a piece for each cell.

So results are well typed whatever the bytes were: there are as many rows as the header says, and each
cell holds a value of the type that the descriptor of its column names.

Main statement: `receiveResult_wellTyped`.
-/

namespace ColumnWire.Session

open ColumnWire.Wire ColumnWire.Packet ColumnWire.Cell ColumnWire.Stream ColumnWire.Server Tape

/-! ## Blocks of a kind -/

/-- The blocks of a kind in a result. -/
def QueryResult.blocksOf (r : QueryResult) : BlockKind → List Block
  | .data => r.blocks
  | .totals => r.totals.toList
  | .extremes => r.extremes.toList

variable {r : QueryResult} {kind : BlockKind} {b : Block} {w : Bytes}

/-- A packet adds no block but its own. -/
lemma QueryResult.mem_blocksOf_add {p : Part} (h : b ∈ (r.add p).blocksOf kind) :
    p = .block kind b ∨ b ∈ r.blocksOf kind := by
  cases p with
  | block kind' b' =>
      cases kind' <;> cases kind <;>
        simp_all [QueryResult.add, QueryResult.blocksOf, eq_comm, or_comm]
  | _ => exact .inr h

/-- The end of a response adds no block. -/
lemma QueryResult.blocksOf_finish (r : QueryResult) (e : End) (kind : BlockKind) :
    (r.finish e).blocksOf kind = r.blocksOf kind := by
  cases e <;> cases kind <;> rfl

/-- Packets add no blocks but their own. -/
lemma QueryResult.mem_blocksOf_foldl {parts : List Part}
    (h : b ∈ (parts.foldl QueryResult.add r).blocksOf kind) :
    .block kind b ∈ parts ∨ b ∈ r.blocksOf kind := by
  induction parts generalizing r with
  | nil => exact .inr h
  | cons p rest ih =>
      rcases ih h with hrest | hfirst
      · exact .inl (List.mem_cons_of_mem p hrest)
      · rcases mem_blocksOf_add hfirst with rfl | hr
        · exact .inl List.mem_cons_self
        · exact .inr hr

/-- Before each packet stand whole packets. -/
lemma PartsSpell.exists_of_mem {parts : List Part} (h : PartsSpell w parts) {p : Part}
    (hp : p ∈ parts) : ∃ before others u behind,
      PartsSpell before others ∧ PartSpells u p ∧ w = before ++ (u ++ behind) := by
  induction h with
  | nil => cases hp
  | @cons u w q rest hq hrest ih =>
      rcases List.mem_cons.1 hp with rfl | hp
      · exact ⟨[], [], u, w, .nil, hq, rfl⟩
      · obtain ⟨before, others, v, behind, hbefore, hv, rfl⟩ := ih hp
        exact ⟨u ++ before, q :: others, v, behind, .cons hq hbefore, hv, by simp⟩

/-! ## Where a block stands -/

/-- The block was received from the bytes `w`, where it has this header and the row section `cells`;
`columns` are the columns with their types. -/
structure StandsIn (w : Bytes) (kind : BlockKind) (b : Block) (header : BlockHeader)
    (columns : List (Column × ColumnType)) (cells : Bytes) : Prop where
  /-- Behind whole packets stand the code, a table name, the header and the row section. -/
  place : ∃ before others code table name front behind,
    PartsSpell before others ∧ Varint.decoder.Spells code kind.code.number ∧
      TextField.decoder.Spells table name ∧ BlockHeader.decoder.Spells front header ∧
        w = before ++ (code ++ (table ++ (front ++ (cells ++ behind))))
  /-- The columns are those of the header. -/
  declared : columns.map (·.1) = header.columns
  /-- Their descriptors name their types. -/
  types : ∀ c ∈ columns, ColumnType.parse c.1.typeName = .ok c.2
  /-- The row section has a piece for each of the rows that the header declares. -/
  rows : Chain RowSpells (List.replicate header.rows.toNat columns) cells b.rows
  /-- The block has the columns and the information of the header. -/
  block : b.columns = header.columns ∧ b.info = header.info

/-- Each block among some packets stands in their bytes. -/
lemma PartsSpell.exists_standsIn {parts : List Part} (h : PartsSpell w parts)
    (hb : .block kind b ∈ parts) (u : Bytes) :
    ∃ header columns cells, StandsIn (w ++ u) kind b header columns cells := by
  obtain ⟨before, others, v, behind, hbefore, hv, rfl⟩ := h.exists_of_mem hb
  cases hv with
  | @block code v _ _ hcode hv =>
      cases hv with
      | @parts name header columns _ table front cells htable hheader hcolumns htypes hrows hblock =>
          exact ⟨header, columns, cells,
            ⟨before, others, code, table, name, front, behind ++ u, hbefore, hcode, htable, hheader,
              by simp⟩, hcolumns, htypes, hrows, hblock⟩

variable {s t : Receiver} {header : BlockHeader} {columns : List (Column × ColumnType)} {cells : Bytes}

/-- Each block of a result stands in the bytes that were received. -/
lemma receiveResult_standsIn (hs : s.types.Reachable) (h : receiveResult s = .ok r t)
    (hb : b ∈ r.blocksOf kind) :
    ∃ w header columns cells, s.input.unread = w ++ t.input.unread ∧
      StandsIn w kind b header columns cells := by
  obtain ⟨_, hw, _, hanswer⟩ := receiveResult_takes hs.sound h
  cases hanswer with
  | @packets w u _ parts e hparts _ =>
      rw [QueryResult.blocksOf_finish] at hb
      rcases QueryResult.mem_blocksOf_foldl hb with hb | hb
      · obtain ⟨header, columns, cells, hstands⟩ := hparts.exists_standsIn hb u
        exact ⟨w ++ u, header, columns, cells, hw, hstands⟩
      · cases kind <;> cases hb

/-! ## What stands there -/

/-- There are as many rows as the header declares. -/
lemma StandsIn.rows_length (h : StandsIn w kind b header columns cells) :
    b.rows.length = header.rows.toNat := by
  rw [h.rows.length_eq, List.length_replicate]

/-- The bytes of each row are those of its cells. -/
lemma StandsIn.rowSpells (h : StandsIn w kind b header columns cells) {row : List Value}
    (hrow : row ∈ b.rows) : ∃ u, RowSpells columns u row := by
  obtain ⟨columns', hcolumns, u, hu⟩ := h.rows.exists_of_mem hrow
  obtain rfl := List.eq_of_mem_replicate hcolumns
  exact ⟨u, hu⟩

/-- A cell holds a value of the type of its column. -/
lemma CellSpells.inhabits {c : Column × ColumnType} {v : Value} (h : CellSpells c w v) :
    Inhabits c.2 v := by
  obtain ⟨i, hi, _⟩ := Input.eq_ok_of_reads h
  exact c.2.read_inhabits _ v i hi

/-- A row holds a value of the type of each column. -/
lemma RowSpells.inhabits {row : List Value} (h : RowSpells columns w row) :
    List.Forall₂ (fun c v => Inhabits c.2 v) columns row := by
  induction h with
  | nil => exact .nil
  | cons hc _ ih => exact .cons hc.inhabits ih

/-- Whatever bytes are received, each block of a result has as many rows as its header declares, the
descriptor of each column names a type, and each row has one value of that type for each column. It has
no value at all only where the type is nullable. -/
theorem receiveResult_wellTyped (hs : s.types.Reachable) (h : receiveResult s = .ok r t)
    (kind : BlockKind) (hb : b ∈ r.blocksOf kind) :
    ∃ w header columns cells, s.input.unread = w ++ t.input.unread ∧
      StandsIn w kind b header columns cells ∧ b.columns = columns.map (·.1) ∧
      (∀ c ∈ columns, ColumnType.parse c.1.typeName = .ok c.2) ∧
      b.rows.length = header.rows.toNat ∧
      ∀ row ∈ b.rows, row.length = b.columns.length ∧
        List.Forall₂ (fun c v => Inhabits c.2 v ∧ (v = .null → c.2.isNullable = true)) columns row := by
  obtain ⟨w, header, columns, cells, hw, hstands⟩ := receiveResult_standsIn hs h hb
  refine ⟨w, header, columns, cells, hw, hstands, hstands.block.1.trans hstands.declared.symm,
    hstands.types, hstands.rows_length, fun row hrow => ⟨b.width row hrow, ?_⟩⟩
  obtain ⟨u, hu⟩ := hstands.rowSpells hrow
  refine hu.inhabits.imp fun c v hv => ⟨hv, ?_⟩
  rintro rfl
  exact Inhabits.null_iff.1 hv

/-- A receiver of one block: two rows of a nullable column, of which the first has no value. -/
def nullableReceiver : Receiver where
  input := Input.holding
    ([1, 0, 1, 0, 2, 0, 0, 0, 1, 2, 1, 110, 15] ++ utf8 "Nullable(UInt8)" ++ [1, 0, 7, 5])
  types := TypeCache.new 4

/-- The result has the block, and its rows are well typed. -/
theorem receiveResult_wellTyped_nullable :
    ∃ r t b, receiveResult nullableReceiver = .ok r t ∧ r.blocks = [b] ∧ b.rows.length = 2 ∧
      ∃ columns : List (Column × ColumnType), b.columns = columns.map (·.1) ∧
        (∀ c ∈ columns, ColumnType.parse c.1.typeName = .ok c.2) ∧
        ∀ row ∈ b.rows, row.length = b.columns.length ∧ List.Forall₂
          (fun c v => Inhabits c.2 v ∧ (v = .null → c.2.isNullable = true)) columns row := by
  have hok : (outcome (receiveResult nullableReceiver)).isOk = true := by decide +kernel
  have hlengths : (outcome (receiveResult nullableReceiver)).toOption.map
      (fun r => r.blocks.map fun b => b.rows.length) = some [2] := by decide +kernel
  obtain ⟨r, hr⟩ := eq_ok_of_isOk hok
  rw [hr] at hlengths
  obtain ⟨b, hb, hlength⟩ := List.map_eq_singleton_iff.1 (Option.some.inj hlengths)
  have hmem : b ∈ r.blocksOf .data := by
    rw [QueryResult.blocksOf, hb]
    exact List.mem_singleton_self b
  obtain ⟨_, _, columns, _, _, _, hcolumns, htypes, _, hrows⟩ :=
    receiveResult_wellTyped (.new 4) hr .data hmem
  exact ⟨r, _, b, hr, hb, hlength, columns, hcolumns, htypes, hrows⟩

end ColumnWire.Session
