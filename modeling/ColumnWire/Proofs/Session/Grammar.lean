import Mathlib.Tactic.Common
import ColumnWire.Proofs.Cell.RoundTrip
import ColumnWire.Proofs.Session.TypeCache
import ColumnWire.Server.Packets
import ColumnWire.Session.Response

/-!
# The packets of a response

Which bytes are a complete packet of a response, code and body, and what it says: `PartSpells` for the
packets that a response goes on after and `EndSpells` for how it can end. A block is its table name, its
header and its rows, each value in the type that the descriptor of its column names (`BlockSpells`).

What receiving works on is a tape, and what is received is what is spelled: blocks (`receiveBlock_reads`,
`receiveBlock_takes`) and what stands behind any code after which a response goes on
(`PartSpells.code_body`, `receiveBody_takes`). Packets can be told apart (`PartSpells.unique`).
-/

namespace ColumnWire.Session

open ColumnWire.Wire ColumnWire.Packet ColumnWire.Cell ColumnWire.Stream ColumnWire.Server Tape

/-! ## Blocks -/

/-- The bytes of a cell spell a value of the column's type. -/
def CellSpells (c : Column × ColumnType) (w : Bytes) (v : Value) : Prop :=
  Reads c.2.read w v

/-- The bytes of a row are those of its cells, one for each column. -/
def RowSpells (columns : List (Column × ColumnType)) : Bytes → List Value → Prop :=
  Chain CellSpells columns

/-- The bytes of a block are those of a table name, a header and as many rows as the header says, in
columns whose types the descriptors name. -/
inductive BlockSpells : Bytes → Block → Prop where
  /-- The parts of a block. -/
  | parts {table : String} {header : BlockHeader} {columns : List (Column × ColumnType)} {b : Block}
      {u u' u'' : Bytes} (htable : TextField.decoder.Spells u table)
      (hheader : BlockHeader.decoder.Spells u' header)
      (hcolumns : columns.map (·.1) = header.columns)
      (htypes : ∀ c ∈ columns, ColumnType.parse c.1.typeName = .ok c.2)
      (hrows : Chain RowSpells (List.replicate header.rows.toNat columns) u'' b.rows)
      (hblock : b.columns = header.columns ∧ b.info = header.info) :
      BlockSpells (u ++ (u' ++ u'')) b

/-! ## Packets -/

/-- A packet after which a response goes on. -/
inductive Part where
  /-- A block of rows. -/
  | block (kind : BlockKind) (b : Block)
  /-- Counters of the running query. -/
  | progress (p : Progress)
  /-- Counters of the whole query. -/
  | profile (p : ProfileInfo)
  /-- A code that is passed over. -/
  | passed (code : UInt64)

/-- The codes that a response acts on. -/
def actedOn : List ServerCode :=
  [.data, .exception, .progress, .endOfStream, .profileInfo, .totals, .extremes]

/-- A code that is passed over: any other, with or without a meaning. -/
def IsPassed (code : UInt64) : Prop :=
  ∀ c ∈ actedOn, code ≠ c.number

/-- The bytes of a packet, code and body, and what it says. -/
inductive PartSpells : Bytes → Part → Prop where
  /-- A block of rows. -/
  | block {u w : Bytes} {kind : BlockKind} {b : Block}
      (hcode : Varint.decoder.Spells u kind.code.number) (h : BlockSpells w b) :
      PartSpells (u ++ w) (.block kind b)
  /-- Counters of the running query. -/
  | progress {u w : Bytes} {p : Progress}
      (hcode : Varint.decoder.Spells u ServerCode.progress.number)
      (h : Progress.decoder.Spells w p) : PartSpells (u ++ w) (.progress p)
  /-- Counters of the whole query. -/
  | profile {u w : Bytes} {p : ProfileInfo}
      (hcode : Varint.decoder.Spells u ServerCode.profileInfo.number)
      (h : ProfileInfo.decoder.Spells w p) : PartSpells (u ++ w) (.profile p)
  /-- A code with nothing behind it. -/
  | passed {u : Bytes} {code : UInt64} (hcode : Varint.decoder.Spells u code)
      (h : IsPassed code) : PartSpells u (.passed code)

/-- The bytes of packets in a row. -/
inductive PartsSpell : Bytes → List Part → Prop where
  /-- No packet. -/
  | nil : PartsSpell [] []
  /-- A packet before others. -/
  | cons {w w' : Bytes} {p : Part} {ps : List Part} (h : PartSpells w p)
      (hrest : PartsSpell w' ps) : PartsSpell (w ++ w') (p :: ps)

/-- How a response can end. -/
inductive End where
  /-- The packet that says so. -/
  | endOfStream
  /-- An exception. -/
  | exception (e : ServerException)
  /-- The end of the stream between two packets. -/
  | closed
  /-- The end of the stream within an exception. -/
  | cut

/-- The bytes that end a response, those that are left behind them, and how they end it. `stop` is what
a receiver meets behind the last byte. -/
inductive EndSpells (stop : Option StreamError) : Bytes → Bytes → End → Prop where
  /-- The packet that says so. -/
  | endOfStream {u left : Bytes} (hcode : Varint.decoder.Spells u ServerCode.endOfStream.number) :
      EndSpells stop u left .endOfStream
  /-- A whole exception. -/
  | exception {u w left : Bytes} {e : ServerException}
      (hcode : Varint.decoder.Spells u ServerCode.exception.number)
      (h : ServerException.decoder.Spells w e) : EndSpells stop (u ++ w) left (.exception e)
  /-- The peer closes and there is nothing more. -/
  | closed (hstop : stop = none) : EndSpells stop [] [] .closed
  /-- The peer closes, and what is left is the beginning of an exception. -/
  | cut {u left : Bytes} {k : Nat} {rest : Bytes} (hstop : stop = none)
      (hcode : Varint.decoder.Spells u ServerCode.exception.number)
      (h : ServerException.decoder left = .error (.incomplete k) rest) : EndSpells stop u left .cut

/-- The result with what a packet says. -/
def QueryResult.add (r : QueryResult) : Part → QueryResult
  | .block .data b => { r with blocks := r.blocks ++ [b] }
  | .block .totals b => { r with totals := some b }
  | .block .extremes b => { r with extremes := some b }
  | .progress p => { r with progress := p }
  | .profile p => { r with profile := p }
  | .passed _ => r

/-- The result with what its end says. -/
def QueryResult.finish (r : QueryResult) : End → QueryResult
  | .exception e => { r with exception := some (.ofException e) }
  | .cut => { r with exception := some .unknown }
  | .endOfStream | .closed => r

/-! ## Receiving as reading a tape -/

/-- A receiver moves when its input does; its types stay those that descriptors name. -/
instance : Tape Receiver where
  ahead s := s.input.unread
  Valid s := s.types.Sound
  Moves s t := t.input.transport.drained = s.input.transport.drained ∧ t.types.Sound
  refl h := ⟨rfl, h⟩
  trans h h' := ⟨h'.1.trans h.1, h'.2⟩
  valid h := h.2

variable {α : Type} {r : Reader α} {d : Decoder α} {w : Bytes}

/-- What a read takes is taken while receiving. -/
lemma reading_reads {v : α} (h : Reads r w v) : Reads (reading r) w v := by
  intro s rest hs hahead
  obtain ⟨i, hi, hrest, hmoves⟩ := h s.input rest trivial hahead
  exact ⟨{ s with input := i }, by rw [reading, hi], hrest, hmoves, hs⟩

/-- A read while receiving succeeds when the read does, and moves the input alone. -/
lemma reading_eq_ok {v : α} {s t : Receiver} (h : reading r s = .ok v t) :
    ∃ i, r s.input = .ok v i ∧ t = { s with input := i } := by
  unfold reading at h
  cases hi : r s.input with
  | error e i => simp [hi] at h
  | ok a i =>
      rw [hi] at h
      cases h
      exact ⟨i, rfl, rfl⟩

/-- A success while receiving is one of the read. -/
lemma reading_takes {G : Bytes → α → Prop} (h : Takes r G) : Takes (reading r) G := by
  intro s v t hs hv
  obtain ⟨i, hi, rfl⟩ := reading_eq_ok hv
  obtain ⟨u, hu, hmoves, hG⟩ := h s.input v i trivial hi
  exact ⟨u, hu, ⟨hmoves, hs⟩, hG⟩

/-- Bytes that spell a field are taken. -/
lemma reading_spells {v : α} (h : Input.Refines r d) (hw : d.Spells w v) : Reads (reading r) w v :=
  reading_reads (h.reads hw)

/-- A cell is taken. -/
lemma readingCell_reads {c : Column × ColumnType} {v : Value} (h : CellSpells c w v) :
    Reads (readingCell c.1 c.2) w v := by
  intro s rest hs hahead
  obtain ⟨i, hi, hrest, hmoves⟩ := h s.input rest trivial hahead
  exact ⟨{ s with input := i }, by rw [readingCell, hi], hrest, hmoves, hs⟩

/-- A value of a column is spelled by its cell. -/
lemma readingCell_takes (c : Column × ColumnType) :
    Takes (readingCell c.1 c.2) (CellSpells c) := by
  intro s v t hs hv
  unfold readingCell at hv
  cases hi : c.2.read s.input with
  | error e i => simp [hi] at hv
  | ok a i =>
      rw [hi] at hv
      cases hv
      obtain ⟨u, hu, hmoves, hreads⟩ := c.2.read_local s.input v i trivial hi
      exact ⟨u, hu, ⟨hmoves, hs⟩, hreads⟩

/-- The type of a column is found without taking a byte. -/
lemma resolve_reads {c : Column} {t : ColumnType} (h : ColumnType.parse c.typeName = .ok t) :
    Reads (resolve c) [] (c, t) := by
  intro s rest hs hahead
  have hget := hs.get_eq_parse c.typeName
  rw [h] at hget
  refine ⟨{ s with types := (s.types.get c.typeName).2 }, ?_, hahead, rfl, hs.get c.typeName⟩
  unfold resolve
  cases hfound : s.types.get c.typeName with
  | mk found types =>
      rw [hfound] at hget
      obtain rfl : found = .ok t := hget
      rfl

/-- What is found is the type that the descriptor names. -/
lemma resolve_takes (c : Column) :
    Takes (resolve c) fun w p => w = [] ∧ p.1 = c ∧ ColumnType.parse c.typeName = .ok p.2 := by
  intro s p u hs hp
  have hget := hs.get_eq_parse c.typeName
  have hsound := hs.get c.typeName
  unfold resolve at hp
  cases hfound : s.types.get c.typeName with
  | mk found types =>
      rw [hfound] at hget hsound hp
      cases found with
      | error e => cases hp
      | ok t =>
          cases hp
          exact ⟨[], rfl, ⟨rfl, hsound⟩, rfl, rfl, hget.symm⟩

/-- A row is taken. -/
lemma receiveRow_reads {columns : List (Column × ColumnType)} {row : List Value}
    (h : RowSpells columns w row) : Reads (receiveRow columns) w row :=
  Reads.forEach (G := CellSpells) (fun _ _ _ => readingCell_reads) h

/-- The values of a row are spelled by its cells. -/
lemma receiveRow_takes (columns : List (Column × ColumnType)) :
    Takes (receiveRow columns) (RowSpells columns) :=
  Takes.forEach readingCell_takes columns

/-- A block of rows is one with these columns, this information and these rows. -/
lemma Block.ofRows_eq_ok {columns : List Column} {info : BlockInfo} {rows : List (List Value)}
    {b : Block} :
    Block.ofRows columns info rows = .ok b ↔ b.columns = columns ∧ b.info = info ∧ b.rows = rows := by
  unfold ofRows
  constructor
  · intro h
    split at h <;> cases h
    exact ⟨rfl, rfl, rfl⟩
  · rintro ⟨rfl, rfl, rfl⟩
    rw [dif_pos b.width]

/-- The types of columns are found without taking a byte. -/
lemma resolveAll_reads {columns : List (Column × ColumnType)}
    (h : ∀ c ∈ columns, ColumnType.parse c.1.typeName = .ok c.2) :
    Reads (forEach resolve (columns.map (·.1))) [] columns := by
  induction columns with
  | nil => exact Reads.pure []
  | cons c rest ih =>
      exact (resolve_reads (h c List.mem_cons_self)).forEach_cons
        (ih fun d hd => h d (List.mem_cons_of_mem c hd))

/-- What is found are the types that the descriptors name. -/
lemma resolveAll_takes (l : List Column) :
    Takes (forEach resolve l) fun w columns => w = [] ∧ columns.map (·.1) = l ∧
      ∀ c ∈ columns, ColumnType.parse c.1.typeName = .ok c.2 := by
  intro s columns t hs h
  obtain ⟨w, hw, hmoves, hchain⟩ := Takes.forEach resolve_takes l s columns t hs h
  refine ⟨w, hw, hmoves, ?_⟩
  clear hw h
  induction hchain with
  | nil => simp
  | cons hc _ ih =>
      obtain ⟨rfl, rfl, hparse⟩ := hc
      obtain ⟨rfl, rfl, htypes⟩ := ih
      refine ⟨rfl, rfl, fun c hc => ?_⟩
      rcases List.mem_cons.1 hc with rfl | hc
      · exact hparse
      · exact htypes c hc

/-- A block is taken, whatever lies ahead of it. -/
lemma receiveBlock_reads {b : Block} (h : BlockSpells w b) : Reads receiveBlock w b := by
  obtain ⟨htable, hheader, hcolumns, htypes, hrows, hblock⟩ := h
  apply (reading_spells Input.readText_refines htable).bind
  apply (reading_spells (Input.readFrame_refines BlockHeader.decoder_prefixStable) hheader).bind
  rw [← hcolumns]
  apply Reads.bind (w := []) (resolveAll_reads htypes)
  rw [repeated_eq_forEach]
  apply (Reads.forEach (G := RowSpells) (fun _ _ _ => receiveRow_reads) hrows).bind_nil
  rw [hcolumns, Block.ofRows_eq_ok.2 ⟨hblock.1, hblock.2, rfl⟩]
  exact Reads.pure _

/-- A block that is received is spelled by the bytes that were taken. -/
lemma receiveBlock_takes : Takes receiveBlock BlockSpells := by
  intro s b s' hs h
  obtain ⟨table, s₁, htable, h⟩ := bind_eq_ok.1 h
  obtain ⟨header, s₂, hheader, h⟩ := bind_eq_ok.1 h
  obtain ⟨columns, s₃, hcolumns, h⟩ := bind_eq_ok.1 h
  obtain ⟨rows, s₄, hrows, h⟩ := bind_eq_ok.1 h
  obtain ⟨u, hu, hmoves₁, htable⟩ := reading_takes
    (Input.readText_refines.takes TextField.decoder_prefixStable) s table s₁ hs htable
  obtain ⟨u', hu', hmoves₂, hheader⟩ := reading_takes
    ((Input.readFrame_refines BlockHeader.decoder_prefixStable).takes
      BlockHeader.decoder_prefixStable) s₁ header s₂ (valid hmoves₁) hheader
  obtain ⟨_, hnone, hmoves₃, rfl, hcolumns, htypes⟩ :=
    resolveAll_takes header.columns s₂ columns s₃ (valid hmoves₂) hcolumns
  rw [repeated_eq_forEach] at hrows
  obtain ⟨u'', hu'', hmoves₄, hchain⟩ := Takes.forEach receiveRow_takes
    (List.replicate header.rows.toNat columns) s₃ rows s₄ (valid hmoves₃) hrows
  cases hofRows : Block.ofRows header.columns header.info rows with
  | error e =>
      rw [hofRows] at h
      cases h
  | ok b' =>
      rw [hofRows] at h
      cases h
      obtain ⟨hname, hinfo, rfl⟩ := Block.ofRows_eq_ok.1 hofRows
      refine ⟨u ++ (u' ++ u''), ?_, trans (trans hmoves₁ hmoves₂) (trans hmoves₃ hmoves₄),
        .parts htable hheader hcolumns htypes hchain ⟨hname, hinfo⟩⟩
      rw [hu, hu', hnone, hu'']
      simp

/-! ## Codes and what stands behind them -/

/-- Receives what stands behind a code after which a response goes on. -/
def receiveBody (code : UInt64) : Receive Part :=
  match ServerCode.ofNumber? code with
  | .ok .data => do
    let b ← receiveBlock
    pure (.block .data b)
  | .ok .totals => do
    let b ← receiveBlock
    pure (.block .totals b)
  | .ok .extremes => do
    let b ← receiveBlock
    pure (.block .extremes b)
  | .ok .progress => do
    let p ← reading (Input.readFrame Progress.decoder)
    pure (.progress p)
  | .ok .profileInfo => do
    let p ← reading (Input.readFrame ProfileInfo.decoder)
    pure (.profile p)
  | _ => pure (.passed code)

/-- A code after which a response goes on. -/
def Continues (code : UInt64) : Prop :=
  code ≠ ServerCode.endOfStream.number ∧ code ≠ ServerCode.exception.number

/-- The code of a block is followed by the block. -/
lemma receiveBody_block (kind : BlockKind) :
    receiveBody kind.code.number = receiveBlock >>= fun b => pure (.block kind b) := by
  cases kind <;> rfl

/-- Nothing stands behind a code that is passed over. -/
lemma receiveBody_of_passed {n : UInt64} (h : IsPassed n) : receiveBody n = pure (.passed n) := by
  unfold receiveBody
  cases hn : ServerCode.ofNumber? n with
  | error e => rfl
  | ok c =>
      have hnumber := ServerCode.number_of_ofNumber? hn
      cases c with
      | hello => rfl
      | pong => rfl
      | tablesStatus => rfl
      | log => rfl
      | tableColumns => rfl
      | profileEvents => rfl
      | _ => exact absurd hnumber (h _ (by simp [actedOn]))

/-- A code without a meaning is passed over. -/
lemma isPassed_of_error {n : UInt64} {e : WireError} (h : ServerCode.ofNumber? n = .error e) :
    IsPassed n := by
  rintro c _ rfl
  rw [ServerCode.ofNumber?_number] at h
  cases h

/-- A packet is a code after which a response goes on, and what stands behind the code. -/
lemma PartSpells.code_body {p : Part} (h : PartSpells w p) :
    ∃ n u v, w = u ++ v ∧ Varint.decoder.Spells u n ∧ Continues n ∧ Reads (receiveBody n) v p := by
  cases h with
  | @block u v kind b hcode h =>
      refine ⟨_, u, v, rfl, hcode, by cases kind <;> exact ⟨by decide, by decide⟩, ?_⟩
      rw [receiveBody_block]
      exact (receiveBlock_reads h).bind_nil (Reads.pure _)
  | @progress u v p hcode h =>
      refine ⟨_, u, v, rfl, hcode, ⟨by decide, by decide⟩, ?_⟩
      have hread := Input.readFrame_refines Progress.decoder_prefixStable
      exact (reading_spells hread h).bind_nil (Reads.pure _)
  | @profile u v p hcode h =>
      refine ⟨_, u, v, rfl, hcode, ⟨by decide, by decide⟩, ?_⟩
      have hread := Input.readFrame_refines ProfileInfo.decoder_prefixStable
      exact (reading_spells hread h).bind_nil (Reads.pure _)
  | @passed _ n hcode h =>
      refine ⟨n, w, [], (List.append_nil w).symm, hcode, ⟨h _ (by decide), h _ (by decide)⟩, ?_⟩
      rw [receiveBody_of_passed h]
      exact Reads.pure _

/-- What is received behind such a code is, with the code, a packet. -/
lemma receiveBody_takes {u : Bytes} {n : UInt64} (hcode : Varint.decoder.Spells u n)
    (h : Continues n) : Takes (receiveBody n) fun v p => PartSpells (u ++ v) p := by
  have hpassed : IsPassed n → Takes (receiveBody n) fun v p => PartSpells (u ++ v) p := by
    intro hn
    rw [receiveBody_of_passed hn]
    exact Takes.pure (by rw [List.append_nil]; exact .passed hcode hn)
  cases hn : ServerCode.ofNumber? n with
  | error e => exact hpassed (isPassed_of_error hn)
  | ok c =>
      obtain rfl := ServerCode.number_of_ofNumber? hn
      cases c with
      | endOfStream => exact absurd rfl h.1
      | exception => exact absurd rfl h.2
      | data => exact receiveBlock_takes.bind_pure fun v b hb => @PartSpells.block u v .data b hcode hb
      | totals =>
          exact receiveBlock_takes.bind_pure fun v b hb => @PartSpells.block u v .totals b hcode hb
      | extremes =>
          exact receiveBlock_takes.bind_pure fun v b hb => @PartSpells.block u v .extremes b hcode hb
      | progress =>
          have hstable := Progress.decoder_prefixStable
          have htakes := (Input.readFrame_refines hstable).takes hstable
          exact (reading_takes htakes).bind_pure fun v p hp => .progress hcode hp
      | profileInfo =>
          have hstable := ProfileInfo.decoder_prefixStable
          have htakes := (Input.readFrame_refines hstable).takes hstable
          exact (reading_takes htakes).bind_pure fun v p hp => .profile hcode hp
      | _ => exact hpassed (by simp [IsPassed, actedOn, ServerCode.number])

/-- A packet has a byte or more, that of its code. -/
lemma PartSpells.ne_nil {p : Part} (h : PartSpells w p) : w ≠ [] := by
  obtain ⟨n, u, v, rfl, hcode, _⟩ := h.code_body
  simp [Varint.decoder_consuming.ne_nil hcode]

/-- What lies ahead begins with one packet only. -/
lemma PartSpells.unique {w' x x' : Bytes} {p p' : Part} (h : PartSpells w p)
    (h' : PartSpells w' p') (heq : w ++ x = w' ++ x') : w = w' ∧ x = x' := by
  obtain ⟨n, u, v, rfl, hcode, _, hbody⟩ := h.code_body
  obtain ⟨n', u', v', rfl, hcode', _, hbody'⟩ := h'.code_body
  rw [List.append_assoc, List.append_assoc] at heq
  obtain ⟨rfl, rfl, hbytes⟩ := hcode.unique hcode' heq
  let s : Receiver := { input := Input.holding (v ++ x), types := TypeCache.new 0 }
  have hahead : ahead s = v ++ x := Input.unread_holding _
  obtain ⟨_, rfl, rfl⟩ :=
    hbody.unique hbody' (TypeCache.new_sound 0 : Valid s) hahead (hahead.trans hbytes)
  exact ⟨rfl, rfl⟩

end ColumnWire.Session
