import Mathlib.Tactic.Common
import ColumnWire.Proofs.Cell.Consuming
import ColumnWire.Proofs.Session.Blocks

/-!
# Receiving ends

Receiving a response ends whatever bytes come and whatever counts they declare, since nothing is counted
that takes no bytes:

* a packet takes a byte or more, so the loop over packets needs no bound of its own: `Loop` is the loop
  without one, and it ends after no more packets than there are bytes (`loop_receivePackets`);
* a value takes a byte or more (`ColumnType.read_consumes`), and so do a row, since rows without columns
  are refused, a column and the name of a table. What is to be repeated as often as a block declares is
  tried no more often than there are bytes, and once more (`countsBounded`);
* so a block is no larger than its row section (`StandsIn.area_le`).

Main statement: `receiveResult_bounded`.
-/

namespace ColumnWire.Session

open ColumnWire.Wire ColumnWire.Packet ColumnWire.Cell ColumnWire.Stream ColumnWire.Server Tape Decoder

variable {w : Bytes} {s t : Receiver} {r r' : QueryResult}

/-! ## Cells and rows -/

/-- A cell of a solid type has a byte or more. -/
lemma CellSpells.ne_nil {c : Column × ColumnType} {v : Value} (h : CellSpells c w v)
    (hc : c.2.Solid) : w ≠ [] := by
  obtain ⟨i, hi, hrest⟩ := Input.eq_ok_of_reads h
  obtain ⟨u, hu, _, hne⟩ := ColumnType.read_consumes hc _ v i trivial hi
  have hw : w = u := calc
    w = (Input.holding w).unread := (Input.unread_holding w).symm
    _ = u ++ i.unread := hu
    _ = u := by rw [hrest, List.append_nil]
  rwa [hw]

variable {columns : List (Column × ColumnType)}

/-- A row has a byte or more for each column. -/
lemma RowSpells.length_le {row : List Value} (h : RowSpells columns w row)
    (htypes : ∀ c ∈ columns, ColumnType.parse c.1.typeName = .ok c.2) :
    columns.length ≤ w.length := by
  have hcells := h.length_mul_le (k := 1) fun c hc u v hu =>
    List.length_pos_iff.2 (hu.ne_nil (ColumnType.parse_solid (htypes c hc)))
  rwa [Nat.mul_one, h.length_eq] at hcells

/-- A block has no more cells than its row section has bytes. -/
lemma StandsIn.area_le {kind : BlockKind} {b : Block} {header : BlockHeader} {cells : Bytes}
    (h : StandsIn w kind b header columns cells) :
    b.rows.length * b.columns.length ≤ cells.length := by
  have hwidth : b.columns.length = columns.length := by
    rw [h.block.1, ← h.declared, List.length_map]
  rw [hwidth]
  refine h.rows.length_mul_le fun columns' hmem u row hrow => ?_
  obtain rfl := List.eq_of_mem_replicate hmem
  exact hrow.length_le h.types

/-- Receiving a row of one column or more takes a byte or more. -/
lemma receiveRow_consumes (htypes : ∀ c ∈ columns, ColumnType.parse c.1.typeName = .ok c.2)
    (hne : columns ≠ []) : Consumes (receiveRow columns) := by
  refine Consumes.forEach (fun c => (readingCell_takes c).advances) (fun c hc => ?_) hne
  exact (readingCell_takes c).mono fun w v hcell =>
    hcell.ne_nil (ColumnType.parse_solid (htypes c hc))

/-! ## Counts -/

/-- The declaration of a column takes a byte or more. -/
lemma column_consumes : Consumes BlockHeader.column :=
  consumes_of_consuming BlockHeader.column_prefixStable
    (TextField.decoder_consuming.bind fun _ => TextField.decoder_prefixStable.bind fun _ => .pure _)

/-- A header without columns declares no rows. -/
lemma rows_of_columns_nil {header : BlockHeader} (h : BlockHeader.decoder.Spells w header)
    (hcolumns : header.columns = []) : header.rows = 0 := by
  obtain ⟨info, _, _, h⟩ := bind_eq_ok.1 (h [])
  obtain ⟨tables, _, _, h⟩ := bind_eq_ok.1 h
  obtain ⟨names, _, _, h⟩ := bind_eq_ok.1 h
  obtain ⟨count, _, _, h⟩ := bind_eq_ok.1 h
  obtain ⟨rows, _, _, h⟩ := bind_eq_ok.1 h
  split_ifs at h with hrefused
  · cases h
  · obtain ⟨declared, _, hdeclared, h⟩ := bind_eq_ok.1 h
    cases h
    have hlength := ((Yields.any BlockHeader.column).repeated count.toNat _ _ _ hdeclared).1
    rw [show declared = [] from hcolumns] at hlength
    have hcount : count = 0 := UInt64.toNat_inj.1 hlength.symm
    exact UInt64.le_zero_iff.1 (UInt64.not_lt.1 fun hpos => hrefused ⟨hcount, hpos⟩)

/-- However large a count is that a block or a value declares, what is counted is tried no more than
once for each byte ahead, and once more. -/
structure CountsBounded : Prop where
  /-- The names of temporary tables. -/
  tables : ∀ (n : Nat) (p : Bytes), runs TextField.decoder n p ≤ p.length + 1
  /-- The declarations of columns. -/
  columns : ∀ (n : Nat) (p : Bytes), runs BlockHeader.column n p ≤ p.length + 1
  /-- The rows that a header declares, in columns of the types that it names. -/
  rows : ∀ (w : Bytes) (header : BlockHeader) (columns : List (Column × ColumnType)) (s : Receiver),
    BlockHeader.decoder.Spells w header → columns.map (·.1) = header.columns →
      (∀ c ∈ columns, ColumnType.parse c.1.typeName = .ok c.2) → s.types.Reachable →
        runs (receiveRow columns) header.rows.toNat s ≤ s.input.unread.length + 1
  /-- The elements of a sequence and the entries of a dictionary. -/
  items : ∀ (t : ColumnType) (n : Nat) (s : Input), t.Solid → runs t.read n s ≤ s.unread.length + 1
  /-- The pairs of a map. -/
  entries : ∀ (tk tv : ColumnType) (n : Nat) (s : Input), tk.Solid →
    runs (readEntry tk.read tv.read) n s ≤ s.unread.length + 1

/-- Every count is bounded by the bytes. -/
lemma countsBounded : CountsBounded where
  tables n p := by
    have htext := consumes_of_consuming TextField.decoder_prefixStable TextField.decoder_consuming
    exact htext.runs_le trivial n
  columns n p := column_consumes.runs_le trivial n
  rows w header columns s hheader hcolumns htypes hs := by
    by_cases hne : columns = []
    · -- Without columns there are no rows, so nothing is repeated.
      subst hne
      rw [rows_of_columns_nil hheader hcolumns.symm]
      exact Nat.zero_le _
    · exact (receiveRow_consumes htypes hne).runs_le hs.sound header.rows.toNat
  items t n s ht := (ColumnType.read_consumes ht).runs_le trivial n
  entries tk tv n s hk := (ColumnType.readEntry_consumes hk).runs_le trivial n

/-! ## Packets -/

/-- What becomes of a response with a packet. -/
inductive Round where
  /-- It ends, with this result. -/
  | last (r : QueryResult)
  /-- It goes on, from this result so far. -/
  | next (r : QueryResult)

/-- Receives what stands behind a code. -/
def afterCode (r : QueryResult) (code : UInt64) : Receive Round :=
  if code = ServerCode.endOfStream.number then pure (.last r)
  else if code = ServerCode.exception.number then do
    let e ← reading readException
    pure (.last { r with exception := some e })
  else do
    let p ← receiveBody code
    pure (.next (r.add p))

/-- Receives one packet. -/
def receivePacket (r : QueryResult) : Receive Round :=
  reading Input.readVarint >>= afterCode r

/-- Receives what is left of a response behind a packet. -/
def Round.goOn (fuel : Nat) : Round → Receive QueryResult
  | .last r => pure r
  | .next r => receivePackets fuel r

/-- A round receives what stands behind its code and goes on. -/
lemma onCode_eq (fuel : Nat) (r : QueryResult) (n : UInt64) :
    onCode fuel r n = afterCode r n >>= Round.goOn fuel := by
  unfold afterCode
  split_ifs with hend hexception
  · subst hend
    rfl
  · subst hexception
    rw [bind_assoc]
    rfl
  · rw [onCode_of_continues ⟨hend, hexception⟩, bind_assoc]
    rfl

/-- A round of the loop receives a packet and goes on. -/
lemma receivePackets_round (fuel : Nat) (r : QueryResult) :
    receivePackets (fuel + 1) r = reading Input.atEnd >>= fun ended =>
      if ended then pure r else receivePacket r >>= Round.goOn fuel := by
  rw [receivePackets_succ, receivePacket, bind_assoc, funext (onCode_eq fuel r)]

/-- The loop over packets without a bound: from a state and a result so far it answers this after so many
packets. -/
inductive Loop : Nat → QueryResult → Receiver → EStateM.Result ClientError Receiver QueryResult → Prop
    where
  /-- The stream has ended. -/
  | ended {r : QueryResult} {s t : Receiver} (h : reading Input.atEnd s = .ok true t) :
      Loop 0 r s (.ok r t)
  /-- It cannot be known whether it has. -/
  | trouble {r : QueryResult} {s t : Receiver} {e : ClientError}
      (h : reading Input.atEnd s = .error e t) : Loop 0 r s (.error e t)
  /-- A packet cannot be received. -/
  | failed {r : QueryResult} {s s' t : Receiver} {e : ClientError}
      (h : reading Input.atEnd s = .ok false s') (hpacket : receivePacket r s' = .error e t) :
      Loop 1 r s (.error e t)
  /-- A packet ends the response. -/
  | last {r r' : QueryResult} {s s' t : Receiver} (h : reading Input.atEnd s = .ok false s')
      (hpacket : receivePacket r s' = .ok (.last r') t) : Loop 1 r s (.ok r' t)
  /-- A packet is received, and others follow. -/
  | next {n : Nat} {r r' : QueryResult} {s s' t : Receiver}
      {answer : EStateM.Result ClientError Receiver QueryResult}
      (h : reading Input.atEnd s = .ok false s') (hpacket : receivePacket r s' = .ok (.next r') t)
      (hrest : Loop n r' t answer) : Loop (n + 1) r s answer

/-- Reading an exception takes bytes, or none if it is cut short. -/
lemma readException_advances : Advances readException := by
  intro s e t _ h
  obtain ⟨w, _, hw, hmoves, _⟩ | ⟨_, _, hsettled, _⟩ := readException_eq_ok h
  · exact ⟨w, hw, hmoves, trivial⟩
  · exact ⟨[], (Input.unread_of_settled hsettled).symm, Input.drained_of_settled hsettled, trivial⟩

/-- What stands behind a code takes bytes, or none. -/
lemma afterCode_advances (r : QueryResult) (n : UInt64) : Advances (afterCode r n) := by
  unfold afterCode
  split_ifs with hend hexception
  · exact Advances.composes.pure _
  · exact Advances.composes.bind (reading_takes readException_advances) fun e =>
      Advances.composes.pure _
  · have hbody := receiveBody_takes (Varint.encode_spells n) ⟨hend, hexception⟩
    exact Advances.composes.bind hbody.advances fun p => Advances.composes.pure _

/-- Receiving a packet takes a byte or more, those of its code. -/
lemma receivePacket_consumes (r : QueryResult) : Consumes (receivePacket r) := by
  have hcode : Consumes (reading Input.readVarint) := reading_takes
    (Input.readVarint_refines.consumes Varint.decoder_prefixStable Varint.decoder_consuming)
  exact hcode.bind (afterCode_advances r)

/-- Without a byte ahead the loop answers at once. -/
lemma loop_of_nil (hahead : ahead s = []) (fuel : Nat) (r : QueryResult) :
    Loop 0 r s (receivePackets fuel r s) := by
  cases hstop : s.input.transport.stop with
  | none =>
      obtain ⟨i, hi, _⟩ := Input.atEnd_of_closed hahead hstop
      have hended : reading Input.atEnd s = .ok true { s with input := i } := by rw [reading, hi]
      rw [receivePackets_of_ended hended]
      exact .ended hended
  | some e =>
      obtain ⟨i, hi, _⟩ := Input.atEnd_of_trouble hahead hstop
      have htrouble : reading Input.atEnd s = .error (.stream e) { s with input := i } := by
        rw [reading, hi]
      rw [receivePackets_of_atEnd_error htrouble]
      exact .trouble htrouble

/-- With a bound of as many packets as there are bytes, the loop answers what it does without one, and
after no more packets than that. -/
lemma loop_receivePackets {fuel : Nat} (hs : Valid s) (hfuel : (ahead s).length ≤ fuel)
    (r : QueryResult) : ∃ n ≤ (ahead s).length, Loop n r s (receivePackets fuel r s) := by
  induction fuel generalizing s r with
  | zero =>
      have hahead : ahead s = [] := List.length_eq_zero_iff.1 (by omega)
      exact ⟨0, Nat.zero_le _, loop_of_nil hahead 0 r⟩
  | succ fuel ih =>
      by_cases hahead : ahead s = []
      · exact ⟨0, Nat.zero_le _, loop_of_nil hahead _ r⟩
      have hpos := List.length_pos_iff.2 hahead
      obtain ⟨s', hatEnd, hsame, hmoves⟩ := reading_atEnd_of_ahead hs hahead
      rw [receivePackets_round, bind_ok hatEnd, if_neg (by simp)]
      cases hpacket : receivePacket r s' with
      | error e t =>
          rw [bind_error hpacket]
          exact ⟨1, hpos, .failed hatEnd hpacket⟩
      | ok round t =>
          rw [bind_ok hpacket]
          obtain ⟨w, hw, hmoves', hne⟩ := receivePacket_consumes r s' round t (valid hmoves) hpacket
          have hbyte := List.length_pos_iff.2 hne
          have hlength := congrArg List.length hw
          rw [hsame, List.length_append] at hlength
          cases round with
          | last r' => exact ⟨1, hpos, .last hatEnd hpacket⟩
          | next r' =>
              -- The packet took a byte, so what is left is within the bound.
              obtain ⟨n, hn, hloop⟩ := ih (valid hmoves') (by omega) r'
              exact ⟨n + 1, by omega, .next hatEnd hpacket hloop⟩

/-! ## Responses -/

/-- Receiving needs no bound, and nothing that a peer declares makes it do more than its bytes allow. A
value in a column whose descriptor names a type takes a byte or more. So whatever bytes are received, the
loop over packets ends after no more packets than there are bytes, what is counted is tried no more than
once for each byte, and once more, and a block of the result has no more cells than its row section has
bytes. -/
theorem receiveResult_bounded :
    (∀ (descriptor : String) (t : ColumnType), ColumnType.parse descriptor = .ok t → t.Solid ∧
      ∀ s v s', t.read s = .ok v s' → ∃ u, u ≠ [] ∧ s.unread = u ++ s'.unread) ∧
    (∀ s : Receiver, s.types.Reachable →
      ∃ packets ≤ s.input.unread.length, Loop packets {} s (receiveResult s)) ∧
    CountsBounded ∧
    ∀ (s t : Receiver) (r : QueryResult), s.types.Reachable → receiveResult s = .ok r t →
      ∀ kind, ∀ b ∈ r.blocksOf kind, ∃ w header columns cells,
        s.input.unread = w ++ t.input.unread ∧ StandsIn w kind b header columns cells ∧
          b.rows.length * b.columns.length ≤ cells.length := by
  refine ⟨fun descriptor t h => ⟨ColumnType.parse_solid h, fun s v s' hv => ?_⟩, fun s hs => ?_,
    countsBounded, fun s t r hs h kind b hb => ?_⟩
  · obtain ⟨u, hu, _, hne⟩ :=
      ColumnType.read_consumes (ColumnType.parse_solid h) s v s' trivial hv
    exact ⟨u, hne, hu⟩
  · refine loop_receivePackets hs.sound ?_ {}
    rw [Input.unreadCount_eq]
    exact Nat.le_refl _
  · obtain ⟨w, header, columns, cells, hw, hstands⟩ := receiveResult_standsIn hs h hb
    exact ⟨w, header, columns, cells, hw, hstands, hstands.area_le⟩

/-- A receiver of a block that declares `2 ^ 64 - 1` rows and has two. -/
def hostileReceiver : Receiver where
  input := Input.holding
    ([1, 0, 1, 0, 2, 0, 0, 0, 1] ++ Varint.encode (UInt64.ofNat (UInt64.size - 1)) ++
      [1, 110, 5, 85, 73, 110, 116, 56, 7, 8])
  types := TypeCache.new 4

/-- The block is refused, after no more packets than its 29 bytes; of as many elements in two bytes no more
than three are tried. -/
theorem receiveResult_bounded_hostile :
    (outcome (receiveResult hostileReceiver)).isOk = false ∧
    (∃ packets ≤ 29, Loop packets {} hostileReceiver (receiveResult hostileReceiver)) ∧
    runs (ColumnType.integer .uint8).read (UInt64.size - 1) (Input.holding [7, 8]) ≤ 3 ∧
    ∃ r t, receiveResult nullableReceiver = .ok r t ∧ ∀ b ∈ r.blocks, ∃ w header columns cells,
      StandsIn w .data b header columns cells ∧ b.rows.length * b.columns.length ≤ cells.length := by
  obtain ⟨hvalues, hloop, hcounts, hblocks⟩ := receiveResult_bounded
  have hparse : ColumnType.parse "UInt8" = .ok (.integer .uint8) := by
    rw [ColumnType.parse, ColumnType.parseWithin]
    rfl
  have hok : (outcome (receiveResult nullableReceiver)).isOk = true := by decide +kernel
  obtain ⟨r, hr⟩ := eq_ok_of_isOk hok
  refine ⟨by decide +kernel, ?_, hcounts.items _ _ _ (hvalues _ _ hparse).1, r, _, hr, fun b hb => ?_⟩
  · obtain ⟨packets, hpackets, h⟩ := hloop hostileReceiver (.new 4)
    have hbytes : hostileReceiver.input.unread.length = 29 := by decide +kernel
    exact ⟨packets, hbytes ▸ hpackets, h⟩
  · obtain ⟨w, header, columns, cells, _, hstands, harea⟩ := hblocks _ _ r (.new 4) hr .data b hb
    exact ⟨w, header, columns, cells, hstands, harea⟩

end ColumnWire.Session
