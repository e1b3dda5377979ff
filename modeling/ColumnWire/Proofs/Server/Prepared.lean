import Mathlib.Data.List.Pairwise
import Mathlib.Tactic.Common
import ColumnWire.Proofs.Packet.ServerRoundTrip
import ColumnWire.Proofs.Session.ResponseRoundTrip
import ColumnWire.Server.Mock

/-!
# Prepared responses and what clients make of them

Which response is prepared for the text of a query (`Mock.Prepares`): the one for the text itself, else
the one for a text of the same form, else the fallback. If no two texts have the same form there is
exactly one, and it is the one that the server finds (`Mock.Distinct.prepares_iff`).

What a client makes of a response (`Response.ReadAs`) it makes of its bytes wherever they come from and
whatever comes behind them (`Response.Usable.reads`).
-/

namespace ColumnWire.Server

open ColumnWire.Wire ColumnWire.Packet ColumnWire.Cell ColumnWire.Stream ColumnWire.Session

/-! ## The response for a text -/

/-- The response is prepared for queries of this text. -/
inductive Mock.Prepares (m : Mock) (text : String) : Response → Prop where
  /-- For the text itself. -/
  | exact {r : Response} (h : (text, r) ∈ m.responses) : Prepares m text r
  /-- For another text of the same form, if there is none for the text itself. -/
  | alike {key : String} {r : Response} (hother : ∀ r, (text, r) ∉ m.responses)
      (h : (key, r) ∈ m.responses) (hform : normalize key = normalize text) : Prepares m text r
  /-- For all texts whose form no other text has. -/
  | fallback (hother : ∀ p ∈ m.responses, normalize p.1 ≠ normalize text) :
      Prepares m text m.fallback

/-- The texts with responses have different forms. -/
def Mock.Distinct (m : Mock) : Prop :=
  m.responses.Pairwise fun p q => normalize p.1 ≠ normalize q.1

/-- Whether they do can be computed. -/
instance (m : Mock) : Decidable m.Distinct :=
  inferInstanceAs (Decidable (List.Pairwise _ _))

namespace Mock

variable {m : Mock} {text : String} {r : Response}

/-- There is one response for each form. -/
lemma Distinct.eq_of_mem (h : m.Distinct) {p q : String × Response} (hp : p ∈ m.responses)
    (hq : q ∈ m.responses) (hform : normalize p.1 = normalize q.1) : p = q := by
  have : Std.Symm fun p q : String × Response => normalize p.1 ≠ normalize q.1 :=
    ⟨fun _ _ hne heq => hne heq.symm⟩
  by_contra hne
  exact List.Pairwise.forall h hp hq hne hform

/-- The response that the server finds is prepared. -/
lemma prepares_responseTo (m : Mock) (text : String) : m.Prepares text (m.responseTo text) := by
  unfold responseTo
  cases hexact : m.responses.find? (·.1 == text) with
  | some p =>
      obtain rfl : p.1 = text := by simpa using List.find?_some hexact
      exact .exact (List.mem_of_find?_eq_some hexact)
  | none =>
      have hother : ∀ r, (text, r) ∉ m.responses := by
        intro r hmem
        simpa using List.find?_eq_none.1 hexact _ hmem
      dsimp only
      cases halike : m.responses.find? (fun p => normalize p.1 == normalize text) with
      | some p =>
          have hform : normalize p.1 = normalize text := by simpa using List.find?_some halike
          exact .alike hother (List.mem_of_find?_eq_some halike) hform
      | none =>
          refine .fallback fun p hp => ?_
          simpa using List.find?_eq_none.1 halike p hp

/-- No more than one response is prepared for a text. -/
lemma Distinct.prepares_unique (h : m.Distinct) {r' : Response} (hr : m.Prepares text r)
    (hr' : m.Prepares text r') : r = r' := by
  cases hr with
  | exact hmem =>
      cases hr' with
      | exact hmem' => exact congrArg Prod.snd (h.eq_of_mem hmem hmem' rfl)
      | alike hother _ _ => exact absurd hmem (hother _)
      | fallback hother => exact (hother _ hmem rfl).elim
  | alike hother hmem hform =>
      cases hr' with
      | exact hmem' => exact absurd hmem' (hother _)
      | alike _ hmem' hform' =>
          exact congrArg Prod.snd (h.eq_of_mem hmem hmem' (hform.trans hform'.symm))
      | fallback hother' => exact (hother' _ hmem hform).elim
  | fallback hother =>
      cases hr' with
      | exact hmem' => exact (hother _ hmem' rfl).elim
      | alike _ hmem' hform' => exact (hother _ hmem' hform').elim
      | fallback _ => rfl

/-- Exactly one response is prepared for a text, namely the one that the server finds. -/
theorem Distinct.prepares_iff (h : m.Distinct) : m.Prepares text r ↔ r = m.responseTo text := by
  refine ⟨fun hr => h.prepares_unique hr (m.prepares_responseTo text), ?_⟩
  rintro rfl
  exact m.prepares_responseTo text

end Mock

/-! ## What clients make of responses -/

namespace Response

/-- The response is one of rows that can be written, with a column or more, an exception or nothing.
Words count its bytes, as they do in memory. -/
inductive Usable : Response → Prop where
  /-- Rows. -/
  | rows {columns : List Column} {cells : List (List Value)} {bytes : Bytes} (hcolumns : columns ≠ [])
      (hbytes : encodePackets (rowPackets columns cells) = .ok bytes)
      (hfit : bytes.length < UInt64.size) : Usable (.rows columns cells)
  /-- An exception. -/
  | error {e : ServerException} (hfit : e.encode.length < UInt64.size) : Usable (.error e)
  /-- Nothing. -/
  | empty : Usable .empty

/-- The outcome of a query to which a server gives the response. -/
inductive ReadAs : Response → Except ClientError QueryResult → Prop where
  /-- A block that only has the columns, a block with the rows in normal form, and the counters. -/
  | rows {columns : List Column} {cells : List (List Value)} {q : QueryResult}
      (hblocks : q.blocks.map Block.content =
        [⟨columns, {}, []⟩, ⟨columns, {}, cells.map (normalRow columns)⟩])
      (htotals : q.totals = none) (hextremes : q.extremes = none) (hexception : q.exception = none)
      (hprogress : q.progress =
        { rows := UInt64.ofNat cells.length, totalRows := UInt64.ofNat cells.length })
      (hprofile : q.profile = { rowsRead := UInt64.ofNat cells.length }) :
      ReadAs (.rows columns cells) (.ok q)
  /-- The exception of the server, with all its causes. -/
  | error (e : ServerException) : ReadAs (.error e) (.error (.remote (.ofException e)))
  /-- No blocks, and nothing else. -/
  | empty : ReadAs .empty (.ok {})

variable {r : Response}

/-- The bytes of a response of rows are those of a block without rows, of one with them, of the counters
and of the end. -/
lemma encodePackets_rowPackets {columns : List Column} {cells : List (List Value)} {w : Bytes}
    (h : encodePackets (rowPackets columns cells) = .ok w) :
    ∃ u v, encodeBlock .data columns [] = .ok u ∧ encodeBlock .data columns cells = .ok v ∧
      w = u ++ (v ++ ((⟨UInt64.ofNat cells.length, 0, UInt64.ofNat cells.length⟩ : Progress).encode ++
        (({ rowsRead := UInt64.ofNat cells.length } : ProfileInfo).encode ++
          ServerCode.endOfStream.encode))) := by
  obtain ⟨u, _, hu, hrest, rfl⟩ := encodePackets_cons.1 h
  obtain ⟨v, _, hv, hcounters, rfl⟩ := encodePackets_cons.1 hrest
  obtain ⟨_, _, hprogress, hcounters', rfl⟩ := encodePackets_cons.1 hcounters
  obtain ⟨_, _, hprofile, hlast, rfl⟩ := encodePackets_cons.1 hcounters'
  obtain ⟨_, _, hend, hnone, rfl⟩ := encodePackets_cons.1 hlast
  cases hprogress
  cases hprofile
  cases hend
  cases hnone
  exact ⟨u, v, hu, hv, by simp⟩

/-- All of a profile without elapsed time is visible. -/
lemma visible_rowsRead (n : UInt64) :
    ({ rowsRead := n } : ProfileInfo).visible = { rowsRead := n } := by
  have hzero : ProfileInfo.ofMillis (ProfileInfo.millis ⟨0⟩) = ⟨0⟩ := by decide +kernel
  rw [ProfileInfo.visible, hzero]

/-- Packets and an end are received from any input. -/
lemma reads_of_packets {w u : Bytes} {parts : List Part} {e : End} (hparts : PartsSpell w parts)
    (hend : ∀ stop left, EndSpells stop u left e) :
    Tape.Reads receiveResult (w ++ u) ((parts.foldl QueryResult.add {}).finish e) :=
  fun _ _ hs hahead => receiveResult_reads (.packets hparts (hend _ _)) hs hahead

/-- The bytes of a response that is usable are received as what clients make of it. -/
theorem Usable.reads (h : r.Usable) (text : String) :
    ∃ bytes q, r.encode text = .ok bytes ∧ bytes ≠ [] ∧ r.ReadAs q.toExcept ∧
      Tape.Reads receiveResult bytes q := by
  cases h with
  | @rows columns cells w hcolumns hbytes hfit =>
      obtain ⟨u, v, hu, hv, rfl⟩ := encodePackets_rowPackets hbytes
      simp only [List.length_append] at hfit
      obtain ⟨b, hb, hbcontent⟩ := encodeBlock_spells hcolumns hu (by omega)
      obtain ⟨b', hb', hbcontent'⟩ := encodeBlock_spells hcolumns hv (by omega)
      have hprogress : PartSpells
          (⟨UInt64.ofNat cells.length, 0, UInt64.ofNat cells.length⟩ : Progress).encode (.progress _) :=
        .progress (Varint.encode_spells _) (Progress.encodeBody_spells _)
      have hprofile : PartSpells
          ({ rowsRead := UInt64.ofNat cells.length } : ProfileInfo).encode (.profile _) :=
        .profile (Varint.encode_spells _) (ProfileInfo.encodeBody_spells _)
      have hparts : PartsSpell _ _ := .cons hb (.cons hb' (.cons hprogress (.cons hprofile .nil)))
      have hreads := reads_of_packets hparts fun _ _ => .endOfStream (Varint.encode_spells _)
      simp only [List.append_nil, List.append_assoc] at hreads
      refine ⟨_, _, hbytes, by simp [hb.ne_nil], ?_, hreads⟩
      exact .rows (congrArg₂ (fun x y => [x, y]) hbcontent hbcontent') rfl rfl rfl rfl
        (visible_rowsRead _)
  | @error e hfit =>
      have hbody : ServerException.decoder.Spells e.encodeBody e := by
        rw [ServerException.encode, List.length_append] at hfit
        exact ServerException.encodeBody_spells (by omega)
      have hreads := reads_of_packets .nil fun _ _ => .exception (Varint.encode_spells _) hbody
      refine ⟨_, { exception := some (.ofException e) }, rfl, ?_, .error e, hreads⟩
      simp [ServerException.encode, ServerCode.encode_ne_nil]
  | empty =>
      have hreads := reads_of_packets .nil fun _ _ => .endOfStream (Varint.encode_spells _)
      exact ⟨_, {}, rfl, ServerCode.encode_ne_nil _, .empty, hreads⟩

end Response

/-! ## Servers that are usable -/

/-- A server that refuses nobody, whose responses are usable and prepared for texts of different
forms. -/
structure Mock.Usable (m : Mock) : Prop where
  /-- The greeting is not refused. -/
  greets : m.refusal = none
  /-- Words count the bytes of the greeting. -/
  hello : m.hello.encode.length < UInt64.size
  /-- The texts have different forms. -/
  distinct : m.Distinct
  /-- The responses are usable. -/
  responses : ∀ p ∈ m.responses, p.2.Usable
  /-- So is the fallback. -/
  fallback : m.fallback.Usable

/-- A response that is prepared is usable. -/
lemma Mock.Usable.of_prepares {m : Mock} (h : m.Usable) {text : String} {r : Response}
    (hr : m.Prepares text r) : r.Usable := by
  cases hr with
  | exact hmem => exact h.responses _ hmem
  | alike _ hmem _ => exact h.responses _ hmem
  | fallback _ => exact h.fallback

end ColumnWire.Server
