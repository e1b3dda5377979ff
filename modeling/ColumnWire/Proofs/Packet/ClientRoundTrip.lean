import Mathlib.Tactic.Common
import ColumnWire.Packet.Client
import ColumnWire.Proofs.Packet.RoundTrip

/-!
# Written packets of a client are read back

The bytes of a greeting, of a query with the empty block behind it, of an empty block for a table and of
a request without a body spell what the other end sees of it (`ClientPacket.encode_spells`). The only
condition is that there are fewer than `2 ^ 64` bytes in the packet.

A query has two fields that are there only from certain revisions on. The other end learns the revision
from the query itself, in front of both, so it expects them exactly where they are
(`Query.encodeBody_eq`).
-/

namespace ColumnWire.Packet

open ColumnWire.Wire Decoder

/-! ## Numbers that stand for something -/

/-- The number of something spells it. -/
lemma numbered_spells {α : Type} {ofNumber? : UInt64 → Except WireError α} {n : UInt64} {a : α}
    (h : ofNumber? n = .ok a) : (numbered ofNumber?).Spells (Varint.encode n) a := by
  apply (Varint.encode_spells n).bind_nil
  rw [h]
  exact Spells.pure a

/-- The number of a kind stands for it. -/
lemma QueryKind.ofNumber?_number (k : QueryKind) : ofNumber? k.number = .ok k := by
  cases k <;> rfl

/-- The number of a stage stands for it. -/
lemma QueryStage.ofNumber?_number (s : QueryStage) : ofNumber? s.number = .ok s := by
  cases s <;> rfl

/-- The number of a state stands for it. -/
lemma Compression.ofNumber?_number (c : Compression) : ofNumber? c.number = .ok c := by
  cases c <;> rfl

/-! ## Greetings -/

/-- The bytes of a greeting spell it. -/
lemma ClientHello.encodeBody_spells {h : ClientHello} (hfit : h.encodeBody.length < UInt64.size) :
    ClientHello.decoder.Spells h.encodeBody h := by
  simp only [encodeBody, List.length_append] at hfit
  apply (textField_spells (s := h.clientName) (by omega)).bind
  apply (Varint.encode_spells h.versionMajor).bind
  apply (Varint.encode_spells h.versionMinor).bind
  apply (Varint.encode_spells h.revision.number).bind
  apply (textField_spells (s := h.database) (by omega)).bind
  apply (textField_spells (s := h.user) (by omega)).bind
  exact (textField_spells (s := h.password) (by omega)).bind_nil (Spells.pure _)

/-! ## Queries -/

/-- The bytes of what is said about who asks spell it. -/
lemma ClientInfo.encode_spells {i : ClientInfo} (hfit : i.encode.length < UInt64.size) :
    ClientInfo.decoder.Spells i.encode i := by
  simp only [encode, List.length_append] at hfit
  apply (numbered_spells i.kind.ofNumber?_number).bind
  apply (textField_spells (s := i.initialUser) (by omega)).bind
  apply (textField_spells (s := i.initialQueryId) (by omega)).bind
  apply (textField_spells (s := i.initialAddress) (by omega)).bind
  apply (Varint.encode_spells i.revision.number).bind
  apply (textField_spells (s := i.clientName) (by omega)).bind
  apply (Varint.encode_spells i.versionMajor).bind
  apply (Varint.encode_spells i.versionMinor).bind
  apply (Varint.encode_spells i.versionPatch).bind
  exact (textField_spells (s := i.quotaKey) (by omega)).bind_nil (Spells.pure _)

/-- The bytes of two texts spell them. -/
lemma pair_spells {p : String × String} (hfit : (TextField.encodePair p).length < UInt64.size) :
    TextField.pair.Spells (TextField.encodePair p) p := by
  simp only [TextField.encodePair, List.length_append] at hfit
  apply (textField_spells (s := p.1) (by omega)).bind
  exact (textField_spells (s := p.2) (by omega)).bind_nil (Spells.pure _)

/-- Two texts are written in one byte or more. -/
lemma encodePair_length_pos (p : String × String) : 0 < (TextField.encodePair p).length := by
  have hname := textField_length_pos p.1
  rw [TextField.encodePair, List.length_append]
  omega

/-- The fields of a query in front of the secret that servers share. -/
def Query.front (q : Query) : Bytes :=
  TextField.encode q.queryId ++ (q.clientInfo.encode ++
    (Varint.encode (UInt64.ofNat q.settings.length) ++
      (q.settings.flatMap TextField.encodePair ++ TextField.encode "")))

/-- The fields of a query between that secret and the parameters. -/
def Query.middle (q : Query) : Bytes :=
  Varint.encode q.stage.number ++ (Varint.encode q.compression.number ++ TextField.encode q.text)

/-- Which fields of a query are there only from certain revisions on, and where. -/
lemma Query.encodeBody_eq (q : Query) :
    q.encodeBody = q.front ++
      ((if 54441 ≤ q.revision.number then TextField.encode q.interserverSecret else []) ++
        (q.middle ++ if 54459 ≤ q.revision.number then TextField.encode "" else [])) := by
  simp only [encodeBody, front, middle, Revision.hasInterserverSecret, Revision.hasParameters,
    decide_eq_true_eq, List.append_assoc]

/-- A field that is there under a condition is taken under the same condition. -/
lemma optional_spells {α β : Type} {c : Prop} [Decidable c] {d : Decoder α} {k : α → Decoder β}
    {w tail : Bytes} {a absent : α} {b : β} (h : c → d.Spells w a)
    (hk : (k (if c then a else absent)).Spells tail b) :
    (if c then d >>= k else pure absent >>= k).Spells ((if c then w else []) ++ tail) b := by
  by_cases hc : c
  · simp only [if_pos hc] at hk ⊢
    exact (h hc).bind hk
  · simp only [if_neg hc] at hk ⊢
    exact (Spells.pure absent).bind hk

namespace Query

/-- The bytes of a query spell what is visible of it. -/
lemma encodeBody_spells {q : Query} (hfit : q.encodeBody.length < UInt64.size) :
    Query.decoder.Spells q.encodeBody q.visible := by
  simp only [encodeBody, List.length_append] at hfit
  have hpairs := length_le_flatMap encodePair_length_pos q.settings
  obtain ⟨hcount, hcountNat⟩ := Varint.encode_length_spells (n := q.settings.length) (by omega)
  have hsettings : Spells (repeated (UInt64.ofNat q.settings.length).toNat TextField.pair)
      (q.settings.flatMap TextField.encodePair) q.settings := by
    rw [hcountNat]
    refine Spells.repeated fun p hp => pair_spells ?_
    have hmem := length_le_flatMap_of_mem TextField.encodePair hp
    omega
  have hempty : TextField.decoder.Spells (TextField.encode "") "" := textField_spells (by decide)
  have hsecret : q.revision.hasInterserverSecret = true →
      TextField.decoder.Spells (TextField.encode q.interserverSecret) q.interserverSecret := by
    intro h
    rw [if_pos h] at hfit
    exact textField_spells (by omega)
  apply (textField_spells (s := q.queryId) (by omega)).bind
  apply (ClientInfo.encode_spells (i := q.clientInfo) (by omega)).bind
  apply hcount.bind
  apply hsettings.bind
  apply hempty.bind
  rw [if_neg (by simp)]
  apply optional_spells hsecret
  apply (numbered_spells q.stage.ofNumber?_number).bind
  apply (numbered_spells q.compression.ofNumber?_number).bind
  apply (textField_spells (s := q.text) (by omega)).bind
  have hparameters : Spells
      (if q.revision.hasParameters then TextField.decoder >>= fun _ => pure q.visible
        else pure q.visible)
      (if q.revision.hasParameters then TextField.encode "" else []) q.visible := by
    split
    · exact hempty.bind_nil (Spells.pure _)
    · exact Spells.pure _
  exact hparameters

/-- All of a query without a secret is visible. -/
lemma visible_of_secret {q : Query} (h : q.interserverSecret = "") : q.visible = q := by
  rw [visible, h, ite_self, ← h]

end Query

/-! ## Packets -/

/-- The bytes of the empty block spell its information. -/
lemma emptyBlock_spells (i : BlockInfo) :
    emptyBlock.Spells (i.encode ++ (Varint.encode 0 ++ Varint.encode 0)) i := by
  apply i.encode_spells.bind
  apply (Varint.encode_spells 0).bind
  apply (Varint.encode_spells 0).bind_nil
  rw [if_neg (by simp)]
  exact Spells.pure i

namespace ClientPacket

/-- A packet as the other end sees it. -/
def visible : ClientPacket → ClientPacket
  | .query q => .query q.visible
  | p => p

/-- The bytes of a packet spell what is visible of it. -/
theorem encode_spells {p : ClientPacket} (hfit : p.encode.length < UInt64.size) :
    decoder.Spells p.encode p.visible := by
  cases p with
  | hello h =>
      rw [encode, ClientHello.encode, List.length_append] at hfit
      apply (numbered_spells ClientCode.hello.ofNumber?_number).bind
      exact (ClientHello.encodeBody_spells (by omega)).bind_nil (Spells.pure _)
  | query q =>
      rw [encode, Query.encode, List.append_assoc, List.length_append, List.length_append] at hfit
      rw [encode, Query.encode, List.append_assoc]
      apply (numbered_spells ClientCode.query.ofNumber?_number).bind
      apply (Query.encodeBody_spells (by omega)).bind
      exact (emptyBlock_spells {}).bind_nil (Spells.pure _)
  | data table info =>
      rw [encode, List.length_append, List.length_append] at hfit
      apply (numbered_spells ClientCode.data.ofNumber?_number).bind
      apply (textField_spells (s := table) (by omega)).bind
      exact (emptyBlock_spells info).bind_nil (Spells.pure _)
  | cancel => exact (numbered_spells ClientCode.cancel.ofNumber?_number).bind_nil (Spells.pure _)
  | ping => exact (numbered_spells ClientCode.ping.ofNumber?_number).bind_nil (Spells.pure _)

/-- The bytes of packets in a row spell one by one what is visible of them. -/
lemma flatMap_encode_spells_visible {packets : List ClientPacket}
    (hfit : ∀ p ∈ packets, p.encode.length < UInt64.size) :
    Spells (repeated packets.length decoder) (packets.flatMap encode) (packets.map visible) :=
  Spells.repeated_map fun p hp => encode_spells (hfit p hp)

/-- The bytes of packets in a row, of which all is visible, spell them one by one. -/
lemma flatMap_encode_spells {packets : List ClientPacket} (hvisible : ∀ p ∈ packets, p.visible = p)
    (hfit : ∀ p ∈ packets, p.encode.length < UInt64.size) :
    Spells (repeated packets.length decoder) (packets.flatMap encode) packets := by
  have hspells := flatMap_encode_spells_visible hfit
  rwa [List.map_congr_left hvisible, List.map_id'] at hspells

end ClientPacket

end ColumnWire.Packet
