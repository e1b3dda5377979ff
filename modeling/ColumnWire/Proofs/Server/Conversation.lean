import Mathlib.Tactic.Common
import ColumnWire.Proofs.Packet.ClientStream
import ColumnWire.Proofs.Packet.Frame
import ColumnWire.Server.Mock

/-!
# Packets in a conversation

What a conversation does with the bytes of a packet, in whatever pieces they come: the beginning of a
packet is kept and nothing is answered (`Conversation.receive_beginning`), and with its last byte the
packet is taken and answered at once (`Conversation.receive_whole`). The bytes of a packet spell it, so
a beginning of them is too few and not something else (`Decoder.PrefixStable.short_of_spells`).
-/

namespace ColumnWire.Server.Conversation

open ColumnWire.Wire ColumnWire.Packet

variable {m : Mock} {c : Conversation} {p : ClientPacket} {w rest : Bytes}

/-- With nothing in the buffer nothing is taken. -/
lemma takeAll_of_empty (m : Mock) (fuel : Nat) (h : c.buffer = []) : takeAll m fuel c = (c, []) := by
  cases fuel with
  | zero => rfl
  | succ fuel => rw [takeAll, if_pos (.inr h)]

/-- Taking a packet leaves the buffer. -/
lemma take_buffer (m : Mock) (c : Conversation) (p : ClientPacket) :
    (take m c p).1.buffer = c.buffer := by
  unfold take
  split
  · cases m.refusal <;> rfl
  · rfl
  · split <;> rfl
  all_goals rfl

/-- The beginning of a packet is kept. -/
lemma receive_beginning (hfit : p.encode.length < UInt64.size) (hphase : c.phase ≠ .finished)
    (hw : c.buffer ++ w ++ rest = p.encode) (hrest : rest ≠ []) :
    c.receive m w = ({ c with buffer := c.buffer ++ w }, []) := by
  have hspells := ClientPacket.encode_spells hfit
  rw [← hw] at hspells
  obtain ⟨k, r, hshort⟩ := (Frame.decoder_prefixStable .clientPacket).short_of_spells hspells hrest
  unfold receive
  dsimp only
  cases hlength : (c.buffer ++ w).length with
  | zero => rfl
  | succ fuel =>
      have hne : c.buffer ++ w ≠ [] := by
        intro hnil
        rw [hnil] at hlength
        cases hlength
      rw [takeAll, if_neg (by simp [hphase, hne])]
      dsimp only
      rw [show ClientPacket.decoder (c.buffer ++ w) = _ from hshort]

/-- With its last byte a packet is taken and answered. -/
lemma receive_whole (hfit : p.encode.length < UInt64.size) (hphase : c.phase ≠ .finished)
    (hw : c.buffer ++ w = p.encode) :
    c.receive m w = ((take m { c with buffer := [] } p.visible).1,
      [(take m { c with buffer := [] } p.visible).2]) := by
  have hwhole : ClientPacket.decoder (c.buffer ++ w) = .ok p.visible [] := by
    have hspells := ClientPacket.encode_spells hfit []
    rwa [List.append_nil, ← hw] at hspells
  have hne : c.buffer ++ w ≠ [] := by
    rw [hw]
    exact p.encode_ne_nil
  unfold receive
  dsimp only
  obtain ⟨fuel, hfuel⟩ := Nat.exists_eq_succ_of_ne_zero (mt List.length_eq_zero_iff.1 hne)
  rw [hfuel, takeAll, if_neg (by simp [hphase, hne])]
  dsimp only
  rw [hwhole]
  dsimp only
  rw [takeAll_of_empty m fuel (take_buffer m { c with buffer := [] } p.visible)]

end ColumnWire.Server.Conversation
