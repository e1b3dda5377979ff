import Mathlib.Tactic.Common
import ColumnWire.Proofs.Stream.Unnoticed
import ColumnWire.Stream.Output

/-!
# Pieces

The bytes of a peer come in pieces. An input without them (`Input.uncut`) has all unread bytes in its
buffer, and its peer will send each answer in one piece. Reads do not notice the difference
(`Input.uncut_unnoticed`); a send does the same to both, and what the peer answers waits behind what
waited before (`Output.flush_uncut`). Peers send the same when they are one peer once all that waits is
in one piece as well (`Peer.whole`).
-/

namespace ColumnWire.Stream

open ColumnWire.Wire

/-! ## Without pieces -/

/-- The peer without the pieces that it sends: nothing waits, and each answer comes in one piece. -/
def Peer.uncut (p : Peer) : Peer :=
  { p with
    incoming := []
    answer := fun before data =>
      { p.answer before data with pieces := [(p.answer before data).pieces.flatten] } }

/-- The transport to peers without their pieces. -/
def Transport.uncut (t : Transport) : Transport :=
  { t with peer := t.peer.map Peer.uncut, parted := t.parted.map Peer.uncut }

/-- The input without the pieces that bytes come in. -/
def Input.uncut (s : Input) : Input where
  transport := s.transport.uncut
  buffer := s.unread

/-- Reads do not notice the pieces that bytes come in. -/
lemma Input.uncut_unnoticed : Unnoticed uncut := by
  have huncut : uncut = reshape (fun answer before data =>
        { answer before data with pieces := [(answer before data).pieces.flatten] })
      (List.map Peer.uncut) ∘ settled := by
    funext s
    obtain ⟨⟨peer, timeouts, parted⟩, buffer⟩ := s
    cases peer <;> rfl
  rw [huncut]
  exact (reshape_unnoticed _ _).comp settled_unnoticed

/-- Pieces are forgotten once. -/
@[simp] lemma Peer.uncut_uncut (p : Peer) : p.uncut.uncut = p.uncut := by
  simp [uncut]

/-- Pieces are forgotten once. -/
@[simp] lemma Transport.uncut_uncut (t : Transport) : t.uncut.uncut = t.uncut := by
  cases hpeer : t.peer <;> simp [uncut, hpeer, Function.comp_def]

/-- Without pieces nothing waits. -/
@[simp] lemma Transport.uncut_outstanding (t : Transport) : t.uncut.outstanding = [] := by
  cases hpeer : t.peer <;> simp [uncut, hpeer, outstanding, Peer.uncut, Peer.outstanding]

/-- Pieces are forgotten once. -/
@[simp] lemma Input.uncut_uncut (s : Input) : s.uncut.uncut = s.uncut := by
  rw [uncut, unread_eq, uncut, Transport.uncut_uncut, Transport.uncut_outstanding, List.append_nil]

/-! ## Sending -/

/-- A peer takes the same bytes and answers the same, whatever the pieces that it sent before. -/
lemma Peer.accept_uncut (p : Peer) (data : Bytes) :
    (p.uncut.accept data).1 = (p.accept data).1 ∧
      (p.uncut.accept data).2.uncut = (p.accept data).2.uncut ∧
      (p.accept data).2.outstanding = p.outstanding ++ (p.uncut.accept data).2.outstanding := by
  refine ⟨rfl, ?_, ?_⟩
  · simp [accept, uncut, room]
  · simp [accept, uncut, room, outstanding]

/-- Sending does the same whatever the pieces that wait, and what the peer answers waits behind them. -/
lemma Transport.send_uncut (data : Bytes) (t : Transport) :
    mapState uncut (send data t.uncut) = mapState uncut (send data t) ∧
      (finalState (send data t)).outstanding =
        t.outstanding ++ (finalState (send data t.uncut)).outstanding := by
  unfold send
  cases hpeer : t.peer with
  | none => simp [uncut, hpeer, finalState, outstanding, Function.comp_def]
  | some p =>
      have hpeer' : t.uncut.peer = some p.uncut := by simp [uncut, hpeer]
      obtain ⟨htook, hsame, hwaits⟩ := p.accept_uncut data
      simp only [hpeer']
      rcases haccept : p.accept data with ⟨took, q⟩
      rcases haccept' : p.uncut.accept data with ⟨took', q'⟩
      rw [haccept, haccept'] at htook hsame hwaits
      dsimp only at htook hsame hwaits
      subst htook
      cases took' with
      | true => simp [uncut, hsame, hwaits, finalState, outstanding, hpeer, Function.comp_def]
      | false =>
          have htrouble : t.uncut.troubled .send p.uncut.refusal = t.troubled .send p.refusal := rfl
          simp only [htrouble]
          simp [uncut, hsame, hwaits, finalState, outstanding, hpeer, Function.comp_def]

/-- So does sending what is pending. -/
lemma Output.flush_uncut (o : Output) (t : Transport) :
    mapState Transport.uncut (o.flush t.uncut) = mapState Transport.uncut (o.flush t) ∧
      (finalState (o.flush t)).outstanding =
        t.outstanding ++ (finalState (o.flush t.uncut)).outstanding := by
  unfold flush
  split
  · simp [finalState]
  · exact Transport.send_uncut o.pending t

/-- Parting from a peer does not depend on pieces. -/
lemma Transport.close_uncut (t : Transport) : t.uncut.close = t.close.uncut := by
  unfold close
  cases hpeer : t.peer <;> simp [uncut, hpeer, Peer.uncut, Peer.shutdown]

/-- Whether a peer is attached does not depend on pieces. -/
@[simp] lemma Transport.isConnected_uncut (t : Transport) : t.uncut.isConnected = t.isConnected := by
  simp [uncut, isConnected]

/-! ## Peers that send the same -/

/-- The peer that sends all in one piece: what waits, and each answer. -/
def Peer.whole (p : Peer) : Peer :=
  { p.uncut with incoming := [p.outstanding] }

/-- Peers that send the same are the same without pieces. -/
lemma Peer.uncut_of_whole {p q : Peer} (h : p.whole = q.whole) : p.uncut = q.uncut :=
  congrArg (fun w : Peer => { w with incoming := [] }) h

/-- The same bytes wait at peers that send the same. -/
lemma Peer.outstanding_of_whole {p q : Peer} (h : p.whole = q.whole) :
    p.outstanding = q.outstanding := by
  have houtstanding : p.whole.outstanding = q.whole.outstanding := by rw [h]
  simpa [whole, outstanding] using houtstanding

/-- Peers that differ in how the waiting bytes are cut send the same. -/
lemma Peer.whole_of_flatten (p : Peer) {pieces pieces' : List Bytes}
    (h : pieces.flatten = pieces'.flatten) :
    { p with incoming := pieces }.whole = { p with incoming := pieces' }.whole := by
  simp [whole, uncut, outstanding, h]

/-! ## What can be observed -/

/-- The input without pieces and, once the peer has been parted from, without the bytes that were
received from it and not read: how many these are depends on the pieces. -/
def Input.view (s : Input) : Input where
  transport := s.transport.uncut
  buffer := if s.transport.isConnected then s.unread else []

/-- Inputs that are the same but for the pieces are observed to be the same. -/
lemma Input.view_of_uncut {s t : Input} (h : s.uncut = t.uncut) : s.view = t.view := by
  have htransport : s.transport.uncut = t.transport.uncut := congrArg Input.transport h
  have hunread : s.unread = t.unread := congrArg Input.buffer h
  rw [view, view, ← Transport.isConnected_uncut, ← Transport.isConnected_uncut t.transport,
    htransport, hunread]

/-- While a peer is attached, inputs that are observed to be the same are so but for the pieces. -/
lemma Input.uncut_of_view {s t : Input} (hs : s.transport.isConnected = true)
    (h : s.view = t.view) : s.uncut = t.uncut := by
  have htransport : s.transport.uncut = t.transport.uncut := congrArg Input.transport h
  have ht : t.transport.isConnected = true := by
    rw [← Transport.isConnected_uncut, ← htransport, Transport.isConnected_uncut, hs]
  rwa [view, view, if_pos hs, if_pos ht] at h

end ColumnWire.Stream
