import Mathlib.Tactic.Common
import ColumnWire.Proofs.Stream.Ending

/-!
# What reads do not notice

Every read of a field or a frame is made of reads of frames and of refusals (`ReadOp.of_frames`). So
reads leave the drained transport alone (`ReadOp.preserves_drained`), and they commute with every map of
inputs that reading a frame and asking for the end commute with (`Input.Unnoticed`):

* receiving every waiting byte (`Input.settled_unnoticed`);
* changing what a peer will answer and the former peers (`Input.reshape_unnoticed`);
* one after the other (`Input.Unnoticed.comp`).
-/

namespace ColumnWire.Stream

open ColumnWire.Wire

/-! ## Reads as reads of frames -/

/-- What holds of reading frames and of refusing, and is kept by sequencing, holds of every read. -/
lemma ReadOp.of_frames {Q : (α : Type) → Reader α → Prop} (h : Composes Q)
    (hframe : ∀ {α : Type} {d : Decoder α}, d.PrefixStable → Q α (Input.readFrame d))
    (hrefuse : ∀ e : StreamError, Q String (throw e)) {α : Type} (op : ReadOp α) : Q α op.reader := by
  have hvarint : Q UInt64 Input.readVarint := by
    rw [Input.readVarint_eq]
    exact hframe Varint.decoder_prefixStable
  have hexactly (n : Nat) : Q Bytes (Input.readExactly n) := by
    rw [Input.readExactly_eq]
    exact hframe (Decoder.take_prefixStable n)
  have hbinary : Q Bytes Input.readBinary := h.bind hvarint fun n => hexactly n.toNat
  cases op with
  | varint => exact hvarint
  | binary => exact hbinary
  | text =>
      refine h.bind hbinary fun raw => ?_
      cases ofUtf8? raw with
      | none => exact hrefuse _
      | some s => exact h.pure s
  | binary32 => exact h.bind (hexactly 4) fun _ => h.pure _
  | binary64 => exact h.bind (hexactly 8) fun _ => h.pure _
  | frame f => exact hframe f.decoder_prefixStable

/-- Every read leaves the drained transport alone. -/
lemma ReadOp.preserves_drained {drained : Transport} {α : Type} (op : ReadOp α) :
    Preserves (fun s : Input => s.transport.drained = drained) op.reader :=
  op.of_frames Preserves.composes Input.readFrame_preserves_drained fun e => Preserves.throw e

/-! ## Maps that reads do not notice -/

namespace Input

/-- Reading frames and asking for the end commute with the map, and it leaves as much to read. -/
structure Unnoticed (f : Input → Input) : Prop where
  /-- Reading a frame commutes with the map. -/
  frame : ∀ {α : Type} {d : Decoder α}, d.PrefixStable → Commutes f (readFrame d)
  /-- Asking for the end commutes with the map. -/
  atEnd : Commutes f atEnd
  /-- As many bytes are unread. -/
  count : ∀ s, (f s).unreadCount = s.unreadCount

variable {f g : Input → Input}

/-- Every read commutes with such a map. -/
lemma Unnoticed.read (h : Unnoticed f) {α : Type} (op : ReadOp α) : Commutes f op.reader :=
  op.of_frames Commutes.composes h.frame fun e => Commutes.throw e

/-- Maps that are not noticed may follow each other. -/
lemma Unnoticed.comp (hf : Unnoticed f) (hg : Unnoticed g) : Unnoticed (f ∘ g) where
  frame hd := (hf.frame hd).comp (hg.frame hd)
  atEnd := hf.atEnd.comp hg.atEnd
  count s := (hf.count (g s)).trans (hg.count s)

/-- Reads do not notice which bytes have been received. -/
lemma settled_unnoticed : Unnoticed settled where
  frame hd := (readFrame_refines hd).commutes
  atEnd := atEnd_commutes
  count s := by rw [unreadCount_eq, unreadCount_eq, settled_unread]

end Input

/-! ## Changing what is not received -/

/-- The peer with other answers. -/
def Peer.reshape (answers : (Bytes → Bytes → Answer) → Bytes → Bytes → Answer) (p : Peer) : Peer :=
  { p with answer := answers p.answer }

section Reshape

variable (answers : (Bytes → Bytes → Answer) → Bytes → Bytes → Answer)
  (others : List Peer → List Peer)

/-- The transport with other answers of the peer and other former peers. -/
def Transport.reshape (t : Transport) : Transport :=
  { t with peer := t.peer.map (Peer.reshape answers), parted := others t.parted }

/-- The input over such a transport. -/
def Input.reshape (s : Input) : Input :=
  { s with transport := s.transport.reshape answers others }

/-- Bytes are handed out whatever the peer will answer. -/
lemma Peer.deliver_reshape (limit : Nat) (p : Peer) :
    (p.reshape answers).deliver limit =
      ((p.deliver limit).1, (p.deliver limit).2.reshape answers) := by
  unfold deliver
  by_cases hlimit : limit = 0
  · simp [hlimit]
  · simp only [if_neg hlimit, show (p.reshape answers).incoming = p.incoming from rfl]
    cases p.incoming.dropWhile (·.isEmpty) <;> rfl

/-- Receiving does not notice what the peer will answer, nor former peers. -/
lemma Transport.receive_reshape (limit : Nat) :
    Commutes (reshape answers others) (receive limit) := by
  intro t
  unfold receive
  cases hpeer : t.peer with
  | none => simp [reshape, hpeer]
  | some p =>
      have hreshape : (t.reshape answers others).peer = some (p.reshape answers) := by
        simp [reshape, hpeer]
      simp only [hreshape, Peer.deliver_reshape]
      split
      · rw [show (p.reshape answers).ending = p.ending from rfl]
        cases p.ending <;> rfl
      · rfl

namespace Input

/-- So does receiving into the buffer. -/
lemma fill_reshape (missing : Nat) : Commutes (reshape answers others) (fill missing) := by
  intro s
  have hreshape := Transport.receive_reshape answers others (request missing) s.transport
  cases hreceive : Transport.receive (request missing) s.transport with
  | ok piece t =>
      rw [hreceive] at hreshape
      rw [fill_of_ok hreceive, fill_of_ok (s := s.reshape answers others) hreshape]
      rfl
  | error e t =>
      rw [hreceive] at hreshape
      rw [fill_of_error hreceive, fill_of_error (s := s.reshape answers others) hreshape]
      rfl

/-- As many bytes wait. -/
lemma outstandingCount_reshape (s : Input) :
    (s.reshape answers others).transport.outstandingCount = s.transport.outstandingCount := by
  unfold reshape Transport.reshape Transport.outstandingCount
  cases s.transport.peer <;> rfl

/-- Looking and waiting does not notice it either, if what is done at the end of the stream does not. -/
lemma awaitWithin_reshape {α : Type} (look : Bytes → Sight α) {ended : Nat → Reader α}
    (hended : ∀ k, Commutes (reshape answers others) (ended k)) (fuel : Nat) :
    Commutes (reshape answers others) (awaitWithin look ended fuel) := by
  refine awaitWithin_related (f := reshape answers others)
    (P := fun _ r r' => r' = mapState (reshape answers others) r) (fun _ => rfl) (fun _ _ _ => rfl)
    (fun _ _ => rfl) (fun hnext => ?_) hended fuel
  exact (fill_reshape answers others _).bind hnext

/-- Reads do not notice what the peer will answer, nor former peers. -/
lemma reshape_unnoticed : Unnoticed (reshape answers others) where
  frame {α d} _ s := by
    rw [readFrame, await_eq, await_eq, source_input, source_input, outstandingCount_reshape]
    exact awaitWithin_reshape answers others _ (fun _ => Commutes.throw _) _ s
  atEnd s := by
    rw [atEnd, await_eq, await_eq, source_input, source_input, outstandingCount_reshape]
    exact awaitWithin_reshape answers others _ (fun _ => Commutes.pure true) _ s
  count s := by
    rw [unreadCount, unreadCount, outstandingCount_reshape]
    rfl

end Input

end Reshape

end ColumnWire.Stream
