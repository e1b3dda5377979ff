import Mathlib.Tactic.Common
import ColumnWire.Proofs.Cell.Reading
import ColumnWire.Proofs.Session.Response

/-!
# What receiving a response is made of

Receiving takes few kinds of steps: it reads fields and frames, looks types up, reads cells and refuses
rows of a wrong width. A property that holds of these and is kept by sequencing (`OfSteps`) holds of
receiving a block and of receiving what stands behind any code. If it holds also of asking for the end
and of reading an exception, it holds of the whole loop (`OfSteps.receivePackets`).

So it is shown that receiving leaves the drained transport alone (`receiveResult_preserves_drained`),
that an exception of the server is never an error of it (`receiveResult_raises`), and that it does not
notice what reads do not notice (`receiveResult_commutes`).
-/

namespace ColumnWire.Session

open ColumnWire.Wire ColumnWire.Packet ColumnWire.Cell ColumnWire.Stream

/-- Rows that make no block have a wrong width. -/
lemma Block.ofRows_eq_error {columns : List Column} {info : BlockInfo} {rows : List (List Value)}
    {e : ClientError} (h : Block.ofRows columns info rows = .error e) :
    ∃ expected found, e = .rowWidth expected found := by
  unfold ofRows at h
  split at h
  · cases h
  · cases h
    exact ⟨_, _, rfl⟩

/-- A property of the steps of receiving that is kept by sequencing. -/
structure OfSteps (Q : (α : Type) → Receive α → Prop) : Prop extends Composes Q where
  /-- It holds of reading a field or a frame. -/
  read : ∀ {α : Type} (op : ReadOp α), Q α (reading op.reader)
  /-- It holds of looking a type up. -/
  resolve : ∀ c, Q (Column × ColumnType) (resolve c)
  /-- It holds of reading a cell. -/
  cell : ∀ c t, Q Value (readingCell c t)
  /-- It holds of refusing a row. -/
  width : ∀ columns values, Q Block (throw (.rowWidth columns values))

namespace OfSteps

variable {Q : (α : Type) → Receive α → Prop}

/-- What holds of the steps holds of receiving a block. -/
lemma receiveBlock (h : OfSteps Q) : Q Block receiveBlock := by
  refine h.bind (h.read .text) fun _ => h.bind (h.read (.frame .blockHeader)) fun header => ?_
  refine h.bind (h.toComposes.forEach h.resolve header.columns) fun columns => ?_
  have hrow : Q (List Value) (receiveRow columns) := by
    unfold receiveRow
    exact h.toComposes.forEach (fun p => h.cell p.1 p.2) columns
  refine h.bind (h.toComposes.repeated hrow header.rows.toNat) fun rows => ?_
  cases hrows : Block.ofRows header.columns header.info rows with
  | ok b => exact h.pure b
  | error e =>
      obtain ⟨columns, values, rfl⟩ := Block.ofRows_eq_error hrows
      exact h.width columns values

/-- What holds of the steps holds of receiving what stands behind a code. -/
lemma receiveBody (h : OfSteps Q) (code : UInt64) : Q Part (receiveBody code) := by
  unfold Session.receiveBody
  split
  · exact h.bind h.receiveBlock fun _ => h.pure _
  · exact h.bind h.receiveBlock fun _ => h.pure _
  · exact h.bind h.receiveBlock fun _ => h.pure _
  · exact h.bind (h.read (.frame .progress)) fun _ => h.pure _
  · exact h.bind (h.read (.frame .profileInfo)) fun _ => h.pure _
  · exact h.pure _

/-- What holds of the steps, of asking for the end and of reading an exception holds of the loop. -/
lemma receivePackets (h : OfSteps Q) (hend : Q Bool (reading Input.atEnd))
    (hexception : Q RemoteError (reading readException)) (fuel : Nat) (r : QueryResult) :
    Q QueryResult (receivePackets fuel r) := by
  induction fuel generalizing r with
  | zero => exact h.bind hend fun _ => h.pure r
  | succ fuel ih =>
      rw [receivePackets_succ]
      refine h.bind hend fun ended => ?_
      cases ended with
      | true => exact h.pure r
      | false =>
          refine h.bind (h.read .varint) fun n => ?_
          unfold onCode
          split
          · exact h.bind h.receiveBlock fun _ => ih _
          · exact h.bind h.receiveBlock fun _ => ih _
          · exact h.bind h.receiveBlock fun _ => ih _
          · exact h.bind (h.read (.frame .progress)) fun _ => ih _
          · exact h.bind (h.read (.frame .profileInfo)) fun _ => ih _
          · exact h.bind hexception fun _ => h.pure _
          · exact h.pure r
          · exact ih r

end OfSteps

/-! ## What the steps leave -/

/-- Reading changes the input alone. -/
@[simp] lemma finalState_reading {α : Type} (r : Reader α) (s : Receiver) :
    finalState (reading r s) = { s with input := finalState (r s.input) } := by
  unfold reading
  cases r s.input <;> rfl

/-- So does reading a cell. -/
@[simp] lemma finalState_readingCell (c : Column) (t : ColumnType) (s : Receiver) :
    finalState (readingCell c t s) = { s with input := finalState (t.read s.input) } := by
  unfold readingCell
  cases t.read s.input <;> rfl

/-- Looking a type up changes the types alone. -/
@[simp] lemma finalState_resolve (c : Column) (s : Receiver) :
    finalState (resolve c s) = { s with types := (s.types.get c.typeName).2 } := by
  unfold resolve
  cases s.types.get c.typeName with
  | mk found types => cases found <;> rfl

/-- Reading an exception leaves what reading its frame leaves. -/
@[simp] lemma finalState_readException (s : Input) :
    finalState (readException s) = finalState (Input.readFrame ServerException.decoder s) := by
  unfold readException
  cases Input.readFrame ServerException.decoder s with
  | ok e t => rfl
  | error e t =>
      dsimp only
      split <;> rfl

/-- Receiving a response leaves the drained transport alone. -/
lemma receiveResult_preserves_drained {drained : Transport} :
    Preserves (fun s : Receiver => s.input.transport.drained = drained) receiveResult := by
  have hsteps : OfSteps fun (α : Type) (m : Receive α) =>
      Preserves (fun s : Receiver => s.input.transport.drained = drained) m :=
    { toComposes := Preserves.composes
      read := fun op s hs => by
        rw [finalState_reading]
        exact op.preserves_drained s.input hs
      resolve := fun c s hs => by
        rw [finalState_resolve]
        exact hs
      cell := fun c t s hs => by
        rw [finalState_readingCell]
        exact t.read_preserves_drained s.input hs
      width := fun _ _ => Preserves.throw _ }
  intro s hs
  refine hsteps.receivePackets (fun s hs => ?_) (fun s hs => ?_) s.input.unreadCount {} s hs
  · rw [finalState_reading]
    exact Input.atEnd_preserves_drained s.input hs
  · rw [finalState_reading, finalState_readException]
    exact Input.readFrame_preserves_drained ServerException.decoder_prefixStable s.input hs

/-! ## Errors -/

/-- An error of reading is one of the stream. -/
lemma reading_raises {α : Type} (r : Reader α) :
    Raises (fun e => e.isRemote = false) (reading r) := by
  intro s e t h
  unfold reading at h
  split at h <;> cases h
  rfl

/-- An exception of the server is part of what is received and not an error. -/
lemma receiveResult_raises : Raises (fun e => e.isRemote = false) receiveResult := by
  have hsteps : OfSteps fun (α : Type) (m : Receive α) => Raises (fun e => e.isRemote = false) m :=
    { toComposes := Raises.composes
      read := fun op => reading_raises op.reader
      resolve := fun c s e t h => by
        unfold resolve at h
        split at h <;> cases h
        rfl
      cell := fun c t s e u h => by
        unfold readingCell at h
        split at h <;> cases h
        rfl
      width := fun _ _ => Raises.throw rfl }
  intro s e t h
  exact hsteps.receivePackets (reading_raises _) (reading_raises _) s.input.unreadCount {} s e t h

/-! ## What receiving does not notice -/

/-- The receiver with its input mapped. -/
def Receiver.mapInput (f : Input → Input) (s : Receiver) : Receiver :=
  { s with input := f s.input }

variable {f : Input → Input}

/-- What a read does not notice, it does not while receiving. -/
lemma reading_commutes {α : Type} {r : Reader α} (h : Commutes f r) :
    Commutes (Receiver.mapInput f) (reading r) := by
  intro s
  have hr := h s.input
  unfold reading
  cases hs : r s.input with
  | ok a i => simp [Receiver.mapInput, hr, hs]
  | error e i => simp [Receiver.mapInput, hr, hs]

/-- Reading an exception does not notice it. -/
lemma readException_commutes (h : Input.Unnoticed f) : Commutes f readException := by
  intro s
  have hframe := h.frame ServerException.decoder_prefixStable s
  unfold readException
  cases hs : Input.readFrame ServerException.decoder s with
  | ok e t => simp [hframe, hs]
  | error e t =>
      simp only [hframe, hs, mapState_error]
      split <;> rfl

/-- Receiving a response does not notice it. -/
lemma receiveResult_commutes (h : Input.Unnoticed f) :
    Commutes (Receiver.mapInput f) receiveResult := by
  have hsteps : OfSteps fun (α : Type) (m : Receive α) => Commutes (Receiver.mapInput f) m :=
    { toComposes := Commutes.composes
      read := fun op => reading_commutes (h.read op)
      resolve := fun c s => by
        unfold resolve
        rw [show (s.mapInput f).types = s.types from rfl]
        split <;> rfl
      cell := fun c t s => by
        have hr := t.read_commutes h s.input
        unfold readingCell
        cases hs : t.read s.input with
        | ok v i => simp [Receiver.mapInput, hr, hs]
        | error e i => simp [Receiver.mapInput, hr, hs]
      width := fun _ _ => Commutes.throw _ }
  intro s
  rw [receiveResult, show (s.mapInput f).input = f s.input from rfl, h.count]
  exact hsteps.receivePackets (reading_commutes h.atEnd)
    (reading_commutes (readException_commutes h)) s.input.unreadCount {} s

end ColumnWire.Session
