import Mathlib.Tactic.Common
import ColumnWire.Proofs.Stream.Tape

/-!
# The end of a stream

Whether a stream has ended depends on the unread bytes and on what comes behind them
(`Input.atEnd_of_ahead`, `Input.atEnd_of_closed`, `Input.atEnd_of_trouble`), and asking takes no byte.
A frame that cannot be read takes no byte either (`Input.settled_of_readFrame_error`). Both leave
everything of the transport but the bytes that wait (`Input.atEnd_preserves_drained`,
`Input.readFrame_preserves_drained`).
-/

namespace ColumnWire.Stream

open ColumnWire.Wire

/-- A stream that has not ended is not in trouble because it ended. -/
lemma Transport.isEnd_of_stop {t : Transport} {e : StreamError} (h : t.stop = some e) :
    e.isEnd = false := by
  unfold stop at h
  split at h
  · cases h
    rfl
  · split at h
    · cases h
    · rename_i trouble _
      cases h
      cases trouble <;> rfl

/-- What comes behind the last byte does not change when the transport is read. -/
lemma Transport.stop_of_drained {t t' : Transport} (h : t'.drained = t.drained) :
    t'.stop = t.stop := by
  rw [← drained_stop t', h, drained_stop]

namespace Input

variable {s t : Input}

/-- Inputs that settle alike have the same to read. -/
lemma unread_of_settled (h : t.settled = s.settled) : t.unread = s.unread :=
  congrArg Input.buffer h

/-- Inputs that settle alike have the same behind it. -/
lemma drained_of_settled (h : t.settled = s.settled) :
    t.transport.drained = s.transport.drained :=
  congrArg Input.transport h

/-- A byte in sight stays in sight. -/
lemma lookAny_steady : Steady lookAny where
  found {p v r} h q := by
    cases p with
    | nil => cases h
    | cons b rest =>
        cases h
        rfl
  refused {p e} h := by
    cases p <;> cases h

/-- Asking for the end is answered from all unread bytes. -/
lemma atEnd_settled (s : Input) :
    mapState settled (atEnd s) = settledAwait lookAny (fun _ => pure true) s.settled :=
  await_settled lookAny_steady (fun _ => Commutes.pure true) s

/-- With a byte ahead the stream has not ended. -/
lemma atEnd_of_ahead (h : s.unread ≠ []) : ∃ t, atEnd s = .ok false t ∧ t.settled = s.settled := by
  have hs := atEnd_settled s
  have hlook : lookAny s.settled.buffer = .found false s.settled.buffer := by
    simp [lookAny, settled, h]
  rw [settledAwait] at hs
  simp only [hlook] at hs
  exact mapState_eq_ok.1 hs

/-- Without a byte ahead the stream has ended when the peer closes. -/
lemma atEnd_of_closed (h : s.unread = []) (hstop : s.transport.stop = none) :
    ∃ t, atEnd s = .ok true t ∧ t.settled = s.settled := by
  have hs := atEnd_settled s
  have hlook : lookAny s.settled.buffer = .short 1 := by simp [lookAny, settled, h]
  have hstop' : s.settled.transport.stop = none := (Transport.drained_stop _).trans hstop
  rw [settledAwait] at hs
  simp only [hlook, hstop'] at hs
  exact mapState_eq_ok.1 hs

/-- Without a byte ahead asking for the end meets what the peer does instead. -/
lemma atEnd_of_trouble {e : StreamError} (h : s.unread = []) (hstop : s.transport.stop = some e) :
    ∃ t, atEnd s = .error e t ∧ t.settled = s.settled := by
  have hs := atEnd_settled s
  have hlook : lookAny s.settled.buffer = .short 1 := by simp [lookAny, settled, h]
  have hstop' : s.settled.transport.stop = some e := (Transport.drained_stop _).trans hstop
  rw [settledAwait] at hs
  simp only [hlook, hstop'] at hs
  exact mapState_eq_error.1 hs

/-- A frame that cannot be read takes no byte. -/
lemma settled_of_readFrame_error {α : Type} {d : Decoder α} (hd : d.PrefixStable) {e : StreamError}
    (h : readFrame d s = .error e t) : t.settled = s.settled := by
  have hs : mapState settled (await (lookFrame d) endsEarly s) =
      settledAwait (lookFrame d) endsEarly s.settled :=
    await_settled (lookFrame_steady hd) (fun _ => Commutes.throw _) s
  rw [show await (lookFrame d) endsEarly s = .error e t from h, settledAwait] at hs
  cases hlook : lookFrame d s.settled.buffer with
  | found v rest => simp [hlook] at hs
  | refused e' =>
      simp only [hlook, mapState_error] at hs
      exact (EStateM.Result.error.inj hs).2
  | short k =>
      simp only [hlook, mapState_error] at hs
      cases hstop : s.settled.transport.stop with
      | none =>
          simp only [hstop] at hs
          exact (EStateM.Result.error.inj hs).2
      | some e' =>
          simp only [hstop] at hs
          exact (EStateM.Result.error.inj hs).2

/-! ## What reading leaves -/

/-- Asking for the end does not depend on where the bytes are. -/
lemma atEnd_commutes : Commutes settled atEnd :=
  await_commutes lookAny_steady fun _ => Commutes.pure true

variable {drained : Transport}

/-- Looking and waiting leaves the drained transport alone. -/
lemma await_preserves_drained {α : Type} {look : Bytes → Sight α} {ended : Nat → Reader α}
    (hlook : Steady look) (hended : ∀ k, Commutes settled (ended k))
    (hsame : ∀ k s, finalState (ended k s) = s) :
    Preserves (fun s : Input => s.transport.drained = drained) (await look ended) := by
  rintro s rfl
  have hs := congrArg (fun r => (finalState r).transport) (await_settled hlook hended s)
  simp only [finalState_mapState] at hs
  refine hs.trans ?_
  rw [settledAwait]
  cases look s.settled.buffer with
  | found v rest => rfl
  | refused e => rfl
  | short missing =>
      cases hstop : s.settled.transport.stop with
      | some e => rfl
      | none => exact congrArg Input.transport (hsame missing s.settled)

/-- Asking for the end leaves the drained transport alone. -/
lemma atEnd_preserves_drained :
    Preserves (fun s : Input => s.transport.drained = drained) atEnd :=
  await_preserves_drained lookAny_steady (fun _ => Commutes.pure true) fun _ _ => rfl

/-- Reading a frame leaves the drained transport alone. -/
lemma readFrame_preserves_drained {α : Type} {d : Decoder α} (hd : d.PrefixStable) :
    Preserves (fun s : Input => s.transport.drained = drained) (readFrame d) :=
  await_preserves_drained (lookFrame_steady hd) (fun _ => Commutes.throw _) fun _ _ => rfl

end Input

end ColumnWire.Stream
