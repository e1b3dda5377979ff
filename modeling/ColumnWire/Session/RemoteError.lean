import ColumnWire.Packet.Server

/-!
# Remote errors

An exception of the server as a client reports it. `RemoteError.chain` goes from an error to what caused
it, one at a time.
-/

namespace ColumnWire.Session

open ColumnWire.Packet

/-- An exception of the server, with the exception that caused it. -/
structure RemoteError extends Fault where
  /-- What caused it. -/
  nested : Option RemoteError := none
  deriving Repr

namespace RemoteError

/-- Whether two errors say the same, level for level. -/
def decEq : (a b : RemoteError) → Decidable (a = b)
  | ⟨f, none⟩, ⟨g, none⟩ => decidable_of_iff (f = g) (by simp)
  | ⟨f, some c⟩, ⟨g, some d⟩ =>
    have := decEq c d
    decidable_of_iff (f = g ∧ c = d) (by simp)
  | ⟨_, none⟩, ⟨_, some _⟩ => isFalse (by simp)
  | ⟨_, some _⟩, ⟨_, none⟩ => isFalse (by simp)

instance : DecidableEq RemoteError := decEq

/-- An error without a stack trace and a cause. -/
def new (code : UInt64) (name message : String) : RemoteError :=
  { code, name, message, stackTrace := "" }

/-- What stands for an exception that the end of the stream cut short. -/
def unknown : RemoteError :=
  new 0 "UnknownException" "Failed to read exception from server"

/-- The error with another one as its cause. -/
def withNested (e cause : RemoteError) : RemoteError :=
  { e with nested := some cause }

/-- The error that a packet reports. -/
def ofException : ServerException → RemoteError
  | ⟨f, none⟩ => ⟨f, none⟩
  | ⟨f, some cause⟩ => ⟨f, some (ofException cause)⟩

/-- The words for an error. -/
def describe (e : RemoteError) : String :=
  "Code: " ++ toString e.code ++ ". " ++ e.name ++ ": " ++ e.message

/-- The cause of an error. -/
def source (e : RemoteError) : Option RemoteError :=
  e.nested

/-- A way through an error and its causes. -/
structure Chain where
  /-- The error that comes next. -/
  next : Option RemoteError

namespace Chain

/-- The next error, and the way behind it. -/
def step (c : Chain) : Option (RemoteError × Chain) :=
  match c.next with
  | none => none
  | some e => some (e, ⟨e.nested⟩)

/-- What is left of the way after a step is smaller. -/
theorem sizeOf_lt_of_step {c rest : Chain} {e : RemoteError} (h : c.step = some (e, rest)) :
    sizeOf rest < sizeOf c := by
  obtain ⟨_ | ⟨f, nested⟩⟩ := c
  · cases h
  · cases h
    simp only [mk.sizeOf_spec, Option.some.sizeOf_spec, RemoteError.mk.sizeOf_spec]
    omega

/-- Every error of the way. -/
def toList (c : Chain) : List RemoteError :=
  match _ : c.step with
  | none => []
  | some (e, rest) => e :: rest.toList
termination_by sizeOf c
decreasing_by exact sizeOf_lt_of_step ‹_›

end Chain

/-- The way from an error to its innermost cause. -/
def chain (e : RemoteError) : Chain :=
  ⟨some e⟩

/-- The number of errors of the chain. -/
def depth (e : RemoteError) : Nat :=
  e.chain.toList.length

/-- The innermost cause, or the error itself. -/
def rootCause (e : RemoteError) : RemoteError :=
  e.chain.toList.getLast?.getD e

end RemoteError

end ColumnWire.Session
