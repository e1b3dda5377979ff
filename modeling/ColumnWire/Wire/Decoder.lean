import ColumnWire.Text.Quoted

/-!
# Decoders over bytes

A `Decoder` takes its value from the front of some bytes: it answers with the value or a fault, and in
both cases with the bytes that it left. What a failed decoder had taken stays taken. Decoders are
composed with `do`, and `repeated` runs one a given number of times.
-/

namespace ColumnWire.Wire

open ColumnWire.Text

/-- Bytes in the order in which they travel. -/
abbrev Bytes := List UInt8

/-- A field that was read completely and holds what its packet does not allow. -/
inductive Defect where
  /-- No query kind has this number. -/
  | queryKind (number : UInt64)
  /-- No processing stage has this number. -/
  | queryStage (number : UInt64)
  /-- No compression state has this number. -/
  | compression (number : UInt64)
  /-- The empty name that ends the settings is missing; this one was found. -/
  | settingsEnd (found : String)
  /-- A block that has to be empty declares columns or rows. -/
  | occupiedBlock (columns rows : UInt64)
  /-- A block declares rows but no columns. -/
  | rowsWithoutColumns (rows : UInt64)
  /-- An exception has no link. -/
  | emptyException
  deriving DecidableEq, Repr

/-- Why bytes could not be decoded. -/
inductive WireError where
  /-- The bytes end too early: at least so many more are needed. -/
  | incomplete (needed : Nat)
  /-- A varint has more than ten bytes or more than 64 bits. -/
  | varintOverflow
  /-- A text is not UTF-8. -/
  | invalidUtf8
  /-- No client packet has this code. -/
  | unknownClientCode (code : UInt64)
  /-- No server packet has this code. -/
  | unknownServerCode (code : UInt64)
  /-- No field of the block information has this tag. -/
  | unknownBlockField (tag : UInt64)
  /-- A packet holds a field that it must not. -/
  | malformed (defect : Defect)
  deriving DecidableEq, Repr

/-- The words for a defect. -/
def Defect.message : Defect → String
  | .queryKind n => s!"invalid query kind: {n}"
  | .queryStage n => s!"invalid query stage: {n}"
  | .compression n => s!"invalid compression state: {n}"
  | .settingsEnd found => "expected end of settings, got " ++ quoted found
  | .occupiedBlock columns rows => s!"expected empty block, got {columns} columns and {rows} rows"
  | .rowsWithoutColumns rows => s!"block declares {rows} rows but no columns"
  | .emptyException => "empty exception"

/-- The words for an error. -/
def WireError.message : WireError → String
  | .incomplete needed => s!"incomplete data: needed at least {needed} more bytes"
  | .varintOverflow => "varint exceeds 64 bits"
  | .invalidUtf8 => "invalid UTF-8 in string field"
  | .unknownClientCode code => s!"unknown client packet code: {code}"
  | .unknownServerCode code => s!"unknown server packet code: {code}"
  | .unknownBlockField tag => s!"unknown block info field: {tag}"
  | .malformed defect => "malformed packet: " ++ defect.message

/-- Whether more bytes could resolve the error. -/
def WireError.isIncomplete : WireError → Bool
  | .incomplete _ => true
  | _ => false

/-- Takes a value from the front of some bytes. -/
abbrev Decoder := EStateM WireError Bytes

namespace Decoder

/-- Takes one byte. -/
def byte : Decoder UInt8
  | [] => .error (.incomplete 1) []
  | b :: rest => .ok b rest

/-- Takes exactly `n` bytes, or none if there are fewer. -/
def take (n : Nat) : Decoder Bytes := fun bytes =>
  let front := bytes.take n
  if front.length < n then .error (.incomplete (n - front.length)) bytes
  else .ok front (bytes.drop n)

end Decoder

/-- Runs a stateful action `n` times, one after the other, and collects its values; the first error
ends it. -/
def repeated {ε σ α : Type} (n : Nat) (action : EStateM ε σ α) : EStateM ε σ (List α) :=
  go n []
where
  /-- The runs that are left, after the values so far, last first. -/
  go : Nat → List α → EStateM ε σ (List α)
    | 0, acc, s => .ok acc.reverse s
    | k + 1, acc, s =>
      match action s with
      | .ok a s' => go k (a :: acc) s'
      | .error e s' => .error e s'

/-- Runs a stateful action on each member of a list and collects its values; the first error ends
it. -/
def forEach {ε σ α β : Type} (action : α → EStateM ε σ β) : List α → EStateM ε σ (List β)
  | [] => pure []
  | a :: rest => do
    let b ← action a
    let bs ← forEach action rest
    pure (b :: bs)

end ColumnWire.Wire
