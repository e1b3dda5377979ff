import ColumnWire.Cell.ColumnType
import ColumnWire.Cell.Error
import ColumnWire.Text.Blank

/-!
# Descriptors

Reading a type from its descriptor. `splitArguments` cuts a list of arguments at the commas outside
parentheses, and `ColumnType.parse` reads a type: blanks around names, commas and parentheses do not
count. At most `maxNesting` composite types stand within each other.
-/

namespace ColumnWire.Cell

open ColumnWire.Text

/-- The number of open parentheses after a character; none if it closes one that was not opened. -/
def nest (depth : Nat) (c : Char) : Option Nat :=
  if c = '(' then some (depth + 1)
  else if c = ')' then (if depth = 0 then none else some (depth - 1))
  else some depth

/-- Puts a character before the first of some segments. -/
def consFirst (c : Char) : List (List Char) → List (List Char)
  | [] => [[c]]
  | s :: rest => (c :: s) :: rest

/-- Cuts a text at the commas outside parentheses, of which `depth` are open; none if they do not
balance. -/
def segments : (depth : Nat) → List Char → Option (List (List Char))
  | depth, [] => if depth = 0 then some [[]] else none
  | depth, c :: rest =>
    if c = ',' ∧ depth = 0 then (segments 0 rest).map ([] :: ·)
    else
      match nest depth c with
      | none => none
      | some d => (segments d rest).map (consFirst c)

/-- The arguments of a list, without the blanks around them. -/
def splitArguments (args : List Char) : Except TypeError (List (List Char)) :=
  match segments 0 args with
  | some parts => .ok (parts.map trim)
  | none => .error (.malformedDescriptor (String.ofList args))

/-- The arguments of a list of two. -/
def splitMapArguments (args : List Char) : Except TypeError (List Char × List Char) := do
  let parts ← splitArguments args
  match parts with
  | [key, value] => pure (key, value)
  | _ => throw (.mapArguments parts.length)

/-- What stands before and after the parenthesis that closes the last of `depth` open ones. -/
def untilClosed : (depth : Nat) → List Char → Option (List Char × List Char)
  | _, [] => none
  | depth, c :: rest =>
    match nest depth c with
    | none => none
    | some 0 => some ([], rest)
    | some d => (untilClosed d rest).map fun p => (c :: p.1, p.2)

namespace ColumnType

/-- The scalar types. -/
def scalars : List ColumnType :=
  [.text, .integer .uint8, .integer .uint16, .integer .uint32, .integer .uint64, .integer .int8,
    .integer .int16, .integer .int32, .integer .int64, .float32, .float64, .date, .dateTime]

/-- The scalar type of a name. -/
def scalar? (name : List Char) : Option ColumnType :=
  scalars.find? fun t => t.chars == name

/-- The ways to make a type from other types. -/
inductive Composite where
  /-- Sequences. -/
  | array
  /-- Values or none. -/
  | nullable
  /-- Values in a dictionary. -/
  | lowCardinality
  /-- One value of each type. -/
  | tuple
  /-- Pairs of a key and a value. -/
  | map
  deriving DecidableEq, Repr

/-- The composite of a name. -/
def composite? (name : List Char) : Option Composite :=
  if name = "Array".toList then some .array
  else if name = "Nullable".toList then some .nullable
  else if name = "LowCardinality".toList then some .lowCardinality
  else if name = "Tuple".toList then some .tuple
  else if name = "Map".toList then some .map
  else none

/-- Reads the arguments of a composite with a reader for each of them. -/
def Composite.read (read : List Char → Except TypeError ColumnType) (inside : List Char) :
    Composite → Except TypeError ColumnType
  | .array => do
    let t ← read inside
    pure (.array t)
  | .nullable => do
    let t ← read inside
    pure (.nullable t)
  | .lowCardinality => do
    let t ← read inside
    pure (.lowCardinality t)
  | .tuple => do
    let parts ← splitArguments inside
    let ts ← parts.mapM read
    pure (.tuple ts)
  | .map => do
    let (k, v) ← splitMapArguments inside
    let key ← read k
    let value ← read v
    pure (.map key value)

/-- Reads a descriptor in which at most `depth` composites stand within each other. -/
def parseWithin : (depth : Nat) → List Char → Except TypeError ColumnType
  | depth, s =>
    let d := trim s
    match scalar? d with
    | some t => .ok t
    | none =>
      match d.dropWhile (· != '(') with
      | [] => .error (.unknownType (String.ofList d))
      | _ :: after =>
        match composite? (trim (d.takeWhile (· != '('))) with
        | none => .error (.unknownType (String.ofList d))
        | some composite =>
          match depth with
          | 0 => .error .nestedTooDeeply
          | depth + 1 =>
            match untilClosed 1 after with
            | some (inside, []) => composite.read (parseWithin depth) inside
            | _ => .error (.malformedDescriptor (String.ofList d))

/-- Reads a type from its descriptor. -/
def parse (descriptor : String) : Except TypeError ColumnType :=
  parseWithin maxNesting descriptor.toList

end ColumnType

end ColumnWire.Cell
