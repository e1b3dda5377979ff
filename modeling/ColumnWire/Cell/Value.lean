import ColumnWire.Cell.IntegerType
import ColumnWire.Number.Binary
import ColumnWire.Number.Shortest
import ColumnWire.Time.Calendar
import ColumnWire.Text.Quoted

/-!
# Values

What a cell can hold. `Value.display` writes a value for people and `Value.inspect` for developers, with
the kind of each part. `Value.same` compares as the numbers do: a NaN differs from itself.
-/

namespace ColumnWire.Cell

open ColumnWire.Number ColumnWire.Time ColumnWire.Text

/-- The value of a cell. -/
inductive Value where
  /-- No value. -/
  | null
  /-- An integer. -/
  | integer (n : SizedInt)
  /-- A single-precision number. -/
  | float32 (x : Binary32)
  /-- A double-precision number. -/
  | float64 (x : Binary64)
  /-- A text. -/
  | text (s : String)
  /-- A day. -/
  | date (d : Date)
  /-- A moment. -/
  | dateTime (t : Moment)
  /-- A sequence. -/
  | array (items : List Value)
  /-- A tuple. -/
  | tuple (items : List Value)
  /-- Pairs of a key and a value, in order. -/
  | map (entries : List (Value × Value))

namespace Value

/-- Whether there is no value. -/
def isNull : Value → Bool
  | .null => true
  | _ => false

/-- The name of the kind of a value. -/
def kindName : Value → String
  | .null => "Null"
  | .integer n => n.type.name
  | .float32 _ => "Float32"
  | .float64 _ => "Float64"
  | .text _ => "String"
  | .date _ => "Date"
  | .dateTime _ => "DateTime"
  | .array _ => "Array"
  | .tuple _ => "Tuple"
  | .map _ => "Map"

/-- The value of an integer. -/
def asInt? : Value → Option Int
  | .integer n => some n.val
  | _ => none

/-- The value of an integer of a type, if the type has it. -/
def asSized? (k : IntegerType) (v : Value) : Option SizedInt :=
  v.asInt?.bind (SizedInt.of? k)

/-- The value of a number with a fraction, in double precision. -/
def asBinary64? : Value → Option Binary64
  | .float64 x => some x
  | .float32 x => some x.toBinary64
  | _ => none

/-- The text of a text. -/
def asText? : Value → Option String
  | .text s => some s
  | _ => none

/-- The day of a day. -/
def asDate? : Value → Option Date
  | .date d => some d
  | _ => none

/-- The moment of a moment. -/
def asMoment? : Value → Option Moment
  | .dateTime t => some t
  | _ => none

/-- The elements of a sequence or a tuple. -/
def asItems? : Value → Option (List Value)
  | .array items => some items
  | .tuple items => some items
  | _ => none

/-- The pairs of a map. -/
def asEntries? : Value → Option (List (Value × Value))
  | .map entries => some entries
  | _ => none

mutual

/-- Whether two values are equal, numbers compared as numbers. -/
def same : Value → Value → Bool
  | .null, .null => true
  | .integer m, .integer n => m == n
  | .float32 x, .float32 y => x.numEq y
  | .float64 x, .float64 y => x.numEq y
  | .text s, .text t => s == t
  | .date d, .date e => d == e
  | .dateTime t, .dateTime u => t == u
  | .array xs, .array ys => sameItems xs ys
  | .tuple xs, .tuple ys => sameItems xs ys
  | .map xs, .map ys => sameEntries xs ys
  | _, _ => false

/-- Whether two lists of values are equal. -/
def sameItems : List Value → List Value → Bool
  | [], [] => true
  | x :: xs, y :: ys => same x y && sameItems xs ys
  | _, _ => false

/-- Whether two lists of pairs are equal. -/
def sameEntries : List (Value × Value) → List (Value × Value) → Bool
  | [], [] => true
  | (k, v) :: xs, (l, w) :: ys => same k l && same v w && sameEntries xs ys
  | _, _ => false

end

mutual

/-- The text of a value: brackets, parentheses or braces around the parts. -/
def display : Value → String
  | .null => "NULL"
  | .integer n => toString n.val
  | .float32 x => x.text
  | .float64 x => x.text
  | .text s => quoted s
  | .date d => d.text
  | .dateTime t => t.text
  | .array items => "[" ++ String.intercalate ", " (itemTexts items) ++ "]"
  | .tuple items => "(" ++ String.intercalate ", " (itemTexts items) ++ ")"
  | .map entries => "\x7b" ++ String.intercalate ", " (entryTexts entries) ++ "\x7d"

/-- The texts of values. -/
def itemTexts : List Value → List String
  | [] => []
  | v :: vs => display v :: itemTexts vs

/-- The texts of pairs. -/
def entryTexts : List (Value × Value) → List String
  | [] => []
  | (k, v) :: rest => (display k ++ ": " ++ display v) :: entryTexts rest

end

mutual

/-- The developers' text of a value: the kind of each part and its contents in parentheses. -/
def inspect : Value → String
  | .null => "Null"
  | .integer n => n.type.name ++ "(" ++ toString n.val ++ ")"
  | .float32 x => "Float32(" ++ x.inspect ++ ")"
  | .float64 x => "Float64(" ++ x.inspect ++ ")"
  | .text s => "String(" ++ quoted s ++ ")"
  | .date d => "Date(" ++ d.text ++ ")"
  | .dateTime t => "DateTime(" ++ t.stamp "Z" ++ ")"
  | .array items => "Array([" ++ String.intercalate ", " (itemInspects items) ++ "])"
  | .tuple items => "Tuple([" ++ String.intercalate ", " (itemInspects items) ++ "])"
  | .map entries => "Map([" ++ String.intercalate ", " (entryInspects entries) ++ "])"

/-- The developers' texts of values. -/
def itemInspects : List Value → List String
  | [] => []
  | v :: vs => inspect v :: itemInspects vs

/-- The developers' texts of pairs. -/
def entryInspects : List (Value × Value) → List String
  | [] => []
  | (k, v) :: rest => ("(" ++ inspect k ++ ", " ++ inspect v ++ ")") :: entryInspects rest

end

end Value

end ColumnWire.Cell
