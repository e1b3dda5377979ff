import ColumnWire.Cell.IntegerType

/-!
# Column types

The types that a column can have, as trees: scalars at the leaves, and arrays, nullables,
dictionaries, tuples and maps above them. `ColumnType.text` is the canonical descriptor.
-/

namespace ColumnWire.Cell

/-- The type of a column. -/
inductive ColumnType where
  /-- Text. -/
  | text
  /-- Integers of one of the eight types. -/
  | integer (type : IntegerType)
  /-- Single-precision numbers. -/
  | float32
  /-- Double-precision numbers. -/
  | float64
  /-- Days. -/
  | date
  /-- Seconds. -/
  | dateTime
  /-- Sequences of any length. -/
  | array (element : ColumnType)
  /-- Values or none. -/
  | nullable (inner : ColumnType)
  /-- Values that are looked up in a dictionary. -/
  | lowCardinality (inner : ColumnType)
  /-- One value of each type. -/
  | tuple (elements : List ColumnType)
  /-- Pairs of a key and a value. -/
  | map (key value : ColumnType)
  deriving Repr

namespace ColumnType

/-- The name of the type without its arguments. -/
def name : ColumnType → String
  | .text => "String"
  | .integer k => k.name
  | .float32 => "Float32"
  | .float64 => "Float64"
  | .date => "Date"
  | .dateTime => "DateTime"
  | .array _ => "Array"
  | .nullable _ => "Nullable"
  | .lowCardinality _ => "LowCardinality"
  | .tuple _ => "Tuple"
  | .map _ _ => "Map"

/-- Whether a value may be missing. -/
def isNullable : ColumnType → Bool
  | .nullable _ => true
  | .lowCardinality inner => inner.isNullable
  | _ => false

mutual

/-- The descriptor of a type: arguments in parentheses, separated by a comma and a space. -/
def chars : ColumnType → List Char
  | .array t => "Array(".toList ++ t.chars ++ [')']
  | .nullable t => "Nullable(".toList ++ t.chars ++ [')']
  | .lowCardinality t => "LowCardinality(".toList ++ t.chars ++ [')']
  | .tuple ts => "Tuple(".toList ++ listChars ts ++ [')']
  | .map k v => "Map(".toList ++ k.chars ++ [',', ' '] ++ v.chars ++ [')']
  | .integer k => k.name.toList
  | .text => "String".toList
  | .float32 => "Float32".toList
  | .float64 => "Float64".toList
  | .date => "Date".toList
  | .dateTime => "DateTime".toList

/-- The descriptors of types, separated by a comma and a space. -/
def listChars : List ColumnType → List Char
  | [] => []
  | t :: ts => t.chars ++ moreChars ts

/-- The descriptors of further types, each behind a comma and a space. -/
def moreChars : List ColumnType → List Char
  | [] => []
  | t :: ts => [',', ' '] ++ t.chars ++ moreChars ts

end

/-- The descriptor of a type. -/
def descriptor (t : ColumnType) : String :=
  String.ofList t.chars

mutual

/-- Whether two types are the same. -/
def beq : ColumnType → ColumnType → Bool
  | .text, .text => true
  | .integer k, .integer l => k == l
  | .float32, .float32 => true
  | .float64, .float64 => true
  | .date, .date => true
  | .dateTime, .dateTime => true
  | .array t, .array u => beq t u
  | .nullable t, .nullable u => beq t u
  | .lowCardinality t, .lowCardinality u => beq t u
  | .tuple ts, .tuple us => listBeq ts us
  | .map k v, .map l w => beq k l && beq v w
  | _, _ => false

/-- Whether two lists of types are the same. -/
def listBeq : List ColumnType → List ColumnType → Bool
  | [], [] => true
  | t :: ts, u :: us => beq t u && listBeq ts us
  | _, _ => false

end

instance : BEq ColumnType := ⟨beq⟩

end ColumnType

end ColumnWire.Cell
