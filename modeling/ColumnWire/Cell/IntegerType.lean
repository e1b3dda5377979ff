/-!
# Integer types

The eight integer types by width and sign, and integers that carry the bounds of their type.
-/

namespace ColumnWire.Cell

/-- An integer type. -/
inductive IntegerType where
  /-- Unsigned, 8 bits. -/
  | uint8
  /-- Unsigned, 16 bits. -/
  | uint16
  /-- Unsigned, 32 bits. -/
  | uint32
  /-- Unsigned, 64 bits. -/
  | uint64
  /-- Signed, 8 bits. -/
  | int8
  /-- Signed, 16 bits. -/
  | int16
  /-- Signed, 32 bits. -/
  | int32
  /-- Signed, 64 bits. -/
  | int64
  deriving DecidableEq, Repr

namespace IntegerType

/-- The eight types. -/
def all : List IntegerType :=
  [.uint8, .uint16, .uint32, .uint64, .int8, .int16, .int32, .int64]

theorem mem_all (k : IntegerType) : k ∈ all := by
  cases k <;> simp [all]

/-- The width in bits. -/
def bits : IntegerType → Nat
  | .uint8 | .int8 => 8
  | .uint16 | .int16 => 16
  | .uint32 | .int32 => 32
  | .uint64 | .int64 => 64

/-- Whether the type has negative values. -/
def isSigned : IntegerType → Bool
  | .int8 | .int16 | .int32 | .int64 => true
  | _ => false

/-- The least value. -/
def lower (k : IntegerType) : Int :=
  if k.isSigned then -(Nat.pow 2 (k.bits - 1) : Nat) else 0

/-- The greatest value. -/
def upper (k : IntegerType) : Int :=
  if k.isSigned then (Nat.pow 2 (k.bits - 1) : Nat) - 1 else (Nat.pow 2 k.bits : Nat) - 1

/-- The name in a descriptor. -/
def name : IntegerType → String
  | .uint8 => "UInt8"
  | .uint16 => "UInt16"
  | .uint32 => "UInt32"
  | .uint64 => "UInt64"
  | .int8 => "Int8"
  | .int16 => "Int16"
  | .int32 => "Int32"
  | .int64 => "Int64"

/-- Whether the type has a value. -/
def Holds (k : IntegerType) (i : Int) : Prop :=
  k.lower ≤ i ∧ i ≤ k.upper

instance (k : IntegerType) (i : Int) : Decidable (k.Holds i) :=
  inferInstanceAs (Decidable (k.lower ≤ i ∧ i ≤ k.upper))

end IntegerType

/-- An integer of one of the types. -/
structure SizedInt where
  /-- The type. -/
  type : IntegerType
  /-- The value. -/
  val : Int
  /-- The type has the value. -/
  inRange : type.Holds val
  deriving DecidableEq

namespace SizedInt

/-- The integer as one of a type, if the type has it. -/
def of? (k : IntegerType) (i : Int) : Option SizedInt :=
  if h : k.Holds i then some ⟨k, i, h⟩ else none

theorem of?_eq_some_iff {k : IntegerType} {i : Int} {n : SizedInt} :
    of? k i = some n ↔ n.type = k ∧ n.val = i := by
  unfold of?
  constructor
  · intro h
    split at h
    · cases h; exact ⟨rfl, rfl⟩
    · cases h
  · rintro ⟨rfl, rfl⟩
    simp [n.inRange]

end SizedInt

end ColumnWire.Cell
