import ColumnWire.Wire.Decoder

/-!
# Varints

Unsigned numbers below `2 ^ 64` in groups of seven bits, lowest group first, with the high bit set on
every byte except the last. There are two readers. `peek` looks at the front of a buffer and takes
nothing; `decoder` takes byte after byte. Longer spellings of a number are read as well, as long as
ten bytes hold them.
-/

namespace ColumnWire.Wire.Varint

/-- The greatest number of bytes of a varint. -/
def maxLength : Nat := 10

/-- The shortest groups that spell a number, at most `more` of them before the last. -/
def groups : (more n : Nat) → Bytes
  | 0, n => [UInt8.ofNat n]
  | more + 1, n =>
    if n < 128 then [UInt8.ofNat n] else UInt8.ofNat (n % 128 + 128) :: groups more (n / 128)

/-- The bytes of a number. -/
def encode (v : UInt64) : Bytes :=
  groups (maxLength - 1) v.toNat

/-- The number of bytes of a number: one for each seven bits that have begun. -/
def length (v : UInt64) : Nat :=
  ((max v.toNat 1).log2 + 7) / 7

/-- What the front of a buffer says. -/
inductive Peek where
  /-- A number that takes so many bytes. -/
  | found (value : UInt64) (length : Nat)
  /-- The buffer ends before the last byte of the number. -/
  | short
  /-- The number has too many bytes or bits. -/
  | overflow
  deriving DecidableEq, Repr

/-- Looks at a varint of which `index` bytes with the value `acc` have been seen. -/
def peekFrom (index acc : Nat) : Bytes → Peek
  | [] => if index < maxLength then .short else .overflow
  | b :: rest =>
    let group := b.toNat % 128
    if maxLength ≤ index then .overflow
    else if index = maxLength - 1 ∧ 1 < group then .overflow
    else
      let sum := acc + group * Nat.pow 128 index
      if b < 128 then .found (UInt64.ofNat sum) (index + 1) else peekFrom (index + 1) sum rest

/-- Looks at the varint at the front of a buffer. -/
def peek (bytes : Bytes) : Peek :=
  peekFrom 0 0 bytes

/-- Takes at most `left` more groups; the next one counts `weight` times. -/
def takeGroups : (left weight acc : Nat) → Decoder UInt64
  | 0, _, _ => throw .varintOverflow
  | left + 1, weight, acc => do
    let b ← Decoder.byte
    let group := b.toNat % 128
    if left = 0 ∧ 1 < group then throw .varintOverflow
    if b < 128 then pure (UInt64.ofNat (acc + group * weight))
    else takeGroups left (weight * 128) (acc + group * weight)

/-- Takes a number. -/
def decoder : Decoder UInt64 :=
  takeGroups maxLength 1 0

/-- Takes a number that stands for a truth value: any but zero is true. -/
def flag : Decoder Bool := do
  let v ← decoder
  pure (v != 0)

/-- The bytes of a truth value. -/
def encodeFlag (b : Bool) : Bytes :=
  encode (if b then 1 else 0)

end ColumnWire.Wire.Varint
