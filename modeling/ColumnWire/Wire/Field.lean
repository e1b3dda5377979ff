import ColumnWire.Wire.Varint
import ColumnWire.Number.Binary

/-!
# Fields

The fields that packets are made of besides varints: byte strings and texts behind their length in
bytes, and floating-point numbers in four or eight bytes, the least significant first.
-/

namespace ColumnWire.Wire

open ColumnWire.Number

/-- The lowest `width` bytes of a number, the least significant first. -/
def littleEndian : (width n : Nat) → Bytes
  | 0, _ => []
  | width + 1, n => UInt8.ofNat (n % 256) :: littleEndian width (n / 256)

/-- The number that bytes spell, the least significant first. -/
def ofLittleEndian : Bytes → Nat
  | [] => 0
  | b :: rest => b.toNat + 256 * ofLittleEndian rest

/-- The UTF-8 bytes of a text. -/
def utf8 (s : String) : Bytes :=
  s.toByteArray.data.toList

/-- The text that bytes spell in UTF-8. -/
def ofUtf8? (bytes : Bytes) : Option String :=
  String.fromUTF8? ⟨⟨bytes⟩⟩

namespace BinaryField

/-- A byte string behind its length. -/
def encode (data : Bytes) : Bytes :=
  Varint.encode (UInt64.ofNat data.length) ++ data

/-- Takes a byte string. Its length stays taken when the bytes behind it are too few. -/
def decoder : Decoder Bytes := do
  let n ← Varint.decoder
  Decoder.take n.toNat

end BinaryField

namespace TextField

/-- A text behind the length of its UTF-8 bytes. -/
def encode (s : String) : Bytes :=
  BinaryField.encode (utf8 s)

/-- Takes a text. Its bytes stay taken when they are not UTF-8. -/
def decoder : Decoder String := do
  let raw ← BinaryField.decoder
  match ofUtf8? raw with
  | some s => pure s
  | none => throw .invalidUtf8

/-- Takes two texts. -/
def pair : Decoder (String × String) := do
  let a ← decoder
  let b ← decoder
  pure (a, b)

/-- Two texts, one behind the other. -/
def encodePair (p : String × String) : Bytes :=
  encode p.1 ++ encode p.2

end TextField

/-- The four bytes of a single-precision number. -/
def encodeBinary32 (x : Binary32) : Bytes :=
  littleEndian 4 x.bits.toNat

/-- The eight bytes of a double-precision number. -/
def encodeBinary64 (x : Binary64) : Bytes :=
  littleEndian 8 x.bits.toNat

/-- The single-precision number of four bytes. -/
def binary32OfBytes (bytes : Bytes) : Binary32 :=
  ⟨UInt32.ofNat (ofLittleEndian bytes)⟩

/-- The double-precision number of eight bytes. -/
def binary64OfBytes (bytes : Bytes) : Binary64 :=
  ⟨UInt64.ofNat (ofLittleEndian bytes)⟩

/-- Takes a single-precision number. -/
def binary32 : Decoder Binary32 := do
  let raw ← Decoder.take 4
  pure (binary32OfBytes raw)

/-- Takes a double-precision number. -/
def binary64 : Decoder Binary64 := do
  let raw ← Decoder.take 8
  pure (binary64OfBytes raw)

end ColumnWire.Wire
