import ColumnWire.Text.Lossy
import ColumnWire.Text.Split

/-!
# Form encoding

Pairs of texts as one text: a pair is a name, an equals sign and a value, and pairs are separated by
ampersands. Bytes other than letters, digits and four marks are written as a percent sign and two
hexadecimal digits, and a space as a plus sign.
-/

namespace ColumnWire.Text

/-- Whether a byte stands for itself. -/
def isUnreserved (b : UInt8) : Bool :=
  (0x30 ≤ b && b ≤ 0x39) || (0x41 ≤ b && b ≤ 0x5a) || (0x61 ≤ b && b ≤ 0x7a) ||
    b == 0x2a || b == 0x2d || b == 0x2e || b == 0x5f

/-- The upper-case hexadecimal digit of a number below 16. -/
def upperHex (n : Nat) : Char :=
  Char.ofNat (if n < 10 then 0x30 + n else 0x37 + n)

/-- The value of a hexadecimal digit in either case. -/
def hexValue? (b : UInt8) : Option Nat :=
  if 0x30 ≤ b ∧ b ≤ 0x39 then some (b.toNat - 0x30)
  else if 0x41 ≤ b ∧ b ≤ 0x46 then some (b.toNat - 0x37)
  else if 0x61 ≤ b ∧ b ≤ 0x66 then some (b.toNat - 0x57)
  else none

/-- How a byte is written. -/
def formByte (b : UInt8) : List Char :=
  if isUnreserved b then [Char.ofNat b.toNat]
  else if b = 0x20 then ['+']
  else ['%', upperHex (b.toNat / 16), upperHex (b.toNat % 16)]

/-- How a text is written. -/
def formEncode (s : String) : List Char :=
  s.toByteArray.data.toList.flatMap formByte

/-- How a pair is written. -/
def formPair (p : String × String) : List Char :=
  formEncode p.1 ++ '=' :: formEncode p.2

/-- How pairs are written. -/
def formPairs (ps : List (String × String)) : List Char :=
  joinWith ['&'] (ps.map formPair)

/-- The byte that a plus sign or another byte stands for. -/
def spaced (b : UInt8) : UInt8 :=
  if b = 0x2b then 0x20 else b

/-- The bytes that were written: a plus sign is a space, and a percent sign that two hexadecimal digits
do not follow stands for itself. -/
def formBytes : List UInt8 → List UInt8
  | b :: x :: y :: more =>
    if b = 0x25 then
      match hexValue? x, hexValue? y with
      | some h, some l => UInt8.ofNat (16 * h + l) :: formBytes more
      | _, _ => b :: formBytes (x :: y :: more)
    else spaced b :: formBytes (x :: y :: more)
  | [b, x] => [spaced b, spaced x]
  | [b] => [spaced b]
  | [] => []

/-- The text that was written. -/
def formDecode (s : List Char) : String :=
  String.ofList (ofUtf8Lossy (formBytes (String.ofList s).toByteArray.data.toList))

/-- The pair that was written; without an equals sign the value is empty. -/
def readFormPair (s : List Char) : String × String :=
  match splitFirst '=' s with
  | some (name, value) => (formDecode name, formDecode value)
  | none => (formDecode s, "")

/-- The pairs that were written; nothing between two ampersands is no pair. -/
def readFormPairs (s : List Char) : List (String × String) :=
  ((splitEvery '&' s).filter (!·.isEmpty)).map readFormPair

end ColumnWire.Text
