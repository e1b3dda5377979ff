/-!
# Reading damaged UTF-8

Every text that bytes can spell: what is well-formed UTF-8 is read, and every longest stretch that
only begins a character, or a byte that begins none, gives one replacement character.
-/

namespace ColumnWire.Text

/-- The character in the place of what cannot be read. -/
def replacement : Char := '\ufffd'

/-- What the first byte of a character of several bytes says: how many follow, the bounds of the next
one, and the bits that it contributes itself. -/
def leadByte (b : Nat) : Option (Nat × Nat × Nat × Nat) :=
  if 0xc2 ≤ b ∧ b ≤ 0xdf then some (1, 0x80, 0xbf, b - 0xc0)
  else if b = 0xe0 then some (2, 0xa0, 0xbf, 0)
  else if b = 0xed then some (2, 0x80, 0x9f, b - 0xe0)
  else if 0xe1 ≤ b ∧ b ≤ 0xef then some (2, 0x80, 0xbf, b - 0xe0)
  else if b = 0xf0 then some (3, 0x90, 0xbf, 0)
  else if 0xf1 ≤ b ∧ b ≤ 0xf3 then some (3, 0x80, 0xbf, b - 0xf0)
  else if b = 0xf4 then some (3, 0x80, 0x8f, 4)
  else none

/-- The character of the further bytes, and how many of them it used. -/
def continueWith : (count low high value used : Nat) → List UInt8 → Char × Nat
  | 0, _, _, value, used, _ => (Char.ofNat value, used)
  | _ + 1, _, _, _, used, [] => (replacement, used)
  | count + 1, low, high, value, used, b :: rest =>
    if low ≤ b.toNat ∧ b.toNat ≤ high then
      continueWith count 0x80 0xbf (value * 64 + b.toNat % 64) (used + 1) rest
    else (replacement, used)

/-- The character at the front, and how many of the further bytes it used. -/
def frontChar (b : UInt8) (rest : List UInt8) : Char × Nat :=
  if b < 0x80 then (Char.ofNat b.toNat, 0)
  else
    match leadByte b.toNat with
    | none => (replacement, 0)
    | some (count, low, high, value) => continueWith count low high value 0 rest

/-- The characters of at most `fuel` bytes. -/
def lossyChars : (fuel : Nat) → List UInt8 → List Char
  | 0, _ => []
  | _ + 1, [] => []
  | fuel + 1, b :: rest =>
    let (c, used) := frontChar b rest
    c :: lossyChars fuel (rest.drop used)

/-- The text that bytes spell, with replacements for what cannot be read. -/
def ofUtf8Lossy (bytes : List UInt8) : List Char :=
  lossyChars bytes.length bytes

end ColumnWire.Text
