import Mathlib.Tactic.Common
import ColumnWire.Proofs.Wire.Varint

/-!
# Written fields are read back

The bytes of every field spell it: a text (`TextField.encode_spells`), a byte string and the numbers
of both precisions. A text or a byte string must have fewer than `2 ^ 64` bytes, which is what its
length field can say.
-/

namespace ColumnWire.Wire

open ColumnWire.Number Decoder

/-! ## Texts -/

/-- The UTF-8 bytes of a text are read back as the text. -/
lemma ofUtf8?_utf8 (s : String) : ofUtf8? (utf8 s) = some s := by
  change String.fromUTF8? s.toByteArray = some s
  rw [String.fromUTF8?, dif_pos s.isValidUTF8]
  rfl

/-- A byte string behind its length spells it. -/
lemma BinaryField.encode_spells {data : Bytes} (h : data.length < UInt64.size) :
    BinaryField.decoder.Spells (BinaryField.encode data) data := by
  obtain ⟨hlen, hn⟩ := Varint.encode_length_spells h
  apply hlen.bind
  rw [hn]
  exact take_spells data

/-- The bytes of a text behind their length spell it. -/
lemma TextField.encode_spells {s : String} (h : (utf8 s).length < UInt64.size) :
    TextField.decoder.Spells (TextField.encode s) s := by
  apply (BinaryField.encode_spells h).bind_nil
  rw [ofUtf8?_utf8]
  exact Spells.pure s

/-- The field of a text has all the bytes of the text. -/
lemma TextField.utf8_length_le (s : String) : (utf8 s).length ≤ (TextField.encode s).length := by
  simp [TextField.encode, BinaryField.encode]

/-! ## Numbers -/

/-- The lowest bytes of a number are as many as asked for. -/
@[simp] lemma littleEndian_length (width n : Nat) : (littleEndian width n).length = width := by
  induction width generalizing n with
  | zero => rfl
  | succ width ih => simp [littleEndian, ih]

/-- The lowest bytes of a number spell what is left of it in that width. -/
lemma ofLittleEndian_littleEndian (width n : Nat) :
    ofLittleEndian (littleEndian width n) = n % Nat.pow 256 width := by
  induction width generalizing n with
  | zero => simp [littleEndian, ofLittleEndian, Nat.mod_one]
  | succ width ih =>
      have hpow : Nat.pow 256 (width + 1) = 256 * Nat.pow 256 width := by
        rw [Nat.mul_comm]
        rfl
      rw [littleEndian, ofLittleEndian, ih, Varint.toNat_ofNat_byte (by omega), hpow, Nat.mod_mul]

/-- The four bytes of a single-precision number spell it, bit for bit. -/
lemma encodeBinary32_spells (x : Binary32) : binary32.Spells (encodeBinary32 x) x := by
  have htake := take_spells (encodeBinary32 x)
  rw [show (encodeBinary32 x).length = 4 by simp [encodeBinary32]] at htake
  apply htake.bind_nil
  have hbits : binary32OfBytes (encodeBinary32 x) = x := by
    have hlt : x.bits.toNat < Nat.pow 256 4 := x.bits.toNat_lt
    rw [binary32OfBytes, encodeBinary32, ofLittleEndian_littleEndian, Nat.mod_eq_of_lt hlt,
      UInt32.ofNat_toNat]
  rw [hbits]
  exact Spells.pure x

/-- The eight bytes of a double-precision number spell it, bit for bit. -/
lemma encodeBinary64_spells (x : Binary64) : binary64.Spells (encodeBinary64 x) x := by
  have htake := take_spells (encodeBinary64 x)
  rw [show (encodeBinary64 x).length = 8 by simp [encodeBinary64]] at htake
  apply htake.bind_nil
  have hbits : binary64OfBytes (encodeBinary64 x) = x := by
    have hlt : x.bits.toNat < Nat.pow 256 8 := x.bits.toNat_lt
    rw [binary64OfBytes, encodeBinary64, ofLittleEndian_littleEndian, Nat.mod_eq_of_lt hlt,
      UInt64.ofNat_toNat]
  rw [hbits]
  exact Spells.pure x

end ColumnWire.Wire
