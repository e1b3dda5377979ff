/-!
# Signed numbers in unsigned words

A signed number of a given width travels as its bit pattern, read as a natural. `wrapSigned` reads
such a pattern and `unwrapSigned` makes it, both in arithmetic on words of 64 bits. Whether reading a
pattern leaves the signed words on the way is told by `overflowingWrap`; what comes out then is what
the words wrap to.
-/

namespace ColumnWire.Number

/-- The difference of two signed words as it wraps, and whether the exact one leaves the words. -/
def overflowingSub (a b : Int64) : Int64 × Bool :=
  (a - b, BitVec.ssubOverflow a.toBitVec b.toBitVec)

/-- The signed number whose pattern of `bits` bits is `raw`, and whether a step on the way to it leaves
the signed words; none if `raw` has more bits. -/
def overflowingWrap (raw : UInt64) (bits : Nat) : Option (Int64 × Bool) :=
  if 64 ≤ bits then some (raw.toInt64, false)
  else
    let modulus : UInt64 := 1 <<< UInt64.ofNat bits
    if modulus ≤ raw then none
    else if modulus >>> 1 ≤ raw then some (overflowingSub raw.toInt64 modulus.toInt64)
    else some (raw.toInt64, false)

/-- The signed number whose pattern of `bits` bits is `raw`; none if `raw` has more bits. -/
def wrapSigned (raw : UInt64) (bits : Nat) : Option Int64 :=
  (overflowingWrap raw bits).map Prod.fst

/-- The lowest `bits` bits of the pattern of a signed number. -/
def unwrapSigned (value : Int64) (bits : Nat) : UInt64 :=
  if 64 ≤ bits then value.toUInt64
  else value.toUInt64 &&& ((1 <<< UInt64.ofNat bits) - 1)

end ColumnWire.Number
