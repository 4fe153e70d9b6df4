/-!
Numbers of the 64-bit binary floating-point format. Every finite number of the format is a whole
number of units of 2⁻¹⁰⁷⁴; a number of units is representable when no more than 53 binary digits
of it count. Rounding goes to the nearest representable number, and from the middle of two to the
one whose last digit is even.
-/

namespace Drawboard

/-- A number of the format, by its bit pattern. -/
structure Binary64 where
  bits : UInt64
  deriving DecidableEq

namespace Binary64

def roundEven (num den : Nat) : Nat :=
  let q := num / den
  let r := num % den
  if 2 * r < den then q else if den < 2 * r then q + 1 else q + q % 2

/-- How many binary digits of a whole number are beyond the first 53. -/
def excess (n : Nat) : Nat := n.log2 - 52

/-- The representable number of units nearest to `num / den` units. -/
def nearest (num den : Nat) : Nat :=
  let k := excess (num / den)
  roundEven num (den <<< k) <<< k

def unitsPerOne : Nat := 1 <<< 1074

/-- The representable number nearest to an exact one. -/
def round (q : Rat) : Rat :=
  let units := nearest (q.num.natAbs * unitsPerOne) q.den
  mkRat (if q.num < 0 then -units else units) unitsPerOne

def infinityBits : Nat := 0x7ff <<< 52

def signBit (negative : Bool) : Nat := if negative then 1 <<< 63 else 0

/-- The bit pattern of a representable number of units; what is too large is infinite. -/
def magnitudeBits (units : Nat) : Nat :=
  let k := excess units
  min infinityBits ((k <<< 52) + (units >>> k))

def ofUnits (negative : Bool) (units : Nat) : Binary64 :=
  ⟨(magnitudeBits units + signBit negative).toUInt64⟩

def infinity (negative : Bool) : Binary64 :=
  ⟨(infinityBits + signBit negative).toUInt64⟩

def nan : Binary64 := ⟨(infinityBits + (1 <<< 51)).toUInt64⟩

def ofRat (q : Rat) : Binary64 :=
  ofUnits (q.num < 0) (nearest (q.num.natAbs * unitsPerOne) q.den)

/-- The number nearest to `digits · 10 ^ exponent`. Exponents that put the number outside the
range of the format are settled before any power of ten is taken. -/
def ofDecimal (negative : Bool) (digits : Nat) (exponent : Int) : Binary64 :=
  let size := (Nat.toDigits 10 digits).length + exponent
  if digits = 0 || size < -330 then ofUnits negative 0
  else if 310 < size then infinity negative
  else if 0 ≤ exponent then
    ofUnits negative (nearest (digits * Nat.pow 10 exponent.toNat * unitsPerOne) 1)
  else ofUnits negative (nearest (digits * unitsPerOne) (Nat.pow 10 (-exponent).toNat))

def isNegative (x : Binary64) : Bool := 1 <<< 63 ≤ x.bits.toNat

def magnitude (x : Binary64) : Nat := x.bits.toNat % (1 <<< 63)

def isNaN (x : Binary64) : Bool := infinityBits < x.magnitude

def isInfinite (x : Binary64) : Bool := x.magnitude == infinityBits

def units (x : Binary64) : Nat :=
  let e := x.magnitude >>> 52
  let f := x.magnitude % (1 <<< 52)
  if e = 0 then f else (f + (1 <<< 52)) <<< (e - 1)

def hex (x : Binary64) : String :=
  let digits := Nat.toDigits 16 x.bits.toNat
  String.ofList (List.replicate (16 - digits.length) '0' ++ digits)

end Binary64

end Drawboard
