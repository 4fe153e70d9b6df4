import Drawboard.Binary64.Basic

/-!
The decimal text of a binary64 number: the fewest significant digits that read back as the same
number, and of the texts with that many digits the nearest one. Numbers from 10⁻⁴ up to 10¹⁶ are
written positionally, others with an exponent of at least two digits.
-/

namespace Drawboard.Binary64

/-- `digits · 10 ^ exponent`. -/
structure Decimal where
  digits : Nat
  exponent : Int

def Decimal.value (d : Decimal) : Rat :=
  if 0 ≤ d.exponent then mkRat (d.digits * Nat.pow 10 d.exponent.toNat : Nat) 1
  else mkRat d.digits (Nat.pow 10 (-d.exponent).toNat)

def leadingExponent (v : Rat) : Int :=
  let whole := v.num.natAbs / v.den
  if 0 < whole then (Nat.toDigits 10 whole).length - 1
  else -((Nat.toDigits 10 ((v.den - 1) / v.num.natAbs)).length : Int)

/-- The numbers that are rounded to the number of that many units. -/
structure Interval where
  low : Rat
  high : Rat
  closed : Bool

def interval (units : Nat) : Interval :=
  let k := excess units
  let below := if 0 < k && units == 1 <<< (52 + k) then 1 <<< k else 2 <<< k
  { low := mkRat (4 * units - below) (4 * unitsPerOne)
    high := mkRat (4 * units + (2 <<< k)) (4 * unitsPerOne)
    closed := (units >>> k) % 2 == 0 }

def Interval.holds (i : Interval) (q : Rat) : Bool :=
  (i.low < q && q < i.high) || (i.closed && (q == i.low || q == i.high))

/-- The decimals of `count` digits next to `v`, those that read back as `v` only, nearest first. -/
def candidates (v : Rat) (i : Interval) (count : Nat) : List Decimal :=
  let exponent := leadingExponent v - count + 1
  let floor : Nat := (v / (Decimal.mk 1 exponent).value).floor.toNat
  let below : Decimal := ⟨floor, exponent⟩
  let above : Decimal := ⟨floor + 1, exponent⟩
  let belowGap := v - below.value
  let aboveGap := above.value - v
  let ordered :=
    if belowGap < aboveGap || (belowGap == aboveGap && floor % 2 == 0) then [below, above]
    else [above, below]
  ordered.filter (i.holds ·.value)

/-- Seventeen digits are always enough. -/
def shortest (units : Nat) : Decimal :=
  let v := mkRat units unitsPerOne
  let i := interval units
  ((List.range 17).findSome? fun n => (candidates v i (n + 1)).head?).getD ⟨0, 0⟩

/-- The digits without the zeros they end in, which join the exponent. -/
def Decimal.significant (d : Decimal) : List Char × Int :=
  let digits := Nat.toDigits 10 d.digits
  let zeros := (digits.reverse.takeWhile (· == '0')).length
  (digits.take (digits.length - zeros), d.exponent + zeros)

def exponentText (e : Int) : List Char :=
  let digits := Nat.toDigits 10 e.natAbs
  (if e < 0 then '-' else '+') :: (List.replicate (2 - digits.length) '0' ++ digits)

/-- Writes the digits with a point after the first `point` of them, or with an exponent. -/
def layOut (digits : List Char) (point : Int) : List Char :=
  if point ≤ -4 || 16 < point then
    digits.take 1 ++ (if digits.length ≤ 1 then [] else '.' :: digits.drop 1) ++
      'e' :: exponentText (point - 1)
  else if point ≤ 0 then '0' :: '.' :: (List.replicate (-point).toNat '0' ++ digits)
  else
    let n := point.toNat
    if digits.length ≤ n then digits ++ List.replicate (n - digits.length) '0' ++ ['.', '0']
    else digits.take n ++ '.' :: digits.drop n

def finiteText (units : Nat) : List Char :=
  if units = 0 then ['0', '.', '0']
  else
    let (digits, exponent) := (shortest units).significant
    layOut digits (digits.length + exponent)

def textWith (nan infinity : String) (x : Binary64) : List Char :=
  if x.isNaN then nan.toList
  else
    (if x.isNegative then ['-'] else []) ++
      if x.isInfinite then infinity.toList else finiteText x.units

end Drawboard.Binary64
