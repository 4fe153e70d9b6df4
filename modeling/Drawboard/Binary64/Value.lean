import Drawboard.Binary64.Basic

/-!
The values of binary64 numbers and the arithmetic on them. A result is the exact one, rounded; a
result too large for the format is infinite, and one that has no value is undefined. Both zeros
have one value, which leaves a quotient by zero undefined.
-/

namespace Drawboard.Binary64

inductive Value where
  | finite (q : Rat)
  | infinite (negative : Bool)
  | undefined
  deriving DecidableEq

/-- The least number too large for the format. -/
def overflow : Rat := mkRat (1 <<< 1024 : Nat) 1

/-- The NaN that arithmetic makes. -/
def indefinite : Binary64 := ⟨(infinityBits + (1 <<< 51) + signBit true).toUInt64⟩

namespace Value

def ofRat (q : Rat) : Value :=
  let r := round q
  if overflow ≤ r then infinite false else if r ≤ -overflow then infinite true else finite r

def ofInt (n : Int) : Value := ofRat n

def isNegative : Value → Bool
  | finite q => q < 0
  | infinite negative => negative
  | undefined => false

def neg : Value → Value
  | finite q => finite (-q)
  | infinite negative => infinite (!negative)
  | undefined => undefined

def add : Value → Value → Value
  | finite p, finite q => ofRat (p + q)
  | infinite m, infinite n => if m = n then infinite m else undefined
  | infinite m, finite _ => infinite m
  | finite _, infinite n => infinite n
  | _, _ => undefined

def sub (a b : Value) : Value := a.add b.neg

def mul : Value → Value → Value
  | finite p, finite q => ofRat (p * q)
  | undefined, _ => undefined
  | _, undefined => undefined
  | a, b =>
    if a = finite 0 ∨ b = finite 0 then undefined else infinite (a.isNegative != b.isNegative)

def div : Value → Value → Value
  | finite p, finite q => if q = 0 then undefined else ofRat (p / q)
  | infinite m, finite q => if q = 0 then undefined else infinite (m != decide (q < 0))
  | finite _, infinite _ => finite 0
  | _, _ => undefined

/-- Whether one value comes before another. What is undefined comes neither before nor after. -/
def less : Value → Value → Bool
  | finite p, finite q => p < q
  | infinite m, infinite n => m && !n
  | infinite m, finite _ => m
  | finite _, infinite n => !n
  | _, _ => false

def atMost : Value → Value → Bool
  | finite p, finite q => p ≤ q
  | infinite m, infinite n => m || !n
  | infinite m, finite _ => m
  | finite _, infinite n => !n
  | _, _ => false

def toBinary64 : Value → Binary64
  | finite q => Binary64.ofRat q
  | infinite negative => infinity negative
  | undefined => indefinite

end Value

end Drawboard.Binary64
