/-!
Decimal numerals: digits with an optional sign. Leading zeros are allowed, but a numeral of more
than 4300 digits is not read at all. Hexadecimal digits are read one by one, in either case.
-/

namespace Drawboard

def Text.hexValue? (c : Char) : Option Nat :=
  let n := c.toNat
  if 48 ≤ n && n ≤ 57 then some (n - 48)
  else if 97 ≤ n && n ≤ 102 then some (n - 87)
  else if 65 ≤ n && n ≤ 70 then some (n - 55)
  else none

structure Numeral where
  negative : Bool
  digits : List Char

namespace Numeral

def ofDigits? (negative : Bool) (cs : List Char) : Option Numeral :=
  if !cs.isEmpty && cs.all Char.isDigit then some ⟨negative, cs⟩ else none

def ofChars? : List Char → Option Numeral
  | '+' :: cs => ofDigits? false cs
  | '-' :: cs => ofDigits? true cs
  | cs => ofDigits? false cs

def of? (word : String) : Option Numeral := ofChars? word.toList

def value (n : Numeral) : Int :=
  let size : Int := Nat.ofDigitChars 10 n.digits 0
  if n.negative then -size else size

def maxDigits : Nat := 4300

end Numeral

/-- What a word says when a value of one kind is expected. -/
inductive Reading (α : Type) where
  | value (a : α)
  | unfit
  | overlong (digits : Nat)

def readInt (word : String) : Reading Int :=
  match Numeral.of? word with
  | none => .unfit
  | some n =>
    if Numeral.maxDigits < n.digits.length then .overlong n.digits.length
    else if -2147483648 ≤ n.value ∧ n.value ≤ 2147483647 then .value n.value
    else .unfit

end Drawboard
