import Drawboard.Json.Basic
import Drawboard.Text.Numeral

/-!
Reading JSON text. Besides the standard forms, `NaN`, `Infinity` and `-Infinity` are numbers.
Only space, tab, carriage return and line feed may stand between tokens, a control character in a
string must be escaped, and a whole number may have no more digits than a numeral.
-/

namespace Drawboard.Json

def isSpace (c : Char) : Bool := c == ' ' || c == '\t' || c == '\n' || c == '\r'

def skip (cs : List Char) : List Char := cs.dropWhile isSpace

def digitsValue (digits : List Char) : Nat := Nat.ofDigitChars 10 digits 0

/-- What follows a word, if the text starts with it. -/
def after? : List Char → List Char → Option (List Char)
  | [], cs => some cs
  | _ :: _, [] => none
  | w :: word, c :: cs => if w = c then after? word cs else none

def hexUnit? (a b c d : Char) : Option UInt16 := do
  let a ← Text.hexValue? a
  let b ← Text.hexValue? b
  let c ← Text.hexValue? c
  let d ← Text.hexValue? d
  pure (a * 4096 + b * 256 + c * 16 + d).toUInt16

def shortEscape? (c : Char) : Option UInt16 :=
  match c with
  | '"' => some 0x22
  | '\\' => some 0x5c
  | '/' => some 0x2f
  | 'b' => some 0x08
  | 'f' => some 0x0c
  | 'n' => some 0x0a
  | 'r' => some 0x0d
  | 't' => some 0x09
  | _ => none

/-- Reads the rest of a string whose opening quote has been read, and the closing quote. -/
def stringRest : List Char → Option (Units × List Char)
  | [] => none
  | '"' :: rest => some ([], rest)
  | '\\' :: 'u' :: a :: b :: c :: d :: rest => do
    let unit ← hexUnit? a b c d
    let (units, rest) ← stringRest rest
    pure (unit :: units, rest)
  | '\\' :: e :: rest => do
    let unit ← shortEscape? e
    let (units, rest) ← stringRest rest
    pure (unit :: units, rest)
  | c :: rest =>
    if c.toNat < 0x20 || c = '\\' then none
    else do
      let (units, rest) ← stringRest rest
      pure (Units.ofChar c ++ units, rest)

/-- The digits before the point: a zero stands alone. -/
def wholeDigits : List Char → List Char × List Char
  | '0' :: rest => (['0'], rest)
  | cs => cs.span Char.isDigit

/-- The digits after the point, none if there is no point. -/
def fraction? : List Char → Option (Option (List Char) × List Char)
  | '.' :: rest =>
    match rest.span Char.isDigit with
    | ([], _) => none
    | (digits, rest) => some (some digits, rest)
  | cs => some (none, cs)

def exponentDigits? (negative : Bool) (cs : List Char) : Option (Option Int × List Char) :=
  match cs.span Char.isDigit with
  | ([], _) => none
  | (digits, rest) =>
    let n : Int := digitsValue digits
    some (some (if negative then -n else n), rest)

def exponent? : List Char → Option (Option Int × List Char)
  | c :: rest =>
    if c = 'e' || c = 'E' then
      match rest with
      | '-' :: rest => exponentDigits? true rest
      | '+' :: rest => exponentDigits? false rest
      | rest => exponentDigits? false rest
    else some (none, c :: rest)
  | [] => some (none, [])

/-- Reads a number without its sign. -/
def unsigned? (negative : Bool) (cs : List Char) : Option (Json × List Char) := do
  let (whole, rest) := wholeDigits cs
  if whole.isEmpty then none
  let (fraction, rest) ← fraction? rest
  let (exponent, rest) ← exponent? rest
  match fraction, exponent with
  | none, none =>
    if Numeral.maxDigits < whole.length then none
    else
      let n : Int := digitsValue whole
      pure (.int (if negative then -n else n), rest)
  | _, _ =>
    let tail := fraction.getD []
    let value := Binary64.ofDecimal negative (digitsValue (whole ++ tail))
      (exponent.getD 0 - tail.length)
    pure (.float value, rest)

def number? : List Char → Option (Json × List Char)
  | '-' :: cs => unsigned? true cs
  | cs => unsigned? false cs

def words : List (String × Json) :=
  [("null", .null), ("true", .bool true), ("false", .bool false), ("NaN", .float .nan),
   ("Infinity", .float (.infinity false)), ("-Infinity", .float (.infinity true))]

def word? (cs : List Char) : Option (Json × List Char) :=
  words.findSome? fun (word, value) => (after? word.toList cs).map fun rest => (value, rest)

def scalar? (cs : List Char) : Option (Json × List Char) := word? cs <|> number? cs

mutual

def value? : Nat → List Char → Option (Json × List Char)
  | 0, _ => none
  | fuel + 1, cs =>
    match cs with
    | '"' :: rest => do
      let (units, rest) ← stringRest rest
      pure (.string units, rest)
    | '[' :: rest =>
      match skip rest with
      | ']' :: rest => some (.array [], rest)
      | rest => do
        let (items, rest) ← items? fuel rest
        pure (.array items, rest)
    | '\x7b' :: rest =>
      match skip rest with
      | '\x7d' :: rest => some (.object [], rest)
      | rest => do
        let (pairs, rest) ← pairs? fuel rest
        pure (.object (collect pairs), rest)
    | cs => scalar? cs

def items? : Nat → List Char → Option (List Json × List Char)
  | 0, _ => none
  | fuel + 1, cs => do
    let (item, rest) ← value? fuel cs
    match skip rest with
    | ']' :: rest => pure ([item], rest)
    | ',' :: rest => do
      let (items, rest) ← items? fuel (skip rest)
      pure (item :: items, rest)
    | _ => none

def pairs? : Nat → List Char → Option (List (Units × Json) × List Char)
  | 0, _ => none
  | fuel + 1, cs =>
    match cs with
    | '"' :: rest => do
      let (key, rest) ← stringRest rest
      match skip rest with
      | ':' :: rest => do
        let (value, rest) ← value? fuel (skip rest)
        match skip rest with
        | '\x7d' :: rest => pure ([(key, value)], rest)
        | ',' :: rest => do
          let (pairs, rest) ← pairs? fuel (skip rest)
          pure ((key, value) :: pairs, rest)
        | _ => none
      | _ => none
    | _ => none

end

/-- Reads a whole text. A value nests no deeper than the text is long, and at most two readers are
entered for each character. -/
def read? (text : List Char) : Option Json :=
  match value? (2 * text.length + 2) (skip text) with
  | some (value, rest) => if (skip rest).isEmpty then some value else none
  | none => none

end Drawboard.Json
