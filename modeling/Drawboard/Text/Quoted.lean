import Drawboard.Text.Invisible

/-!
Quoted text, for showing a name whose ends and characters must be plain. The quotes are
apostrophes, or double quotes when the text has apostrophes and no double quotes; characters
without a visible form are escaped by their number.
-/

namespace Drawboard.Text

def apostrophe : Char := Char.ofNat 39

def hexDigits : Nat → Nat → List Char
  | 0, _ => []
  | count + 1, n => hexDigits count (n / 16) ++ [(n % 16).digitChar]

def numberEscape (n : Nat) : List Char :=
  if n < 0x100 then '\\' :: 'x' :: hexDigits 2 n
  else if n < 0x10000 then '\\' :: 'u' :: hexDigits 4 n
  else '\\' :: 'U' :: hexDigits 8 n

def quotedChar (quote c : Char) : List Char :=
  if c = quote || c = '\\' then ['\\', c]
  else if c = '\n' then ['\\', 'n']
  else if c = '\r' then ['\\', 'r']
  else if c = '\t' then ['\\', 't']
  else if c.toNat < 0x20 || isInvisible c then numberEscape c.toNat
  else [c]

def quoted (cs : List Char) : List Char :=
  let quote := if cs.contains apostrophe && !cs.contains '"' then '"' else apostrophe
  quote :: (cs.flatMap (quotedChar quote) ++ [quote])

end Drawboard.Text

namespace Drawboard

def quotedText (s : String) : String := String.ofList (Text.quoted s.toList)

end Drawboard
