import Drawboard.Json.Basic
import Drawboard.Binary64.Shortest

/-!
Writing JSON text in ASCII. Every unit beyond U+007E and every control character is escaped; the
layout is a choice of what stands where a line may break.
-/

namespace Drawboard.Json

def escapedUnit (u : UInt16) : List Char :=
  let n := u.toNat
  ['\\', 'u', (n / 4096 % 16).digitChar, (n / 256 % 16).digitChar, (n / 16 % 16).digitChar,
   (n % 16).digitChar]

def unitText (u : UInt16) : List Char :=
  if u = 0x22 then ['\\', '"']
  else if u = 0x5c then ['\\', '\\']
  else if u = 0x0a then ['\\', 'n']
  else if u = 0x0d then ['\\', 'r']
  else if u = 0x09 then ['\\', 't']
  else if u = 0x0c then ['\\', 'f']
  else if u = 0x08 then ['\\', 'b']
  else if 0x20 ≤ u.toNat && u.toNat < 0x7f then [Char.ofNat u.toNat]
  else escapedUnit u

def stringText (units : Units) : List Char := '"' :: (units.flatMap unitText ++ ['"'])

/-- What is written where a line may break at a given depth. -/
abbrev LineBreak := Nat → List Char

def indented : LineBreak := fun depth => '\n' :: List.replicate (2 * depth) ' '

def oneLine : LineBreak := fun _ => []

mutual

def render (lineBreak : LineBreak) (depth : Nat) : Json → List Char
  | .null => "null".toList
  | .bool true => "true".toList
  | .bool false => "false".toList
  | .int n => (toString n).toList
  | .float x => x.textWith "NaN" "Infinity"
  | .string units => stringText units
  | .array [] => ['[', ']']
  | .array (item :: items) =>
    '[' :: (lineBreak (depth + 1) ++ render lineBreak (depth + 1) item ++
      renderItems lineBreak (depth + 1) items ++ lineBreak depth ++ [']'])
  | .object [] => ['\x7b', '\x7d']
  | .object ((key, value) :: members) =>
    '\x7b' :: (lineBreak (depth + 1) ++ stringText key ++ [':', ' '] ++
      render lineBreak (depth + 1) value ++ renderMembers lineBreak (depth + 1) members ++
      lineBreak depth ++ ['\x7d'])

/-- The items after the first, each after a comma. -/
def renderItems (lineBreak : LineBreak) (depth : Nat) : List Json → List Char
  | [] => []
  | item :: items =>
    ',' :: (lineBreak depth ++ render lineBreak depth item ++ renderItems lineBreak depth items)

def renderMembers (lineBreak : LineBreak) (depth : Nat) : List (Units × Json) → List Char
  | [] => []
  | (key, value) :: members =>
    ',' :: (lineBreak depth ++ stringText key ++ [':', ' '] ++ render lineBreak depth value ++
      renderMembers lineBreak depth members)

end

def text (lineBreak : LineBreak) (value : Json) : String :=
  String.ofList (render lineBreak 0 value)

end Drawboard.Json
