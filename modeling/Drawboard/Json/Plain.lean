import Drawboard.Binary64.Shortest
import Drawboard.Json.Basic
import Drawboard.Text.Quoted

/-!
The text of a JSON value in a message. A string stands for itself, but inside an array or an object
it is quoted.
-/

namespace Drawboard.Json

def quotedUnits (units : Units) : List Char := Text.quoted ((Units.toChars? units).getD [])

mutual

def inner : Json → List Char
  | .null => "None".toList
  | .bool true => "True".toList
  | .bool false => "False".toList
  | .int n => (toString n).toList
  | .float x => x.textWith "nan" "inf"
  | .string units => quotedUnits units
  | .array [] => ['[', ']']
  | .array (item :: items) => '[' :: (inner item ++ innerItems items ++ [']'])
  | .object [] => ['\x7b', '\x7d']
  | .object ((key, value) :: members) =>
    '\x7b' :: (quotedUnits key ++ [':', ' '] ++ inner value ++ innerMembers members ++ ['\x7d'])

/-- The items after the first, each after a comma. -/
def innerItems : List Json → List Char
  | [] => []
  | item :: items => ',' :: ' ' :: (inner item ++ innerItems items)

def innerMembers : List (Units × Json) → List Char
  | [] => []
  | (key, value) :: members =>
    ',' :: ' ' :: (quotedUnits key ++ [':', ' '] ++ inner value ++ innerMembers members)

end

def plain (value : Json) : String := value.string?.getD (String.ofList value.inner)

end Drawboard.Json
