import Drawboard.Binary64.Basic
import Drawboard.Text.Units

/-!
JSON values. Whole numbers are exact and of any size, and are told apart from numbers written with
a fraction or an exponent. Strings are sequences of 16-bit units, so that an escape for half of a
surrogate pair has a value too. Objects keep their members in order.
-/

namespace Drawboard

inductive Json where
  | null
  | bool (b : Bool)
  | int (n : Int)
  | float (x : Binary64)
  | string (units : Units)
  | array (items : List Json)
  | object (members : List (Units × Json))

namespace Json

def ofString (s : String) : Json := .string (Units.ofString s)

def string? : Json → Option String
  | .string units => units.toString?
  | _ => none

/-- A whole number. A flag counts as one or zero. -/
def whole? : Json → Option Int
  | .int n => some n
  | .bool b => some (if b then 1 else 0)
  | _ => none

/-- Gives a member its value. A key that is there already keeps its place. -/
def put (key : Units) (value : Json) : List (Units × Json) → List (Units × Json)
  | [] => [(key, value)]
  | (k, v) :: rest => if k = key then (k, value) :: rest else (k, v) :: put key value rest

/-- The members of an object with the given pairs; of a repeated key the last value counts. -/
def collect (pairs : List (Units × Json)) : List (Units × Json) :=
  pairs.foldl (fun members pair => put pair.1 pair.2 members) []

def member? (key : Units) : List (Units × Json) → Option Json
  | [] => none
  | (k, v) :: rest => if k = key then some v else member? key rest

end Json

end Drawboard
