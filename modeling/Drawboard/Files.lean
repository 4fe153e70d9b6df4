import Drawboard.Failure

/-!
A folder of text files. It has no folders in it, so a path that leads into one leads nowhere.
-/

namespace Drawboard

structure Files where
  entries : List (String × String) := []

namespace Files

/-- Whether a step of a path leads nowhere else. -/
def stays (step : List Char) : Bool := step == [] || step == ['.']

/-- The name of the file that a path leads to. Steps before the name may only stay in the folder,
and a path that starts with a slash does not start in it. -/
def nameOf? (path : String) : Option String :=
  let parts := path.toList.splitOn '/'
  let steps := parts.dropLast
  let name := parts.getLastD []
  if steps.head? != some [] && steps.all stays && !stays name && name != ['.', '.'] then
    some (String.ofList name)
  else none

def read (files : Files) (path : String) : Except Failure String :=
  match (nameOf? path).bind (files.entries.lookup ·) with
  | some text => .ok text
  | none => .error (.noSuchFile path)

def write (files : Files) (path text : String) : Except Failure Files :=
  match nameOf? path with
  | some name => .ok ⟨(name, text) :: files.entries.filter (·.1 != name)⟩
  | none => .error (.noSuchFile path)

def unifyLineEnds : List Char → List Char
  | '\r' :: '\n' :: rest => '\n' :: unifyLineEnds rest
  | '\r' :: rest => '\n' :: unifyLineEnds rest
  | c :: rest => c :: unifyLineEnds rest
  | [] => []

end Files

end Drawboard
