import Drawboard.Drawing.Handler
import Drawboard.Session.Basic

/-!
A session whose lines are executed by handlers. A handler that breaks ends a program as an overlong
numeral does, and its line counts neither as executed nor as rejected.
-/

namespace Drawboard.Session

def dispatch (s : Session) (line : String) : Except Interruption Outcome × Session :=
  match s.drawing.dispatch line with
  | (.ok outcome, drawing) =>
    (.ok outcome,
     { s with
       drawing := drawing, executed := s.executed + 1, history := s.history ++ [trimmed line] })
  | (.error (.refused (.rejected r)), drawing) =>
    (.error (.refused (.rejected r)), { s with drawing := drawing, failed := s.failed + 1 })
  | (.error interruption, drawing) => (.error interruption, { s with drawing := drawing })

def dispatchLines (s : Session) : List (Nat × String) → Except Interruption Unit × Session
  | [] => (.ok (), s)
  | (n, line) :: rest =>
    match s.dispatch line with
    | (.ok _, s) => dispatchLines s rest
    | (.error (.refused (.rejected r)), s) =>
      dispatchLines { s with errors := s.errors.reject n r } rest
    | (.error interruption, s) => (.error interruption, s)

/-- Runs a program, and says whether every line was executed. -/
def dispatchProgram (s : Session) (text : String) : Except Interruption Bool × Session :=
  match dispatchLines { s with errors := {} } (programLines text) with
  | (.ok (), s) => (.ok (!s.errors.hasErrors), s)
  | (.error interruption, s) => (.error interruption, s)

end Drawboard.Session
