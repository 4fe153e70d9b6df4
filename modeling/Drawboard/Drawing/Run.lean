import Drawboard.Drawing.Basic

/-!
Whatever can be done with a drawing, one thing after another. Checking a line leaves the drawing as
it is; the size of markers may be changed at any time.
-/

namespace Drawboard

/-- The side of the square that markers are drawn in: at most 2³¹, and so is its negative. -/
structure MarkerSize where
  side : Int
  low : -2147483648 ≤ side := by omega
  high : side ≤ 2147483648 := by omega

namespace Drawing

def checkSyntax (d : Drawing) (line : String) : Except Refusal Command × Drawing := (parse line, d)

def isValid (d : Drawing) (line : String) : Except Failure Bool × Drawing := (accepts line, d)

/-- A line is valid just if it checks as a command, and not if it is rejected. -/
theorem isValid_eq_ok_iff (d : Drawing) (line : String) (answer : Bool) :
    (d.isValid line).1 = .ok answer ↔
      if answer then ∃ c, (d.checkSyntax line).1 = .ok c
      else ∃ r, (d.checkSyntax line).1 = .error (.rejected r) := by
  rw [isValid, checkSyntax, accepts]
  cases parse line with
  | ok c => cases answer <;> simp
  | error r => cases r <;> cases answer <;> simp

inductive Step where
  | execute (line : String)
  | checkSyntax (line : String)
  | isValid (line : String)
  | reset
  | replaceCanvas (canvas : Canvas)
  | setMarker (size : MarkerSize)

def step (d : Drawing) : Step → Drawing
  | .execute line => (d.execute line).2
  | .checkSyntax line => (d.checkSyntax line).2
  | .isValid line => (d.isValid line).2
  | .reset => d.reset
  | .replaceCanvas canvas => d.replaceCanvas canvas
  | .setMarker size => { d with markerSize := size.side }

def after (d : Drawing) (steps : List Step) : Drawing := steps.foldl step d

end Drawing

end Drawboard
