import Drawboard.Canvas.Basic
import Drawboard.Command.Basic
import Drawboard.Pen
import Drawboard.Shape.Basic

/-!
What each action does: to the pen, on the canvas, in the log of shapes, and what is said about it.
All four are functions of the pen as it was before. A marker has the size that the drawing gives
it; only markers are filled without regard to the pen.
-/

namespace Drawboard.Action

def applyTo (pen : Pen) : Action → Pen
  | moveTo target | drawTo target => pen.moveTo target
  | .pen color => { pen with color := color }
  | fill on => { pen with filled := on }
  | reset => pen.home
  | rectangle .. | circle _ | triangle .. | clear => pen

def calls (canvas : Canvas) (pen : Pen) (markerSize : Int) : Action → List Call
  | moveTo target => canvas.drawEllipse (Box.marker target markerSize) pen.color true
  | drawTo target => canvas.drawLine pen.position target pen.color
  | rectangle w h => canvas.drawRectangle (Box.anchored pen.position w h) pen.color pen.filled
  | circle r => canvas.drawEllipse (Box.circle pen.position r) pen.color pen.filled
  | triangle b s t =>
    canvas.drawPolygon (Drawboard.triangle pen.position b s t) pen.color pen.filled
  | clear => canvas.wipe
  | .pen _ | fill _ | reset => []

/-- The shape that an action leaves in the log. -/
def sketch? (pen : Pen) (markerSize : Int) : Action → Option Sketch
  | moveTo target =>
    some ⟨.marker, [target], pen.color, true, some (Box.marker target markerSize)⟩
  | drawTo target => some ⟨.line, [pen.position, target], pen.color, false, none⟩
  | rectangle w h =>
    let box := Box.anchored pen.position w h
    some ⟨.rectangle, box.corners, pen.color, pen.filled, some box⟩
  | circle r =>
    some ⟨.ellipse, [pen.position], pen.color, pen.filled, some (Box.circle pen.position r)⟩
  | triangle b s t =>
    some ⟨.polygon, Drawboard.triangle pen.position b s t, pen.color, pen.filled, none⟩
  | .pen _ | fill _ | clear | reset => none

def style (pen : Pen) : String := if pen.filled then "Filled" else "Outlined"

def pointText (p : Point) : String := s!"({p.x}, {p.y})"

def change (before : Pen) : Action → String
  | moveTo target => s!"Pen moved to {pointText target}"
  | drawTo target => s!"Line drawn from {pointText before.position} to {pointText target}"
  | rectangle w h => s!"{style before} rectangle {w}x{h} drawn"
  | circle r => s!"{style before} circle of radius {r} drawn"
  | triangle b _ _ => s!"{style before} triangle with base {b} drawn"
  | .pen color => s!"Pen color is now {color.name}"
  | fill true => "Fill mode is now ON"
  | fill false => "Fill mode is now OFF"
  | clear => "Drawing area cleared"
  | reset => "Pen moved back to (0, 0)"

end Drawboard.Action
