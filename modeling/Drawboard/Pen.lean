import Drawboard.Color
import Drawboard.Geometry

/-!
The pen: its color, whether shapes are filled, and where it stands. A label says all three.
-/

namespace Drawboard

structure Pen where
  color : PenColor := .black
  filled : Bool := false
  position : Point := Point.origin
  deriving DecidableEq

namespace Pen

def moveTo (p : Pen) (target : Point) : Pen := { p with position := target }

def shift (p : Pen) (dx dy : Int) : Pen := p.moveTo (p.position.offset dx dy)

def home (p : Pen) : Pen := p.moveTo Point.origin

def label (p : Pen) : String :=
  let fill := if p.filled then "on" else "off"
  s!"Pen: {p.color.name}   Fill: {fill}   Position: ({p.position.x}, {p.position.y})"

end Pen

end Drawboard
