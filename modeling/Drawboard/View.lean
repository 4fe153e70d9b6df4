import Drawboard.Canvas.Basic

/-!
The view of a canvas: the picture inside a border, and a dotted crosshair at the pen as long as
the pen is on the canvas. What is painted is computed in binary64; whether the pen is on the canvas
is exact.
-/

namespace Drawboard

open scoped Coordinate

structure View where
  canvas : Canvas
  penPosition : Point := Point.origin
  showCursor : Bool := true
  deriving DecidableEq

/-- What a view paints, in its own coordinates: the picture is one to the right and one down. -/
inductive ViewMark where
  | background
  | picture (corner : Spot Binary64.Value)
  | border (frame : Frame Binary64.Value)
  | cursorLine (a b : Spot Binary64.Value)
  deriving DecidableEq

namespace View

def borderColor : Rgb := ⟨0xa0, 0xa0, 0xa0⟩

def cursorColor : Rgb := ⟨0xff, 0x8c, 0x00⟩

def cursorReach : Int := 6

def setCanvas (v : View) (canvas : Canvas) : View := { v with canvas := canvas }

def setPen (v : View) (p : Point) : View := { v with penPosition := p }

def sizeHint (v : View) : Int × Int := (v.canvas.width + 2, v.canvas.height + 2)

def cursorVisible (v : View) : Bool :=
  0 ≤ v.penPosition.x && v.penPosition.x < v.canvas.width &&
    0 ≤ v.penPosition.y && v.penPosition.y < v.canvas.height

def crosshair (v : View) : List ViewMark :=
  if v.cursorVisible then
    let center : Spot Binary64.Value := (v.penPosition.offset 1 1).spot
    let reach := Binary64.Value.ofInt cursorReach
    [.cursorLine ⟨center.x - reach, center.y⟩ ⟨center.x + reach, center.y⟩,
     .cursorLine ⟨center.x, center.y - reach⟩ ⟨center.x, center.y + reach⟩]
  else []

def border (v : View) : Box := ⟨0, 0, v.canvas.width + 1, v.canvas.height + 1⟩

def paint (v : View) : List ViewMark :=
  [.background, .picture (Point.mk 1 1).spot, .border v.border.frame] ++
    if v.showCursor then v.crosshair else []

end View

end Drawboard
