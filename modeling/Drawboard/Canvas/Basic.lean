import Drawboard.Canvas.Segment
import Drawboard.Color
import Drawboard.Failure
import Drawboard.Geometry

/-!
The canvas and the calls it makes on its painter. Figures too far outside the canvas to be seen are
not painted, and lines and rectangles are cut off a little way outside. Painters compute in
binary64. A toolkit stands for what is not defined here: the texts that name colors, and the images
behind canvases. An image of a size can be had or not, and there are numbers that cannot be asked for.
-/

namespace Drawboard

/-- What comes of asking for an image: it has the size asked for, or it is null and has no size, or
the numbers are refused with a message. -/
inductive Raster where
  | whole
  | null
  | refused (message : String)

structure Toolkit where
  color? : String → Option Rgb
  raster : Int → Int → Raster

/-- Colors by their hexadecimal digits, and an image of every size. -/
def Toolkit.plain : Toolkit := ⟨Rgb.ofHex?, fun _ _ => .whole⟩

/-- A canvas. The serial number tells apart canvases of the same size and background. A canvas on a
null image has no size. -/
structure Canvas where
  serial : Nat
  width : Int
  height : Int
  background : Rgb
  width_nonneg : 0 ≤ width := by omega
  height_nonneg : 0 ≤ height := by omega
  deriving DecidableEq

inductive Figure (α : Type) where
  | line (a b : Spot α)
  | rectangle (frame : Frame α)
  | ellipse (frame : Frame α)
  | polygon (spots : List (Spot α))
  deriving DecidableEq

inductive Call where
  | fill (color : Rgb)
  | draw (figure : Figure Binary64.Value) (color : PenColor) (filled : Bool)
  deriving DecidableEq

variable {α : Type} [Coordinate α]

def Point.spot (p : Point) : Spot α := ⟨Coordinate.ofInt p.x, Coordinate.ofInt p.y⟩

def Box.frame (b : Box) : Frame α :=
  ⟨⟨Coordinate.ofInt b.x, Coordinate.ofInt b.width⟩,
   ⟨Coordinate.ofInt b.y, Coordinate.ofInt b.height⟩⟩

namespace Canvas

/-- Makes a canvas of a given size, which has to be positive, and background, which has to be a
color. That the image is null is not noticed. -/
def create (serial : Nat) (width height background : Json) (kit : Toolkit := .plain) :
    Except Failure Canvas :=
  match width.whole?, height.whole? with
  | some w, some h =>
    if pos : 0 < w ∧ 0 < h then
      match background.string?.bind kit.color? with
      | some color =>
        match kit.raster w h with
        | .whole => .ok ⟨serial, w, h, color, Int.le_of_lt pos.1, Int.le_of_lt pos.2⟩
        | .null => .ok ⟨serial, 0, 0, color, Int.le_refl 0, Int.le_refl 0⟩
        | .refused message => .error (.image message)
      | none => .error (.background background)
    else .error (.canvasSize width height)
  | _, _ => .error (.canvasSize width height)

/-- How far outside the canvas figures are cut off. -/
def clipMargin : Int := 16

def clipFrame (c : Canvas) : Frame α :=
  Box.frame ⟨-clipMargin, -clipMargin, c.width + 2 * clipMargin, c.height + 2 * clipMargin⟩

def clipSegment (c : Canvas) (a b : Point) : Option (Spot α × Spot α) :=
  c.clipFrame.clip a.spot b.spot

def line? (c : Canvas) (a b : Point) : Option (Figure α) :=
  (c.clipSegment a b).map fun (s, t) => .line s t

def rectangle? (c : Canvas) (b : Box) : Option (Figure α) :=
  let frame : Frame α := b.frame.normalized
  if frame.touches c.clipFrame then some (.rectangle (frame.intersected c.clipFrame)) else none

def ellipse? (c : Canvas) (b : Box) : Option (Figure α) :=
  let frame : Frame α := b.frame.normalized
  if frame.touches c.clipFrame then some (.ellipse frame) else none

def polygon? (c : Canvas) (ps : List Point) : Option (Figure α) :=
  let spots : List (Spot α) := ps.map (·.spot)
  if (Frame.around spots).touches c.clipFrame then some (.polygon spots) else none

def callsFor (figure : Option (Figure Binary64.Value)) (color : PenColor) (filled : Bool) :
    List Call :=
  figure.toList.map (.draw · color filled)

def drawLine (c : Canvas) (a b : Point) (color : PenColor) : List Call :=
  callsFor (c.line? a b) color false

def drawRectangle (c : Canvas) (b : Box) (color : PenColor) (filled : Bool) : List Call :=
  callsFor (c.rectangle? b) color filled

def drawEllipse (c : Canvas) (b : Box) (color : PenColor) (filled : Bool) : List Call :=
  callsFor (c.ellipse? b) color filled

def drawPolygon (c : Canvas) (ps : List Point) (color : PenColor) (filled : Bool) : List Call :=
  callsFor (c.polygon? ps) color filled

def wipe (c : Canvas) : List Call := [.fill c.background]

end Canvas

end Drawboard
