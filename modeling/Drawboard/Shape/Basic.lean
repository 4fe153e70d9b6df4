import Drawboard.Color
import Drawboard.Geometry

/-!
Shapes as they are kept in the log of a drawing.
-/

namespace Drawboard

inductive ShapeKind where
  | marker
  | line
  | rectangle
  | ellipse
  | polygon
  deriving DecidableEq

namespace ShapeKind

def all : List ShapeKind := [marker, line, rectangle, ellipse, polygon]

def name : ShapeKind → String
  | marker => "marker"
  | line => "line"
  | rectangle => "rectangle"
  | ellipse => "ellipse"
  | polygon => "polygon"

def named? (name : String) : Option ShapeKind := all.find? (·.name == name)

end ShapeKind

/-- What is known of a shape before it enters a log. -/
structure Sketch where
  kind : ShapeKind
  points : List Point
  color : PenColor
  filled : Bool := false
  bounds : Option Box := none
  deriving DecidableEq

/-- The points that decide how far a shape reaches: the corners of its bounds, or without bounds
its own points. -/
def Sketch.hull (s : Sketch) : List Point :=
  match s.bounds with
  | some b => b.corners
  | none => s.points

def Sketch.extent? (s : Sketch) : Option Extent := Extent.ofPoints? s.hull

structure Shape extends Sketch where
  id : Nat
  command : Int
  deriving DecidableEq

end Drawboard
