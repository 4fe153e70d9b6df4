/-!
Points and boxes of whole numbers. A box is given by an anchor and a size; a negative size extends
it to the left of the anchor or above it.
-/

namespace Drawboard

structure Point where
  x : Int
  y : Int
  deriving DecidableEq

namespace Point

def origin : Point := ⟨0, 0⟩

def offset (p : Point) (dx dy : Int) : Point := ⟨p.x + dx, p.y + dy⟩

end Point

def half (n : Int) : Int := n.tdiv 2

structure Box where
  x : Int
  y : Int
  width : Int
  height : Int
  deriving DecidableEq

namespace Box

def corners (b : Box) : List Point := [⟨b.x, b.y⟩, ⟨b.x + b.width, b.y + b.height⟩]

def anchored (p : Point) (width height : Int) : Box := ⟨p.x, p.y, width, height⟩

/-- The box of the dot that marks a point; an odd size leaves one more below and to the right. -/
def marker (p : Point) (size : Int) : Box := ⟨p.x - size / 2, p.y - size / 2, size, size⟩

def circle (center : Point) (radius : Int) : Box :=
  ⟨center.x - radius, center.y - radius, radius * 2, radius * 2⟩

end Box

/-- The corners of a triangle whose base runs to the right from a point, with the apex above the
middle of the base at the height of the first side. The second side has no influence. -/
def triangle (p : Point) (base side1 _side2 : Int) : List Point :=
  [p, p.offset base 0, p.offset (half base) (-side1)]

/-- The least and the greatest corner of what a shape covers. -/
structure Extent where
  low : Point
  high : Point
  deriving DecidableEq

namespace Extent

def ofPoint (p : Point) : Extent := ⟨p, p⟩

def join (a b : Extent) : Extent :=
  ⟨⟨min a.low.x b.low.x, min a.low.y b.low.y⟩, ⟨max a.high.x b.high.x, max a.high.y b.high.y⟩⟩

/-- The extent of a list of points, if there are any. -/
def ofPoints? : List Point → Option Extent
  | [] => none
  | p :: ps => some (ps.foldl (fun e q => e.join (ofPoint q)) (ofPoint p))

end Extent

end Drawboard
