import Drawboard.Canvas.Frame

/-!
Clipping of line segments. A segment is followed from its start, at 0, to its end, at 1; each side
of the frame cuts off the part of the way that lies beyond it.
-/

namespace Drawboard

open scoped Coordinate

/-- One side of a frame: `toward · t ≤ room` holds at the places `t` that are not beyond it. -/
structure Edge (α : Type) where
  toward : α
  room : α

variable {α : Type} [Coordinate α]

/-- What is left of the way from `first` to `last` once each side has cut its part off. -/
def travel (first last : α) : List (Edge α) → Option (α × α)
  | [] => some (first, last)
  | edge :: edges =>
    if edge.toward = Coordinate.ofInt 0 then
      if edge.room < Coordinate.ofInt 0 then none else travel first last edges
    else
      let t := edge.room / edge.toward
      let first := if edge.toward < Coordinate.ofInt 0 then greater first t else first
      let last := if edge.toward < Coordinate.ofInt 0 then last else lesser last t
      if last < first then none else travel first last edges

def Stretch.edges (clip : Stretch α) (start length : α) : List (Edge α) :=
  [⟨-length, start - clip.start⟩, ⟨length, clip.stop - start⟩]

/-- The first and the last spot in a frame on the way from one spot to another. -/
def Frame.clip (clip : Frame α) (a b : Spot α) : Option (Spot α × Spot α) :=
  let dx := b.x - a.x
  let dy := b.y - a.y
  let along (t : α) : Spot α := ⟨a.x + t * dx, a.y + t * dy⟩
  match travel (Coordinate.ofInt 0) (Coordinate.ofInt 1)
      (clip.across.edges a.x dx ++ clip.down.edges a.y dy) with
  | some (first, last) => some (along first, along last)
  | none => none

end Drawboard
