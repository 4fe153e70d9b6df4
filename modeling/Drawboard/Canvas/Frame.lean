import Drawboard.Canvas.Coordinate

/-!
Rectangles in the coordinates of a painter.
-/

namespace Drawboard

open scoped Coordinate

/-- The first number, unless the second is known to be less. -/
def lesser {α : Type} [Coordinate α] (p q : α) : α := if q < p then q else p

/-- The first number, unless the second is known to be greater. -/
def greater {α : Type} [Coordinate α] (p q : α) : α := if p < q then q else p

/-- A piece of one axis, from `start` on. -/
structure Stretch (α : Type) where
  start : α
  size : α
  deriving DecidableEq

namespace Stretch

variable {α : Type} [Coordinate α]

def empty : Stretch α := ⟨Coordinate.ofInt 0, Coordinate.ofInt 0⟩

def stop (s : Stretch α) : α := s.start + s.size

def normalized (s : Stretch α) : Stretch α :=
  if s.size < Coordinate.ofInt 0 then ⟨s.stop, -s.size⟩ else s

def ends (s : Stretch α) : α × α :=
  if s.size < Coordinate.ofInt 0 then (s.stop, s.start) else (s.start, s.stop)

/-- The common part of two pieces, unless it has no length. -/
def meet? (a b : Stretch α) : Option (Stretch α) :=
  let (l, r) := a.ends
  let (l', r') := b.ends
  if l = r ∨ l' = r' ∨ r' ≤ l ∨ r ≤ l' then none
  else some ⟨greater l l', lesser r r' - greater l l'⟩

/-- Whether two pieces have a point in common, their ends included. -/
def touches (a b : Stretch α) : Bool := b.start ≤ a.stop && a.start ≤ b.stop

/-- The piece that spans all of some numbers; of none it is empty. -/
def around : List α → Stretch α
  | [] => empty
  | q :: qs =>
    let low := qs.foldl lesser q
    ⟨low, qs.foldl greater q - low⟩

end Stretch

structure Frame (α : Type) where
  across : Stretch α
  down : Stretch α
  deriving DecidableEq

structure Spot (α : Type) where
  x : α
  y : α
  deriving DecidableEq

namespace Frame

variable {α : Type} [Coordinate α]

def normalized (f : Frame α) : Frame α := ⟨f.across.normalized, f.down.normalized⟩

/-- The common part of two frames. Without an area it is the empty frame at the origin. -/
def intersected (a b : Frame α) : Frame α :=
  match a.across.meet? b.across, a.down.meet? b.down with
  | some across, some down => ⟨across, down⟩
  | _, _ => ⟨Stretch.empty, Stretch.empty⟩

def touches (a b : Frame α) : Bool := a.across.touches b.across && a.down.touches b.down

def around (spots : List (Spot α)) : Frame α :=
  ⟨Stretch.around (spots.map (·.x)), Stretch.around (spots.map (·.y))⟩

end Frame

end Drawboard
