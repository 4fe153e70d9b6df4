import Drawboard.Proofs.Culling

/-! Negative sizes. A box can be given from either of two corners across from each other, and the log
and the painter find the same box from both. This is why the sign of a radius has no influence, and why
a rectangle may be drawn from its far corner. A triangle with a negative base is the mirror image of
that with the base made positive, since halves are rounded toward zero. -/

namespace Drawboard

open Binary64

def Point.mirrored (axis : Int) (p : Point) : Point := ⟨2 * axis - p.x, p.y⟩

namespace Box

/-- The same box, given from the corner across. -/
def turned (b : Box) : Box := ⟨b.x + b.width, b.y + b.height, -b.width, -b.height⟩

theorem circle_neg (center : Point) (radius : Int) :
    circle center (-radius) = (circle center radius).turned := by
  rw [turned, circle, circle, mk.injEq]
  refine ⟨?_, ?_, ?_, ?_⟩ <;> ring

theorem anchored_neg (p : Point) (width height : Int) :
    anchored (p.offset width height) (-width) (-height) = (anchored p width height).turned := rfl

variable {b : Box}

theorem extent_turned (b : Box) : b.turned.extent = b.extent := by
  simp only [extent, left, right, top, bottom, turned, add_neg_cancel_right]
  rw [min_comm b.x, max_comm b.x, min_comm b.y, max_comm b.y]

/-- The corners trade places and the sizes change their signs, so nothing else has to be converted. -/
theorem Exact.turned (h : b.Exact) : b.turned.Exact := by
  simp only [Exact, List.forall_mem_cons] at h
  obtain ⟨hx, hy, hwidth, hheight, hright, hbottom, -⟩ := h
  simp only [Exact, List.forall_mem_cons, Box.turned, add_neg_cancel_right]
  exact ⟨hright, hbottom, Value.ofInt_neg hwidth, Value.ofInt_neg hheight, hx, hy, nofun⟩

theorem Exact.normalized_turned (h : b.Exact) :
    (b.turned.frame : Frame Binary64.Value).normalized = b.frame.normalized := by
  have hframe {b : Box} (h : b.Exact) : b.frame.normalized = b.extent.frame := h.normalized_frame
  rw [hframe h.turned, extent_turned, hframe h]

end Box

namespace Canvas

variable {b : Box}

theorem drawEllipse_turned (c : Canvas) (h : b.Exact) (color : PenColor) (filled : Bool) :
    c.drawEllipse b.turned color filled = c.drawEllipse b color filled := by
  rw [drawEllipse, ellipse?, h.normalized_turned, drawEllipse, ellipse?]

theorem drawRectangle_turned (c : Canvas) (h : b.Exact) (color : PenColor) (filled : Bool) :
    c.drawRectangle b.turned color filled = c.drawRectangle b color filled := by
  rw [drawRectangle, rectangle?, h.normalized_turned, drawRectangle, rectangle?]

end Canvas

theorem half_neg (n : Int) : half (-n) = -half n := Int.neg_tdiv n 2

/-- Halving loses at most one, and never the sign. -/
theorem half_bounds (n : Int) :
    |n| - 1 ≤ 2 * |half n| ∧ 2 * |half n| ≤ |n| ∧ (0 ≤ n → 0 ≤ half n) ∧ (n ≤ 0 → half n ≤ 0) := by
  have hnonneg {m : Int} (hm : 0 ≤ m) : m - 1 ≤ 2 * half m ∧ 2 * half m ≤ m ∧ 0 ≤ half m := by
    rw [half, Int.tdiv_eq_ediv_of_nonneg hm]
    omega
  rcases le_total 0 n with h | h
  · obtain ⟨hlow, hhigh, hpos⟩ := hnonneg h
    rw [abs_of_nonneg h, abs_of_nonneg hpos]
    exact ⟨hlow, hhigh, fun _ => hpos, fun _ => by omega⟩
  · obtain ⟨hlow, hhigh, hpos⟩ := hnonneg (neg_nonneg.2 h)
    rw [half_neg] at hlow hhigh hpos
    rw [abs_of_nonpos h, abs_of_nonpos (neg_nonneg.1 hpos)]
    exact ⟨hlow, hhigh, fun _ => by omega, fun _ => neg_nonneg.1 hpos⟩

theorem triangle_neg (p : Point) (base side1 side2 side2' : Int) :
    triangle p (-base) side1 side2 =
      (triangle p base side1 side2').map (·.mirrored p.x) := by
  simp only [triangle, List.map_cons, List.map_nil, Point.mirrored, Point.offset, half_neg,
    List.cons.injEq, Point.mk.injEq, and_true]
  cases p
  simp only [Point.mk.injEq, and_true]
  omega

namespace Action

/-- How far the shape reaches that an action leaves in the log. -/
def extent? (pen : Pen) (markerSize : Int) (action : Action) : Option Extent :=
  (action.sketch? pen markerSize).bind (·.extent?)

variable (pen : Pen) (markerSize : Int)

theorem extent?_circle (radius : Int) :
    (circle radius).extent? pen markerSize = some (Box.circle pen.position radius).extent := rfl

theorem extent?_rectangle (width height : Int) :
    (rectangle width height).extent? pen markerSize =
      some (Box.anchored pen.position width height).extent := rfl

end Action

def Extent.SpansBy (e : Extent) (width height : Int) : Prop :=
  e.high.x - e.low.x = width ∧ e.high.y - e.low.y = height

namespace Box

theorem spansBy_extent (b : Box) : b.extent.SpansBy |b.width| |b.height| := by
  constructor
  · rw [extent, left, right, max_sub_min_eq_abs, add_sub_cancel_left]
  · rw [extent, top, bottom, max_sub_min_eq_abs, add_sub_cancel_left]

theorem center_circle (p : Point) (radius : Int) :
    (circle p radius).extent.low.x + (circle p radius).extent.high.x = 2 * p.x ∧
      (circle p radius).extent.low.y + (circle p radius).extent.high.y = 2 * p.y := by
  constructor
  · rw [extent, left, right, min_add_max, circle]
    ring
  · rw [extent, top, bottom, min_add_max, circle]
    ring

theorem spansBy_circle (p : Point) (radius : Int) :
    (circle p radius).extent.SpansBy (2 * |radius|) (2 * |radius|) := by
  have hside : |radius * 2| = 2 * |radius| := by rw [abs_mul, abs_two, mul_comm]
  have h : (circle p radius).extent.SpansBy |radius * 2| |radius * 2| := spansBy_extent _
  rwa [hside] at h

end Box

/-- A circle is the same, for the log and for the painter, with its radius negated, and the pen is in
the middle of it. A rectangle is the same with both sizes negated, for a pen at the corner across. A
triangle with its base negated is the mirror image in the vertical line through the pen; its apex is
off that line by half of the base, rounded toward the pen. -/
theorem negative_sizes_are_mirror_images (canvas : Canvas) (pen : Pen) (markerSize : Int) :
    (∀ r, ∃ e, (Action.circle r).extent? pen markerSize = some e ∧
        (Action.circle (-r)).extent? pen markerSize = some e ∧
        (e.low.x + e.high.x = 2 * pen.position.x ∧ e.low.y + e.high.y = 2 * pen.position.y) ∧
        e.SpansBy (2 * |r|) (2 * |r|) ∧
        ((Box.circle pen.position r).Exact →
          (Action.circle (-r)).calls canvas pen markerSize =
            (Action.circle r).calls canvas pen markerSize)) ∧
      (∀ w h, ∃ e, (Action.rectangle w h).extent? pen markerSize = some e ∧
        (Action.rectangle (-w) (-h)).extent? (pen.shift w h) markerSize = some e ∧
        e.SpansBy |w| |h| ∧
        ((Box.anchored pen.position w h).Exact →
          (Action.rectangle (-w) (-h)).calls canvas (pen.shift w h) markerSize =
            (Action.rectangle w h).calls canvas pen markerSize)) ∧
      ∀ base side1 side2 side2' p,
        triangle p (-base) side1 side2 =
            (triangle p base side1 side2').map (·.mirrored p.x) ∧
          ∃ h, triangle p base side1 side2 = [p, p.offset base 0, p.offset h (-side1)] ∧
            |base| - 1 ≤ 2 * |h| ∧ 2 * |h| ≤ |base| ∧ (0 ≤ base → 0 ≤ h) ∧
            (base ≤ 0 → h ≤ 0) := by
  refine ⟨fun r => ?_, fun w h => ?_, fun base side1 side2 side2' p => ?_⟩
  · refine ⟨_, Action.extent?_circle pen markerSize r, ?_, Box.center_circle pen.position r,
      Box.spansBy_circle pen.position r, fun hexact => ?_⟩
    · rw [Action.extent?_circle, Box.circle_neg, Box.extent_turned]
    · rw [Action.calls, Box.circle_neg, canvas.drawEllipse_turned hexact, Action.calls]
  · have hbox := Box.anchored_neg pen.position w h
    refine ⟨_, Action.extent?_rectangle pen markerSize w h, ?_, Box.spansBy_extent _,
      fun hexact => ?_⟩
    · rw [Action.extent?_rectangle, Pen.shift, Pen.moveTo, hbox, Box.extent_turned]
    · rw [Action.calls, Pen.shift, Pen.moveTo, hbox, canvas.drawRectangle_turned hexact,
        Action.calls]
  · exact ⟨triangle_neg p base side1 side2 side2', half base, rfl, half_bounds base⟩

/-- A circle and a rectangle around a pen in a corner of the canvas, and a triangle with a base of
five, whose apex is off by two to either side. -/
theorem corner_figures_are_mirror_images :
    let c : Canvas := { serial := 0, width := 84, height := 58, background := ⟨255, 255, 255⟩ }
    let pen : Pen := { position := ⟨3, 2⟩, filled := true }
    let far : Pen := { position := ⟨-37, 22⟩, filled := true }
    (Action.circle (-25)).calls c pen 2 = (Action.circle 25).calls c pen 2 ∧
      (Action.rectangle 40 (-20)).calls c far 2 = (Action.rectangle (-40) 20).calls c pen 2 ∧
      triangle ⟨3, 2⟩ (-5) 7 0 = [⟨3, 2⟩, ⟨-2, 2⟩, ⟨1, -5⟩] := by
  intro c pen far
  obtain ⟨hcircle, hrectangle, htriangle⟩ := negative_sizes_are_mirror_images c pen 2
  obtain ⟨-, -, -, -, -, hcircle⟩ := hcircle 25
  obtain ⟨-, -, -, -, hrectangle⟩ := hrectangle (-40) 20
  obtain ⟨htriangle, -⟩ := htriangle 5 7 0 0 ⟨3, 2⟩
  refine ⟨hcircle (Box.Moderate.exact ?_), hrectangle (Box.Moderate.exact ?_), htriangle.trans ?_⟩
  · simp only [Box.Moderate]
    decide
  · simp only [Box.Moderate]
    decide
  · decide

end Drawboard
