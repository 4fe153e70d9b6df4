import Drawboard.Proofs.Extents
import Drawboard.Proofs.Trimming

/-! Figures that are left out. An ellipse or a polygon is painted just if the extent of a shape with
its bounds or its points has a point in common with the clip region, and then as it is. The painter
computes the frame of a figure in its own way, with sizes in place of far corners, but nothing that it
computes is rounded for coordinates of up to `2 ^ 51`. -/

namespace Drawboard

open Binary64

namespace Region

variable {r s : Region}

/-- Regions that are not empty have a point in common unless they are apart. -/
theorem exists_common_iff (hr : r.left ≤ r.right ∧ r.top ≤ r.bottom)
    (hs : s.left ≤ s.right ∧ s.top ≤ s.bottom) :
    (∃ p, r.Covers p ∧ s.Covers p) ↔ ¬r.Apart s := by
  constructor
  · rintro ⟨p, ⟨hl, hr, ht, hb⟩, hl', hr', ht', hb'⟩ hapart
    rcases hapart with h | h | h | h <;> have h' := (Rat.cast_lt (K := ℝ)).2 h <;> linarith
  · intro hapart
    simp only [Apart, not_or, not_lt] at hapart
    obtain ⟨hrs, hsr, hrs', hsr'⟩ := hapart
    refine ⟨⟨(max r.left s.left : Rat), (max r.top s.top : Rat)⟩, ?_⟩
    simp only [Covers, Rat.cast_le, le_max_iff, max_le_iff, le_refl, true_or, or_true, true_and]
    exact ⟨⟨⟨hr.1, hrs⟩, hr.2, hrs'⟩, ⟨hsr, hs.1⟩, hsr', hs.2⟩

def Beyond (r s : Region) : Prop :=
  (∀ p, r.Covers p → p.x < s.left) ∨ (∀ p, r.Covers p → s.right < p.x) ∨
    (∀ p, r.Covers p → p.y < s.top) ∨ ∀ p, r.Covers p → s.bottom < p.y

theorem Apart.beyond (h : r.Apart s) : r.Beyond s := by
  rcases h with h | h | h | h <;> have h' := (Rat.cast_lt (K := ℝ)).2 h
  · exact Or.inl fun p hp => hp.2.1.trans_lt h'
  · exact Or.inr (Or.inl fun p hp => h'.trans_le hp.1)
  · exact Or.inr (Or.inr (Or.inl fun p hp => hp.2.2.2.trans_lt h'))
  · exact Or.inr (Or.inr (Or.inr fun p hp => h'.trans_le hp.2.2.1))

end Region

namespace Extent

def region (e : Extent) : Region := ⟨e.low.x, e.high.x, e.low.y, e.high.y⟩

/-- What a painter is given for an extent if nothing is rounded. -/
def frame (e : Extent) : Frame Binary64.Value :=
  ⟨.between e.low.x e.high.x, .between e.low.y e.high.y⟩

/-- An extent has its corners in order, and sums of their coordinates are not rounded. -/
structure Moderate (e : Extent) : Prop where
  ordered : e.low.x ≤ e.high.x ∧ e.low.y ≤ e.high.y
  high : e.high.x.natAbs ≤ 2 ^ 52 ∧ e.high.y.natAbs ≤ 2 ^ 52

theorem ordered_region (e : Extent) (h : e.Moderate) :
    e.region.left ≤ e.region.right ∧ e.region.top ≤ e.region.bottom :=
  ⟨Int.cast_le.2 h.ordered.1, Int.cast_le.2 h.ordered.2⟩

theorem touches_clipFrame_iff (e : Extent) (c : Canvas) (h : e.Moderate) :
    e.frame.touches c.clipFrame = true ↔ ¬e.region.Apart c.clipRegion :=
  c.touches_between_iff h.ordered.1 h.ordered.2 h.high.1 h.high.2

theorem foldl_join_eq (e : Extent) (ps : List Point) :
    ps.foldl (fun e q => e.join (ofPoint q)) e =
      ⟨⟨(ps.map (·.x)).foldl min e.low.x, (ps.map (·.y)).foldl min e.low.y⟩,
        ⟨(ps.map (·.x)).foldl max e.high.x, (ps.map (·.y)).foldl max e.high.y⟩⟩ := by
  induction ps generalizing e with
  | nil => rfl
  | cons q ps ih => exact ih _

end Extent

/-- The bound up to which nothing that is computed from a point is rounded. -/
def Point.Moderate (p : Point) : Prop := p.x.natAbs ≤ 2 ^ 51 ∧ p.y.natAbs ≤ 2 ^ 51

def Point.exactSpot (p : Point) : Spot Binary64.Value := ⟨.finite p.x, .finite p.y⟩

theorem Point.Moderate.spot_eq {p : Point} (h : p.Moderate) : p.spot = p.exactSpot := by
  have hx : Coordinate.ofInt p.x = Value.finite p.x :=
    Value.ofInt_of_small (h.1.trans_lt (by decide))
  have hy : Coordinate.ofInt p.y = Value.finite p.y :=
    Value.ofInt_of_small (h.2.trans_lt (by decide))
  rw [spot, hx, hy, exactSpot]

/-- Each side of an extent has one of its points on it, so no side is larger than they are. -/
theorem Extent.Spans.sides_le {e : Extent} {P : Point → Prop} (h : e.Spans P)
    (hP : ∀ p, P p → p.Moderate) : e.low.Moderate ∧ e.high.Moderate := by
  obtain ⟨⟨l, hl, hleft⟩, ⟨r, hr, hright⟩, ⟨t, ht, htop⟩, ⟨b, hb, hbottom⟩⟩ :=
    And.intro h.left (And.intro h.right (And.intro h.top h.bottom))
  exact ⟨⟨hleft ▸ (hP l hl).1, htop ▸ (hP t ht).2⟩, hright ▸ (hP r hr).1, hbottom ▸ (hP b hb).2⟩

namespace Stretch

theorem foldl_lesser {q : Int} (hq : q ≤ 2 ^ 52) (qs : List Int) :
    (qs.map fun n : Int => Value.finite n).foldl lesser (.finite q) =
      .finite (qs.foldl min q : Int) := by
  induction qs generalizing q with
  | nil => rfl
  | cons n qs ih =>
    have hmin : lesser (.finite q) (.finite n) = Value.finite (min q n : Int) :=
      Value.Stands.lesser_eq (Or.inl rfl) hq
    rw [List.map_cons, List.foldl_cons, List.foldl_cons, hmin]
    exact ih (by omega)

theorem foldl_greater (q : Int) (qs : List Int) :
    (qs.map fun n : Int => Value.finite n).foldl greater (.finite q) =
      .finite (qs.foldl max q : Int) := by
  induction qs generalizing q with
  | nil => rfl
  | cons n qs ih =>
    rw [List.map_cons, List.foldl_cons, List.foldl_cons, Value.greater_finite]
    exact ih _

/-- The size is computed as a difference, which is not rounded for ends of up to `2 ^ 51`. -/
theorem around_eq_between {q l r : Int} {qs : List Int} (hlow : qs.foldl min q = l)
    (hhigh : qs.foldl max q = r) (hq : q.natAbs ≤ 2 ^ 51) (hl : l.natAbs ≤ 2 ^ 51)
    (hr : r.natAbs ≤ 2 ^ 51) :
    around ((q :: qs).map fun n : Int => Value.finite n) = between l r := by
  have hsize : (Value.finite r).sub (.finite l) = .finite (r - l : Int) :=
    Value.sub_finite (by omega)
  rw [List.map_cons, around, foldl_lesser (by omega), foldl_greater, hlow, hhigh, between]
  exact congrArg (Stretch.mk _) hsize

end Stretch

theorem Frame.around_eq_frame {ps : List Point} {e : Extent} (he : Extent.ofPoints? ps = some e)
    (hps : ∀ p ∈ ps, p.Moderate) : Frame.around (ps.map (·.exactSpot)) = e.frame := by
  obtain ⟨hlow, hhigh⟩ := (Extent.spans_ofPoints? he).sides_le hps
  cases ps with
  | nil => cases he
  | cons p ps =>
    rw [Extent.ofPoints?, Option.some_inj, Extent.foldl_join_eq] at he
    have hp := hps p List.mem_cons_self
    have hx := Stretch.around_eq_between (congrArg (·.low.x) he) (congrArg (·.high.x) he) hp.1
      hlow.1 hhigh.1
    have hy := Stretch.around_eq_between (congrArg (·.low.y) he) (congrArg (·.high.y) he) hp.2
      hlow.2 hhigh.2
    rw [Extent.frame, ← hx, ← hy]
    simp only [around, List.map_cons, List.map_map, Point.exactSpot]
    rfl

namespace Canvas

/-- A figure of some extent is painted just if it reaches into the clip region. If it is not, all of
it is more than the margin beyond one side of the canvas. -/
structure Culls (c : Canvas) (e : Extent) (figure : Call) (calls : List Call) : Prop where
  painted_iff : calls = [figure] ↔ ∃ p, e.region.Covers p ∧ c.clipRegion.Covers p
  skipped_iff : calls = [] ↔ ¬∃ p, e.region.Covers p ∧ c.clipRegion.Covers p
  beyond : calls = [] → e.region.Beyond c.clipRegion

theorem ordered_clipRegion (c : Canvas) :
    c.clipRegion.left ≤ c.clipRegion.right ∧ c.clipRegion.top ≤ c.clipRegion.bottom := by
  have hwidth : (0 : Rat) ≤ c.width := Int.cast_nonneg c.width_nonneg
  have hheight : (0 : Rat) ≤ c.height := Int.cast_nonneg c.height_nonneg
  simp only [clipRegion]
  constructor <;> linarith

variable {c : Canvas} {e : Extent} {color : PenColor} {filled : Bool}

theorem culls_of_frame (he : e.Moderate) {frame : Frame Binary64.Value} (hframe : frame = e.frame)
    (figure : Figure Binary64.Value) :
    c.Culls e (.draw figure color filled)
      (callsFor (if frame.touches c.clipFrame then some figure else none) color filled) := by
  have htouches := e.touches_clipFrame_iff c he
  have hcommon := Region.exists_common_iff (e.ordered_region he) c.ordered_clipRegion
  rw [hframe]
  split
  · next h =>
    have hapart := htouches.1 h
    exact ⟨iff_of_true rfl (hcommon.2 hapart),
      iff_of_false (List.cons_ne_nil _ _) (not_not.2 (hcommon.2 hapart)), nofun⟩
  · next h =>
    have hapart := not_not.1 (mt htouches.2 h)
    have hnone := mt hcommon.1 (not_not.2 hapart)
    exact ⟨iff_of_false nofun hnone, iff_of_true rfl hnone, fun _ => hapart.beyond⟩

end Canvas

namespace Box

def extent (b : Box) : Extent := ⟨⟨b.left, b.top⟩, ⟨b.right, b.bottom⟩⟩

theorem ofPoints?_corners (b : Box) : Extent.ofPoints? b.corners = some b.extent := rfl

theorem Moderate.extent {b : Box} (h : b.Moderate) : b.extent.Moderate where
  ordered := ⟨b.left_le_right, b.top_le_bottom⟩
  high := ⟨h.right, h.bottom⟩

end Box

namespace Canvas

/-- An ellipse is painted just if the extent of a shape with its bounds meets the clip region, and a
polygon if that of a shape with its points does: the ellipse in a frame that is this extent, the
polygon through its points. -/
theorem figures_are_painted_iff_in_reach (c : Canvas) (s : Sketch) (color : PenColor)
    (filled : Bool) :
    (∀ b, s.bounds = some b → b.Moderate → ∃ e, s.extent? = some e ∧
        c.Culls e (.draw (.ellipse e.frame) color filled) (c.drawEllipse b color filled)) ∧
      (s.bounds = none → s.points ≠ [] → (∀ p ∈ s.points, p.Moderate) →
        ∃ e, s.extent? = some e ∧
          c.Culls e (.draw (.polygon (s.points.map (·.exactSpot))) color filled)
            (c.drawPolygon s.points color filled)) := by
  refine ⟨fun b hb hmoderate => ⟨b.extent, ?_, ?_⟩, fun hnone hne hps => ?_⟩
  · rw [Sketch.extent?, Sketch.hull, hb]
    exact b.ofPoints?_corners
  · rw [drawEllipse, ellipse?, hmoderate.normalized_frame]
    exact culls_of_frame hmoderate.extent rfl _
  · cases he : s.extent? with
    | none => exact absurd (s.extent?_eq_none_iff.1 he).2 hne
    | some e =>
      rw [Sketch.extent?, Sketch.hull, hnone] at he
      have hspans := Extent.spans_ofPoints? he
      have hhigh := (hspans.sides_le hps).2
      have hspots : s.points.map (·.spot) = s.points.map (·.exactSpot) :=
        List.map_congr_left fun p hp => (hps p hp).spot_eq
      have hmoderate : e.Moderate :=
        ⟨hspans.ordered, hhigh.1.trans (by decide), hhigh.2.trans (by decide)⟩
      refine ⟨e, rfl, ?_⟩
      rw [drawPolygon, polygon?, hspots]
      exact culls_of_frame hmoderate (Frame.around_eq_frame he hps) _

/-- A flat ellipse that is given from its right end and touches the end of the margin is painted, and
a triangle that starts behind it is not. -/
theorem flat_ellipse_at_margin_is_painted :
    let c : Canvas := { serial := 0, width := 96, height := 76, background := ⟨255, 255, 255⟩ }
    c.drawEllipse ⟨146, 40, -34, 0⟩ .red true =
        [.draw (.ellipse ⟨.between 112 146, .between 40 40⟩) .red true] ∧
      c.drawPolygon [⟨113, 0⟩, ⟨140, 0⟩, ⟨128, -9⟩] .red true = [] := by
  intro c
  have hbox : Box.Moderate ⟨146, 40, -34, 0⟩ := by
    simp only [Box.Moderate]
    decide
  have hpoints : ∀ p ∈ [⟨113, 0⟩, ⟨140, 0⟩, ⟨128, -9⟩], Point.Moderate p := by
    simp only [Point.Moderate]
    decide
  obtain ⟨e, he, hellipse⟩ := (c.figures_are_painted_iff_in_reach
    ⟨.ellipse, [⟨129, 40⟩], .red, true, some ⟨146, 40, -34, 0⟩⟩ .red true).1 _ rfl hbox
  obtain ⟨f, hf, hpolygon⟩ := (c.figures_are_painted_iff_in_reach
    ⟨.polygon, [⟨113, 0⟩, ⟨140, 0⟩, ⟨128, -9⟩], .red, true, none⟩ .red true).2 rfl
      (List.cons_ne_nil _ _) hpoints
  obtain rfl : e = ⟨⟨112, 40⟩, ⟨146, 40⟩⟩ := Option.some_inj.1 (he.symm.trans (by decide))
  obtain rfl : f = ⟨⟨113, -9⟩, ⟨140, 0⟩⟩ := Option.some_inj.1 (hf.symm.trans (by decide))
  refine ⟨hellipse.painted_iff.2 ⟨⟨112, 40⟩, ?_, ?_⟩, hpolygon.skipped_iff.2 ?_⟩
  · norm_num [Region.Covers, Extent.region]
  · norm_num [Region.Covers, clipRegion, c]
  · rintro ⟨p, hp, hclip⟩
    have hleft : (113 : ℝ) ≤ p.x := by exact_mod_cast hp.1
    have hright : p.x ≤ 112 := by
      have h := hclip.2.1
      norm_num [clipRegion, c] at h
      exact h
    linarith

end Canvas

end Drawboard
