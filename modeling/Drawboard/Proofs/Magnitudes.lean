import Drawboard.Proofs.Culling

/-! How large numbers become. The pen may stand at one end of the 32-bit numbers, and a radius or a side
be at the other, but whatever lines are executed, and whenever the size of markers is changed, no shape
comes to have a number larger than `2 ^ 32`. What a painter computes from such numbers is computed
without rounding. -/

namespace Drawboard

open Binary64

/-- A value that is a whole number of less than 54 binary digits, and not one rounded to it. -/
def Binary64.Value.Exactly (v : Value) (n : Int) : Prop := v = .finite n ∧ n.natAbs < 2 ^ 53

theorem Binary64.Value.exactly_ofInt {n : Int} (hn : n.natAbs < 2 ^ 53) : (ofInt n).Exactly n :=
  ⟨ofInt_of_small hn, hn⟩

theorem Binary64.Value.exactly_sub {n m : Int} (h : (n - m).natAbs < 2 ^ 53) :
    ((finite n).sub (finite m)).Exactly (n - m) :=
  ⟨sub_finite h, h⟩

/-- The start of a stretch, its size and its computed far end are exact. The size is negative if it
leads back. -/
structure Stretch.Leads (s : Stretch Binary64.Value) (l r : Int) : Prop where
  start : s.start.Exactly l
  size : s.size.Exactly (r - l)
  stop : s.stop.Exactly r

structure Frame.Leads (f : Frame Binary64.Value) (p q : Point) : Prop where
  across : f.across.Leads p.x q.x
  down : f.down.Leads p.y q.y

theorem Stretch.leads_between {l r : Int} (hl : l.natAbs ≤ 2 ^ 51) (hr : r.natAbs ≤ 2 ^ 51) :
    (between l r).Leads l r where
  start := ⟨rfl, by omega⟩
  size := ⟨rfl, by omega⟩
  stop := ⟨stop_between (by omega), by omega⟩

theorem Stretch.leads_ofInt {x w : Int} (hx : x.natAbs ≤ 2 ^ 51) (hw : w.natAbs ≤ 2 ^ 51)
    (hsum : (x + w).natAbs ≤ 2 ^ 51) :
    (⟨.ofInt x, .ofInt w⟩ : Stretch Binary64.Value).Leads x (x + w) := by
  have hbetween : (⟨.ofInt x, .ofInt w⟩ : Stretch Binary64.Value) = between x (x + w) := by
    rw [Value.ofInt_of_small (n := x) (by omega), Value.ofInt_of_small (n := w) (by omega), between,
      add_sub_cancel_left]
  rw [hbetween]
  exact leads_between hx hsum

theorem Point.Near.moderate {p : Point} (h : p.Near) : p.Moderate :=
  ⟨h.1.trans (by decide), h.2.trans (by decide)⟩

theorem Box.Near.leads_frame {b : Box} (h : b.Near) :
    b.frame.Leads ⟨b.x, b.y⟩ ⟨b.x + b.width, b.y + b.height⟩ ∧
      b.frame.normalized.Leads b.extent.low b.extent.high := by
  obtain ⟨⟨hx, hy⟩, ⟨hwidth, hheight⟩, hright, hbottom⟩ := h
  dsimp only at hx hy hright hbottom
  constructor
  · exact ⟨Stretch.leads_ofInt (by omega) (by omega) (by omega),
      Stretch.leads_ofInt (by omega) (by omega) (by omega)⟩
  · have hmoderate : b.Moderate := by
      simp only [Moderate, List.forall_mem_cons, List.not_mem_nil, false_implies, implies_true,
        and_true]
      omega
    rw [hmoderate.normalized_frame]
    have hleft : b.left.natAbs ≤ 2 ^ 51 ∧ b.right.natAbs ≤ 2 ^ 51 := by
      rw [left, right]
      omega
    have htop : b.top.natAbs ≤ 2 ^ 51 ∧ b.bottom.natAbs ≤ 2 ^ 51 := by
      rw [top, bottom]
      omega
    exact ⟨Stretch.leads_between hleft.1 hleft.2, Stretch.leads_between htop.1 htop.2⟩

namespace Sketch

/-- What a painter computes from a shape is not rounded: the points, how far one is from another,
the frame around them, and the frame of the bounds as it is handed over and as it is normalized. -/
structure Unrounded (s : Sketch) : Prop where
  spots : ∀ p ∈ s.points, (p.spot : Spot Binary64.Value).x.Exactly p.x ∧
    (p.spot : Spot Binary64.Value).y.Exactly p.y
  ways : ∀ p ∈ s.points, ∀ q ∈ s.points,
    ((q.spot : Spot Binary64.Value).x.sub p.spot.x).Exactly (q.x - p.x) ∧
      ((q.spot : Spot Binary64.Value).y.sub p.spot.y).Exactly (q.y - p.y)
  around : ∀ e, Extent.ofPoints? s.points = some e →
    (Frame.around (s.points.map (·.spot))).Leads e.low e.high
  handed : ∀ b ∈ s.bounds, b.frame.Leads ⟨b.x, b.y⟩ ⟨b.x + b.width, b.y + b.height⟩
  normalized : ∀ b ∈ s.bounds, b.frame.normalized.Leads b.extent.low b.extent.high

variable {s : Sketch}

theorem Near.leads_around (h : s.Near) {e : Extent} (he : Extent.ofPoints? s.points = some e) :
    (Frame.around (s.points.map (·.spot))).Leads e.low e.high := by
  have hmoderate : ∀ p ∈ s.points, p.Moderate := fun p hp => (h.points p hp).moderate
  have hspots : s.points.map (·.spot) = s.points.map (·.exactSpot) :=
    List.map_congr_left fun p hp => (hmoderate p hp).spot_eq
  obtain ⟨hlow, hhigh⟩ := (Extent.spans_ofPoints? he).sides_le hmoderate
  rw [hspots, Frame.around_eq_frame he hmoderate]
  exact ⟨Stretch.leads_between hlow.1 hhigh.1, Stretch.leads_between hlow.2 hhigh.2⟩

theorem Near.unrounded (h : s.Near) : s.Unrounded where
  spots p hp := by
    obtain ⟨hx, hy⟩ := h.points p hp
    exact ⟨Value.exactly_ofInt (by omega), Value.exactly_ofInt (by omega)⟩
  ways p hp q hq := by
    obtain ⟨hpx, hpy⟩ := h.points p hp
    obtain ⟨hqx, hqy⟩ := h.points q hq
    rw [(h.points p hp).moderate.spot_eq, (h.points q hq).moderate.spot_eq]
    exact ⟨Value.exactly_sub (by omega), Value.exactly_sub (by omega)⟩
  around _ := h.leads_around
  handed b hb := (h.bounds b hb).leads_frame.1
  normalized b hb := (h.bounds b hb).leads_frame.2

end Sketch

namespace Drawing

def Near (d : Drawing) : Prop := d.Bounded ∧ ∀ shape ∈ d.log.shapes, shape.Near

theorem kept_near : Kept Near where
  perform _ _ ha h :=
    ⟨h.1.perform ha, forall_shapes_perform h.2 fun _ hsketch => h.1.near_sketch ha hsketch⟩
  refresh d h := by
    refine ⟨kept_bounded.refresh d h.1, ?_⟩
    rw [refresh_eq]
    exact h.2
  reset d h := ⟨kept_bounded.reset d h.1, fun _ hs => absurd hs List.not_mem_nil⟩
  replaceCanvas d canvas h :=
    ⟨kept_bounded.replaceCanvas d canvas h.1, fun _ hs => absurd hs List.not_mem_nil⟩
  setMarker d size h := ⟨kept_bounded.setMarker d size h.1, h.2⟩

theorem near_after (canvas : Canvas) (size : MarkerSize) (watched : Bool) (steps : List Step) :
    ((start canvas (some size.side) watched).after steps).Near :=
  kept_near.after
    ⟨bounded_start canvas size watched, fun _ hs => absurd hs List.not_mem_nil⟩ steps

/-- After any run the pen stands at 32-bit coordinates, no shape in the log has a number larger than
`2 ^ 32`, and nothing is rounded that a painter computes from one. The same goes for the numbers and
the shape of whatever command comes next. -/
theorem reachable_geometry_is_exact (canvas : Canvas) (size : MarkerSize) (watched : Bool)
    (steps : List Step) :
    let d := (start canvas (some size.side) watched).after steps
    (Fits32 d.pen.position.x ∧ Fits32 d.pen.position.y) ∧
      (∀ shape ∈ d.log.shapes, shape.Near ∧ shape.Unrounded) ∧
      ∀ line c, parse line = .ok c →
        (∀ n ∈ c.action.handed d.pen d.markerSide, (Value.ofInt n).Exactly n) ∧
        ∀ sketch, c.action.sketch? d.pen d.markerSide = some sketch →
          sketch.Near ∧ sketch.Unrounded := by
  intro d
  obtain ⟨hbounded, hshapes⟩ : d.Near := near_after canvas size watched steps
  refine ⟨⟨hbounded.x, hbounded.y⟩, fun shape hs => ?_, fun line c hc => ⟨fun n hn => ?_, ?_⟩⟩
  · exact ⟨hshapes shape hs, (hshapes shape hs).unrounded⟩
  · exact Value.exactly_ofInt (Handler.exact_handed hbounded (inRange_of_parse hc) n hn)
  · intro sketch hsketch
    have hnear := hbounded.near_sketch (inRange_of_parse hc) hsketch
    exact ⟨hnear, hnear.unrounded⟩

/-- A circle in the lower corner with the least radius, and after it a line right across. -/
theorem least_radius_is_exact :
    let c : Canvas := { serial := 0, width := 72, height := 54, background := ⟨255, 255, 255⟩ }
    let b : Box := ⟨0, 0, -4294967296, -4294967296⟩
    let d := (start c (some 2) true).after [.setMarker ⟨-2147483648, by decide, by decide⟩,
      .execute "moveto -2147483648 -2147483648", .execute "circle -2147483648"]
    (∃ shape ∈ d.log.shapes, shape.bounds = some b ∧
        b.frame.normalized.Leads ⟨-4294967296, -4294967296⟩ ⟨0, 0⟩) ∧
      ∀ command, parse "drawto 2147483647 2147483647" = .ok command →
        ∀ sketch, command.action.sketch? d.pen d.markerSide = some sketch → sketch.Unrounded := by
  intro c b d
  obtain ⟨-, hshapes, hnext⟩ := reachable_geometry_is_exact c ⟨2, by decide, by decide⟩ true
    [.setMarker ⟨-2147483648, by decide, by decide⟩, .execute "moveto -2147483648 -2147483648",
      .execute "circle -2147483648"]
  have hlast : d.log.shapes[1]? = some ⟨⟨.ellipse, [⟨-2147483648, -2147483648⟩], .black, false, b⟩,
      1, 2⟩ := by decide +kernel
  have hmem := List.mem_of_getElem? hlast
  refine ⟨⟨_, hmem, rfl, (hshapes _ hmem).2.normalized b rfl⟩, fun command hc sketch hsketch => ?_⟩
  exact ((hnext _ command hc).2 sketch hsketch).2

end Drawing

end Drawboard
