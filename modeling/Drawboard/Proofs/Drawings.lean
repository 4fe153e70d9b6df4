import Drawboard.Drawing.Run
import Drawboard.Proofs.Grammar

/-! What a line does to a drawing is what its action does, or nothing but a refresh. A property that
every action keeps, and everything else that can be done with a drawing, holds after any run. One
such property is that the pen and the markers stay in range, and from there no action leaves a shape
with a number larger than `2 ^ 32`. -/

namespace Drawboard

def Fits32 (n : Int) : Prop := -2147483648 ≤ n ∧ n ≤ 2147483647

theorem Fits.fits32 {kind : SlotKind} {word : String} {n : Int}
    (h : Fits kind word (.integer n)) : Fits32 n := by
  cases h with
  | integer hw => exact hw.bounds

theorem FitAll.fits32 {slots : List Slot} {words : List String} {values : List Value}
    (h : FitAll slots words values) {n : Int} (hn : .integer n ∈ values) : Fits32 n := by
  induction h with
  | nil => cases hn
  | cons hv _ ih =>
    rcases List.mem_cons.1 hn with rfl | hn
    · exact hv.fits32
    · exact ih hn

def Action.InRange (a : Action) : Prop := ∀ n, .integer n ∈ a.values → Fits32 n

theorem inRange_of_parse {line : String} {c : Command} (h : parse line = .ok c) :
    c.action.InRange := by
  obtain ⟨-, -, hf⟩ := (parse_eq_ok_iff _ _).1 h
  exact fun n => hf.fits32

namespace Drawing

theorem refresh_eq (d : Drawing) :
    d.refresh = { d with refreshes := d.refreshes + if d.watched then 1 else 0 } := by
  unfold refresh
  split <;> rfl

theorem execute_of_ok (d : Drawing) {line : String} {c : Command} (h : parse line = .ok c) :
    d.execute line =
      (.ok ⟨c, c.action.applyTo d.pen, [c.action.change d.pen]⟩, (d.perform c.action).refresh) := by
  unfold execute
  rw [h]
  rfl

theorem execute_of_error (d : Drawing) {line : String} {r : Refusal} (h : parse line = .error r) :
    d.execute line = (.error r, d.refresh) := by
  unfold execute
  rw [h]

theorem execute_cases (d : Drawing) (line : String) :
    (∃ c, parse line = .ok c ∧ (d.execute line).2 = (d.perform c.action).refresh) ∨
      (d.execute line).2 = d.refresh := by
  cases h : parse line with
  | ok c => exact Or.inl ⟨c, rfl, by rw [d.execute_of_ok h]⟩
  | error r => exact Or.inr (by rw [d.execute_of_error h])

/-- What is kept whatever is done with a drawing. -/
structure Kept (P : Drawing → Prop) : Prop where
  perform : ∀ d action, action.InRange → P d → P (d.perform action)
  refresh : ∀ d : Drawing, P d → P d.refresh
  reset : ∀ d : Drawing, P d → P d.reset
  replaceCanvas : ∀ d canvas, P d → P (d.replaceCanvas canvas)
  setMarker : ∀ (d : Drawing) (size : MarkerSize), P d → P { d with markerSize := size.side }

variable {P : Drawing → Prop}

theorem Kept.step (h : Kept P) {d : Drawing} (hd : P d) (s : Step) : P (d.step s) := by
  cases s with
  | execute line =>
    rcases d.execute_cases line with ⟨c, hc, hs⟩ | hs
    · rw [Drawing.step, hs]
      exact h.refresh _ (h.perform _ _ (inRange_of_parse hc) hd)
    · rw [Drawing.step, hs]
      exact h.refresh _ hd
  | checkSyntax line => exact hd
  | isValid line => exact hd
  | reset => exact h.reset _ hd
  | replaceCanvas canvas => exact h.replaceCanvas _ _ hd
  | setMarker size => exact h.setMarker _ _ hd

theorem Kept.after (h : Kept P) {d : Drawing} (hd : P d) (steps : List Step) :
    P (d.after steps) := by
  induction steps generalizing d with
  | nil => exact hd
  | cons s steps ih => exact ih (h.step hd s)

/-- The pen stands at a point of 32-bit coordinates, and markers are of a size they may have. -/
structure Bounded (d : Drawing) : Prop where
  x : Fits32 d.pen.position.x
  y : Fits32 d.pen.position.y
  whole : d.markerSize = some d.markerSide
  low : -2147483648 ≤ d.markerSide
  high : d.markerSide ≤ 2147483648

theorem Bounded.of_eq {d d' : Drawing} (h : d.Bounded) (hp : d'.pen.position = d.pen.position)
    (hm : d'.markerSize = d.markerSize) : d'.Bounded := by
  have hside : d'.markerSide = d.markerSide := by rw [markerSide, hm, markerSide]
  refine ⟨?_, ?_, ?_, ?_, ?_⟩
  · rw [hp]
    exact h.x
  · rw [hp]
    exact h.y
  · rw [hm, hside]
    exact h.whole
  · rw [hside]
    exact h.low
  · rw [hside]
    exact h.high

theorem fits32_zero : Fits32 0 := ⟨by decide, by decide⟩

theorem Bounded.perform {d : Drawing} (h : d.Bounded) {action : Action} (ha : action.InRange) :
    (d.perform action).Bounded := by
  cases action with
  | moveTo target | drawTo target =>
    exact ⟨ha target.x (by simp [Action.values]), ha target.y (by simp [Action.values]), h.whole,
      h.low, h.high⟩
  | reset => exact ⟨fits32_zero, fits32_zero, h.whole, h.low, h.high⟩
  | _ => exact h.of_eq rfl rfl

theorem kept_bounded : Kept Bounded where
  perform _ _ ha h := h.perform ha
  refresh d h := by
    rw [refresh_eq]
    exact h.of_eq rfl rfl
  reset _ h := ⟨fits32_zero, fits32_zero, h.whole, h.low, h.high⟩
  replaceCanvas _ _ h := h.of_eq rfl rfl
  setMarker _ size h := ⟨h.x, h.y, rfl, size.low, size.high⟩

theorem bounded_start (canvas : Canvas) (size : MarkerSize) (watched : Bool) :
    (start canvas (some size.side) watched).Bounded :=
  ⟨fits32_zero, fits32_zero, rfl, size.low, size.high⟩

theorem bounded_after (canvas : Canvas) (size : MarkerSize) (watched : Bool) (steps : List Step) :
    ((start canvas (some size.side) watched).after steps).Bounded :=
  kept_bounded.after (bounded_start canvas size watched) steps

end Drawing

def Point.Near (p : Point) : Prop := p.x.natAbs ≤ 2 ^ 32 ∧ p.y.natAbs ≤ 2 ^ 32

/-- A box whose anchor, size and far corner have no number larger than `2 ^ 32`. -/
structure Box.Near (b : Box) : Prop where
  anchor : Point.Near ⟨b.x, b.y⟩
  size : b.width.natAbs ≤ 2 ^ 32 ∧ b.height.natAbs ≤ 2 ^ 32
  far : Point.Near ⟨b.x + b.width, b.y + b.height⟩

structure Sketch.Near (s : Sketch) : Prop where
  points : ∀ p ∈ s.points, p.Near
  bounds : ∀ b ∈ s.bounds, b.Near

section

variable {p : Point}

theorem near_point (hx : Fits32 p.x) (hy : Fits32 p.y) : p.Near := by
  unfold Fits32 at hx hy
  unfold Point.Near
  omega

theorem Box.near_marker (hx : Fits32 p.x) (hy : Fits32 p.y) {size : Int}
    (hlow : -2147483648 ≤ size) (hhigh : size ≤ 2147483648) : (marker p size).Near := by
  unfold Fits32 at hx hy
  constructor <;> simp only [Point.Near, marker] <;> omega

theorem Box.near_anchored (hx : Fits32 p.x) (hy : Fits32 p.y) {width height : Int}
    (hwidth : Fits32 width) (hheight : Fits32 height) : (anchored p width height).Near := by
  unfold Fits32 at hx hy hwidth hheight
  constructor <;> simp only [Point.Near, anchored] <;> omega

/-- The bound is reached, by the far corner if the center and the radius are the least there are. -/
theorem Box.near_circle (hx : Fits32 p.x) (hy : Fits32 p.y) {radius : Int}
    (hradius : Fits32 radius) : (circle p radius).Near := by
  unfold Fits32 at hx hy hradius
  constructor <;> simp only [Point.Near, circle] <;> omega

theorem natAbs_half_le (n : Int) : (half n).natAbs ≤ n.natAbs := by
  rw [half, Int.natAbs_tdiv]
  exact Nat.div_le_self _ _

theorem near_triangle (hx : Fits32 p.x) (hy : Fits32 p.y) {base side1 : Int} (hbase : Fits32 base)
    (hside : Fits32 side1) (side2 : Int) : ∀ q ∈ triangle p base side1 side2, q.Near := by
  have hhalf := natAbs_half_le base
  unfold Fits32 at hx hy hbase hside
  simp only [triangle, Point.offset, List.forall_mem_cons, List.not_mem_nil, false_implies,
    implies_true, and_true, Point.Near]
  omega

end

/-- A pen and a number in range leave a shape that is near, whichever ends of the range they are at. -/
theorem Drawing.Bounded.near_sketch {d : Drawing} (h : d.Bounded) {action : Action}
    (ha : action.InRange) {sketch : Sketch}
    (hs : action.sketch? d.pen d.markerSide = some sketch) : sketch.Near := by
  obtain ⟨hx, hy, -, hlow, hhigh⟩ := h
  have hpen := near_point hx hy
  cases action with
  | moveTo target =>
    cases hs
    have hx' := ha target.x (by simp [Action.values])
    have hy' := ha target.y (by simp [Action.values])
    refine ⟨List.forall_mem_singleton.2 (near_point hx' hy'), ?_⟩
    rintro _ ⟨⟩
    exact Box.near_marker hx' hy' hlow hhigh
  | drawTo target =>
    cases hs
    have hx' := ha target.x (by simp [Action.values])
    have hy' := ha target.y (by simp [Action.values])
    have hends : ∀ q ∈ [d.pen.position, target], q.Near :=
      List.forall_mem_cons.2 ⟨hpen, List.forall_mem_singleton.2 (near_point hx' hy')⟩
    exact ⟨hends, fun _ hb => absurd hb (Option.not_mem_none _)⟩
  | rectangle w h =>
    cases hs
    have hbox := Box.near_anchored hx hy (ha w (by simp [Action.values]))
      (ha h (by simp [Action.values]))
    refine ⟨List.forall_mem_cons.2 ⟨hbox.anchor, List.forall_mem_singleton.2 hbox.far⟩, ?_⟩
    rintro _ ⟨⟩
    exact hbox
  | circle r =>
    cases hs
    refine ⟨List.forall_mem_singleton.2 hpen, ?_⟩
    rintro _ ⟨⟩
    exact Box.near_circle hx hy (ha r (by simp [Action.values]))
  | triangle b s t =>
    cases hs
    exact ⟨near_triangle hx hy (ha b (by simp [Action.values])) (ha s (by simp [Action.values])) t,
      fun _ hb => absurd hb (Option.not_mem_none _)⟩
  | pen | fill | clear | reset => cases hs

end Drawboard
