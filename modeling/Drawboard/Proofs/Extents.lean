import Drawboard.Proofs.Lasting
import Drawboard.Proofs.Record

/-! How far shapes reach. The extent of a log is the least box that holds the corners of all bounds in
it and the points of all shapes without bounds. There is one unless a shape has neither, and no action
leaves such a shape. The shapes that actions leave lie around the pen, whatever the signs of their
sizes. -/

namespace Drawboard

namespace Extent

def Covers (e : Extent) (p : Point) : Prop :=
  e.low.x ≤ p.x ∧ p.x ≤ e.high.x ∧ e.low.y ≤ p.y ∧ p.y ≤ e.high.y

/-- An extent covers some points, and each of its sides has one of them on it. -/
structure Spans (e : Extent) (P : Point → Prop) : Prop where
  covers : ∀ p, P p → e.Covers p
  left : ∃ p, P p ∧ p.x = e.low.x
  right : ∃ p, P p ∧ p.x = e.high.x
  top : ∃ p, P p ∧ p.y = e.low.y
  bottom : ∃ p, P p ∧ p.y = e.high.y

variable {e f : Extent} {P Q : Point → Prop}

theorem Spans.congr (h : e.Spans P) (hPQ : ∀ p, P p ↔ Q p) : e.Spans Q := by
  obtain rfl : P = Q := funext fun p => propext (hPQ p)
  exact h

theorem Spans.ordered (h : e.Spans P) : e.low.x ≤ e.high.x ∧ e.low.y ≤ e.high.y := by
  obtain ⟨p, hp, -⟩ := h.left
  obtain ⟨hleft, hright, htop, hbottom⟩ := h.covers p hp
  exact ⟨hleft.trans hright, htop.trans hbottom⟩

theorem spans_ofPoint (p : Point) : (ofPoint p).Spans (· = p) where
  covers := by
    rintro q rfl
    exact ⟨le_rfl, le_rfl, le_rfl, le_rfl⟩
  left := ⟨p, rfl, rfl⟩
  right := ⟨p, rfl, rfl⟩
  top := ⟨p, rfl, rfl⟩
  bottom := ⟨p, rfl, rfl⟩

theorem exists_eq_of_choice {g : Point → Int} {a b c : Int} (hc : c = a ∨ c = b)
    (ha : ∃ p, P p ∧ g p = a) (hb : ∃ p, Q p ∧ g p = b) : ∃ p, (P p ∨ Q p) ∧ g p = c := by
  rcases hc with rfl | rfl
  · obtain ⟨p, hp, hg⟩ := ha
    exact ⟨p, Or.inl hp, hg⟩
  · obtain ⟨p, hp, hg⟩ := hb
    exact ⟨p, Or.inr hp, hg⟩

theorem Spans.join (he : e.Spans P) (hf : f.Spans Q) : (e.join f).Spans fun p => P p ∨ Q p where
  covers p hp := by
    simp only [Covers, Extent.join, min_le_iff, le_max_iff]
    rcases hp with hp | hp
    · obtain ⟨hleft, hright, htop, hbottom⟩ := he.covers p hp
      exact ⟨Or.inl hleft, Or.inl hright, Or.inl htop, Or.inl hbottom⟩
    · obtain ⟨hleft, hright, htop, hbottom⟩ := hf.covers p hp
      exact ⟨Or.inr hleft, Or.inr hright, Or.inr htop, Or.inr hbottom⟩
  left := exists_eq_of_choice (min_choice _ _) he.left hf.left
  right := exists_eq_of_choice (max_choice _ _) he.right hf.right
  top := exists_eq_of_choice (min_choice _ _) he.top hf.top
  bottom := exists_eq_of_choice (max_choice _ _) he.bottom hf.bottom

theorem spans_foldl (h : e.Spans P) (ps : List Point) :
    (ps.foldl (fun e q => e.join (ofPoint q)) e).Spans fun p => P p ∨ p ∈ ps := by
  induction ps generalizing e P with
  | nil => exact h.congr fun p => by simp
  | cons q ps ih =>
    refine (ih (h.join (spans_ofPoint q))).congr fun p => ?_
    rw [List.mem_cons, or_assoc]

theorem ofPoints?_eq_none_iff (ps : List Point) : ofPoints? ps = none ↔ ps = [] := by
  cases ps with
  | nil => exact ⟨fun _ => rfl, fun _ => rfl⟩
  | cons p ps => exact ⟨nofun, nofun⟩

theorem spans_ofPoints? {ps : List Point} (h : ofPoints? ps = some e) : e.Spans (· ∈ ps) := by
  cases ps with
  | nil => cases h
  | cons q ps =>
    cases h
    exact (spans_foldl (spans_ofPoint q) ps).congr fun p => List.mem_cons.symm

end Extent

namespace Sketch

/-- The points that a shape reaches to: two corners of its bounds, or without bounds its points. -/
inductive Reaches (s : Sketch) : Point → Prop
  | anchor {b : Box} : s.bounds = some b → Reaches s ⟨b.x, b.y⟩
  | across {b : Box} : s.bounds = some b → Reaches s ⟨b.x + b.width, b.y + b.height⟩
  | point {p : Point} : s.bounds = none → p ∈ s.points → Reaches s p

theorem mem_hull_iff (s : Sketch) (p : Point) : p ∈ s.hull ↔ s.Reaches p := by
  unfold hull
  split
  · next b hb =>
    rw [Box.corners, List.mem_cons, List.mem_singleton]
    constructor
    · rintro (rfl | rfl)
      · exact .anchor hb
      · exact .across hb
    · intro h
      cases h with
      | anchor h =>
        cases hb.symm.trans h
        exact Or.inl rfl
      | across h =>
        cases hb.symm.trans h
        exact Or.inr rfl
      | point h => cases hb.symm.trans h
  · next hb =>
    refine ⟨.point hb, fun h => ?_⟩
    cases h with
    | anchor h | across h => cases hb.symm.trans h
    | point _ h => exact h

theorem extent?_eq_none_iff (s : Sketch) :
    s.extent? = none ↔ s.bounds = none ∧ s.points = [] := by
  rw [extent?, Extent.ofPoints?_eq_none_iff, hull]
  split
  · next b hb => simp [hb, Box.corners]
  · next hb => simp [hb]

theorem spans_extent? {s : Sketch} {e : Extent} (h : s.extent? = some e) : e.Spans s.Reaches :=
  (Extent.spans_ofPoints? h).congr s.mem_hull_iff

end Sketch

namespace ShapeLog

theorem extentOf?_eq_none_iff (e : Extent) (shapes : List Shape) :
    extentOf? e shapes = none ↔ ∃ s ∈ shapes, s.extent? = none := by
  induction shapes generalizing e with
  | nil => simp [extentOf?]
  | cons s shapes ih =>
    rw [extentOf?]
    cases hs : s.extent? with
    | none => simp [hs]
    | some f => simp [hs, ih]

theorem spans_extentOf? {e g : Extent} {P : Point → Prop} {shapes : List Shape} (he : e.Spans P)
    (h : extentOf? e shapes = some g) :
    g.Spans fun p => P p ∨ ∃ s ∈ shapes, s.Reaches p := by
  induction shapes generalizing e P with
  | nil =>
    cases h
    exact he.congr fun p => by simp
  | cons s shapes ih =>
    rw [extentOf?] at h
    cases hs : s.extent? with
    | none =>
      rw [hs] at h
      cases h
    | some f =>
      rw [hs] at h
      refine (ih (he.join (Sketch.spans_extent? hs)) h).congr fun p => ?_
      rw [List.exists_mem_cons_iff, or_assoc]

theorem extent?_eq_none_iff (log : ShapeLog) :
    log.extent? = none ↔ ∃ s ∈ log.shapes, s.bounds = none ∧ s.points = [] := by
  have hshapes : (∃ s ∈ log.shapes, s.bounds = none ∧ s.points = []) ↔
      ∃ s ∈ log.shapes, s.extent? = none :=
    exists_congr fun s => and_congr_right fun _ => s.extent?_eq_none_iff.symm
  rw [hshapes, extent?]
  cases log.shapes with
  | nil => simp
  | cons s shapes =>
    cases hs : s.extent? with
    | none => simp [hs]
    | some e => simp [hs, extentOf?_eq_none_iff]

theorem spans_extent? {log : ShapeLog} {e : Extent} (h : log.extent? = some e)
    (hne : log.shapes ≠ []) : e.Spans fun p => ∃ s ∈ log.shapes, s.Reaches p := by
  obtain ⟨s, shapes, hshapes⟩ := List.exists_cons_of_ne_nil hne
  simp only [extent?, hshapes] at h
  cases hs : s.extent? with
  | none =>
    simp only [hs] at h
    cases h
  | some f =>
    simp only [hs] at h
    refine (spans_extentOf? (Sketch.spans_extent? hs) h).congr fun p => ?_
    rw [hshapes, List.exists_mem_cons_iff]

/-- A log has no extent just if a shape in it has neither bounds nor points. An empty log lies at the
origin, and any other extent is the least around all that the shapes reach to. -/
structure Measured (log : ShapeLog) : Prop where
  none_iff : log.extent? = none ↔ ∃ s ∈ log.shapes, s.bounds = none ∧ s.points = []
  empty : log.shapes = [] → log.extent? = some ⟨⟨0, 0⟩, ⟨0, 0⟩⟩
  ordered : ∀ e, log.extent? = some e → e.low.x ≤ e.high.x ∧ e.low.y ≤ e.high.y
  spans : log.shapes ≠ [] → ∀ e, log.extent? = some e →
    e.Spans fun p => ∃ s ∈ log.shapes, s.Reaches p

theorem extent?_of_empty {log : ShapeLog} (h : log.shapes = []) :
    log.extent? = some ⟨⟨0, 0⟩, ⟨0, 0⟩⟩ := by
  rw [extent?, h]
  rfl

theorem measured (log : ShapeLog) : log.Measured where
  none_iff := log.extent?_eq_none_iff
  empty := extent?_of_empty
  ordered e he := by
    by_cases hne : log.shapes = []
    · cases he.symm.trans (extent?_of_empty hne)
      exact ⟨le_rfl, le_rfl⟩
    · exact (spans_extent? he hne).ordered
  spans hne _ he := spans_extent? he hne

end ShapeLog

namespace Sketch

/-- A shape has an extent with all its points in it. -/
def Boxed (s : Sketch) : Prop := ∃ e, s.extent? = some e ∧ ∀ p ∈ s.points, e.Covers p

variable {s : Sketch} {Q : Extent → Prop}

theorem exists_extent_of_bounds {b : Box} (h : s.bounds = some b)
    (hQ : ∀ e : Extent, e.Covers ⟨b.x, b.y⟩ → e.Covers ⟨b.x + b.width, b.y + b.height⟩ → Q e) :
    ∃ e, s.extent? = some e ∧ Q e := by
  cases he : s.extent? with
  | none => cases h.symm.trans (s.extent?_eq_none_iff.1 he).1
  | some e =>
    have hcovers := (spans_extent? he).covers
    exact ⟨e, rfl, hQ e (hcovers _ (.anchor h)) (hcovers _ (.across h))⟩

theorem exists_extent_of_points (h : s.bounds = none) (hne : s.points ≠ [])
    (hQ : ∀ e : Extent, (∀ p ∈ s.points, e.Covers p) → Q e) :
    ∃ e, s.extent? = some e ∧ Q e := by
  cases he : s.extent? with
  | none => exact absurd (s.extent?_eq_none_iff.1 he).2 hne
  | some e => exact ⟨e, rfl, hQ e fun p hp => (spans_extent? he).covers p (.point h hp)⟩

end Sketch

/-- What covers two corners across from each other covers all between them, whichever is the lesser. -/
theorem Extent.Covers.between {e : Extent} {p q r : Point} (hp : e.Covers p) (hq : e.Covers q)
    (hx : p.x ≤ r.x ∧ r.x ≤ q.x ∨ q.x ≤ r.x ∧ r.x ≤ p.x)
    (hy : p.y ≤ r.y ∧ r.y ≤ q.y ∨ q.y ≤ r.y ∧ r.y ≤ p.y) : e.Covers r := by
  unfold Extent.Covers at *
  omega

/-- The shape that an action leaves lies around where the pen is then, and around where it was before
unless it is the dot that marks where the pen was moved to. -/
theorem Action.exists_extent_of_sketch? {action : Action} {pen : Pen} {markerSize : Int}
    {sketch : Sketch} (h : action.sketch? pen markerSize = some sketch) :
    ∃ e, sketch.extent? = some e ∧ (∀ p ∈ sketch.points, e.Covers p) ∧
      e.Covers (action.applyTo pen).position ∧
      (sketch.kind ≠ .marker → e.Covers pen.position) := by
  cases action with
  | moveTo target =>
    cases h
    refine Sketch.exists_extent_of_bounds rfl fun e hp hq => ?_
    -- The half is rounded down, so the target is not in the middle but still between the corners.
    have htarget : e.Covers target := by
      refine hp.between hq ?_ ?_ <;> simp only [Box.marker] <;> omega
    exact ⟨List.forall_mem_singleton.2 htarget, htarget, fun hk => absurd rfl hk⟩
  | drawTo target =>
    cases h
    refine Sketch.exists_extent_of_points rfl (List.cons_ne_nil _ _) fun e hps => ?_
    have hpen : e.Covers pen.position := hps _ List.mem_cons_self
    have htarget : e.Covers target := hps _ (List.mem_cons_of_mem _ List.mem_cons_self)
    exact ⟨hps, htarget, fun _ => hpen⟩
  | rectangle w h =>
    cases h
    refine Sketch.exists_extent_of_bounds rfl fun e hp hq => ?_
    have hcorners : ∀ p ∈ (Box.anchored pen.position w h).corners, e.Covers p := by
      rw [Box.corners, List.forall_mem_cons, List.forall_mem_singleton]
      exact ⟨hp, hq⟩
    exact ⟨hcorners, hp, fun _ => hp⟩
  | circle r =>
    cases h
    refine Sketch.exists_extent_of_bounds rfl fun e hp hq => ?_
    have hpen : e.Covers pen.position := by
      refine hp.between hq ?_ ?_ <;> simp only [Box.circle] <;> omega
    exact ⟨List.forall_mem_singleton.2 hpen, hpen, fun _ => hpen⟩
  | triangle b s t =>
    cases h
    refine Sketch.exists_extent_of_points rfl (List.cons_ne_nil _ _) fun e hps => ?_
    have hpen : e.Covers pen.position := hps _ List.mem_cons_self
    exact ⟨hps, hpen, fun _ => hpen⟩
  | pen | fill | clear | reset => cases h

namespace Drawing

def Boxed (d : Drawing) : Prop := ∀ shape ∈ d.log.shapes, shape.Boxed

theorem shapes_perform (d : Drawing) {action : Action} (hne : action ≠ .clear) :
    (d.perform action).log.shapes = d.log.shapes ++
      ((action.sketch? d.pen d.markerSide).map (d.log.shapeOf (d.commands + 1))).toList := by
  rw [perform, logAfter_of_ne_clear d _ hne]
  cases action.sketch? d.pen d.markerSide with
  | none => exact (List.append_nil _).symm
  | some sketch => rfl

theorem forall_shapes_perform {P : Sketch → Prop} {d : Drawing} {action : Action}
    (h : ∀ shape ∈ d.log.shapes, P shape.toSketch)
    (hs : ∀ sketch, action.sketch? d.pen d.markerSide = some sketch → P sketch) :
    ∀ shape ∈ (d.perform action).log.shapes, P shape.toSketch := by
  by_cases hne : action = .clear
  · subst hne
    exact fun _ hshape => absurd hshape List.not_mem_nil
  · intro shape hshape
    rw [d.shapes_perform hne, List.mem_append, Option.mem_toList, Option.map_eq_some_iff] at hshape
    rcases hshape with hshape | ⟨sketch, hsketch, rfl⟩
    · exact h shape hshape
    · exact hs sketch hsketch

theorem boxed_of_empty {d : Drawing} (h : d.log.shapes = []) : d.Boxed := by
  intro shape hs
  rw [h] at hs
  cases hs

theorem Boxed.perform {d : Drawing} (h : d.Boxed) (action : Action) : (d.perform action).Boxed := by
  refine forall_shapes_perform h fun sketch hsketch => ?_
  obtain ⟨e, he, hps, -⟩ := Action.exists_extent_of_sketch? hsketch
  exact ⟨e, he, hps⟩

theorem lasting_boxed : Lasting Boxed where
  perform _ action h := h.perform action
  number _ h := h
  refresh d h := by
    rw [refresh_eq]
    exact h
  reset _ _ := boxed_of_empty rfl
  resize _ _ _ _ := boxed_of_empty rfl

def AroundPen (d d' : Drawing) : Prop :=
  ∀ shape, d'.log.shapes = d.log.shapes ++ [shape] →
    ∃ e, shape.extent? = some e ∧ e.Covers d'.pen.position ∧
      (shape.kind ≠ .marker → e.Covers d.pen.position)

theorem aroundPen_of_same {d d' : Drawing} (h : d'.log = d.log) : AroundPen d d' := by
  intro shape hs
  rw [h] at hs
  cases List.append_right_eq_self.1 hs.symm

theorem aroundPen_perform (d : Drawing) (action : Action) :
    AroundPen d (d.perform action).refresh := by
  intro shape hs
  rw [refresh_eq] at hs ⊢
  by_cases hne : action = .clear
  · subst hne
    exact absurd hs.symm (List.append_ne_nil_of_right_ne_nil _ (List.cons_ne_nil _ _))
  · rw [d.shapes_perform hne, List.append_cancel_left_eq] at hs
    obtain ⟨sketch, hsketch, rfl⟩ := Option.map_eq_some_iff.1 (Option.toList_eq_singleton_iff.1 hs)
    obtain ⟨e, he, -, hafter, hbefore⟩ := Action.exists_extent_of_sketch? hsketch
    exact ⟨e, he, hafter, hbefore⟩

theorem aroundPen_execute (d : Drawing) (line : String) : AroundPen d (d.execute line).2 := by
  rcases d.execute_cases line with ⟨c, -, hs⟩ | hs
  · rw [hs]
    exact d.aroundPen_perform c.action
  · rw [hs, refresh_eq]
    exact aroundPen_of_same rfl

theorem aroundPen_dispatch (d : Drawing) (line : String) : AroundPen d (d.dispatch line).2 := by
  rcases d.dispatch_cases line with ⟨r, -, hs⟩ | ⟨c, n, -, -, hs⟩ | ⟨c, -, -, hs⟩
  · rw [hs, refresh_eq]
    exact aroundPen_of_same rfl
  · rw [hs, refresh_eq]
    exact aroundPen_of_same rfl
  · rw [hs]
    exact d.aroundPen_perform c.action

end Drawing

namespace Session

/-- A session has its statistics, all points of its shapes lie in the extents of these, and whatever
line is executed next, by a handler or not, the shape it may leave lies around the pen. -/
structure Boxed (s : Session) : Prop where
  statistics : ∃ statistics, s.statistics = .ok statistics
  points : ∀ shape ∈ s.drawing.log.shapes,
    ∃ e, shape.extent? = some e ∧ ∀ p ∈ shape.points, e.Covers p
  executed : ∀ line, Drawing.AroundPen s.drawing (s.execute line).2.drawing
  dispatched : ∀ line, Drawing.AroundPen s.drawing (s.dispatch line).2.drawing

theorem boxed_opened {config : Config} {watched : Bool} {kit : Toolkit} {s : Session}
    (h : opened config watched kit = .ok s) : s.drawing.Boxed := by
  obtain ⟨canvas, -, rfl⟩ := opened_eq_ok h
  exact Drawing.boxed_of_empty rfl

theorem boxed_of_drawing {s : Session} (h : s.drawing.Boxed) : s.Boxed where
  statistics := by
    cases he : s.drawing.log.extent? with
    | some e =>
      exact ⟨⟨_, _, _, _, e, _⟩, (s.statistics_eq_ok_iff _).2 ⟨he, rfl, rfl, rfl, rfl, rfl⟩⟩
    | none =>
      obtain ⟨shape, hs, hnone⟩ := (ShapeLog.extent?_eq_none_iff _).1 he
      obtain ⟨e, hsome, -⟩ := h shape hs
      cases ((shape.extent?_eq_none_iff).2 hnone).symm.trans hsome
  points := h
  executed line := by
    rw [drawing_execute]
    exact s.drawing.aroundPen_execute line
  dispatched line := by
    rw [drawing_dispatch]
    exact s.drawing.aroundPen_dispatch line

end Session

/-- The extent of a log is exact, if it has one. That of a session always has one, whatever is asked of
it and with markers of any size. Each of its shapes lies around the points that it is kept with, and
around where the pen was when it was drawn, whatever the signs of its sizes. -/
theorem extents_are_exact_and_available :
    (∀ log : ShapeLog, log.Measured) ∧
      ∀ {config : Config} {watched : Bool} {kit : Toolkit} {s₀ : Session},
        Session.opened config watched kit = .ok s₀ → ∀ requests : List Session.Request,
          (s₀.converse requests).2.Boxed ∧ (s₀.handleAll requests).Boxed := by
  refine ⟨ShapeLog.measured, fun {config watched kit s₀} hs requests => ?_⟩
  have hboxed : (s₀.handleAll requests).Boxed := Session.boxed_of_drawing
    (Session.lasting_handleAll Drawing.lasting_boxed (Session.boxed_opened hs) requests)
  rw [Session.snd_converse]
  exact ⟨hboxed, hboxed⟩

/-- With markers of an odd negative size a point is marked around, and so is it by a circle of a
negative radius. A line without points has no extent. -/
theorem circle_of_negative_radius_lies_around_pen :
    let config := Config.ofValues "Odd" 90 70 defaultBackground (-3)
    let bare : Sketch := ⟨.line, [], .black, false, none⟩
    (({} : ShapeLog).add 1 bare).extent? = none ∧
      ∃ s₀, Session.opened config true = .ok s₀ ∧
        let s := (s₀.converse [.run "drawto 3 4\nmoveto 10 7"]).2
        (∃ statistics, s.statistics = .ok statistics) ∧
          s.drawing.log.extent? = some ⟨⟨0, 0⟩, ⟨12, 9⟩⟩ ∧
          ∃ shape, (s.execute "circle -5").2.drawing.log.shapes = s.drawing.log.shapes ++ [shape] ∧
            ∃ e, shape.extent? = some e ∧ e.Covers ⟨10, 7⟩ := by
  intro config bare
  obtain ⟨hmeasured, hboxed⟩ := extents_are_exact_and_available
  have hbare : (({} : ShapeLog).add 1 bare).extent? = none :=
    (hmeasured _).none_iff.2 ⟨_, List.mem_cons_self, rfl, rfl⟩
  obtain ⟨s₀, hs⟩ : ∃ s₀, Session.opened config true = .ok s₀ := ⟨_, rfl⟩
  refine ⟨hbare, s₀, hs, ?_⟩
  intro s
  have h : s.Boxed := (hboxed hs [.run "drawto 3 4\nmoveto 10 7"]).1
  have hextent : s.drawing.log.extent? = some ⟨⟨0, 0⟩, ⟨12, 9⟩⟩ := by
    cases hs
    decide +kernel
  have hpen : s.drawing.pen.position = ⟨10, 7⟩ := by
    cases hs
    decide +kernel
  have hshapes : (s.execute "circle -5").2.drawing.log.shapes = s.drawing.log.shapes ++
      [s.drawing.log.shapeOf 3 ⟨.ellipse, [⟨10, 7⟩], .black, false, some ⟨15, 12, -10, -10⟩⟩] := by
    cases hs
    decide +kernel
  obtain ⟨e, he, -, hcovers⟩ := h.executed "circle -5" _ hshapes
  have hkind : ShapeKind.ellipse ≠ .marker := by decide
  exact ⟨h.statistics, hextent, _, hshapes, e, he, hpen ▸ hcovers hkind⟩

end Drawboard
