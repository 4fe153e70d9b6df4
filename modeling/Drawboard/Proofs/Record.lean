import Drawboard.Proofs.Drawings

/-! The log of a drawing is a record of its canvas. Drawn again in order, each by its own bounds or
points and in its own color and filling, the shapes in the log give the calls that were made on the
painter since the canvas was last wiped. -/

namespace Drawboard

def Call.isFill : Call → Bool
  | .fill _ => true
  | .draw .. => false

structure Canvas.SameSize (c d : Canvas) : Prop where
  width : c.width = d.width
  height : c.height = d.height

/-- The calls that draw a shape again. A shape that lacks what its kind is drawn by has none, and
neither has a filled line. -/
def Sketch.redraw? (canvas : Canvas) (s : Sketch) : Option (List Call) :=
  match s.kind, s.bounds, s.points with
  | .marker, some box, _ | .ellipse, some box, _ => some (canvas.drawEllipse box s.color s.filled)
  | .rectangle, some box, _ => some (canvas.drawRectangle box s.color s.filled)
  | .line, none, [a, b] => if s.filled then none else some (canvas.drawLine a b s.color)
  | .polygon, none, points => some (canvas.drawPolygon points s.color s.filled)
  | _, _, _ => none

def redrawAll? (canvas : Canvas) : List Shape → Option (List Call)
  | [] => some []
  | s :: shapes => do
    let calls ← s.redraw? canvas
    let rest ← redrawAll? canvas shapes
    pure (calls ++ rest)

theorem redrawAll?_snoc {canvas : Canvas} {shapes : List Shape} {s : Shape}
    {drawn calls : List Call} (h : redrawAll? canvas shapes = some drawn)
    (hs : s.redraw? canvas = some calls) :
    redrawAll? canvas (shapes ++ [s]) = some (drawn ++ calls) := by
  induction shapes generalizing drawn with
  | nil =>
    cases h
    simp [redrawAll?, hs]
  | cons t shapes ih =>
    simp only [redrawAll?, Option.bind_eq_bind, Option.bind_eq_some_iff, Option.pure_def,
      Option.some.injEq] at h
    obtain ⟨first, hfirst, rest, hrest, rfl⟩ := h
    simp [redrawAll?, hfirst, ih hrest]

theorem Canvas.SameSize.clipFrame {α : Type} [Coordinate α] {c d : Canvas} (h : c.SameSize d) :
    (c.clipFrame : Frame α) = d.clipFrame := by
  rw [Canvas.clipFrame, h.width, h.height, Canvas.clipFrame]

namespace Action

/-- What is drawn does not depend on the canvas but for its size. -/
theorem calls_congr {c d : Canvas} (h : c.SameSize d) (pen : Pen) (markerSize : Int)
    {action : Action} (hne : action ≠ .clear) :
    action.calls c pen markerSize = action.calls d pen markerSize := by
  have hf : (c.clipFrame : Frame Binary64.Value) = d.clipFrame := h.clipFrame
  cases action with
  | moveTo | circle => simp only [calls, Canvas.drawEllipse, Canvas.ellipse?, hf]
  | drawTo => simp only [calls, Canvas.drawLine, Canvas.line?, Canvas.clipSegment, hf]
  | rectangle => simp only [calls, Canvas.drawRectangle, Canvas.rectangle?, hf]
  | triangle => simp only [calls, Canvas.drawPolygon, Canvas.polygon?, hf]
  | clear => exact absurd rfl hne
  | pen | fill | reset => rfl

theorem isFill_of_mem_callsFor {figure : Option (Figure Binary64.Value)} {color : PenColor}
    {filled : Bool} {call : Call} (h : call ∈ Canvas.callsFor figure color filled) :
    call.isFill = false := by
  obtain ⟨f, -, rfl⟩ := List.mem_map.1 h
  rfl

theorem isFill_of_mem_calls {canvas : Canvas} {pen : Pen} {markerSize : Int} {action : Action}
    (hne : action ≠ .clear) {call : Call} (h : call ∈ action.calls canvas pen markerSize) :
    call.isFill = false := by
  cases action with
  | clear => exact absurd rfl hne
  | pen | fill | reset => cases h
  | _ => exact isFill_of_mem_callsFor h

theorem redraw?_of_sketch? {pen : Pen} {markerSize : Int} {action : Action} {s : Sketch}
    (h : action.sketch? pen markerSize = some s) (canvas : Canvas) :
    s.redraw? canvas = some (action.calls canvas pen markerSize) := by
  cases action with
  | pen | fill | clear | reset => cases h
  | _ =>
    cases h
    rfl

theorem calls_of_sketch?_eq_none {pen : Pen} {markerSize : Int} {action : Action}
    (h : action.sketch? pen markerSize = none) (hne : action ≠ .clear) (canvas : Canvas) :
    action.calls canvas pen markerSize = [] := by
  cases action with
  | clear => exact absurd rfl hne
  | pen | fill | reset => rfl
  | _ => cases h

end Action

namespace Drawing

/-- After the last wiping, in the color of the canvas, come the calls that the log is drawn by. -/
def Faithful (d : Drawing) : Prop :=
  ∃ past drawn, d.calls = past ++ .fill d.canvas.background :: drawn ∧
    (∀ call ∈ drawn, call.isFill = false) ∧
    ∀ fresh : Canvas, fresh.SameSize d.canvas → redrawAll? fresh d.log.shapes = some drawn

theorem Faithful.of_eq {d d' : Drawing} (h : d.Faithful) (hcanvas : d'.canvas = d.canvas)
    (hlog : d'.log = d.log) (hcalls : d'.calls = d.calls) : d'.Faithful := by
  rw [Faithful, hcanvas, hlog, hcalls]
  exact h

theorem faithful_of_wiped {d : Drawing} (past : List Call) (hlog : d.log.shapes = [])
    (hcalls : d.calls = past ++ d.canvas.wipe) : d.Faithful := by
  refine ⟨past, [], hcalls, by simp, fun fresh _ => ?_⟩
  rw [hlog]
  rfl

theorem logAfter_of_ne_clear (d : Drawing) (number : Nat) {action : Action}
    (hne : action ≠ .clear) :
    d.logAfter number action =
      match action.sketch? d.pen d.markerSide with
      | some sketch => d.log.add number sketch
      | none => d.log := by
  cases action with
  | clear => exact absurd rfl hne
  | _ => rfl

theorem Faithful.perform {d : Drawing} (h : d.Faithful) (action : Action) :
    (d.perform action).Faithful := by
  by_cases hne : action = .clear
  · subst hne
    exact faithful_of_wiped d.calls rfl rfl
  · obtain ⟨past, drawn, hcalls, hdrawn, hredraw⟩ := h
    have hl := d.logAfter_of_ne_clear (d.commands + 1) hne
    refine ⟨past, drawn ++ action.calls d.canvas d.pen d.markerSide, ?_, ?_, fun fresh hsize => ?_⟩
    · simp only [Drawing.perform, hcalls, List.append_assoc, List.cons_append]
    · intro call hc
      rcases List.mem_append.1 hc with hc | hc
      · exact hdrawn call hc
      · exact Action.isFill_of_mem_calls hne hc
    · have hsame : action.calls d.canvas d.pen d.markerSide =
          action.calls fresh d.pen d.markerSide :=
        (Action.calls_congr hsize d.pen d.markerSide hne).symm
      rw [hsame]
      cases hs : action.sketch? d.pen d.markerSide with
      | none =>
        rw [hs] at hl
        simp only [Drawing.perform, hl, Action.calls_of_sketch?_eq_none hs hne fresh,
          List.append_nil]
        exact hredraw fresh hsize
      | some sketch =>
        rw [hs] at hl
        simp only [Drawing.perform, hl]
        exact redrawAll?_snoc (hredraw fresh hsize) (Action.redraw?_of_sketch? hs fresh)

theorem kept_faithful : Kept Faithful where
  perform _ action _ h := h.perform action
  refresh d h := by
    rw [refresh_eq]
    exact h.of_eq rfl rfl rfl
  reset d _ := faithful_of_wiped d.calls rfl rfl
  replaceCanvas d _ _ := faithful_of_wiped d.calls rfl rfl
  setMarker _ _ h := h.of_eq rfl rfl rfl

/-- After any run, what was painted since the canvas was last wiped is what the log gives when its
shapes are drawn again on a fresh canvas of the same size. -/
theorem log_redraws_canvas (canvas : Canvas) (size : MarkerSize) (watched : Bool)
    (steps : List Step) :
    let d := (start canvas (some size.side) watched).after steps
    ∃ past drawn, d.calls = past ++ .fill d.canvas.background :: drawn ∧
      (∀ call ∈ drawn, call.isFill = false) ∧
      ∀ fresh : Canvas, fresh.SameSize d.canvas → redrawAll? fresh d.log.shapes = some drawn :=
  kept_faithful.after (faithful_of_wiped [] rfl rfl) steps

/-- A disc has been drawn since the canvas was cleared, and it is drawn again on a black canvas. -/
theorem disc_redraws_on_black :
    let canvas : Canvas := { serial := 0, width := 90, height := 70, background := ⟨255, 255, 255⟩ }
    let d := (start canvas (some 2) true).after
      [.execute "drawto 30 20", .execute "clear", .execute "circle -5"]
    ∃ past drawn, d.calls = past ++ .fill d.canvas.background :: drawn ∧ drawn.length = 1 ∧
      redrawAll? { d.canvas with serial := 7, background := PenColor.black.rgb } d.log.shapes =
        some drawn := by
  intro canvas d
  obtain ⟨past, drawn, hcalls, -, hredraw⟩ := log_redraws_canvas canvas { side := 2 } true
    [.execute "drawto 30 20", .execute "clear", .execute "circle -5"]
  have h := hredraw { d.canvas with serial := 7, background := PenColor.black.rgb } ⟨rfl, rfl⟩
  refine ⟨past, drawn, hcalls, ?_, h⟩
  have hlen := congrArg (Option.map List.length) h
  have hone := hlen.symm.trans (by decide +kernel : _ = some 1)
  exact Option.some.inj hone

end Drawing

end Drawboard
