import Drawboard.Proofs.Canonical
import Drawboard.Proofs.Handlers
import Drawboard.Proofs.Record

/-! The color of the pen, whether it fills, and the second sides of triangles have no part in where
anything is drawn. Two runs on lines that differ only in these, from drawings that differ only in
color and filling, end in such drawings, and call their painters with the same figures in the same
order. If the runs start from the same drawing and differ in second sides alone, nothing differs but
the colors that canvases of different backgrounds are wiped in. -/

namespace Drawboard

/-- The actions are the same but for the color of a pen, whether it is to fill, or the second side of
a triangle. -/
inductive Action.Alike : Action → Action → Prop where
  | same (action : Action) : Alike action action
  | pen (color color' : PenColor) : Alike (.pen color) (.pen color')
  | fill (on on' : Bool) : Alike (.fill on) (.fill on')
  | triangle (base side1 side2 side2' : Int) :
      Alike (.triangle base side1 side2) (.triangle base side1 side2')

/-- The actions are the same but for the second side of a triangle. -/
inductive Action.SameButSide : Action → Action → Prop where
  | same (action : Action) : SameButSide action action
  | triangle (base side1 side2 side2' : Int) :
      SameButSide (.triangle base side1 side2) (.triangle base side1 side2')

theorem Action.SameButSide.alike {a a' : Action} (h : a.SameButSide a') : a.Alike a' := by
  cases h with
  | same => exact .same a
  | triangle base side1 side2 side2' => exact .triangle base side1 side2 side2'

/-- Neither line is a command, or both are commands and their actions are so related. -/
inductive Matched (R : Action → Action → Prop) (line line' : String) : Prop where
  | refused {r r' : Refusal} (h : parse line = .error r) (h' : parse line' = .error r')
  | read {c c' : Command} (h : parse line = .ok c) (h' : parse line' = .ok c')
      (hR : R c.action c'.action)

theorem Matched.of_action? {R : Action → Action → Prop} {line line' : String} {a a' : Action}
    (hR : R a a') (h : action? line = some a) (h' : action? line' = some a') :
    Matched R line line' := by
  obtain ⟨c, hc, rfl⟩ := exists_parse_of_action? h
  obtain ⟨c', hc', rfl⟩ := exists_parse_of_action? h'
  exact .read hc hc' hR

theorem Matched.alike {line line' : String} (h : Matched Action.SameButSide line line') :
    Matched Action.Alike line line' := by
  cases h with
  | refused hr hr' => exact .refused hr hr'
  | read hc hc' hR => exact .read hc hc' hR.alike

def Sketch.outline (s : Sketch) : Sketch := { s with color := .black, filled := false }

def Shape.outline (s : Shape) : Shape := { s with color := .black, filled := false }

def ShapeLog.outline (log : ShapeLog) : ShapeLog :=
  { log with shapes := log.shapes.map Shape.outline }

/-- What a call draws, if it does not just paint the canvas in one color. -/
def Call.figure? : Call → Option (Figure Binary64.Value)
  | .fill _ => none
  | .draw figure _ _ => some figure

/-- What a call draws and how, if it does not just paint the canvas in one color. -/
def Call.drawn? : Call → Option (Figure Binary64.Value × PenColor × Bool)
  | .fill _ => none
  | .draw figure color filled => some (figure, color, filled)

def Call.FillsNoLine : Call → Prop
  | .draw (.line _ _) _ filled => filled = false
  | _ => True

def Call.Fills : Call → Prop
  | .draw _ _ filled => filled = true
  | .fill _ => True

/-- What has been painted of a line of a program: no line is filled, and a marker is. -/
structure PaintedAsKind (line : String) (calls : List Call) : Prop where
  segment : ∀ call ∈ calls, call.FillsNoLine
  marker : ∀ target, action? line = some (.moveTo target) → ∀ call ∈ calls, call.Fills

theorem paintedAsKind_nil (line : String) : PaintedAsKind line [] where
  segment := fun _ hc => absurd hc List.not_mem_nil
  marker := fun _ _ _ hc => absurd hc List.not_mem_nil

/-- A marker is filled and a line is not. -/
structure Sketch.FilledAsKind (s : Sketch) : Prop where
  marker : s.kind = .marker → s.filled = true
  line : s.kind = .line → s.filled = false

namespace Drawing

/-- The drawings are the same but for colors and fillings. Their canvases are of one size. -/
structure Alike (d d' : Drawing) : Prop where
  position : d.pen.position = d'.pen.position
  log : d.log.outline = d'.log.outline
  commands : d.commands = d'.commands
  markerSize : d.markerSize = d'.markerSize
  size : d.canvas.SameSize d'.canvas

/-- What two runs keep to each other: what they have drawn on, what they add to the calls as it is
viewed, and where they break. -/
structure Coupled {β : Type} (R : Action → Action → Prop) (D : Drawing → Drawing → Prop)
    (view : Call → β) : Prop where
  fault : ∀ {d d' : Drawing} {a a' : Action}, R a a' → D d d' →
    d.fault? a = d'.fault? a'
  calls : ∀ {d d' : Drawing} {a a' : Action}, R a a' → D d d' →
    (a.calls d.canvas d.pen d.markerSide).map view =
      (a'.calls d'.canvas d'.pen d'.markerSide).map view
  perform : ∀ {d d' : Drawing} {a a' : Action}, R a a' → D d d' → D (d.perform a) (d'.perform a')
  count : ∀ {d d' : Drawing}, D d d' →
    D { d with commands := d.commands + 1 } { d' with commands := d'.commands + 1 }
  refresh : ∀ {d d' : Drawing}, D d d' → D d.refresh d'.refresh

variable {β : Type} {R : Action → Action → Prop} {D : Drawing → Drawing → Prop}
  {view : Call → β} {d d' : Drawing}

theorem Coupled.dispatch (h : Coupled R D view) (hD : D d d') {line line' : String}
    (hl : Matched R line line') :
    ∃ added added', (d.dispatch line).2.calls = d.calls ++ added ∧
      (d'.dispatch line').2.calls = d'.calls ++ added' ∧ added.map view = added'.map view ∧
      D (d.dispatch line).2 (d'.dispatch line').2 := by
  cases hl with
  | refused hr hr' =>
    rw [dispatch_of_error hr, dispatch_of_error hr']
    refine ⟨[], [], ?_, ?_, rfl, h.refresh hD⟩
    · rw [refresh_eq, List.append_nil]
    · rw [refresh_eq, List.append_nil]
  | @read c c' hc hc' hR =>
    have hsame := h.fault hR hD
    cases hn : d'.fault? c'.action with
    | some n =>
      rw [dispatch_of_fault hc (hsame.trans hn), dispatch_of_fault hc' hn]
      refine ⟨[], [], ?_, ?_, rfl, h.refresh (h.count hD)⟩
      · rw [refresh_eq, List.append_nil]
      · rw [refresh_eq, List.append_nil]
    | none =>
      rw [dispatch_of_no_fault hc (hsame.trans hn), dispatch_of_no_fault hc' hn]
      refine ⟨_, _, ?_, ?_, h.calls hR hD, h.refresh (h.perform hR hD)⟩
      · rw [refresh_eq]
        rfl
      · rw [refresh_eq]
        rfl

theorem Coupled.dispatchAll (h : Coupled R D view) (hD : D d d') {lines lines' : List String}
    (hl : List.Forall₂ (Matched R) lines lines') :
    ∃ added added', (d.dispatchAll lines).2.calls = d.calls ++ added ∧
      (d'.dispatchAll lines').2.calls = d'.calls ++ added' ∧ added.map view = added'.map view ∧
      D (d.dispatchAll lines).2 (d'.dispatchAll lines').2 := by
  induction hl generalizing d d' with
  | nil => exact ⟨[], [], (List.append_nil _).symm, (List.append_nil _).symm, rfl, hD⟩
  | cons hline _ ih =>
    obtain ⟨first, first', hfirst, hfirst', hview, hnext⟩ := h.dispatch hD hline
    obtain ⟨rest, rest', hrest, hrest', hviews, hlast⟩ := ih hnext
    refine ⟨first ++ rest, first' ++ rest', ?_, ?_, ?_, hlast⟩
    · rw [← List.append_assoc, ← hfirst]
      exact hrest
    · rw [← List.append_assoc, ← hfirst']
      exact hrest'
    · rw [List.map_append, List.map_append, hview, hviews]

end Drawing

namespace Action

variable {a a' : Action} {pen pen' : Pen}

theorem Alike.position_applyTo (h : Alike a a') (hp : pen.position = pen'.position) :
    (a.applyTo pen).position = (a'.applyTo pen').position := by
  cases h with
  | same =>
    cases a with
    | moveTo | drawTo | reset => rfl
    | _ => exact hp
  | _ => exact hp

theorem Alike.handed (h : Alike a a') (hp : pen.position = pen'.position) (markerSize : Int) :
    a.handed pen markerSize = a'.handed pen' markerSize := by
  cases h with
  | same => cases a <;> simp only [Action.handed, hp]
  | pen | fill => rfl
  | triangle => simp only [Action.handed, hp, Drawboard.triangle]

theorem map_figure?_callsFor (figure : Option (Figure Binary64.Value)) (color : PenColor)
    (filled : Bool) :
    (Canvas.callsFor figure color filled).map Call.figure? = figure.toList.map some := by
  rw [Canvas.callsFor, List.map_map]
  rfl

theorem Alike.isMove (h : Alike a a') : a.isMove = a'.isMove := by
  cases h <;> rfl

theorem Alike.figures (h : Alike a a') (hp : pen.position = pen'.position) (canvas : Canvas)
    (markerSize : Int) :
    (a.calls canvas pen markerSize).map Call.figure? =
      (a'.calls canvas pen' markerSize).map Call.figure? := by
  cases h with
  | same =>
    cases a <;> simp only [calls, hp, Canvas.drawEllipse, Canvas.drawLine, Canvas.drawRectangle,
      Canvas.drawPolygon, map_figure?_callsFor]
  | pen | fill => rfl
  | triangle => simp only [calls, hp, Canvas.drawPolygon, map_figure?_callsFor, Drawboard.triangle]

theorem Alike.outline_sketch? (h : Alike a a') (hp : pen.position = pen'.position)
    (markerSize : Int) :
    (a.sketch? pen markerSize).map Sketch.outline =
      (a'.sketch? pen' markerSize).map Sketch.outline := by
  cases h with
  | same => cases a <;> simp only [sketch?, hp, Option.map, Sketch.outline]
  | pen | fill => rfl
  | triangle => simp only [sketch?, hp, Option.map, Sketch.outline, Drawboard.triangle]

theorem Alike.figures_of_sameSize (h : Alike a a') (hp : pen.position = pen'.position)
    {canvas canvas' : Canvas} (hsize : canvas.SameSize canvas') (markerSize : Int) :
    (a.calls canvas pen markerSize).map Call.figure? =
      (a'.calls canvas' pen' markerSize).map Call.figure? := by
  -- Clearing paints each canvas in its own background, and that is no figure.
  by_cases hne : a' = .clear
  · subst hne
    cases h
    rfl
  · rw [h.figures hp canvas, calls_congr hsize pen' markerSize hne]

theorem SameButSide.applyTo (h : SameButSide a a') (pen : Pen) :
    a.applyTo pen = a'.applyTo pen := by
  cases h <;> rfl

theorem SameButSide.handed (h : SameButSide a a') (pen : Pen) (markerSize : Int) :
    a.handed pen markerSize = a'.handed pen markerSize := by
  cases h <;> rfl

theorem SameButSide.calls (h : SameButSide a a') (canvas : Canvas) (pen : Pen) (markerSize : Int) :
    a.calls canvas pen markerSize = a'.calls canvas pen markerSize := by
  cases h <;> rfl

theorem SameButSide.logAfter (h : SameButSide a a') (d : Drawing) (number : Nat) :
    d.logAfter number a = d.logAfter number a' := by
  cases h <;> rfl

theorem filledAsKind_of_sketch? {markerSize : Int} {s : Sketch}
    (h : a.sketch? pen markerSize = some s) : s.FilledAsKind := by
  cases a with
  | pen | fill | clear | reset => cases h
  | moveTo =>
    cases h
    exact ⟨fun _ => rfl, nofun⟩
  | drawTo =>
    cases h
    exact ⟨nofun, fun _ => rfl⟩
  | rectangle | circle | triangle =>
    cases h
    exact ⟨nofun, nofun⟩

theorem fillsNoLine_callsFor {figure : Option (Figure Binary64.Value)} {filled : Bool}
    (h : ∀ a b, figure = some (.line a b) → filled = false) (color : PenColor) :
    ∀ call ∈ Canvas.callsFor figure color filled, call.FillsNoLine := by
  intro call hc
  obtain ⟨f, hf, rfl⟩ := List.mem_map.1 hc
  cases f with
  | line a b => exact h a b (Option.mem_toList.1 hf)
  | _ => trivial

theorem fillsNoLine_calls (canvas : Canvas) (pen : Pen) (markerSize : Int) (action : Action) :
    ∀ call ∈ action.calls canvas pen markerSize, call.FillsNoLine := by
  cases action with
  | pen | fill | reset => exact fun _ hc => absurd hc List.not_mem_nil
  | clear => exact List.forall_mem_singleton.2 trivial
  | drawTo => exact fillsNoLine_callsFor (fun _ _ _ => rfl) _
  | moveTo | circle =>
    refine fillsNoLine_callsFor (fun _ _ h => ?_) _
    rw [Canvas.ellipse?, Option.ite_none_right_eq_some] at h
    cases h.2
  | rectangle =>
    refine fillsNoLine_callsFor (fun _ _ h => ?_) _
    rw [Canvas.rectangle?, Option.ite_none_right_eq_some] at h
    cases h.2
  | triangle =>
    refine fillsNoLine_callsFor (fun _ _ h => ?_) _
    rw [Canvas.polygon?, Option.ite_none_right_eq_some] at h
    cases h.2

theorem fills_calls_moveTo (canvas : Canvas) (pen : Pen) (markerSize : Int) (target : Point) :
    ∀ call ∈ (moveTo target).calls canvas pen markerSize, call.Fills := by
  intro call hc
  obtain ⟨f, -, rfl⟩ := List.mem_map.1 hc
  rfl

end Action

theorem ShapeLog.outline_add (log : ShapeLog) (command : Int) (s : Sketch) :
    (log.add command s).outline = log.outline.add command s.outline := by
  simp only [ShapeLog.add, outline, List.map_append]
  rfl

namespace Drawing

variable {β : Type} {d d' : Drawing}

theorem outline_logAfter (d : Drawing) (number : Nat) {action : Action} (hne : action ≠ .clear) :
    (d.logAfter number action).outline =
      match (action.sketch? d.pen d.markerSide).map Sketch.outline with
      | some sketch => d.log.outline.add number sketch
      | none => d.log.outline := by
  rw [d.logAfter_of_ne_clear number hne]
  cases action.sketch? d.pen d.markerSide with
  | none => rfl
  | some sketch => exact ShapeLog.outline_add d.log number sketch

theorem Alike.logAfter (h : d.Alike d') {a a' : Action} (ha : a.Alike a') (number : Nat) :
    (d.logAfter number a).outline = (d'.logAfter number a').outline := by
  have hsketch := ha.outline_sketch? h.position d.markerSide
  by_cases hne : a = .clear
  · subst hne
    cases ha
    have houtline := congrArg ShapeLog.nextId h.log
    have hid : d.log.nextId = d'.log.nextId := houtline
    simp only [Drawing.logAfter, ShapeLog.clear, hid]
  · have hne' : a' ≠ .clear := by
      rintro rfl
      cases ha
      exact hne rfl
    rw [d.outline_logAfter number hne, d'.outline_logAfter number hne', hsketch, h.log,
      markerSide_congr h.markerSize]

theorem coupled_alike : Coupled Action.Alike Alike Call.figure? where
  fault ha h := by
    have hside := markerSide_congr h.markerSize
    exact fault?_congr ha.isMove h.markerSize (hside ▸ ha.handed h.position _)
  calls ha h := by
    rw [ha.figures_of_sameSize h.position h.size, markerSide_congr h.markerSize]
  perform {d d' a a'} ha h :=
    { position := ha.position_applyTo h.position
      log := by
        have hlog := h.logAfter ha (d'.commands + 1)
        rw [perform, perform, h.commands]
        exact hlog
      commands := congrArg (· + 1) h.commands
      markerSize := h.markerSize
      size := h.size }
  count h := ⟨h.position, h.log, congrArg (· + 1) h.commands, h.markerSize, h.size⟩
  refresh h := by
    rw [refresh_eq, refresh_eq]
    exact ⟨h.position, h.log, h.commands, h.markerSize, h.size⟩

/-- The drawings are the same but for the calls made before, for how often whoever watches was told,
and for what the view does not tell of the backgrounds. -/
structure Twin (view : Call → β) (d d' : Drawing) : Prop extends Alike d d' where
  pen : d.pen = d'.pen
  sameLog : d.log = d'.log
  background : view (.fill d.canvas.background) = view (.fill d'.canvas.background)

theorem Twin.calls {view : Call → β} (h : Twin view d d') (action : Action) :
    (action.calls d.canvas d.pen d.markerSide).map view =
      (action.calls d'.canvas d'.pen d'.markerSide).map view := by
  rw [h.pen, markerSide_congr h.markerSize]
  by_cases hne : action = .clear
  · subst hne
    exact congrArg (fun seen => [seen]) h.background
  · rw [Action.calls_congr h.size d'.pen d'.markerSide hne]

theorem logAfter_congr (hpen : d.pen = d'.pen) (hlog : d.log = d'.log)
    (hmarker : d.markerSize = d'.markerSize) (number : Nat) (action : Action) :
    d.logAfter number action = d'.logAfter number action := by
  simp only [logAfter, hpen, hlog, markerSide_congr hmarker]

theorem coupled_twin (view : Call → β) : Coupled Action.SameButSide (Twin view) view where
  fault ha h := coupled_alike.fault ha.alike h.toAlike
  calls {d d' a a'} ha h := by
    rw [ha.calls, h.calls a']
  perform {d d' a a'} ha h :=
    { toAlike := coupled_alike.perform ha.alike h.toAlike
      pen := by
        rw [perform, perform, h.pen, ha.applyTo]
      sameLog := by
        rw [perform, perform, h.commands, ha.logAfter]
        exact logAfter_congr h.pen h.sameLog h.markerSize _ a'
      background := h.background }
  count h := ⟨coupled_alike.count h.toAlike, h.pen, h.sameLog, h.background⟩
  refresh {d d'} h := by
    have halike := coupled_alike.refresh h.toAlike
    rw [refresh_eq, refresh_eq] at halike ⊢
    exact ⟨halike, h.pen, h.sameLog, h.background⟩

/-- What a line of a program has entered in the log and what it has painted is filled as its kind
asks. -/
theorem filled_dispatch (d : Drawing) (line : String) :
    (∀ s ∈ (d.dispatch line).2.log.shapes, s ∈ d.log.shapes ∨ s.FilledAsKind) ∧
      ∃ painted, (d.dispatch line).2.calls = d.calls ++ painted ∧ PaintedAsKind line painted := by
  rcases d.dispatch_cases line with ⟨r, -, hd⟩ | ⟨c, n, -, -, hd⟩ | ⟨c, hc, -, hd⟩
  · rw [hd, refresh_eq]
    exact ⟨fun s hs => Or.inl hs, [], (List.append_nil _).symm, paintedAsKind_nil line⟩
  · rw [hd, refresh_eq]
    exact ⟨fun s hs => Or.inl hs, [], (List.append_nil _).symm, paintedAsKind_nil line⟩
  · rw [hd, refresh_eq]
    refine ⟨fun s hs => ?_, _, rfl, ?_, fun target ht => ?_⟩
    · by_cases hne : c.action = .clear
      · simp only [perform, hne] at hs
        exact absurd hs List.not_mem_nil
      · simp only [perform, d.logAfter_of_ne_clear _ hne] at hs
        split at hs
        · next sketch hsketch =>
          rcases List.mem_append.1 hs with hs | hs
          · exact Or.inl hs
          · rw [List.mem_singleton.1 hs]
            exact Or.inr (Action.filledAsKind_of_sketch? hsketch)
        · exact Or.inl hs
    · exact Action.fillsNoLine_calls d.canvas d.pen d.markerSide c.action
    · have haction : c.action = .moveTo target :=
        Option.some.inj ((action?_of_parse hc).symm.trans ht)
      rw [haction]
      exact Action.fills_calls_moveTo d.canvas d.pen d.markerSide target

theorem filled_dispatchAll (d : Drawing) (lines : List String) :
    (∀ s ∈ (d.dispatchAll lines).2.log.shapes, s ∈ d.log.shapes ∨ s.FilledAsKind) ∧
      ∃ painted : List (List Call), (d.dispatchAll lines).2.calls = d.calls ++ painted.flatten ∧
        List.Forall₂ PaintedAsKind lines painted := by
  induction lines generalizing d with
  | nil => exact ⟨fun s hs => Or.inl hs, [], (List.append_nil _).symm, .nil⟩
  | cons line lines ih =>
    obtain ⟨hshapes, first, hfirst, hline⟩ := d.filled_dispatch line
    obtain ⟨hshapes', rest, hrest, hlines⟩ := ih (d.dispatch line).2
    refine ⟨fun s hs => ?_, first :: rest, ?_, .cons hline hlines⟩
    · rcases hshapes' s hs with hs | hs
      · exact hshapes s hs
      · exact Or.inr hs
    · rw [List.flatten_cons, ← List.append_assoc, ← hfirst]
      exact hrest

/-- Two drawings are the same but for colors and fillings, and so are two programs but for the second
sides of triangles too. Then the drawings that they end in are so as well, and the figures that have
been painted are the same in the same order. In both, what each line has entered in the log and what
it has painted is filled as its kind asks. If nothing but second sides differs, neither pens nor logs
do, nor does what is drawn, and if the backgrounds are the same then no call differs. -/
theorem outlines_are_kept {d d' : Drawing} (h : d.Alike d') {lines lines' : List String}
    (hl : List.Forall₂ (Matched Action.Alike) lines lines') :
    let e := (d.dispatchAll lines).2
    let e' := (d'.dispatchAll lines').2
    e.Alike e' ∧
      (∀ s ∈ e.log.shapes, s ∈ d.log.shapes ∨ s.FilledAsKind) ∧
      (∀ s ∈ e'.log.shapes, s ∈ d'.log.shapes ∨ s.FilledAsKind) ∧
      ∃ painted painted' : List (List Call),
        e.calls = d.calls ++ painted.flatten ∧ e'.calls = d'.calls ++ painted'.flatten ∧
        painted.flatten.map Call.figure? = painted'.flatten.map Call.figure? ∧
        List.Forall₂ PaintedAsKind lines painted ∧ List.Forall₂ PaintedAsKind lines' painted' ∧
        (d.pen = d'.pen → d.log = d'.log →
          List.Forall₂ (Matched Action.SameButSide) lines lines' →
          e.pen = e'.pen ∧ e.log = e'.log ∧
            painted.flatten.map Call.drawn? = painted'.flatten.map Call.drawn? ∧
            (d.canvas.background = d'.canvas.background →
              painted.flatten = painted'.flatten)) := by
  intro e e'
  obtain ⟨added, added', hadded, hadded', hview, halike⟩ := coupled_alike.dispatchAll h hl
  obtain ⟨hshapes, painted, hpainted, hfilled⟩ := d.filled_dispatchAll lines
  obtain ⟨hshapes', painted', hpainted', hfilled'⟩ := d'.filled_dispatchAll lines'
  obtain rfl : painted.flatten = added := List.append_cancel_left (hpainted.symm.trans hadded)
  obtain rfl : painted'.flatten = added' := List.append_cancel_left (hpainted'.symm.trans hadded')
  refine ⟨halike, hshapes, hshapes', painted, painted', hpainted, hpainted', hview, hfilled,
    hfilled', ?_⟩
  intro hpen hlog hsides
  -- A view that does not tell one background from another is the same for both.
  have hviews {β : Type} (view : Call → β)
      (hview : view (.fill d.canvas.background) = view (.fill d'.canvas.background)) :
      Twin view e e' ∧ painted.flatten.map view = painted'.flatten.map view := by
    obtain ⟨twin, twin', htwin, htwin', hsame, hlast⟩ :=
      (coupled_twin view).dispatchAll ⟨h, hpen, hlog, hview⟩ hsides
    obtain rfl : twin = painted.flatten := List.append_cancel_left (htwin.symm.trans hpainted)
    obtain rfl : twin' = painted'.flatten := List.append_cancel_left (htwin'.symm.trans hpainted')
    exact ⟨hlast, hsame⟩
  obtain ⟨htwin, hdrawn⟩ := hviews Call.drawn? rfl
  refine ⟨htwin.pen, htwin.sameLog, hdrawn, fun hbackground => ?_⟩
  obtain ⟨-, hsame⟩ := hviews id (congrArg Call.fill hbackground)
  rwa [List.map_id, List.map_id] at hsame

/-- On canvases of one size the same triangle and dot are drawn in green and in red, filled and not.
On the first of them it makes no difference at all when another second side is given to the
triangle. -/
theorem green_and_red_triangle :
    let white : Canvas := { serial := 0, width := 64, height := 48, background := ⟨255, 255, 255⟩ }
    let d := start white (some 2) true
    let d' := { start { white with background := ⟨0, 0, 0⟩ } (some 2) false with pen := { filled := true } }
    let lines := ["pen green", "triangle 40 30 99", "frob", "moveto 5 5"]
    let lines' := ["PEN red", "triangle +40 30 -1", "circle", "moveto 05 5"]
    let others := ["pen green", "triangle 40 30 0", "draw", "moveto 5 5"]
    (d.dispatchAll lines).2.log.outline = (d'.dispatchAll lines').2.log.outline ∧
      (d.dispatchAll lines).2.log.shapes.map (·.filled) = [false, true] ∧
      (d.dispatchAll lines).2.calls = (d.dispatchAll others).2.calls := by
  intro white d d' lines lines' others
  have hfrob : parse "frob" = .error (.rejected (.unknownVerb ⟨"frob", ⟨0, 4⟩⟩)) := by
    decide +kernel
  have hdraw : parse "draw" = .error (.rejected (.unknownVerb ⟨"draw", ⟨0, 4⟩⟩)) := by
    decide +kernel
  have hcircle : parse "circle" = .error (.rejected (.wrongArity .circle 0 ⟨0, 6⟩)) := by
    decide +kernel
  have hmoveTo : action? "moveto 5 5" = some (.moveTo ⟨5, 5⟩) := by decide +kernel
  have hgreen : action? "pen green" = some (.pen .green) := by decide +kernel
  have htriangle : action? "triangle 40 30 99" = some (.triangle 40 30 99) := by decide +kernel
  have hother : action? "triangle 40 30 0" = some (.triangle 40 30 0) := by decide +kernel
  have hl : List.Forall₂ (Matched Action.Alike) lines lines' :=
    .cons (.of_action? (.pen .green .red) hgreen (by decide +kernel)) <|
    .cons (.of_action? (.triangle 40 30 99 (-1)) htriangle (by decide +kernel)) <|
    .cons (.refused hfrob hcircle) <|
    .cons (.of_action? (.same _) hmoveTo (by decide +kernel)) .nil
  have hsides : List.Forall₂ (Matched Action.SameButSide) lines others :=
    .cons (.of_action? (.same _) hgreen hgreen) <|
    .cons (.of_action? (.triangle 40 30 99 0) htriangle hother) <|
    .cons (.refused hfrob hdraw) <|
    .cons (.of_action? (.same _) hmoveTo hmoveTo) .nil
  have halike : d.Alike d' := ⟨rfl, rfl, rfl, rfl, ⟨rfl, rfl⟩⟩
  have hself : d.Alike d := ⟨rfl, rfl, rfl, rfl, ⟨rfl, rfl⟩⟩
  obtain ⟨hkept, -⟩ := outlines_are_kept halike hl
  obtain ⟨-, -, -, painted, painted', hpainted, hpainted', -, -, -, hsame⟩ :=
    outlines_are_kept hself (hsides.imp fun _ _ h => h.alike)
  obtain ⟨-, -, -, hcalls⟩ := hsame rfl rfl hsides
  rw [← hcalls rfl] at hpainted'
  exact ⟨hkept.log, by decide +kernel, hpainted.trans hpainted'.symm⟩

/-- On a white and on a black canvas of one size, where nothing else differs, the same line makes
different calls. -/
theorem white_and_black_are_wiped :
    let white : Canvas := { serial := 0, width := 64, height := 48, background := ⟨255, 255, 255⟩ }
    let black : Canvas := { white with background := ⟨0, 0, 0⟩ }
    let d := start white (some 2) true
    let d' := start black (some 2) true
    d.Alike d' ∧ d.pen = d'.pen ∧ d.log = d'.log ∧
      List.Forall₂ (Matched Action.SameButSide) ["clear"] ["clear"] ∧
      (d.dispatchAll ["clear"]).2.calls = d.calls ++ [.fill white.background] ∧
      (d'.dispatchAll ["clear"]).2.calls = d'.calls ++ [.fill black.background] ∧
      [Call.fill white.background] ≠ [Call.fill black.background] := by
  intro white black d d'
  have hclear : action? "clear" = some .clear := by decide +kernel
  refine ⟨⟨rfl, rfl, rfl, rfl, ⟨rfl, rfl⟩⟩, rfl, rfl, ?_, by decide +kernel, by decide +kernel,
    by decide⟩
  exact .cons (.of_action? (.same _) hclear hclear) .nil

end Drawing

end Drawboard
