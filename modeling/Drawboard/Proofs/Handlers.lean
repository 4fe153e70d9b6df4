import Drawboard.Drawing.Handler
import Drawboard.Proofs.Drawings
import Drawboard.Proofs.Exact

/-! There is a handler for every verb, a command that was read has the values that it takes, and it
fails only at a number that is too large for a painter, or at a marker if there is no size for it. On
a drawing whose numbers are in range neither happens, so execution by handlers is execution. -/

namespace Drawboard

namespace Work

variable {α β : Type}

theorem on_bind (m : Work α) (f : α → Work β) (d : Drawing) :
    (m >>= f).on d =
      match m.on d with
      | (.ok a, d') => (f a).on d'
      | (.error fault, d') => (.error fault, d') := by
  unfold on ExceptT.run StateT.run
  simp only [bind, ExceptT.bind, ExceptT.mk, StateT.bind, ExceptT.bindCont]
  cases m d with
  | mk result d' => cases result <;> rfl

@[simp] theorem on_pure (a : α) (d : Drawing) : (pure a : Work α).on d = (.ok a, d) := rfl

@[simp] theorem on_get (d : Drawing) : (get : Work Drawing).on d = (.ok d, d) := rfl

@[simp] theorem on_modify (f : Drawing → Drawing) (d : Drawing) :
    (modify f : Work Unit).on d = (.ok (), f d) := rfl

@[simp] theorem on_setPen (f : Pen → Pen) (d : Drawing) :
    (setPen f).on d = (.ok (), { d with pen := f d.pen }) := rfl

@[simp] theorem on_record (kind : ShapeKind) (points : List Point) (filled : Bool)
    (bounds : Option Box) (d : Drawing) :
    (record kind points filled bounds).on d =
      (.ok (), { d with
        log := d.log.add d.commands ⟨kind, points, d.pen.color, filled, bounds⟩ }) := rfl

def tooLarge (n : Int) : Bool :=
  match Binary64.Value.ofInt n with
  | .finite _ => false
  | _ => true

theorem on_convert (n : Int) (d : Drawing) :
    (convert n).on d = (if tooLarge n then .error (.overflow n) else .ok (), d) := by
  unfold convert tooLarge
  cases Binary64.Value.ofInt n <;> rfl

/-- A painter stops at the first number that is too large. -/
theorem on_forM_convert (numbers : List Int) (d : Drawing) :
    (numbers.forM convert).on d =
      match numbers.find? tooLarge with
      | none => (.ok (), d)
      | some n => (.error (.overflow n), d) := by
  induction numbers with
  | nil => rfl
  | cons n numbers ih =>
    have hcons : (n :: numbers).forM convert = convert n >>= fun _ => numbers.forM convert := rfl
    rw [hcons, on_bind, on_convert]
    cases hn : tooLarge n with
    | true => rw [List.find?_cons_of_pos hn, if_pos rfl]
    | false =>
      rw [List.find?_cons_of_neg (by rw [hn]; decide), if_neg (by decide)]
      exact ih

theorem on_paint (numbers : List Int) (calls : Canvas → List Call) (d : Drawing) :
    (paint numbers calls).on d =
      match numbers.find? tooLarge with
      | none => (.ok (), { d with calls := d.calls ++ calls d.canvas })
      | some n => (.error (.overflow n), d) := by
  rw [paint, on_bind, on_forM_convert]
  cases numbers.find? tooLarge <;> rfl

end Work

/-- The numbers that an action hands to a painter. -/
def Action.handed (pen : Pen) (markerSize : Int) : Action → List Int
  | moveTo target => (Box.marker target markerSize).numbers
  | drawTo target => pen.position.numbers ++ target.numbers
  | rectangle w h => (Box.anchored pen.position w h).numbers
  | circle r => (Box.circle pen.position r).numbers
  | triangle b s t => (Drawboard.triangle pen.position b s t).flatMap Point.numbers
  | .pen _ | fill _ | clear | reset => []

def Sketch.numbers (s : Sketch) : List Int :=
  match s.bounds with
  | some b => b.numbers
  | none => s.points.flatMap Point.numbers

theorem Action.handed_eq (action : Action) (pen : Pen) (markerSize : Int) :
    action.handed pen markerSize = (action.sketch? pen markerSize).elim [] Sketch.numbers := by
  cases action <;> rfl

/-- What an action breaks at: a marker without a size, or else the first of these numbers that is too
large. -/
def Drawing.fault? (d : Drawing) (action : Action) : Option Fault :=
  match action, d.markerSize with
  | .moveTo _, none => some .noMarkerSize
  | _, _ => ((action.handed d.pen d.markerSide).find? Work.tooLarge).map .overflow

theorem Drawing.fault?_of_size {d : Drawing} {side : Int} (h : d.markerSize = some side)
    (action : Action) :
    d.fault? action = ((action.handed d.pen side).find? Work.tooLarge).map .overflow := by
  have hside : d.markerSide = side := by rw [markerSide, h, Option.getD_some]
  rw [← hside]
  cases action <;> simp only [fault?, h]

def Action.isMove : Action → Bool
  | moveTo _ => true
  | _ => false

theorem Drawing.markerSide_congr {d d' : Drawing} (h : d.markerSize = d'.markerSize) :
    d.markerSide = d'.markerSide := by
  rw [markerSide, h, markerSide]

theorem Drawing.fault?_congr {d d' : Drawing} {a a' : Action} (hmove : a.isMove = a'.isMove)
    (hsize : d.markerSize = d'.markerSize)
    (hhanded : a.handed d.pen d.markerSide = a'.handed d'.pen d'.markerSide) :
    d.fault? a = d'.fault? a' := by
  unfold fault?
  rw [hsize, hhanded]
  cases a <;> cases a' <;> cases d'.markerSize <;> first | rfl | cases hmove

namespace Handler

open Work

variable {d : Drawing}

/-- What an action does once its command has a number. -/
def effect (action : Action) (d : Drawing) : Drawing :=
  { d with
    pen := action.applyTo d.pen
    log := d.logAfter d.commands action
    calls := d.calls ++ action.calls d.canvas d.pen d.markerSide }

/-- An action has its effect, or it breaks and has none. -/
def attempt (action : Action) (d : Drawing) : Except Fault (List String) × Drawing :=
  match d.fault? action with
  | none => (.ok [action.change d.pen], effect action d)
  | some fault => (.error fault, d)

theorem on_moveTo (target : Point) (d : Drawing) :
    (moveTo [.integer target.x, .integer target.y]).on d = attempt (.moveTo target) d := by
  obtain ⟨canvas, markerSize, pen⟩ := d
  unfold moveTo attempt paintEllipse
  cases markerSize with
  | none => rfl
  | some side =>
    simp only [on_bind, on_get, on_paint, Drawing.fault?, Drawing.markerSide, Option.getD_some,
      Action.handed]
    cases (Box.marker target side).numbers.find? tooLarge <;> rfl

theorem on_drawTo (target : Point) (d : Drawing) :
    (drawTo [.integer target.x, .integer target.y]).on d = attempt (.drawTo target) d := by
  unfold drawTo attempt paintLine
  simp only [on_bind, on_get, on_paint, Drawing.fault?, Action.handed]
  cases (d.pen.position.numbers ++ target.numbers).find? tooLarge <;> rfl

theorem on_rectangle (w h : Int) (d : Drawing) :
    (rectangle [.integer w, .integer h]).on d = attempt (.rectangle w h) d := by
  unfold rectangle attempt paintRectangle
  simp only [on_bind, on_get, on_paint, Drawing.fault?, Action.handed]
  cases (Box.anchored d.pen.position w h).numbers.find? tooLarge <;> rfl

theorem on_circle (r : Int) (d : Drawing) :
    (circle [.integer r]).on d = attempt (.circle r) d := by
  unfold circle attempt paintEllipse
  simp only [on_bind, on_get, on_paint, Drawing.fault?, Action.handed]
  cases (Box.circle d.pen.position r).numbers.find? tooLarge <;> rfl

theorem on_triangle (b s t : Int) (d : Drawing) :
    (triangle [.integer b, .integer s, .integer t]).on d = attempt (.triangle b s t) d := by
  unfold triangle attempt paintPolygon
  simp only [on_bind, on_get, on_paint, Drawing.fault?, Action.handed]
  cases ((Drawboard.triangle d.pen.position b s t).flatMap Point.numbers).find? tooLarge <;> rfl

theorem effect_eq_setPen {action : Action}
    (hcalls : action.calls d.canvas d.pen d.markerSide = [])
    (hlog : d.logAfter d.commands action = d.log) :
    effect action d = { d with pen := action.applyTo d.pen } := by
  rw [effect, hcalls, hlog, List.append_nil]

theorem on_pen (color : PenColor) (d : Drawing) :
    (pen [.color color]).on d = attempt (.pen color) d := by
  have heffect : effect (.pen color) d = _ := effect_eq_setPen rfl rfl
  unfold pen
  simp only [on_bind, on_setPen, on_pure]
  exact congrArg (Prod.mk _) heffect.symm

theorem on_fill (on : Bool) (d : Drawing) :
    (fill [.switch on]).on d = attempt (.fill on) d := by
  have hchange : "Fill mode is now " ++ (if on then "ON" else "OFF") =
      (Action.fill on).change d.pen := by
    cases on with
    | false => exact (by decide +kernel : "Fill mode is now " ++ "OFF" = "Fill mode is now OFF")
    | true => exact (by decide +kernel : "Fill mode is now " ++ "ON" = "Fill mode is now ON")
  have heffect : effect (.fill on) d = _ := effect_eq_setPen rfl rfl
  have hattempt : attempt (.fill on) d = (.ok [(Action.fill on).change d.pen], _) :=
    congrArg (Prod.mk _) heffect
  rw [hattempt, ← hchange]
  unfold fill
  simp only [on_bind, on_setPen, on_get, on_pure]
  rfl

theorem on_clear (d : Drawing) : (clear []).on d = attempt .clear d := by
  unfold clear
  simp only [on_bind, on_paint, on_modify, on_pure]
  rfl

theorem on_reset (d : Drawing) : (reset []).on d = attempt .reset d := by
  have heffect : effect .reset d = _ := effect_eq_setPen rfl rfl
  unfold reset
  simp only [on_bind, on_setPen, on_pure]
  exact congrArg (Prod.mk _) heffect.symm

/-- There is a handler for the verb of every action, it takes the action's values, and it does with
them what the action does. -/
theorem exists_handler (action : Action) :
    ∃ handler, table.lookup action.verb.name = some handler ∧
      ∀ d, (handler action.values).on d = attempt action d := by
  cases action with
  | moveTo target => exact ⟨moveTo, rfl, on_moveTo target⟩
  | drawTo target => exact ⟨drawTo, rfl, on_drawTo target⟩
  | rectangle w h => exact ⟨rectangle, rfl, on_rectangle w h⟩
  | circle r => exact ⟨circle, rfl, on_circle r⟩
  | triangle b s t => exact ⟨triangle, rfl, on_triangle b s t⟩
  | pen color => exact ⟨pen, rfl, on_pen color⟩
  | fill on => exact ⟨fill, rfl, on_fill on⟩
  | clear => exact ⟨clear, rfl, on_clear⟩
  | reset => exact ⟨reset, rfl, on_reset⟩

/-- A command is carried out, or it has got a number and that is all. -/
theorem on_execute (command : Command) (d : Drawing) :
    (execute command).on d =
      match d.fault? command.action with
      | none =>
        (.ok ⟨command, command.action.applyTo d.pen, [command.action.change d.pen]⟩,
          d.perform command.action)
      | some fault => (.error fault, { d with commands := d.commands + 1 }) := by
  obtain ⟨handler, hlookup, hhandler⟩ := exists_handler command.action
  have hsame : ({ d with commands := d.commands + 1 } : Drawing).fault? command.action =
      d.fault? command.action := rfl
  unfold execute
  simp only [on_bind, on_modify, Command.verb, hlookup, hhandler, attempt, hsame, on_get, on_pure]
  cases d.fault? command.action <;> rfl

def Exact (numbers : List Int) : Prop := ∀ n ∈ numbers, n.natAbs < 2 ^ 53

theorem find?_tooLarge_of_exact {numbers : List Int} (h : Exact numbers) :
    numbers.find? tooLarge = none := by
  rw [List.find?_eq_none]
  intro n hn
  rw [tooLarge, Binary64.Value.ofInt_of_small (h n hn)]
  exact Bool.false_ne_true

theorem exact_numbers {s : Sketch} (h : s.Near) : Exact s.numbers := by
  intro n hn
  rw [Sketch.numbers] at hn
  split at hn
  · next b hb =>
    obtain ⟨⟨hx, hy⟩, ⟨hwidth, hheight⟩, -⟩ := h.bounds b hb
    dsimp only at hx hy
    simp only [Box.numbers, List.mem_cons, List.not_mem_nil, or_false] at hn
    omega
  · obtain ⟨p, hp, hn⟩ := List.mem_flatMap.1 hn
    obtain ⟨hx, hy⟩ := h.points p hp
    simp only [Point.numbers, List.mem_cons, List.not_mem_nil, or_false] at hn
    omega

theorem exact_handed (h : d.Bounded) {action : Action} (ha : action.InRange) :
    Exact (action.handed d.pen d.markerSide) := by
  rw [action.handed_eq]
  cases hs : action.sketch? d.pen d.markerSide with
  | none => exact fun n hn => absurd hn List.not_mem_nil
  | some sketch => exact exact_numbers (h.near_sketch ha hs)

end Handler

namespace Drawing

variable {d : Drawing} {line : String}

theorem dispatch_of_error {r : Refusal} (hr : parse line = .error r) :
    d.dispatch line = (.error (.refused r), d.refresh) := by
  unfold dispatch
  rw [hr]

theorem dispatch_of_fault {c : Command} (hc : parse line = .ok c) {fault : Fault}
    (hn : d.fault? c.action = some fault) :
    d.dispatch line =
      (.error (.broken fault),
        ({ d with commands := d.commands + 1 } : Drawing).refresh) := by
  unfold dispatch
  rw [hc]
  simp only [Handler.on_execute, hn]
  rfl

theorem dispatch_of_no_fault {c : Command} (hc : parse line = .ok c)
    (hn : d.fault? c.action = none) :
    d.dispatch line =
      (.ok ⟨c, c.action.applyTo d.pen, [c.action.change d.pen]⟩, (d.perform c.action).refresh) := by
  unfold dispatch
  rw [hc]
  simp only [Handler.on_execute, hn]
  rfl

theorem dispatch_cases (d : Drawing) (line : String) :
    (∃ r, parse line = .error r ∧ d.dispatch line = (.error (.refused r), d.refresh)) ∨
      (∃ c fault, parse line = .ok c ∧ d.fault? c.action = some fault ∧
        d.dispatch line = (.error (.broken fault),
          ({ d with commands := d.commands + 1 } : Drawing).refresh)) ∨
      ∃ c, parse line = .ok c ∧ d.fault? c.action = none ∧
        d.dispatch line = (.ok ⟨c, c.action.applyTo d.pen, [c.action.change d.pen]⟩,
          (d.perform c.action).refresh) := by
  cases hp : parse line with
  | error r => exact Or.inl ⟨r, rfl, dispatch_of_error hp⟩
  | ok c =>
    refine Or.inr ?_
    cases hn : d.fault? c.action with
    | some fault => exact Or.inl ⟨c, fault, rfl, hn, dispatch_of_fault hp hn⟩
    | none => exact Or.inr ⟨c, rfl, hn, dispatch_of_no_fault hp hn⟩

theorem fault?_eq_none (h : d.Bounded) {action : Action} (ha : action.InRange) :
    d.fault? action = none := by
  rw [fault?_of_size h.whole, Handler.find?_tooLarge_of_exact (Handler.exact_handed h ha)]
  rfl

theorem dispatch_of_ok (h : d.Bounded) {c : Command} (hc : parse line = .ok c) :
    d.dispatch line =
      (.ok ⟨c, c.action.applyTo d.pen, [c.action.change d.pen]⟩, (d.perform c.action).refresh) :=
  dispatch_of_no_fault hc (fault?_eq_none h (inRange_of_parse hc))

theorem dispatch_eq (h : d.Bounded) (line : String) :
    d.dispatch line = ((d.execute line).1.mapError .refused, (d.execute line).2) := by
  cases hp : parse line with
  | error r =>
    rw [dispatch_of_error hp, d.execute_of_error hp]
    rfl
  | ok c =>
    rw [dispatch_of_ok h hp, d.execute_of_ok hp]
    rfl

/-- How often whoever watches will have been told once one more line has been executed. -/
def told (d : Drawing) : Nat := d.refreshes + if d.watched then 1 else 0

theorem refreshes_perform_refresh (d : Drawing) (action : Action) :
    (d.perform action).refresh.refreshes = d.told := by
  rw [refresh_eq]
  rfl

theorem checkSyntax_eq (d : Drawing) (line : String) : d.checkSyntax line = (parse line, d) := by
  rw [checkSyntax]

theorem outcome_of_check (h : d.Bounded) {c : Command} (hc : parse line = .ok c) :
    ∃ outcome, outcome.command = c ∧ (d.dispatch line).1 = .ok outcome ∧
      (d.dispatch line).2.refreshes = d.told ∧
      d.execute line = (.ok outcome, (d.dispatch line).2) := by
  refine ⟨⟨c, c.action.applyTo d.pen, [c.action.change d.pen]⟩, rfl, ?_⟩
  rw [dispatch_of_ok h hc, d.execute_of_ok hc]
  exact ⟨rfl, refreshes_perform_refresh d c.action, rfl⟩

theorem refusal_of_check {r : Refusal} (hr : parse line = .error r) :
    d.dispatch line = (.error (.refused r), { d with refreshes := d.told }) ∧
      d.execute line = (.error r, { d with refreshes := d.told }) := by
  rw [dispatch_of_error hr, d.execute_of_error hr, refresh_eq]
  exact ⟨rfl, rfl⟩

/-- After any run, checking a line and executing it agree. A line that checks as a command is
executed as that command, and no handler fails; a line that is refused is refused in the same way,
and nothing is changed. Whoever watches is told once of a line executed, and never of one checked. -/
theorem checking_agrees_with_execution (canvas : Canvas) (size : MarkerSize) (watched : Bool)
    (steps : List Step) (line : String) :
    let d := (start canvas (some size.side) watched).after steps
    (d.checkSyntax line).2 = d ∧ (d.isValid line).2 = d ∧
      (∀ c, (d.checkSyntax line).1 = .ok c →
        ∃ outcome, outcome.command = c ∧ (d.dispatch line).1 = .ok outcome ∧
          (d.dispatch line).2.refreshes = d.told ∧
          d.execute line = (.ok outcome, (d.dispatch line).2)) ∧
      ∀ r, (d.checkSyntax line).1 = .error r →
        d.dispatch line = (.error (.refused r), { d with refreshes := d.told }) ∧
          d.execute line = (.error r, { d with refreshes := d.told }) := by
  have hb := bounded_after canvas size watched steps
  simp only [checkSyntax_eq]
  exact ⟨trivial, rfl, fun c => outcome_of_check hb, fun r => refusal_of_check⟩

/-- With the largest marker there is, a dot is still painted; a circle needs a radius. -/
theorem largest_marker_and_bare_circle :
    let canvas : Canvas := { serial := 0, width := 60, height := 40, background := ⟨255, 255, 255⟩ }
    let d := (start canvas (some 2) true).after [.execute "drawto 5 5", .setMarker { side := 2147483648 }]
    (∃ outcome, (d.dispatch "MoveTo +1 02").1 = .ok outcome ∧
      outcome.command.action = .moveTo ⟨1, 2⟩) ∧
    d.dispatch "circle" = (.error (.refused (.rejected (.wrongArity .circle 0 ⟨0, 6⟩))),
      { d with refreshes := d.told }) := by
  intro canvas d
  have hagree := checking_agrees_with_execution canvas { side := 2 } true
    [.execute "drawto 5 5", .setMarker { side := 2147483648 }]
  constructor
  · obtain ⟨-, -, hok, -⟩ := hagree "MoveTo +1 02"
    have hc : parse "MoveTo +1 02" = .ok ⟨.moveTo ⟨1, 2⟩, .ofLine "MoveTo +1 02"⟩ := by
      decide +kernel
    obtain ⟨outcome, ho, hd, -⟩ := hok _ (by rw [checkSyntax_eq]; exact hc)
    exact ⟨outcome, hd, by rw [ho]⟩
  · obtain ⟨-, -, -, herr⟩ := hagree "circle"
    have hr : parse "circle" = .error (.rejected (.wrongArity .circle 0 ⟨0, 6⟩)) := by
      decide +kernel
    exact (herr _ (by rw [checkSyntax_eq]; exact hr)).1

end Drawing

end Drawboard
