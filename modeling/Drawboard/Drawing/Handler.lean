import Drawboard.Drawing.Basic

/-!
Execution by handlers. Each verb has a handler in a table; it takes the values of a command apart
and works on the drawing step by step, reading the pen as it is at each step. There may be no
handler, the values may be others than it takes, the size of markers may be no number, and a number
may be too large for a painter.
-/

namespace Drawboard

def Point.numbers (p : Point) : List Int := [p.x, p.y]

def Box.numbers (b : Box) : List Int := [b.x, b.y, b.width, b.height]

inductive Fault where
  | noHandler (verb : String)
  | mismatch (values : List Value)
  | noMarkerSize
  | overflow (n : Int)

def overflowText : String := "int too large to convert to float"

/-- Steps that may fail. What they did to the drawing before they failed stays done. -/
abbrev Work : Type → Type := ExceptT Fault (StateM Drawing)

namespace Work

def on {α : Type} (work : Work α) (d : Drawing) : Except Fault α × Drawing := work.run.run d

/-- Hands a number to a painter, who takes finite numbers only. -/
def convert (n : Int) : Work Unit :=
  match Binary64.Value.ofInt n with
  | .finite _ => pure ()
  | _ => throw (.overflow n)

def paint (numbers : List Int) (calls : Canvas → List Call) : Work Unit := do
  numbers.forM convert
  modify fun d => { d with calls := d.calls ++ calls d.canvas }

def paintLine (a b : Point) (color : PenColor) : Work Unit :=
  paint (a.numbers ++ b.numbers) (·.drawLine a b color)

def paintRectangle (box : Box) (color : PenColor) (filled : Bool) : Work Unit :=
  paint box.numbers (·.drawRectangle box color filled)

def paintEllipse (box : Box) (color : PenColor) (filled : Bool) : Work Unit :=
  paint box.numbers (·.drawEllipse box color filled)

def paintPolygon (ps : List Point) (color : PenColor) (filled : Bool) : Work Unit :=
  paint (ps.flatMap Point.numbers) (·.drawPolygon ps color filled)

def setPen (f : Pen → Pen) : Work Unit := modify fun d => { d with pen := f d.pen }

def record (kind : ShapeKind) (points : List Point) (filled : Bool) (bounds : Option Box) :
    Work Unit :=
  modify fun d =>
    { d with log := d.log.add d.commands ⟨kind, points, d.pen.color, filled, bounds⟩ }

end Work

namespace Handler

open Work

def moveTo (values : List Value) : Work (List String) := do
  let [.integer x, .integer y] := values | throw (.mismatch values)
  let target : Point := ⟨x, y⟩
  let d ← get
  let some side := d.markerSize | throw .noMarkerSize
  let box := Box.marker target side
  paintEllipse box d.pen.color true
  setPen (·.moveTo target)
  record .marker [target] true (some box)
  pure [s!"Pen moved to {Action.pointText ⟨x, y⟩}"]

def drawTo (values : List Value) : Work (List String) := do
  let [.integer x, .integer y] := values | throw (.mismatch values)
  let d ← get
  let start := d.pen.position
  let target : Point := ⟨x, y⟩
  paintLine start target d.pen.color
  record .line [start, target] false none
  setPen (·.moveTo target)
  pure [s!"Line drawn from {Action.pointText start} to {Action.pointText ⟨x, y⟩}"]

def rectangle (values : List Value) : Work (List String) := do
  let [.integer width, .integer height] := values | throw (.mismatch values)
  let d ← get
  let box := Box.anchored d.pen.position width height
  let filled := d.pen.filled
  paintRectangle box d.pen.color filled
  record .rectangle box.corners filled (some box)
  let d ← get
  pure [s!"{Action.style d.pen} rectangle {width}x{height} drawn"]

def circle (values : List Value) : Work (List String) := do
  let [.integer radius] := values | throw (.mismatch values)
  let d ← get
  let box := Box.circle d.pen.position radius
  let filled := d.pen.filled
  paintEllipse box d.pen.color filled
  record .ellipse [d.pen.position] filled (some box)
  let d ← get
  pure [s!"{Action.style d.pen} circle of radius {radius} drawn"]

def triangle (values : List Value) : Work (List String) := do
  let [.integer base, .integer side1, .integer side2] := values | throw (.mismatch values)
  let d ← get
  let corners := Drawboard.triangle d.pen.position base side1 side2
  let filled := d.pen.filled
  paintPolygon corners d.pen.color filled
  record .polygon corners filled none
  let d ← get
  pure [s!"{Action.style d.pen} triangle with base {base} drawn"]

def pen (values : List Value) : Work (List String) := do
  let .color color :: _ := values | throw (.mismatch values)
  setPen ({ · with color := color })
  pure [s!"Pen color is now {color.name}"]

def fill (values : List Value) : Work (List String) := do
  let .switch on :: _ := values | throw (.mismatch values)
  setPen ({ · with filled := on })
  let d ← get
  let mode := if d.pen.filled then "ON" else "OFF"
  pure [s!"Fill mode is now {mode}"]

def clear (_values : List Value) : Work (List String) := do
  paint [] (·.wipe)
  modify fun d => { d with log := d.log.clear }
  pure ["Drawing area cleared"]

def reset (_values : List Value) : Work (List String) := do
  setPen (·.home)
  pure ["Pen moved back to (0, 0)"]

def table : List (String × (List Value → Work (List String))) :=
  [("moveto", moveTo), ("drawto", drawTo), ("rectangle", rectangle), ("circle", circle),
   ("triangle", triangle), ("pen", pen), ("fill", fill), ("clear", clear), ("reset", reset)]

/-- Numbers a command and gives its values to the handler of its verb. -/
def execute (command : Command) : Work Outcome := do
  modify fun d => { d with commands := d.commands + 1 }
  let some handler := table.lookup command.verb.name | throw (.noHandler command.verb.name)
  let changes ← handler command.action.values
  let d ← get
  pure ⟨command, d.pen, changes⟩

end Handler

inductive Interruption where
  | refused (r : Refusal)
  | broken (f : Fault)

/-- Executes a line by the handler of its verb. Whoever watches is told however this ends. -/
def Drawing.dispatch (d : Drawing) (line : String) : Except Interruption Outcome × Drawing :=
  match parse line with
  | .error r => (.error (.refused r), d.refresh)
  | .ok command =>
    let (result, after) := (Handler.execute command).on d
    (result.mapError .broken, after.refresh)

/-- Executes lines one after another, whatever becomes of each. -/
def Drawing.dispatchAll (d : Drawing) :
    List String → List (Except Interruption Outcome) × Drawing
  | [] => ([], d)
  | line :: lines =>
    let (answer, after) := d.dispatch line
    let (answers, last) := after.dispatchAll lines
    (answer :: answers, last)

end Drawboard
