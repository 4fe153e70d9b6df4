import Drawboard.Command.Parse
import Drawboard.Drawing.Effect
import Drawboard.Shape.Log

/-!
A drawing: a canvas with the pen on it, the log of the shapes drawn since the canvas was last
blank, and every call made on the painter. Commands are numbered from one; a line that is refused
gets no number and changes nothing. Whoever watches the drawing is told after every line, refused
or not. The size of markers may be no number at all; nothing comes of this until one is to be drawn.
-/

namespace Drawboard

structure Drawing where
  canvas : Canvas
  markerSize : Option Int
  pen : Pen := {}
  log : ShapeLog := {}
  commands : Nat := 0
  calls : List Call
  watched : Bool := true
  refreshes : Nat := 0
  deriving DecidableEq

/-- What is reported of a command: the command, the pen after it, and the changes it made. -/
structure Outcome where
  command : Command
  pen : Pen
  changes : List String
  deriving DecidableEq

def Outcome.message (o : Outcome) : String := String.intercalate "; " o.changes

namespace Drawing

def start (canvas : Canvas) (markerSize : Option Int) (watched : Bool) : Drawing :=
  { canvas := canvas, markerSize := markerSize, calls := canvas.wipe, watched := watched }

/-- The size of markers where it matters, that is where it is a number. -/
def markerSide (d : Drawing) : Int := d.markerSize.getD 0

def refresh (d : Drawing) : Drawing :=
  if d.watched then { d with refreshes := d.refreshes + 1 } else d

def logAfter (d : Drawing) (number : Nat) (action : Action) : ShapeLog :=
  match action with
  | .clear => d.log.clear
  | action =>
    match action.sketch? d.pen d.markerSide with
    | some sketch => d.log.add number sketch
    | none => d.log

def perform (d : Drawing) (action : Action) : Drawing :=
  { d with
    pen := action.applyTo d.pen
    log := d.logAfter (d.commands + 1) action
    commands := d.commands + 1
    calls := d.calls ++ action.calls d.canvas d.pen d.markerSide }

def execute (d : Drawing) (line : String) : Except Refusal Outcome × Drawing :=
  match parse line with
  | .ok command =>
    let after := d.perform command.action
    (.ok ⟨command, after.pen, [command.action.change d.pen]⟩, after.refresh)
  | .error refusal => (.error refusal, d.refresh)

/-- Starts over on another canvas, which is blank; the pen stays as it is. -/
def replaceCanvas (d : Drawing) (canvas : Canvas) : Drawing :=
  { d with canvas := canvas, log := d.log.clear, calls := d.calls ++ canvas.wipe }

/-- Back to the beginning, with the canvas wiped. -/
def reset (d : Drawing) : Drawing :=
  { d with pen := {}, log := d.log.clear, commands := 0, calls := d.calls ++ d.canvas.wipe }

end Drawing

end Drawboard
