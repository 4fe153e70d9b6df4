import Drawboard.Session.Handled
import Drawboard.Session.Run

/-!
Whatever can be asked of a session, with its replies. Lines are executed by handlers. Questions
change nothing. While a request is met, calls are made on the painter and whoever watches the drawing
is told.
-/

namespace Drawboard.Session

def opened (config : Config) (watched : Bool) (kit : Toolkit := .plain) : Except Failure Session :=
  (start config kit).map fun s => { s with drawing := { s.drawing with watched := watched } }

inductive Question where
  | config
  | canvas
  | pen
  | counts
  | history
  | errors
  | errorsAt (line : Int)
  | firstError
  | hasErrors
  | shapes
  | shapesOf (command : Int)
  | shapesOfKind (kind : ShapeKind)
  | lastShape
  | shapeCounts
  | extent
  | statistics

inductive Request where
  | execute (line : String)
  | checkSyntax (line : String)
  | run (text : String)
  | check (text : String)
  | reset
  | resize (config : Config)
  | ask (question : Question)

inductive Reply where
  | outcome (result : Except Interruption Outcome)
  | command (result : Except Refusal Command)
  | ran (result : Except Interruption Bool)
  | checked (result : Except Failure Bool)
  | done
  | resized (result : Except Failure Unit)
  | config (config : Config)
  | canvas (width height : Int) (background : Rgb) (markerSize : Option Int) (shared : Bool)
  | pen (pen : Pen)
  | counts (executed failed commands : Nat)
  | history (lines : List String)
  | errors (records : List ErrorRecord)
  | hasErrors (answer : Bool)
  | shapes (shapes : List Shape)
  | shapeCounts (counts : ShapeCounts)
  | extent (extent : Option Extent)
  | statistics (result : Except Failure Statistics)

def answer (s : Session) : Question → Reply
  | .config => .config s.config
  | .canvas =>
    .canvas s.canvas.width s.canvas.height s.canvas.background s.drawing.markerSize
      (s.canvas == s.drawing.canvas)
  | .pen => .pen s.drawing.pen
  | .counts => .counts s.executed s.failed s.drawing.commands
  | .history => .history s.history
  | .errors => .errors s.errors.sorted
  | .errorsAt line => .errors (s.errors.forLine line)
  | .firstError => .errors s.errors.first?.toList
  | .hasErrors => .hasErrors s.errors.hasErrors
  | .shapes => .shapes s.drawing.log.shapes
  | .shapesOf command => .shapes (s.drawing.log.forCommand command)
  | .shapesOfKind kind => .shapes (s.drawing.log.ofKind kind)
  | .lastShape => .shapes s.drawing.log.last?.toList
  | .shapeCounts => .shapeCounts s.drawing.log.counts
  | .extent => .extent s.drawing.log.extent?
  | .statistics => .statistics s.statistics

def respond (s : Session) : Request → Reply × Session
  | .execute line =>
    let (result, after) := s.dispatch line
    (.outcome result, after)
  | .checkSyntax line =>
    let (result, after) := s.checkSyntax line
    (.command result, after)
  | .run text =>
    let (result, after) := s.dispatchProgram text
    (.ran result, after)
  | .check text =>
    let (result, after) := s.check text
    (.checked result, after)
  | .reset => (.done, s.reset)
  | .resize config =>
    let (result, after) := s.resize config
    (.resized result, after)
  | .ask question => (s.answer question, s)

def handle (s : Session) (request : Request) : Session := (s.respond request).2

def handleAll (s : Session) (requests : List Request) : Session := requests.foldl handle s

/-- What is seen from outside when a request is met: the reply, the calls made, and how often the
watcher was told. -/
structure Exchange where
  reply : Reply
  calls : List Call
  told : Nat

def exchange (s : Session) (request : Request) : Exchange × Session :=
  let (reply, after) := s.respond request
  (⟨reply, after.drawing.calls.drop s.drawing.calls.length,
    after.drawing.refreshes - s.drawing.refreshes⟩, after)

/-- Meets requests one after another. -/
def converse (s : Session) : List Request → List Exchange × Session
  | [] => ([], s)
  | request :: requests =>
    let (first, after) := s.exchange request
    let (others, last) := converse after requests
    (first :: others, last)

end Drawboard.Session
