import Drawboard.Editor
import Drawboard.Files
import Drawboard.Session.Basic
import Drawboard.View

/-!
The main window: a session with its view, a command line, a program editor and consoles. The view
of the pen and the line about its state follow the session whenever the drawing says that a line
has been executed. A line or program that is aborted by an overlong numeral leaves everything that
would have come after it undone.
-/

namespace Drawboard

inductive DialogKind where
  | information
  | critical
  deriving DecidableEq

def DialogKind.name : DialogKind → String
  | information => "information"
  | critical => "critical"

structure Dialog where
  kind : DialogKind
  title : String
  text : String
  deriving DecidableEq

structure Window where
  session : Session
  view : View
  editor : Editor := {}
  commandLine : String := ""
  console : List String := []
  dialogs : List Dialog := []
  status : String := "Ready"
  stateLabel : String
  errorText : String := ""

namespace Window

def opened (session : Session) : Window :=
  { session := session
    view := { canvas := session.canvas, penPosition := session.drawing.pen.position }
    stateLabel := session.drawing.pen.label }

def start (kit : Toolkit := .plain) : Except Failure Window := do
  let session ← Session.start Preset.default.config kit
  pure (opened session)

def say (w : Window) (line : String) : Window := { w with console := w.console ++ [line] }

def tell (w : Window) (kind : DialogKind) (title text : String) : Window :=
  { w with dialogs := w.dialogs ++ [⟨kind, title, text⟩] }

def setStatus (w : Window) (status : String) : Window := { w with status := status }

def setCommandLine (w : Window) (line : String) : Window := { w with commandLine := line }

def setProgram (w : Window) (text : String) : Window :=
  { w with editor := w.editor.setText text }

def showState (w : Window) : Window :=
  let pen := w.session.drawing.pen
  { w with view := w.view.setPen pen.position, stateLabel := pen.label }

/-- Takes the session as it has become, and shows its state if lines were executed. -/
def follow (w : Window) (session : Session) : Window :=
  let moved := { w with session := session }
  if session.drawing.refreshes = w.session.drawing.refreshes then moved else moved.showState

def runCommand (w : Window) : Except Failure Unit × Window :=
  match w.session.execute w.commandLine with
  | (.ok outcome, session) =>
    let said := ((w.follow session).say s!"> {outcome.command.text}").say outcome.message
    let told :=
      if outcome.command.verb = .fill then said.tell .information "Fill Mode" outcome.message
      else said
    (.ok (), (told.setStatus "Command executed").setCommandLine "")
  | (.error (.rejected r), session) =>
    (.ok (), ((w.follow session).say s!"Error: {r.message}").tell .critical "Error" r.message)
  | (.error (.overlong digits), session) => (.error (.overlong digits), w.follow session)

def checkCommand (w : Window) : Except Failure Unit × Window :=
  match parse w.commandLine with
  | .ok _ => (.ok (), w.tell .information "Syntax Check" "Syntax is correct.")
  | .error (.rejected r) => (.ok (), w.tell .critical "Syntax Error" r.message)
  | .error (.overlong digits) => (.error (.overlong digits), w)

def clearCanvas (w : Window) : Window := (w.follow (w.session.execute "clear").2).say "> clear"

def showErrors (w : Window) : Window :=
  match w.session.errors.sorted with
  | [] => { w with errorText := "No errors found.", editor := w.editor.clearMarks }
  | records =>
    { w with
      errorText := String.intercalate "\n" (records.map (·.text))
      editor := w.editor.mark (records.map (·.line)) }

/-- Runs the program in the editor, unless it is blank. -/
def runProgram (w : Window) : Except Failure Unit × Window :=
  if isBlankText w.editor.text then (.ok (), w)
  else
    match w.session.run w.editor.text with
    | (.ok true, session) =>
      (.ok (), ((w.follow session).showErrors.setStatus "Program complete").say
        "Program executed successfully")
    | (.ok false, session) =>
      (.ok (), ((w.follow session).showErrors.setStatus "Program completed with errors").say
        "Program executed with errors")
    | (.error e, session) => (.error e, w.follow session)

/-- Checks the program in the editor, unless it is blank. -/
def checkProgram (w : Window) : Except Failure Unit × Window :=
  if isBlankText w.editor.text then (.ok (), w)
  else
    match w.session.check w.editor.text with
    | (.ok true, session) => (.ok (), ((w.follow session).setStatus "Syntax is correct").showErrors)
    | (.ok false, session) =>
      (.ok (), ((w.follow session).setStatus "Syntax errors found").showErrors)
    | (.error e, session) => (.error e, w.follow session)

/-- Loads a program and checks it. An empty path stands for no choice. -/
def load (w : Window) (files : Files) (path : String) : Except Failure Unit × Window :=
  if path.isEmpty then (.ok (), w)
  else
    match files.read path with
    | .ok text =>
      let program := String.ofList (Files.unifyLineEnds text.toList)
      ((w.setProgram program).say s!"Loaded: {path}").checkProgram
    | .error e => (.error e, w)

/-- What is saved: the program, or the executed lines when there is none. -/
def savedText (w : Window) : String :=
  if w.editor.text.isEmpty then w.session.historyText else w.editor.text

def save (w : Window) (files : Files) (path : String) : Except Failure Files × Window :=
  if path.isEmpty then (.ok files, w)
  else
    match files.write path w.savedText with
    | .ok files => (.ok files, w.say s!"Saved: {path}")
    | .error e => (.error e, w)

/-- Takes up a preset on a blank canvas. -/
def choosePreset (w : Window) (name : String) : Except Failure Unit × Window :=
  let preset := Preset.named name
  match w.session.resize preset.config with
  | (.ok (), session) =>
    let moved := w.follow session
    let shown := { moved with view := moved.view.setCanvas session.canvas }
    (.ok (), shown.say s!"Switched to {preset.title} canvas ({preset.width}x{preset.height})")
  | (.error e, session) => (.error e, w.follow session)

end Window

end Drawboard
