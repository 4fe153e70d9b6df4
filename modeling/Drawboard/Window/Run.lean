import Drawboard.Window

/-!
Whatever can be done at the window, one thing after another. A file is chosen in some folder, which
need not be the same each time; an action that fails leaves the window as it has become until then.
-/

namespace Drawboard.Window

inductive Step where
  | typeCommand (line : String)
  | editProgram (text : String)
  | runCommand
  | checkCommand
  | clearCanvas
  | runProgram
  | checkProgram
  | load (files : Files) (path : String)
  | save (files : Files) (path : String)
  | choosePreset (name : String)

def step (w : Window) : Step → Window
  | .typeCommand line => w.setCommandLine line
  | .editProgram text => w.setProgram text
  | .runCommand => w.runCommand.2
  | .checkCommand => w.checkCommand.2
  | .clearCanvas => w.clearCanvas
  | .runProgram => w.runProgram.2
  | .checkProgram => w.checkProgram.2
  | .load files path => (w.load files path).2
  | .save files path => (w.save files path).2
  | .choosePreset name => (w.choosePreset name).2

def after (w : Window) (steps : List Step) : Window := steps.foldl step w

/-- Executes numbered lines, and the window follows after each of them. -/
def followLines (w : Window) : List (Nat × String) → Except Failure Unit × Window
  | [] => (.ok (), w)
  | (n, line) :: rest =>
    match w.session.execute line with
    | (.ok _, session) => followLines (w.follow session) rest
    | (.error (.rejected r), session) =>
      let shown := w.follow session
      followLines { shown with session := { session with errors := session.errors.reject n r } } rest
    | (.error (.overlong digits), session) => (.error (.overlong digits), w.follow session)

end Drawboard.Window
