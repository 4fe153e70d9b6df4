import Drawboard.Drawing.Run
import Drawboard.Session.Basic

/-!
Whatever can be done with a session, one thing after another. Sizes are whole numbers here; whether
a canvas can be made of them and of a background is another matter.
-/

namespace Drawboard

structure Settings where
  name : Json
  width : Int
  height : Int
  background : Json
  marker : MarkerSize

def Settings.config (s : Settings) : Config :=
  ⟨s.name, .int s.width, .int s.height, s.background, .int s.marker.side⟩

namespace Session

def checkSyntax (s : Session) (line : String) : Except Refusal Command × Session :=
  let (answer, drawing) := s.drawing.checkSyntax line
  (answer, { s with drawing := drawing })

inductive Step where
  | execute (line : String)
  | checkSyntax (line : String)
  | run (text : String)
  | check (text : String)
  | reset
  | resize (settings : Settings)

def step (s : Session) : Step → Session
  | .execute line => (s.execute line).2
  | .checkSyntax line => (s.checkSyntax line).2
  | .run text => (s.run text).2
  | .check text => (s.check text).2
  | .reset => s.reset
  | .resize settings => (s.resize settings.config).2

def after (s : Session) (steps : List Step) : Session := steps.foldl step s

/-- Whether the canvas is left to the commands. -/
def Step.goesOn : Step → Bool
  | .reset | .resize _ => false
  | .execute _ | .checkSyntax _ | .run _ | .check _ => true

end Session

end Drawboard
