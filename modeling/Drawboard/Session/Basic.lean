import Drawboard.Config.Basic
import Drawboard.Drawing.Basic
import Drawboard.ErrorList

/-!
A session: a drawing for a configuration, with the lines executed so far, how many lines were
executed and rejected, and the errors of the program that was last run or checked. A program has
one command to a line; blank lines are passed over, and a rejected line does not stop it. The
configuration in force is the last one that a canvas could be made for. All canvases are made with
one toolkit.
-/

namespace Drawboard

structure Session where
  kit : Toolkit
  config : Config
  inForce : Config
  canvas : Canvas
  drawing : Drawing
  errors : ErrorList := {}
  history : List String := []
  executed : Nat := 0
  failed : Nat := 0

structure Statistics where
  executed : Nat
  failed : Nat
  errors : Nat
  shapes : ShapeCounts
  extent : Extent
  pen : Pen

/-- The lines of a program that are not blank, with their numbers counted from one. -/
def programLines (text : String) : List (Nat × String) :=
  ((text.toList.splitOn '\n').zipIdx 1).filterMap fun (cs, n) =>
    if cs.all Text.isBlank then none else some (n, String.ofList cs)

namespace Session

def start (config : Config) (kit : Toolkit := .plain) : Except Failure Session := do
  let canvas ← Canvas.create 0 config.width config.height config.background kit
  pure
    { kit := kit
      config := config
      inForce := config
      canvas := canvas
      drawing := Drawing.start canvas config.markerSide? true }

/-- Executes a line. An overlong numeral counts neither as executed nor as rejected. -/
def execute (s : Session) (line : String) : Except Refusal Outcome × Session :=
  match s.drawing.execute line with
  | (.ok outcome, drawing) =>
    (.ok outcome,
     { s with
       drawing := drawing, executed := s.executed + 1, history := s.history ++ [trimmed line] })
  | (.error (.rejected r), drawing) =>
    (.error (.rejected r), { s with drawing := drawing, failed := s.failed + 1 })
  | (.error (.overlong digits), drawing) =>
    (.error (.overlong digits), { s with drawing := drawing })

/-- Executes numbered lines and records those that are rejected. An overlong numeral ends the
run. -/
def runLines (s : Session) : List (Nat × String) → Except Failure Unit × Session
  | [] => (.ok (), s)
  | (n, line) :: rest =>
    match s.execute line with
    | (.ok _, s) => runLines s rest
    | (.error (.rejected r), s) => runLines { s with errors := s.errors.reject n r } rest
    | (.error (.overlong digits), s) => (.error (.overlong digits), s)

def checkLines (errors : ErrorList) : List (Nat × String) → Except Failure Unit × ErrorList
  | [] => (.ok (), errors)
  | (n, line) :: rest =>
    match parse line with
    | .ok _ => checkLines errors rest
    | .error (.rejected r) => checkLines (errors.reject n r) rest
    | .error (.overlong digits) => (.error (.overlong digits), errors)

def run (s : Session) (text : String) : Except Failure Bool × Session :=
  match runLines { s with errors := {} } (programLines text) with
  | (.ok (), s) => (.ok (!s.errors.hasErrors), s)
  | (.error e, s) => (.error e, s)

def check (s : Session) (text : String) : Except Failure Bool × Session :=
  match checkLines {} (programLines text) with
  | (.ok (), errors) => (.ok (!errors.hasErrors), { s with errors := errors })
  | (.error e, errors) => (.error e, { s with errors := errors })

def historyText (s : Session) : String := String.intercalate "\n" s.history

def reset (s : Session) : Session :=
  { s with
    drawing := s.drawing.reset, errors := {}, history := [], executed := 0, failed := 0 }

/-- Takes up another configuration on a fresh canvas. The configuration is taken up even if no
canvas can be made for it, and the drawing then goes on as before. -/
def resize (s : Session) (config : Config) : Except Failure Unit × Session :=
  match Canvas.create (s.canvas.serial + 1) config.width config.height config.background s.kit with
  | .ok canvas =>
    (.ok (),
     { s with
       config := config
       inForce := config
       canvas := canvas
       drawing := { s.drawing.replaceCanvas canvas with markerSize := config.markerSide? } })
  | .error e => (.error e, { s with config := config })

def statistics (s : Session) : Except Failure Statistics :=
  match s.drawing.log.extent? with
  | none => .error .noExtent
  | some extent =>
    .ok
      { executed := s.executed
        failed := s.failed
        errors := s.errors.records.length
        shapes := s.drawing.log.counts
        extent := extent
        pen := s.drawing.pen }

/-- There is a summary just if the log has an extent. -/
theorem statistics_eq_ok_iff (s : Session) (t : Statistics) :
    s.statistics = .ok t ↔
      s.drawing.log.extent? = some t.extent ∧ s.drawing.log.counts = t.shapes ∧
        s.executed = t.executed ∧ s.failed = t.failed ∧ s.errors.records.length = t.errors ∧
        s.drawing.pen = t.pen := by
  obtain ⟨executed, failed, errors, shapes, extent, pen⟩ := t
  rw [statistics]
  cases s.drawing.log.extent? with
  | none => simp
  | some e =>
    simp only [Except.ok.injEq, Statistics.mk.injEq, Option.some.injEq]
    constructor
    · rintro ⟨h₁, h₂, h₃, h₄, h₅, h₆⟩
      exact ⟨h₅, h₄, h₁, h₂, h₃, h₆⟩
    · rintro ⟨h₅, h₄, h₁, h₂, h₃, h₆⟩
      exact ⟨h₁, h₂, h₃, h₄, h₅, h₆⟩

end Session

end Drawboard
