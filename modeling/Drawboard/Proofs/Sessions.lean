import Drawboard.Proofs.Handlers
import Drawboard.Session.Handled
import Drawboard.Session.Run

/-! What a line does to a session, by what it is read as and, with handlers, by whether it breaks, and
what running and checking a program and starting a session come to. -/

namespace Drawboard.Session

theorem eq_ok_of_toOption {α ε : Type} {x : Except ε α} {a : α} (h : x.toOption = some a) :
    x = .ok a := by
  cases x with
  | error e => cases h
  | ok b => exact congrArg Except.ok (Option.some.inj h)

theorem execute_of_ok (s : Session) {line : String} {c : Command} (h : parse line = .ok c) :
    s.execute line =
      (.ok ⟨c, c.action.applyTo s.drawing.pen, [c.action.change s.drawing.pen]⟩,
        { s with
          drawing := (s.drawing.perform c.action).refresh
          executed := s.executed + 1
          history := s.history ++ [trimmed line] }) := by
  unfold execute
  rw [s.drawing.execute_of_ok h]

theorem execute_of_rejected (s : Session) {line : String} {r : Rejection}
    (h : parse line = .error (.rejected r)) :
    s.execute line =
      (.error (.rejected r), { s with drawing := s.drawing.refresh, failed := s.failed + 1 }) := by
  unfold execute
  rw [s.drawing.execute_of_error h]

theorem execute_of_overlong (s : Session) {line : String} {digits : Nat}
    (h : parse line = .error (.overlong digits)) :
    s.execute line = (.error (.overlong digits), { s with drawing := s.drawing.refresh }) := by
  unfold execute
  rw [s.drawing.execute_of_error h]

theorem dispatch_of_rejected (s : Session) {line : String} {r : Rejection}
    (h : parse line = .error (.rejected r)) :
    s.dispatch line =
      (.error (.refused (.rejected r)),
        { s with drawing := s.drawing.refresh, failed := s.failed + 1 }) := by
  unfold dispatch
  rw [Drawing.dispatch_of_error h]

theorem dispatch_of_overlong (s : Session) {line : String} {digits : Nat}
    (h : parse line = .error (.overlong digits)) :
    s.dispatch line =
      (.error (.refused (.overlong digits)), { s with drawing := s.drawing.refresh }) := by
  unfold dispatch
  rw [Drawing.dispatch_of_error h]

theorem dispatch_of_fault (s : Session) {line : String} {c : Command} (h : parse line = .ok c)
    {fault : Fault} (hf : s.drawing.fault? c.action = some fault) :
    s.dispatch line =
      (.error (.broken fault),
        { s with
          drawing := ({ s.drawing with commands := s.drawing.commands + 1 } : Drawing).refresh }) := by
  unfold dispatch
  rw [Drawing.dispatch_of_fault h hf]

theorem dispatch_of_no_fault (s : Session) {line : String} {c : Command} (h : parse line = .ok c)
    (hf : s.drawing.fault? c.action = none) :
    s.dispatch line =
      (.ok ⟨c, c.action.applyTo s.drawing.pen, [c.action.change s.drawing.pen]⟩,
        { s with
          drawing := (s.drawing.perform c.action).refresh
          executed := s.executed + 1
          history := s.history ++ [trimmed line] }) := by
  unfold dispatch
  rw [Drawing.dispatch_of_no_fault h hf]

theorem run_snd (s : Session) (text : String) :
    (s.run text).2 = (({ s with errors := {} } : Session).runLines (programLines text)).2 := by
  unfold Session.run
  split <;> next h => rw [h]

theorem exists_check_snd_eq (s : Session) (text : String) :
    ∃ errors, (s.check text).2 = { s with errors := errors } := by
  unfold Session.check
  split <;> exact ⟨_, rfl⟩

theorem exists_start_eq {config : Config} {kit : Toolkit} {s : Session}
    (h : start config kit = .ok s) :
    ∃ canvas, Canvas.create 0 config.width config.height config.background kit = .ok canvas ∧
      s = { kit := kit, config := config, inForce := config, canvas := canvas
            drawing := Drawing.start canvas config.markerSide? true } := by
  unfold start at h
  cases hc : Canvas.create 0 config.width config.height config.background kit with
  | error e =>
    rw [hc] at h
    cases h
  | ok canvas =>
    rw [hc] at h
    exact ⟨canvas, rfl, (Except.ok.inj h).symm⟩

end Drawboard.Session
