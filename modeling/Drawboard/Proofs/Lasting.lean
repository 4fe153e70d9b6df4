import Drawboard.Proofs.Breaks
import Drawboard.Proofs.Resizing

/-! What lasts in a session. A property that every action keeps, and every new beginning and new
canvas, is kept whatever is asked of the session, with any configuration, and also if a handler breaks
at a number too large. None does as long as markers are of a size they may have. -/

namespace Drawboard

def Config.MarkerInRange (config : Config) : Prop :=
  ∃ side, config.markerSide? = some side ∧ -2147483648 ≤ side ∧ side ≤ 2147483648

/-- What is kept whatever is asked, with markers of any size. -/
structure Drawing.Lasting (P : Drawing → Prop) : Prop where
  perform : ∀ d action, P d → P (d.perform action)
  number : ∀ d : Drawing, P d → P { d with commands := d.commands + 1 }
  refresh : ∀ d : Drawing, P d → P d.refresh
  reset : ∀ d : Drawing, P d → P d.reset
  resize : ∀ (d : Drawing) canvas side, P d →
    P { d.replaceCanvas canvas with markerSize := side }

namespace Drawing.Lasting

variable {P : Drawing → Prop}

theorem dispatch (h : Lasting P) (d : Drawing) (line : String) (hd : P d) :
    P (d.dispatch line).2 := by
  rcases d.dispatch_cases line with ⟨r, -, hs⟩ | ⟨c, n, -, -, hs⟩ | ⟨c, -, -, hs⟩
  · rw [hs]
    exact h.refresh _ hd
  · rw [hs]
    exact h.refresh _ (h.number _ hd)
  · rw [hs]
    exact h.refresh _ (h.perform _ _ hd)

end Drawing.Lasting

namespace Session

theorem drawing_execute (s : Session) (line : String) :
    (s.execute line).2.drawing = (s.drawing.execute line).2 := by
  unfold execute
  split <;> next h => rw [h]

theorem drawing_dispatch (s : Session) (line : String) :
    (s.dispatch line).2.drawing = (s.drawing.dispatch line).2 := by
  unfold dispatch
  split <;> next h => rw [h]

variable {P : Drawing → Prop} {s : Session}

open Drawing (Lasting)

theorem drawing_linesBy_dispatched
    (hdispatch : ∀ (d : Drawing) line, P d → P (d.dispatch line).2) (hs : P s.drawing)
    (lines : List (Nat × String)) : P (linesBy visitDispatched s lines).2.drawing := by
  refine kept_linesBy (P := fun s => P s.drawing) (fun s line hs => ?_) (fun _ _ hs => hs) hs lines
  rw [visitDispatched_snd, drawing_dispatch]
  exact hdispatch _ line hs

theorem drawing_dispatchProgram (hdispatch : ∀ (d : Drawing) line, P d → P (d.dispatch line).2)
    (hs : P s.drawing) (text : String) : P (s.dispatchProgram text).2.drawing := by
  rw [dispatchProgram_eq_runBy, runBy_snd]
  exact drawing_linesBy_dispatched (s := { s with errors := {} }) hdispatch hs _

theorem drawing_handle (hdispatch : ∀ (d : Drawing) line, P d → P (d.dispatch line).2)
    (hreset : ∀ d : Drawing, P d → P d.reset) {request : Request}
    (hresize : ∀ config ∈ request.config?, ∀ (d : Drawing) canvas, P d →
      P { d.replaceCanvas canvas with markerSize := config.markerSide? })
    (hs : P s.drawing) : P (s.handle request).drawing := by
  cases request with
  | execute line => exact s.drawing_dispatch line ▸ hdispatch _ line hs
  | run text => exact drawing_dispatchProgram hdispatch hs text
  | check text =>
    obtain ⟨errors, hc⟩ := s.exists_check_snd_eq text
    rw [handle, respond, hc]
    exact hs
  | reset => exact hreset _ hs
  | resize config =>
    rcases s.respond_cases (.resize config) with
      ⟨hc, -⟩ | ⟨_, canvas, hc, -, -, hr⟩ | ⟨_, failure, -, -, hr⟩
    · cases hc
    · cases hc
      rw [handle, hr]
      exact hresize config rfl _ _ hs
    · rw [handle, hr]
      exact hs
  | checkSyntax line | ask question => exact hs

theorem lasting_handleAll (h : Lasting P) (hs : P s.drawing) (requests : List Request) :
    P (s.handleAll requests).drawing := by
  induction requests generalizing s with
  | nil => exact hs
  | cons request requests ih =>
    exact ih (drawing_handle h.dispatch h.reset
      (fun config _ d canvas => h.resize d canvas config.markerSide?) hs)

theorem bounded_execute {d : Drawing} (h : d.Bounded) (line : String) :
    (d.execute line).2.Bounded :=
  Drawing.kept_bounded.step h (.execute line)

/-- As long as numbers are in range, execution by handlers is execution. -/
theorem dispatch_eq_execute (h : s.drawing.Bounded) (line : String) :
    s.dispatch line = ((s.execute line).1.mapError .refused, (s.execute line).2) := by
  unfold dispatch
  cases hp : parse line with
  | ok c =>
    rw [Drawing.dispatch_of_ok h hp, s.execute_of_ok hp]
    rfl
  | error r =>
    rw [Drawing.dispatch_of_error hp]
    cases r with
    | rejected r =>
      rw [s.execute_of_rejected hp]
      rfl
    | overlong digits =>
      rw [s.execute_of_overlong hp]
      rfl

theorem bounded_dispatch {d : Drawing} (h : d.Bounded) (line : String) :
    (d.dispatch line).2.Bounded := by
  rw [Drawing.dispatch_eq h]
  exact bounded_execute h line

theorem bounded_handle (h : s.drawing.Bounded) {request : Request}
    (hr : ∀ config ∈ request.config?, config.MarkerInRange) : (s.handle request).drawing.Bounded := by
  refine drawing_handle (fun _ line hd => bounded_dispatch hd line) Drawing.kept_bounded.reset
    (fun config hc d canvas hd => ?_) h
  obtain ⟨side, hside, hlow, hhigh⟩ := hr config hc
  rw [hside]
  exact Drawing.kept_bounded.setMarker _ ⟨side, hlow, hhigh⟩ (hd.of_eq rfl rfl)

def Step.request : Step → Request
  | .execute line => .execute line
  | .checkSyntax line => .checkSyntax line
  | .run text => .run text
  | .check text => .check text
  | .reset => .reset
  | .resize settings => .resize settings.config

end Session

end Drawboard
