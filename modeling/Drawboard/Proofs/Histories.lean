import Drawboard.Proofs.Canonical
import Drawboard.Proofs.Handlers
import Drawboard.Proofs.Sessions

/-! What a drawing keeps in step with the actions of the history is kept in step whatever is done
with the session, as lines that are refused or only checked leave no trace in either. -/

namespace Drawboard

def actionsOf (lines : List String) : List Action := lines.filterMap action?

theorem actionsOf_snoc (lines : List String) {line : String} {action : Action}
    (h : action? line = some action) : actionsOf (lines ++ [line]) = actionsOf lines ++ [action] := by
  rw [actionsOf, List.filterMap_append, List.filterMap_cons_some h, List.filterMap_nil, actionsOf]

/-- A relation between a drawing and actions that each action carried out extends. -/
structure Tracks (P : Drawing → List Action → Prop) : Prop where
  perform : ∀ d actions action, action.InRange → P d actions →
    P (d.perform action) (actions ++ [action])
  refresh : ∀ (d : Drawing) actions, P d actions → P d.refresh actions

/-- One that also survives a new beginning, with no actions, and a new canvas. -/
structure TracksThroughout (P : Drawing → List Action → Prop) : Prop extends Tracks P where
  reset : ∀ (d : Drawing) actions, P d actions → P d.reset []
  resize : ∀ (d : Drawing) actions canvas (size : MarkerSize), P d actions →
    P { d.replaceCanvas canvas with markerSize := size.side } actions

namespace Session

variable {P : Drawing → List Action → Prop} {s : Session}

/-- The history holds lines that can be read again, as many as were executed, and the drawing is in
step with their actions. -/
structure Recorded (P : Drawing → List Action → Prop) (s : Session) : Prop where
  lines : ∀ l ∈ s.history, Canonical l
  executed : s.executed = s.history.length
  drawing : P s.drawing (actionsOf s.history)

theorem recorded_of_history_eq_nil (hhistory : s.history = []) (hexecuted : s.executed = 0)
    (hdrawing : P s.drawing []) : Recorded P s := by
  refine ⟨?_, ?_, ?_⟩
  · rw [hhistory]
    exact fun _ hl => absurd hl List.not_mem_nil
  · rw [hhistory, hexecuted]
    rfl
  · rw [hhistory]
    exact hdrawing

theorem Recorded.of_drawing (h : Recorded P s) {s' : Session} (hhistory : s'.history = s.history)
    (hexecuted : s'.executed = s.executed) (hdrawing : P s'.drawing (actionsOf s.history)) :
    Recorded P s' := by
  refine ⟨?_, ?_, ?_⟩
  · rw [hhistory]
    exact h.lines
  · rw [hhistory, hexecuted]
    exact h.executed
  · rw [hhistory]
    exact hdrawing

theorem Recorded.execute (hP : Tracks P) (h : Recorded P s) (line : String) :
    Recorded P (s.execute line).2 := by
  cases hp : parse line with
  | ok c =>
    have ha := action?_of_parse hp
    rw [s.execute_of_ok hp]
    refine ⟨?_, ?_, ?_⟩
    · intro l hl
      rcases List.mem_append.1 hl with hl | hl
      · exact h.lines l hl
      · rw [List.mem_singleton.1 hl]
        exact canonical_trimmed ha
    · simp only [h.executed, List.length_append, List.length_singleton]
    · simp only [actionsOf_snoc s.history (action?_trimmed ha)]
      exact hP.refresh _ _ (hP.perform _ _ _ (inRange_of_parse hp) h.drawing)
  | error r =>
    cases r with
    | rejected r =>
      rw [s.execute_of_rejected hp]
      exact h.of_drawing rfl rfl (hP.refresh _ _ h.drawing)
    | overlong digits =>
      rw [s.execute_of_overlong hp]
      exact h.of_drawing rfl rfl (hP.refresh _ _ h.drawing)

theorem Recorded.runLines (hP : Tracks P) (h : Recorded P s) (lines : List (Nat × String)) :
    Recorded P (s.runLines lines).2 := by
  induction lines generalizing s with
  | nil => exact h
  | cons l lines ih =>
    have he := h.execute hP l.2
    unfold Session.runLines
    split
    · next s' hs =>
      rw [hs] at he
      exact ih he
    · next s' hs =>
      rw [hs] at he
      exact ih (he.of_drawing rfl rfl he.drawing)
    · next s' hs =>
      rw [hs] at he
      exact he

theorem Recorded.step_of_goesOn (hP : Tracks P) (h : Recorded P s) {x : Step}
    (hx : x.goesOn = true) : Recorded P (s.step x) := by
  cases x with
  | execute line => exact h.execute hP line
  | checkSyntax line => exact h.of_drawing rfl rfl h.drawing
  | run text =>
    have hclear : Recorded P { s with errors := {} } := h.of_drawing rfl rfl h.drawing
    rw [Session.step, run_snd]
    exact hclear.runLines hP _
  | check text =>
    obtain ⟨errors, he⟩ := s.exists_check_snd_eq text
    rw [Session.step, he]
    exact h.of_drawing rfl rfl h.drawing
  | reset | resize => cases hx

theorem Recorded.resize (hP : TracksThroughout P) (h : Recorded P s) (settings : Settings) :
    Recorded P (s.resize settings.config).2 := by
  unfold Session.resize
  split
  · exact h.of_drawing rfl rfl (hP.resize _ _ _ settings.marker h.drawing)
  · exact h.of_drawing rfl rfl h.drawing

theorem Recorded.reset (hP : TracksThroughout P) (h : Recorded P s) : Recorded P s.reset :=
  recorded_of_history_eq_nil rfl rfl (hP.reset _ _ h.drawing)

theorem Recorded.step (hP : TracksThroughout P) (h : Recorded P s) (x : Step) :
    Recorded P (s.step x) := by
  by_cases hx : x.goesOn = true
  · exact h.step_of_goesOn hP.toTracks hx
  · cases x with
    | reset => exact h.reset hP
    | resize settings => exact h.resize hP settings
    | _ => exact absurd rfl hx

theorem Recorded.after (hP : TracksThroughout P) (h : Recorded P s) (steps : List Step) :
    Recorded P (s.after steps) := by
  induction steps generalizing s with
  | nil => exact h
  | cons x steps ih => exact ih (h.step hP x)

end Session

end Drawboard
