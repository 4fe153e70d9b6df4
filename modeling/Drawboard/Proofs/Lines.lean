import Drawboard.Proofs.Sessions

/-! The lines of a program, one after another. A line is done or rejected, or the run ends with it; how
it comes to this makes no difference to a run. So running and running by handlers are two instances of
the same run. -/

namespace Drawboard.Session

/-- What becomes of a line: it is done or rejected, or the run ends with it. -/
abbrev Visit (ε : Type) : Type := Session → String → Except ε (Option Rejection) × Session

variable {ε : Type}

def linesBy (visit : Visit ε) (s : Session) : List (Nat × String) → Except ε Unit × Session
  | [] => (.ok (), s)
  | (n, line) :: rest =>
    match visit s line with
    | (.ok none, s) => linesBy visit s rest
    | (.ok (some r), s) => linesBy visit { s with errors := s.errors.reject n r } rest
    | (.error e, s) => (.error e, s)

def runBy (visit : Visit ε) (s : Session) (text : String) : Except ε Bool × Session :=
  match linesBy visit { s with errors := {} } (programLines text) with
  | (.ok (), s) => (.ok (!s.errors.hasErrors), s)
  | (.error e, s) => (.error e, s)

def visitExecuted (s : Session) (line : String) : Except Failure (Option Rejection) × Session :=
  match s.execute line with
  | (.ok _, s) => (.ok none, s)
  | (.error (.rejected r), s) => (.ok (some r), s)
  | (.error (.overlong digits), s) => (.error (.overlong digits), s)

def visitDispatched (s : Session) (line : String) :
    Except Interruption (Option Rejection) × Session :=
  match s.dispatch line with
  | (.ok _, s) => (.ok none, s)
  | (.error (.refused (.rejected r)), s) => (.ok (some r), s)
  | (.error interruption, s) => (.error interruption, s)

theorem visitExecuted_snd (s : Session) (line : String) :
    (visitExecuted s line).2 = (s.execute line).2 := by
  unfold visitExecuted
  split <;> next h => rw [h]

theorem visitDispatched_snd (s : Session) (line : String) :
    (visitDispatched s line).2 = (s.dispatch line).2 := by
  unfold visitDispatched
  split <;> next h => rw [h]

theorem runLines_eq_linesBy (s : Session) (lines : List (Nat × String)) :
    s.runLines lines = linesBy visitExecuted s lines := by
  induction lines generalizing s with
  | nil => rfl
  | cons l lines ih =>
    rw [runLines, linesBy, visitExecuted]
    generalize s.execute l.2 = executed
    obtain ⟨(r | digits) | outcome, s'⟩ := executed
    · exact ih _
    · rfl
    · exact ih s'

theorem dispatchLines_eq_linesBy (s : Session) (lines : List (Nat × String)) :
    s.dispatchLines lines = linesBy visitDispatched s lines := by
  induction lines generalizing s with
  | nil => rfl
  | cons l lines ih =>
    rw [dispatchLines, linesBy, visitDispatched]
    generalize s.dispatch l.2 = dispatched
    obtain ⟨((r | digits) | fault) | outcome, s'⟩ := dispatched
    · exact ih _
    · rfl
    · rfl
    · exact ih s'

theorem run_eq_runBy (s : Session) (text : String) : s.run text = runBy visitExecuted s text := by
  rw [Session.run, runBy, runLines_eq_linesBy]
  generalize linesBy visitExecuted _ _ = ran
  obtain ⟨ending, s'⟩ := ran
  cases ending <;> rfl

theorem dispatchProgram_eq_runBy (s : Session) (text : String) :
    s.dispatchProgram text = runBy visitDispatched s text := by
  rw [dispatchProgram, runBy, dispatchLines_eq_linesBy]
  generalize linesBy visitDispatched _ _ = ran
  obtain ⟨ending, s'⟩ := ran
  cases ending <;> rfl

theorem runBy_snd (visit : Visit ε) (s : Session) (text : String) :
    (runBy visit s text).2 = (linesBy visit { s with errors := {} } (programLines text)).2 := by
  unfold runBy
  split <;> next h => rw [h]

/-- What every visit keeps, and the recording of errors too, lasts through a run. -/
theorem kept_linesBy {visit : Visit ε} {P : Session → Prop}
    (hvisit : ∀ s line, P s → P (visit s line).2)
    (herrors : ∀ (s : Session) errors, P s → P { s with errors := errors }) {s : Session}
    (hs : P s) (lines : List (Nat × String)) : P (linesBy visit s lines).2 := by
  induction lines generalizing s with
  | nil => exact hs
  | cons l lines ih =>
    have hv := hvisit s l.2 hs
    rw [linesBy]
    generalize visit s l.2 = visited at hv ⊢
    obtain ⟨e | _ | r, s'⟩ := visited
    · exact hv
    · exact ih hv
    · exact ih (herrors s' _ hv)

variable {visit : Visit ε} {s s' : Session}

theorem linesBy_append_of_ok {lines : List (Nat × String)}
    (h : linesBy visit s lines = (.ok (), s')) (rest : List (Nat × String)) :
    linesBy visit s (lines ++ rest) = linesBy visit s' rest := by
  induction lines generalizing s with
  | nil =>
    cases h
    rfl
  | cons l lines ih =>
    rw [linesBy] at h
    rw [List.cons_append, linesBy]
    generalize visit s l.2 = visited at h ⊢
    obtain ⟨e | _ | r, s''⟩ := visited
    · cases h
    · exact ih h
    · exact ih h

/-- A run comes to the end of the lines, or to one that it ends with. -/
theorem exists_linesBy_append (visit : Visit ε) (s : Session) (lines : List (Nat × String)) :
    ∃ visited rest s', lines = visited ++ rest ∧ linesBy visit s visited = (.ok (), s') ∧
      (rest = [] ∨ ∃ l tail e s'', rest = l :: tail ∧ visit s' l.2 = (.error e, s'')) := by
  induction lines generalizing s with
  | nil => exact ⟨[], [], s, rfl, rfl, Or.inl rfl⟩
  | cons l lines ih =>
    generalize hv : visit s l.2 = result
    obtain ⟨e | _ | r, s''⟩ := result
    · exact ⟨[], l :: lines, s, rfl, rfl, Or.inr ⟨l, lines, e, s'', rfl, hv⟩⟩
    · obtain ⟨visited, rest, last, rfl, hran, hrest⟩ := ih s''
      refine ⟨l :: visited, rest, last, rfl, ?_, hrest⟩
      rw [linesBy, hv]
      exact hran
    · obtain ⟨visited, rest, last, rfl, hran, hrest⟩ :=
        ih { s'' with errors := s''.errors.reject l.1 r }
      refine ⟨l :: visited, rest, last, rfl, ?_, hrest⟩
      rw [linesBy, hv]
      exact hran

end Drawboard.Session
