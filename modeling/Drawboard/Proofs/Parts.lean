import Drawboard.Proofs.Lines

/-! A program in two parts. Its lines are those of the first part and, numbered on from there, those of
the second. A line does the same whatever errors were recorded before it, so a program runs as its
parts do one after the other, and its records are theirs. -/

namespace Drawboard

def lineEnds (text : String) : Nat := text.toList.count '\n'

def lineBelow (n : Nat) (l : Nat × String) : Nat × String := (l.1 + n, l.2)

def ErrorRecord.below (n : Nat) (r : ErrorRecord) : ErrorRecord := { r with line := r.line + n }

theorem length_splitOn (a : Char) (cs : List Char) : (cs.splitOn a).length = cs.count a + 1 := by
  induction cs with
  | nil => rfl
  | cons c cs ih =>
    rw [List.splitOn_cons_eq_if_modifyHead, List.count_cons]
    split
    · rw [List.length_cons, ih]
    · rw [List.length_modifyHead, ih, Nat.add_zero]

/-- Each part is cut into lines by itself; a line end between them is counted as one more. -/
theorem programLines_append (a b : String) :
    programLines (a ++ "\n" ++ b) =
      programLines a ++ (programLines b).map (lineBelow (lineEnds a + 1)) := by
  have htext : (a ++ "\n" ++ b).toList = a.toList ++ '\n' :: b.toList := by simp
  have hnumbers : (b.toList.splitOn '\n').zipIdx (1 + (a.toList.splitOn '\n').length) =
      ((b.toList.splitOn '\n').zipIdx 1).map (Prod.map id (· + (lineEnds a + 1))) := by
    rw [List.map_snd_add_zipIdx_eq_zipIdx, length_splitOn, lineEnds, Nat.add_comm]
  unfold programLines
  rw [htext, List.splitOn_append_cons_self, List.zipIdx_append, List.filterMap_append, hnumbers,
    List.filterMap_map, List.map_filterMap]
  congr 2
  funext l
  simp only [Function.comp, Prod.map, id]
  split <;> rfl

theorem map_line_below (records : List ErrorRecord) (n : Nat) :
    (records.map (·.below n)).map (·.line) = (records.map (·.line)).map (· + (n : Int)) := by
  rw [List.map_map, List.map_map]
  rfl

namespace Session

/-- The same session with records before its own, and its own for lines `n` lines further down. -/
def withBefore (records : List ErrorRecord) (n : Nat) (s : Session) : Session :=
  { s with errors := ⟨records ++ s.errors.records.map (·.below n)⟩ }

section

variable (records : List ErrorRecord) (n : Nat) (s : Session)

theorem execute_withBefore (line : String) :
    (s.withBefore records n).execute line =
      ((s.execute line).1, (s.execute line).2.withBefore records n) := by
  have hdrawing : (s.withBefore records n).drawing = s.drawing := rfl
  rw [execute, hdrawing, execute]
  generalize s.drawing.execute line = executed
  obtain ⟨(r | digits) | outcome, d⟩ := executed <;> rfl

theorem dispatch_withBefore (line : String) :
    (s.withBefore records n).dispatch line =
      ((s.dispatch line).1, (s.dispatch line).2.withBefore records n) := by
  have hdrawing : (s.withBefore records n).drawing = s.drawing := rfl
  rw [dispatch, hdrawing, dispatch]
  generalize s.drawing.dispatch line = dispatched
  obtain ⟨((r | digits) | fault) | outcome, d⟩ := dispatched <;> rfl

theorem reject_withBefore (line : Nat) (r : Rejection) :
    { s.withBefore records n with
        errors := (s.withBefore records n).errors.reject (line + n : Nat) r } =
      ({ s with errors := s.errors.reject line r } : Session).withBefore records n := by
  simp only [withBefore, ErrorList.reject, ErrorList.add, List.map_append, List.append_assoc]
  rfl

theorem hasErrors_withBefore :
    (s.withBefore records n).errors.hasErrors =
      ((ErrorList.mk records).hasErrors || s.errors.hasErrors) := by
  simp only [withBefore, ErrorList.hasErrors, List.any_append, List.any_map]
  rfl

end

variable {ε : Type}

def Visit.IgnoresRecords (visit : Visit ε) : Prop :=
  ∀ (records : List ErrorRecord) (n : Nat) (s : Session) (line : String),
    visit (s.withBefore records n) line =
      ((visit s line).1, (visit s line).2.withBefore records n)

theorem ignoresRecords_visitExecuted : Visit.IgnoresRecords visitExecuted := by
  intro records n s line
  rw [visitExecuted, execute_withBefore, visitExecuted]
  generalize s.execute line = executed
  obtain ⟨(r | digits) | outcome, s'⟩ := executed <;> rfl

theorem ignoresRecords_visitDispatched : Visit.IgnoresRecords visitDispatched := by
  intro records n s line
  rw [visitDispatched, dispatch_withBefore, visitDispatched]
  generalize s.dispatch line = dispatched
  obtain ⟨((r | digits) | fault) | outcome, s'⟩ := dispatched <;> rfl

variable {visit : Visit ε} {s : Session}

theorem linesBy_withBefore (hvisit : visit.IgnoresRecords) (records : List ErrorRecord) (n : Nat)
    (s : Session) (lines : List (Nat × String)) :
    linesBy visit (s.withBefore records n) (lines.map (lineBelow n)) =
      ((linesBy visit s lines).1, (linesBy visit s lines).2.withBefore records n) := by
  induction lines generalizing s with
  | nil => rfl
  | cons l lines ih =>
    rw [List.map_cons, lineBelow, linesBy, hvisit, linesBy]
    generalize visit s l.2 = visited
    obtain ⟨e | _ | r, s'⟩ := visited
    · rfl
    · exact ih s'
    · simp only [reject_withBefore]
      exact ih _

theorem linesBy_of_runBy {text : String} {success : Bool}
    (h : (runBy visit s text).1 = .ok success) :
    linesBy visit { s with errors := {} } (programLines text) = (.ok (), (runBy visit s text).2) ∧
      success = !(runBy visit s text).2.errors.hasErrors := by
  unfold runBy at h ⊢
  generalize linesBy visit { s with errors := {} } (programLines text) = ran at h ⊢
  obtain ⟨ending, s'⟩ := ran
  cases ending with
  | error e => cases h
  | ok => exact ⟨rfl, (Except.ok.inj h).symm⟩

/-- If the first part of a program comes to an end, the whole ends as the second part does when it is
run after the first, with the records of the first part before those of the second. -/
theorem runBy_append (hvisit : visit.IgnoresRecords) {a : String} {success : Bool}
    (h : (runBy visit s a).1 = .ok success) (b : String) :
    runBy visit s (a ++ "\n" ++ b) =
      ((runBy visit (runBy visit s a).2 b).1.map (success && ·),
        (runBy visit (runBy visit s a).2 b).2.withBefore (runBy visit s a).2.errors.records
          (lineEnds a + 1)) := by
  obtain ⟨hfirst, rfl⟩ := linesBy_of_runBy h
  generalize (runBy visit s a).2 = s' at hfirst ⊢
  -- The second part starts without records, which is to say with those of the first before them.
  have hstart : s' = ({ s' with errors := {} } : Session).withBefore s'.errors.records
      (lineEnds a + 1) := by
    simp [withBefore]
  have hwhole := linesBy_append_of_ok hfirst ((programLines b).map (lineBelow (lineEnds a + 1)))
  rw [← programLines_append] at hwhole
  have hsecond := linesBy_withBefore hvisit s'.errors.records (lineEnds a + 1)
    { s' with errors := {} } (programLines b)
  rw [← hstart] at hsecond
  rw [runBy, hwhole, hsecond, runBy]
  generalize linesBy visit { s' with errors := {} } (programLines b) = ran
  obtain ⟨ending, t⟩ := ran
  cases ending with
  | error e => rfl
  | ok =>
    simp only [hasErrors_withBefore, Bool.not_or]
    rfl

/-- The two parts before and after a line end, run in one, come to the same as run one after the other:
the same is drawn and counted, the whole ends early if the second part does and otherwise succeeds if
both do, and it leaves the errors of both parts, those of the second for lines further down by as many
as the first part has with the line end behind it. -/
structure Splits (run : Session → String → Except ε Bool × Session) (s : Session) (a b : String)
    (success : Bool) : Prop where
  state : (run s (a ++ "\n" ++ b)).2 =
    { (run (run s a).2 b).2 with errors := (run s (a ++ "\n" ++ b)).2.errors }
  failure : ∀ e, (run s (a ++ "\n" ++ b)).1 = .error e ↔ (run (run s a).2 b).1 = .error e
  verdict : ∀ more, (run (run s a).2 b).1 = .ok more →
    (run s (a ++ "\n" ++ b)).1 = .ok (success && more)
  records : (run s (a ++ "\n" ++ b)).2.errors.records = (run s a).2.errors.records ++
    (run (run s a).2 b).2.errors.records.map (·.below (lineEnds a + 1))

theorem splits_runBy (hvisit : visit.IgnoresRecords) {a : String} {success : Bool}
    (h : (runBy visit s a).1 = .ok success) (b : String) : Splits (runBy visit) s a b success := by
  have hwhole := runBy_append hvisit h b
  refine ⟨?_, fun e => ?_, fun more hmore => ?_, ?_⟩
  · rw [hwhole]
    rfl
  · rw [hwhole]
    cases (runBy visit (runBy visit s a).2 b).1 with
    | error e => exact Iff.rfl
    | ok more => exact ⟨nofun, nofun⟩
  · rw [hwhole, hmore]
    rfl
  · rw [hwhole]
    rfl

/-- A program is run as its parts before and after a line end are run one after the other, provided
that the first does not end early, and so it is by handlers, with markers of any size. -/
theorem run_splits_at_line_end (s : Session) (a b : String) (success : Bool) :
    ((s.run a).1 = .ok success → Splits run s a b success) ∧
      ((s.dispatchProgram a).1 = .ok success → Splits dispatchProgram s a b success) := by
  have hrun : run = runBy visitExecuted := funext₂ run_eq_runBy
  have hdispatch : dispatchProgram = runBy visitDispatched := funext₂ dispatchProgram_eq_runBy
  constructor
  · rw [hrun]
    exact fun h => splits_runBy ignoresRecords_visitExecuted h b
  · rw [hdispatch]
    exact fun h => splits_runBy ignoresRecords_visitDispatched h b

/-- Both parts of this program have a line that is rejected, the third of the first and the second of
the other, which is the fifth of the whole. -/
theorem third_and_fifth_line_are_recorded :
    let a := "circle 5\n\nfrob"
    let b := "PEN Red\nmoveto 7"
    ∃ s, start Preset.square.config = .ok s ∧ (s.run a).1 = .ok false ∧
      (s.run (a ++ "\n" ++ b)).1 = .ok false ∧
      (s.run (a ++ "\n" ++ b)).2.errors.records.map (·.line) = [3, 5] ∧
      (s.dispatchProgram a).1 = .ok false ∧
      (s.dispatchProgram (a ++ "\n" ++ b)).2.drawing =
        ((s.dispatchProgram a).2.dispatchProgram b).2.drawing := by
  intro a b
  obtain ⟨s, hs⟩ : ∃ s, start Preset.square.config = .ok s := ⟨_, rfl⟩
  have hfirst : (s.run a).1.toOption = some false := by
    cases hs
    decide +kernel
  have hsecond : ((s.run a).2.run b).1.toOption = some false := by
    cases hs
    decide +kernel
  have hlines : (s.run a).2.errors.records.map (·.line) = [3] ∧
      ((s.run a).2.run b).2.errors.records.map (·.line) = [2] := by
    cases hs
    decide +kernel
  have hdispatched : (s.dispatchProgram a).1.toOption = some false := by
    cases hs
    decide +kernel
  have hok := eq_ok_of_toOption hfirst
  have hok' := eq_ok_of_toOption hdispatched
  have hsplits := (run_splits_at_line_end s a b false).1 hok
  have hsplits' := (run_splits_at_line_end s a b false).2 hok'
  refine ⟨s, hs, hok, hsplits.verdict false (eq_ok_of_toOption hsecond), ?_, hok', ?_⟩
  · rw [hsplits.records, List.map_append, map_line_below, hlines.1, hlines.2]
    decide +kernel
  · rw [hsplits'.state]

end Session

end Drawboard
