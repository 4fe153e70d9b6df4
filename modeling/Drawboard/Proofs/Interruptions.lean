import Drawboard.Proofs.Lasting
import Drawboard.Proofs.Programs
import Drawboard.Proofs.Refusals

/-! What becomes of a line, and of all the lines of a program. Every line is executed or rejected
unless it is read up to a numeral of more than 4300 digits; such a line is neither, and a program
that comes to one is broken off there. -/

namespace Drawboard

/-- What a drawing answers to a line, executed by handlers or only checked. -/
structure Drawing.Answers (d : Drawing) (line : String) : Prop where
  otherwise : (∀ digits, ¬Overlong line digits) →
    (∃ c outcome, (d.checkSyntax line).1 = .ok c ∧ (d.dispatch line).1 = .ok outcome) ∨
      ∃ r, (d.checkSyntax line).1 = .error (.rejected r) ∧
        (d.dispatch line).1 = .error (.refused (.rejected r))
  overlong : ∀ digits, Overlong line digits →
    (d.checkSyntax line).1 = .error (.overlong digits) ∧
      (d.dispatch line).1 = .error (.refused (.overlong digits))
  outOfRange : Stuck OutOfRange line → ∃ r, r.kind = .invalidArguments ∧
    (d.checkSyntax line).1 = .error (.rejected r) ∧
      (d.dispatch line).1 = .error (.refused (.rejected r))

/-- How far a program is run and checked: some lines are visited, and then there are no more of them
or there is an overlong one. -/
structure Session.Visits (s : Session) (text : String) (visited rest : List (Nat × String)) :
    Prop where
  lines : programLines text = visited ++ rest
  readable : ∀ l ∈ visited, ∀ digits, ¬Overlong l.2 digits
  counted : (s.run text).2.executed + (s.run text).2.failed =
    s.executed + s.failed + visited.length
  recorded : ∀ l ∈ visited, ∀ r, parse l.2 = .error (.rejected r) →
    r.record l.1 ∈ (s.run text).2.errors.records ∧
      r.record l.1 ∈ (s.check text).2.errors.records
  ends : (rest = [] ∧ (∃ success, (s.run text).1 = .ok success) ∧
      ∃ success, (s.check text).1 = .ok success) ∨
    ∃ l tail digits, rest = l :: tail ∧ Overlong l.2 digits ∧
      (s.run text).1 = .error (.overlong digits) ∧ (s.check text).1 = .error (.overlong digits)

/-- How far a program is run by handlers: as far as it is run and checked, or up to a command that
breaks. None does with a pen in range and markers of a size they may have. -/
structure Session.Handles (s : Session) (text : String) (visited rest : List (Nat × String)) :
    Prop where
  lines : programLines text = visited ++ rest
  readable : ∀ l ∈ visited, ∀ digits, ¬Overlong l.2 digits
  counted : (s.dispatchProgram text).2.executed + (s.dispatchProgram text).2.failed =
    s.executed + s.failed + visited.length
  recorded : ∀ l ∈ visited, ∀ r, parse l.2 = .error (.rejected r) →
    r.record l.1 ∈ (s.dispatchProgram text).2.errors.records
  ends : (rest = [] ∧ ∃ success, (s.dispatchProgram text).1 = .ok success) ∨
    (∃ l tail digits, rest = l :: tail ∧ Overlong l.2 digits ∧
      (s.dispatchProgram text).1 = .error (.refused (.overlong digits))) ∨
    ∃ l tail c fault, rest = l :: tail ∧ parse l.2 = .ok c ∧
      (s.dispatchProgram text).1 = .error (.broken fault) ∧ ¬s.drawing.Bounded

theorem readable_iff (line : String) : Readable line ↔ ∀ digits, ¬Overlong line digits :=
  forall_congr' fun digits => not_congr (parse_eq_overlong_iff line digits)

theorem Drawing.answers {d : Drawing} (h : d.Bounded) (line : String) : d.Answers line where
  otherwise hr := by
    cases hp : parse line with
    | ok c => exact Or.inl ⟨c, _, hp, by rw [dispatch_of_ok h hp]⟩
    | error r =>
      cases r with
      | rejected r => exact Or.inr ⟨r, hp, by rw [dispatch_of_error hp]⟩
      | overlong digits => exact absurd hp ((readable_iff line).2 hr digits)
  overlong digits ho := by
    have hp := (parse_eq_overlong_iff line digits).2 ho
    exact ⟨hp, by rw [dispatch_of_error hp]⟩
  outOfRange hs := by
    obtain ⟨r, hp, hk⟩ := parse_of_outOfRange hs
    exact ⟨r, hk, hp, by rw [dispatch_of_error hp]⟩

namespace Session

theorem exists_visits (s : Session) (text : String) :
    ∃ visited rest, s.Visits text visited rest := by
  obtain ⟨hend, herrors⟩ := run_eq_check s s text
  obtain ⟨visited, rest, last, hcovers⟩ := exists_covers faithful_visitExecuted s text
  have hread : ∀ l ∈ visited, ∀ digits, ¬Overlong l.2 digits :=
    fun l hl => (readable_iff _).1 (hcovers.readable l hl)
  have hmem {l : Nat × String} (hl : l ∈ visited) {r : Rejection}
      (hp : parse l.2 = .error (.rejected r)) : r.record l.1 ∈ (s.run text).2.errors.records := by
    rw [run_eq_runBy, hcovers.records]
    exact List.mem_filterMap.2 ⟨l, hl, recordOf?_of_rejected hp⟩
  have hcounted := hcovers.counted
  have hending := hcovers.ends
  rw [← run_eq_runBy] at hcounted hending
  refine ⟨visited, rest, hcovers.lines, hread, hcounted,
    fun l hl r hp => ⟨hmem hl hp, herrors ▸ hmem hl hp⟩, ?_⟩
  rw [← hend, and_self]
  rcases hending with ⟨rfl, hok⟩ | ⟨l, tail, e, s', rfl, hv, he⟩
  · exact Or.inl ⟨rfl, _, hok⟩
  · obtain ⟨digits, hd, rfl⟩ := overlong_of_visitExecuted hv
    exact Or.inr ⟨l, tail, digits, rfl, (parse_eq_overlong_iff _ _).1 hd, he, he⟩

theorem exists_handles (s : Session) (text : String) :
    ∃ visited rest, s.Handles text visited rest := by
  obtain ⟨visited, rest, last, hcovers⟩ := exists_covers faithful_visitDispatched s text
  have hrecords := hcovers.records
  have hcounted := hcovers.counted
  have hending := hcovers.ends
  rw [← dispatchProgram_eq_runBy] at hrecords hcounted hending
  refine ⟨visited, rest, hcovers.lines, fun l hl => (readable_iff _).1 (hcovers.readable l hl),
    hcounted, fun l hl r hp => ?_, ?_⟩
  · rw [hrecords]
    exact List.mem_filterMap.2 ⟨l, hl, recordOf?_of_rejected hp⟩
  · rcases hending with ⟨rfl, hok⟩ | ⟨l, tail, e, s', rfl, hv, he⟩
    · exact Or.inl ⟨rfl, _, hok⟩
    · refine Or.inr ?_
      rcases overlong_or_fault_of_visitDispatched hv with
        ⟨digits, hd, rfl⟩ | ⟨c, fault, hp, hf, rfl⟩
      · exact Or.inl ⟨l, tail, digits, rfl, (parse_eq_overlong_iff _ _).1 hd, he⟩
      · refine Or.inr ⟨l, tail, c, fault, rfl, hp, he, fun hb => ?_⟩
        have hlast : last.drawing.Bounded := by
          have hkept := drawing_linesBy_dispatched (P := Drawing.Bounded)
            (s := { s with errors := {} }) (fun _ line hd => bounded_dispatch hd line) hb visited
          rwa [hcovers.reached] at hkept
        rw [Drawing.fault?_eq_none hlast (inRange_of_parse hp)] at hf
        cases hf

end Session

theorem outOfRange_circle : Stuck OutOfRange "circle -2147483649" := by
  have hn : SpellsNumber "-2147483649" ['2', '1', '4', '7', '4', '8', '3', '6', '4', '9']
      (-2147483649) :=
    ⟨['-'], by decide +kernel, by simp, by decide, (all_isDigit_iff _).1 (by decide), by decide⟩
  have hout : OutOfRange "-2147483649" := ⟨_, _, hn, by decide, by unfold Fits32; decide⟩
  exact ⟨.circle, "circle", ["-2147483649"], by decide +kernel, by decide +kernel,
    by decide +kernel, .here rfl hout rfl⟩

def nines (length : Nat) : String := String.ofList (List.replicate length '9')

theorem toList_nines (length : Nat) : (nines length).toList = List.replicate length '9' :=
  String.toList_ofList

theorem spellsNumber_nines {length : Nat} (h : 1 ≤ length) :
    SpellsNumber (nines length) (List.replicate length '9')
      (decimal (List.replicate length '9')) := by
  refine ⟨[], toList_nines length, by simp, ?_, ?_, by simp⟩
  · rwa [List.length_replicate]
  · intro d hd
    rw [List.eq_of_mem_replicate hd]
    decide

def circleOfNines (length : Nat) : String := String.intercalate " " ["circle", nines length]

theorem toList_circleOfNines (length : Nat) :
    (circleOfNines length).toList = "circle ".toList ++ List.replicate length '9' := by
  rw [circleOfNines, String.toList_intercalate]
  simp only [List.map_cons, List.map_nil, List.intercalate_cons_cons, List.intercalate_singleton,
    toList_nines]
  rfl

theorem trimmed_circleOfNines {length : Nat} (h : 1 ≤ length) :
    trimmed (circleOfNines length) = circleOfNines length := by
  obtain ⟨m, rfl⟩ : ∃ m, length = m + 1 := ⟨length - 1, by omega⟩
  have hcons : "circle ".toList ++ List.replicate (m + 1) '9' =
      'c' :: ("ircle ".toList ++ List.replicate m '9' ++ ['9']) := by
    rw [List.replicate_succ', ← List.append_assoc]
    rfl
  exact trimmed_eq_self ((toList_circleOfNines (m + 1)).trans hcons) (by decide) (by decide)

theorem overlong_circleOfNines {length : Nat} (h : 4300 < length) :
    Overlong (circleOfNines length) length := by
  have hnumber := spellsNumber_nines (show 1 ≤ length by omega)
  refine ⟨.circle, "circle", [nines length], trimmed_circleOfNines (by omega), ?_, ?_, ?_⟩
  · intro w hw
    simp only [List.mem_cons, List.not_mem_nil, or_false] at hw
    rcases hw with rfl | rfl
    · decide
    · rw [toList_nines]
      simp
  · decide +kernel
  · exact .here rfl ⟨_, _, hnumber, List.length_replicate, h⟩ rfl

theorem not_blank_circleOfNines (length : Nat) : isBlankText (circleOfNines length) = false := by
  rw [isBlankText, toList_circleOfNines]
  rfl

theorem programLines_circleOfNines (length : Nat) :
    programLines (String.intercalate "\n" [circleOfNines length, "frob"]) =
      [(1, circleOfNines length), (2, "frob")] := by
  have hsplit : (String.intercalate "\n" [circleOfNines length, "frob"]).toList.splitOn '\n' =
      [(circleOfNines length).toList, "frob".toList] := by
    rw [String.toList_intercalate]
    refine List.splitOn_intercalate '\n' ?_ (by simp)
    intro cs hcs
    simp only [List.map_cons, List.map_nil, List.mem_cons, List.not_mem_nil, or_false] at hcs
    rcases hcs with rfl | rfl
    · rw [toList_circleOfNines]
      simp
    · decide
  have hfirst := not_blank_circleOfNines length
  have hsecond : "frob".toList.all Text.isBlank = false := by decide
  unfold programLines
  rw [hsplit]
  rw [isBlankText] at hfirst
  simp only [List.zipIdx_cons, List.zipIdx_nil, List.filterMap_cons, List.filterMap_nil, hfirst,
    hsecond, Bool.false_eq_true, if_false, String.ofList_toList]

/-- After any run, a drawing executes or rejects every line that is not overlong, and no handler
fails. A session visits every line of a program that is not blank, or all of them up to an overlong
one; each visited line is counted once, and each rejected one is recorded. So it is if the program is
run by handlers, as long as none breaks. -/
theorem only_overlong_lines_break_off (canvas : Canvas) (size : MarkerSize) (watched : Bool)
    (steps : List Drawing.Step) (line : String) (s : Session) (text : String) :
    ((Drawing.start canvas (some size.side) watched).after steps).Answers line ∧
      (∃ visited rest, s.Visits text visited rest) ∧
      ∃ visited rest, s.Handles text visited rest :=
  ⟨Drawing.answers (Drawing.bounded_after canvas size watched steps) line, s.exists_visits text,
    s.exists_handles text⟩

/-- A radius one below the range has its line rejected, and the line after it is visited. -/
theorem radius_below_range_is_rejected :
    let canvas : Canvas := { serial := 0, width := 32, height := 24, background := ⟨255, 255, 255⟩ }
    let d := (Drawing.start canvas (some 2) true).after [.execute "moveto 5 5"]
    let text := "clear\n\ncircle -2147483649\nreset"
    (∃ r, r.kind = .invalidArguments ∧
      (d.dispatch "circle -2147483649").1 = .error (.refused (.rejected r))) ∧
    ∃ s, Session.start Preset.hd.config = .ok s ∧
      (s.run text).2.executed + (s.run text).2.failed = s.executed + s.failed + 3 ∧
      (s.dispatchProgram text).2.executed + (s.dispatchProgram text).2.failed =
        s.executed + s.failed + 3 := by
  intro canvas d text
  obtain ⟨s, hs⟩ : ∃ s, Session.start Preset.hd.config = .ok s := ⟨_, rfl⟩
  obtain ⟨hanswers, ⟨visited, rest, hv⟩, ⟨handled, left, hh⟩⟩ :=
    only_overlong_lines_break_off canvas { side := 2 } true [.execute "moveto 5 5"]
      "circle -2147483649" s text
  obtain ⟨r, hk, -, hr⟩ := hanswers.outOfRange outOfRange_circle
  have hread : ∀ l ∈ programLines text, (accepts l.2).isOk = true := by decide +kernel
  have hlength : (programLines text).length = 3 := by decide +kernel
  have hnone {l : Nat × String} {digits : Nat} (hl : l ∈ programLines text) :
      ¬Overlong l.2 digits := by
    intro ho
    have hok := hread l hl
    rw [accepts, (parse_eq_overlong_iff _ _).2 ho] at hok
    cases hok
  have hbounded : s.drawing.Bounded := by
    obtain ⟨canvas, -, rfl⟩ := Session.exists_start_eq hs
    exact Drawing.bounded_start canvas { side := 4 } true
  refine ⟨⟨r, hk, hr⟩, s, hs, ?_, ?_⟩
  · rcases hv.ends with ⟨rfl, -⟩ | ⟨l, tail, digits, rfl, ho, -⟩
    · rw [hv.counted, ← hlength, hv.lines, List.append_nil]
    · exact absurd ho (hnone (by rw [hv.lines]; simp))
  · rcases hh.ends with ⟨rfl, -⟩ | ⟨l, tail, digits, rfl, ho, -⟩ | ⟨-, -, -, -, -, -, -, hnot⟩
    · rw [hh.counted, ← hlength, hh.lines, List.append_nil]
    · exact absurd ho (hnone (by rw [hh.lines]; simp))
    · exact absurd hbounded hnot

/-- With 4301 nines a line is neither executed nor rejected. A program that starts with it counts no
line at all, and its second line, which is no command, is not recorded. -/
theorem nines_break_off :
    let text := String.intercalate "\n" [circleOfNines 4301, "frob"]
    let canvas : Canvas := { serial := 0, width := 20, height := 10, background := ⟨255, 255, 255⟩ }
    ((Drawing.start canvas (some 2) true).dispatch (circleOfNines 4301)).1 =
      .error (.refused (.overlong 4301)) ∧
    ∃ s, Session.start Preset.square.config = .ok s ∧
      (programLines text).length = 2 ∧ (s.run text).1 = .error (.overlong 4301) ∧
      (s.run text).2.executed + (s.run text).2.failed = s.executed + s.failed ∧
      (s.run text).2.errors.records = [] ∧
      (s.dispatchProgram text).1 = .error (.refused (.overlong 4301)) ∧
      (s.dispatchProgram text).2.executed + (s.dispatchProgram text).2.failed =
        s.executed + s.failed ∧
      (s.dispatchProgram text).2.errors.records = [] := by
  intro text canvas
  have hparse : parse (circleOfNines 4301) = .error (.overlong 4301) :=
    (parse_eq_overlong_iff _ _).2 (overlong_circleOfNines (by decide))
  have hlines : programLines text = [(1, circleOfNines 4301), (2, "frob")] :=
    programLines_circleOfNines 4301
  obtain ⟨s, hs⟩ : ∃ s, Session.start Preset.square.config = .ok s := ⟨_, rfl⟩
  refine ⟨by rw [Drawing.dispatch_of_error hparse], s, hs, by rw [hlines]; rfl, ?_⟩
  rw [Session.run, Session.dispatchProgram, hlines, Session.runLines, Session.dispatchLines,
    Session.execute_of_overlong _ hparse, Session.dispatch_of_overlong _ hparse]
  exact ⟨rfl, rfl, rfl, rfl, rfl, rfl⟩

end Drawboard
