import Drawboard.Proofs.Lines

/-! What running and checking a program report, line by line. Both go on after a rejected line and
record it, and both end at a line that is refused without being rejected. A run also ends at a command
that breaks. If none does, they report the same, from whatever sessions they start. -/

namespace Drawboard

def Rejection.record (r : Rejection) (line : Nat) : ErrorRecord :=
  { line := line, span := r.span, message := r.message, kind := r.kind }

def rejection? (line : String) : Option Rejection :=
  match parse line with
  | .error (.rejected r) => some r
  | _ => none

def recordOf? (l : Nat × String) : Option ErrorRecord := (rejection? l.2).map (·.record l.1)

/-- A line at which a program does not end: it is a command, or it is rejected. -/
def Readable (line : String) : Prop := ∀ digits, parse line ≠ .error (.overlong digits)

theorem readable_of_ok {line : String} {c : Command} (h : parse line = .ok c) : Readable line :=
  fun _ hd => nomatch h.symm.trans hd

theorem readable_of_rejected {line : String} {r : Rejection}
    (h : parse line = .error (.rejected r)) : Readable line :=
  fun _ hd => nomatch h.symm.trans hd

instance : DecidablePred Readable := fun line =>
  match h : parse line with
  | .error (.overlong digits) => isFalse fun hr => hr digits h
  | .error (.rejected _) => isTrue (readable_of_rejected h)
  | .ok _ => isTrue (readable_of_ok h)

theorem rejection?_eq_some_iff (line : String) (r : Rejection) :
    rejection? line = some r ↔ parse line = .error (.rejected r) := by
  unfold rejection?
  split
  · next h => rw [h, Option.some.injEq, Except.error.injEq, Refusal.rejected.injEq]
  · next h => exact ⟨nofun, fun hr => absurd hr (h r)⟩

theorem recordOf?_of_ok {l : Nat × String} {c : Command} (h : parse l.2 = .ok c) :
    recordOf? l = none := by
  rw [recordOf?, rejection?, h]
  rfl

theorem recordOf?_of_rejected {l : Nat × String} {r : Rejection}
    (h : parse l.2 = .error (.rejected r)) : recordOf? l = some (r.record l.1) := by
  rw [recordOf?, (rejection?_eq_some_iff _ _).2 h]
  rfl

theorem recordOf?_eq_some {l : Nat × String} {record : ErrorRecord}
    (h : recordOf? l = some record) : record.line = l.1 ∧ record.severity = .error := by
  obtain ⟨r, -, rfl⟩ := Option.map_eq_some_iff.1 h
  exact ⟨rfl, rfl⟩

/-- Numbered lines up to the first at which a program ends, and the lines from there on. -/
theorem exists_readable_append (lines : List (Nat × String)) :
    ∃ visited rest, lines = visited ++ rest ∧ (∀ l ∈ visited, Readable l.2) ∧
      (rest = [] ∨ ∃ l tail digits, rest = l :: tail ∧ parse l.2 = .error (.overlong digits)) := by
  induction lines with
  | nil => exact ⟨[], [], rfl, by simp, Or.inl rfl⟩
  | cons l lines ih =>
    by_cases h : ∃ digits, parse l.2 = .error (.overlong digits)
    · obtain ⟨digits, hd⟩ := h
      exact ⟨[], l :: lines, rfl, by simp, Or.inr ⟨l, lines, digits, rfl, hd⟩⟩
    · obtain ⟨visited, rest, rfl, hv, hr⟩ := ih
      exact ⟨l :: visited, rest, rfl, List.forall_mem_cons.2 ⟨not_exists.1 h, hv⟩, hr⟩

namespace Session

theorem checkLines_append (errors : ErrorList) {lines : List (Nat × String)}
    (h : ∀ l ∈ lines, Readable l.2) (rest : List (Nat × String)) :
    checkLines errors (lines ++ rest) =
      checkLines ⟨errors.records ++ lines.filterMap recordOf?⟩ rest := by
  induction lines generalizing errors with
  | nil =>
    rw [List.filterMap_nil, List.append_nil]
    rfl
  | cons l lines ih =>
    have hrest : ∀ k ∈ lines, Readable k.2 := fun k hk => h k (List.mem_cons_of_mem _ hk)
    rw [List.cons_append, checkLines]
    cases hp : parse l.2 with
    | ok c =>
      rw [List.filterMap_cons_none (recordOf?_of_ok hp)]
      exact ih errors hrest
    | error r =>
      cases r with
      | rejected r =>
        rw [List.filterMap_cons_some (recordOf?_of_rejected hp), List.append_cons]
        exact ih _ hrest
      | overlong digits => exact absurd hp (h l List.mem_cons_self digits)

theorem checkLines_of_overlong (errors : ErrorList) {l : Nat × String} {digits : Nat}
    (h : parse l.2 = .error (.overlong digits)) (rest : List (Nat × String)) :
    checkLines errors (l :: rest) = (.error (.overlong digits), errors) := by
  rw [checkLines, h]

theorem hasErrors_of_records {es : ErrorList} {lines : List (Nat × String)}
    (h : es.records = lines.filterMap recordOf?) : (!es.hasErrors) = es.records.isEmpty := by
  have herror : ∀ r ∈ es.records, r.severity = .error := by
    rw [h]
    intro r hr
    obtain ⟨l, -, hl⟩ := List.mem_filterMap.1 hr
    exact (recordOf?_eq_some hl).2
  unfold ErrorList.hasErrors
  cases hr : es.records with
  | nil => rfl
  | cons r records => simp [herror r (by rw [hr]; exact List.mem_cons_self)]

variable {text : String} {visited rest : List (Nat × String)}

/-- A check of lines that are all read records the rejected ones. -/
theorem check_of_readable (s : Session) (h : ∀ l ∈ programLines text, Readable l.2) :
    s.check text = (.ok ((programLines text).filterMap recordOf?).isEmpty,
      { s with errors := ⟨(programLines text).filterMap recordOf?⟩ }) := by
  have hc := checkLines_append {} h []
  rw [List.append_nil] at hc
  rw [check, hc, checkLines]
  exact congrArg (Except.ok · , _) (hasErrors_of_records rfl)

theorem check_of_overlong (s : Session) {l : Nat × String} {digits : Nat}
    (hlines : programLines text = visited ++ l :: rest) (hv : ∀ l ∈ visited, Readable l.2)
    (hd : parse l.2 = .error (.overlong digits)) :
    s.check text =
      (.error (.overlong digits), { s with errors := ⟨visited.filterMap recordOf?⟩ }) := by
  rw [check, hlines, checkLines_append {} hv, checkLines_of_overlong _ hd]
  rfl

theorem records_of_visited (s : Session) (hlines : programLines text = visited ++ rest)
    (hv : ∀ l ∈ visited, Readable l.2)
    (hr : rest = [] ∨ ∃ l tail digits, rest = l :: tail ∧ parse l.2 = .error (.overlong digits)) :
    (s.check text).2.errors.records = visited.filterMap recordOf? := by
  rcases hr with rfl | ⟨l, tail, digits, rfl, hd⟩
  · rw [List.append_nil] at hlines
    subst hlines
    rw [s.check_of_readable hv]
  · rw [s.check_of_overlong hlines hv hd]

theorem mem_records_check {s : Session} {record : ErrorRecord}
    (h : record ∈ (s.check text).2.errors.records) :
    ∃ l ∈ programLines text, recordOf? l = some record := by
  obtain ⟨visited, rest, hlines, hv, hr⟩ := exists_readable_append (programLines text)
  rw [s.records_of_visited hlines hv hr] at h
  obtain ⟨l, hl, hrecord⟩ := List.mem_filterMap.1 h
  exact ⟨l, hlines ▸ List.mem_append_left rest hl, hrecord⟩

/-- A check that comes to an end has recorded every rejected line and nothing else. A check that
does not has come to a line at which a program ends. -/
theorem check_cases (s : Session) (text : String) :
    (∃ digits, (s.check text).1 = .error (.overlong digits)) ∨
      (∀ l ∈ programLines text, Readable l.2) ∧
        (s.check text).1 = .ok (s.check text).2.errors.records.isEmpty ∧
        (s.check text).2.errors.records = (programLines text).filterMap recordOf? := by
  obtain ⟨visited, rest, hlines, hv, rfl | ⟨l, tail, digits, rfl, hd⟩⟩ :=
    exists_readable_append (programLines text)
  · rw [List.append_nil] at hlines
    subst hlines
    rw [s.check_of_readable hv]
    exact Or.inr ⟨hv, rfl, rfl⟩
  · rw [s.check_of_overlong hlines hv hd]
    exact Or.inl ⟨digits, rfl⟩

variable {ε : Type} {visit : Visit ε} {s s' : Session}

/-- A visit leaves the errors alone. If the run goes on after it, the line is a command or is rejected,
and counts once. -/
def Visit.Faithful (visit : Visit ε) : Prop :=
  ∀ s line, (visit s line).2.errors = s.errors ∧
    ((Readable line ∧ (visit s line).1 = .ok (rejection? line) ∧
        (visit s line).2.executed + (visit s line).2.failed = s.executed + s.failed + 1) ∨
      (∃ e, (visit s line).1 = .error e) ∧
        (visit s line).2.executed + (visit s line).2.failed = s.executed + s.failed)

theorem faithful_visitExecuted : Visit.Faithful visitExecuted := by
  intro s line
  rw [visitExecuted]
  cases hp : parse line with
  | ok c =>
    rw [s.execute_of_ok hp]
    exact ⟨rfl, Or.inl ⟨readable_of_ok hp, by rw [rejection?, hp], Nat.add_right_comm _ _ _⟩⟩
  | error r =>
    cases r with
    | rejected r =>
      rw [s.execute_of_rejected hp]
      exact ⟨rfl, Or.inl ⟨readable_of_rejected hp, by rw [rejection?, hp], rfl⟩⟩
    | overlong digits =>
      rw [s.execute_of_overlong hp]
      exact ⟨rfl, Or.inr ⟨⟨_, rfl⟩, rfl⟩⟩

theorem faithful_visitDispatched : Visit.Faithful visitDispatched := by
  intro s line
  rw [visitDispatched]
  cases hp : parse line with
  | ok c =>
    cases hf : s.drawing.fault? c.action with
    | none =>
      rw [s.dispatch_of_no_fault hp hf]
      exact ⟨rfl, Or.inl ⟨readable_of_ok hp, by rw [rejection?, hp], Nat.add_right_comm _ _ _⟩⟩
    | some fault =>
      rw [s.dispatch_of_fault hp hf]
      exact ⟨rfl, Or.inr ⟨⟨_, rfl⟩, rfl⟩⟩
  | error r =>
    cases r with
    | rejected r =>
      rw [s.dispatch_of_rejected hp]
      exact ⟨rfl, Or.inl ⟨readable_of_rejected hp, by rw [rejection?, hp], rfl⟩⟩
    | overlong digits =>
      rw [s.dispatch_of_overlong hp]
      exact ⟨rfl, Or.inr ⟨⟨_, rfl⟩, rfl⟩⟩

theorem overlong_of_visitExecuted {line : String} {e : Failure}
    (h : visitExecuted s line = (.error e, s')) :
    ∃ digits, parse line = .error (.overlong digits) ∧ e = .overlong digits := by
  rw [visitExecuted] at h
  cases hp : parse line with
  | ok c =>
    rw [s.execute_of_ok hp] at h
    cases h
  | error r =>
    cases r with
    | rejected r =>
      rw [s.execute_of_rejected hp] at h
      cases h
    | overlong digits =>
      rw [s.execute_of_overlong hp] at h
      cases h
      exact ⟨digits, rfl, rfl⟩

/-- Executing by handlers ends a run at an overlong line or at a command that breaks. -/
theorem overlong_or_fault_of_visitDispatched {line : String} {e : Interruption}
    (h : visitDispatched s line = (.error e, s')) :
    (∃ digits, parse line = .error (.overlong digits) ∧ e = .refused (.overlong digits)) ∨
      ∃ c fault, parse line = .ok c ∧ s.drawing.fault? c.action = some fault ∧ e = .broken fault := by
  rw [visitDispatched] at h
  cases hp : parse line with
  | ok c =>
    cases hf : s.drawing.fault? c.action with
    | none =>
      rw [s.dispatch_of_no_fault hp hf] at h
      cases h
    | some fault =>
      rw [s.dispatch_of_fault hp hf] at h
      cases h
      exact Or.inr ⟨c, fault, rfl, hf, rfl⟩
  | error r =>
    cases r with
    | rejected r =>
      rw [s.dispatch_of_rejected hp] at h
      cases h
    | overlong digits =>
      rw [s.dispatch_of_overlong hp] at h
      cases h
      exact Or.inl ⟨digits, rfl, rfl⟩

/-- Lines that a run goes through are read, those that are rejected are recorded, and each counts. -/
theorem visited_of_linesBy (h : visit.Faithful) {lines : List (Nat × String)}
    (hran : linesBy visit s lines = (.ok (), s')) :
    (∀ l ∈ lines, Readable l.2) ∧
      s'.errors.records = s.errors.records ++ lines.filterMap recordOf? ∧
      s'.executed + s'.failed = s.executed + s.failed + lines.length := by
  induction lines generalizing s with
  | nil =>
    cases hran
    exact ⟨fun _ hl => absurd hl List.not_mem_nil, (List.append_nil _).symm, rfl⟩
  | cons l lines ih =>
    rw [linesBy] at hran
    have hvisit := h s l.2
    generalize visit s l.2 = visited at hran hvisit
    obtain ⟨result, s₁⟩ := visited
    obtain ⟨herrors, ⟨hread, rfl, hcount⟩ | ⟨⟨e, rfl⟩, -⟩⟩ := hvisit
    · dsimp only at herrors hcount
      have hlength : (l :: lines).length = lines.length + 1 := rfl
      cases hr : rejection? l.2 with
      | none =>
        rw [hr] at hran
        obtain ⟨hreads, hrecords, hcounts⟩ := ih hran
        have hnone : recordOf? l = none := by rw [recordOf?, hr, Option.map_none]
        refine ⟨List.forall_mem_cons.2 ⟨hread, hreads⟩, ?_, by omega⟩
        rw [hrecords, herrors, List.filterMap_cons_none hnone]
      | some r =>
        rw [hr] at hran
        obtain ⟨hreads, hrecords, hcounts⟩ := ih hran
        have hsome : recordOf? l = some (r.record l.1) := by rw [recordOf?, hr, Option.map_some]
        refine ⟨List.forall_mem_cons.2 ⟨hread, hreads⟩, ?_, by dsimp only at hcounts; omega⟩
        rw [hrecords, herrors, List.filterMap_cons_some hsome, List.append_cons]
        rfl
    · cases hran

/-- How far a program is run: some lines are visited, up to the state `last`, and then there are no
more of them or there is one that the run ends with. -/
structure Covers (visit : Visit ε) (s : Session) (text : String)
    (visited rest : List (Nat × String)) (last : Session) : Prop where
  lines : programLines text = visited ++ rest
  readable : ∀ l ∈ visited, Readable l.2
  reached : linesBy visit { s with errors := {} } visited = (.ok (), last)
  records : (runBy visit s text).2.errors.records = visited.filterMap recordOf?
  counted : (runBy visit s text).2.executed + (runBy visit s text).2.failed =
    s.executed + s.failed + visited.length
  ends : (rest = [] ∧ (runBy visit s text).1 = .ok (visited.filterMap recordOf?).isEmpty) ∨
    ∃ l tail e s', rest = l :: tail ∧ visit last l.2 = (.error e, s') ∧
      (runBy visit s text).1 = .error e

theorem exists_covers (h : visit.Faithful) (s : Session) (text : String) :
    ∃ visited rest last, Covers visit s text visited rest last := by
  obtain ⟨visited, rest, last, hlines, hran, hrest⟩ :=
    exists_linesBy_append visit { s with errors := {} } (programLines text)
  obtain ⟨hread, hrecords, hcounts⟩ := visited_of_linesBy h hran
  rw [List.nil_append] at hrecords
  have hwhole := linesBy_append_of_ok hran rest
  rw [← hlines] at hwhole
  rcases hrest with rfl | ⟨l, tail, e, s', rfl, hv⟩
  · have hrun : runBy visit s text = (.ok (!last.errors.hasErrors), last) := by
      rw [runBy, hwhole, linesBy]
    refine ⟨visited, [], last, ⟨hlines, hread, hran, ?_, ?_, Or.inl ⟨rfl, ?_⟩⟩⟩
    · rw [hrun, hrecords]
    · rw [hrun]
      exact hcounts
    · rw [hrun, hasErrors_of_records hrecords, hrecords]
  · have hrun : runBy visit s text = (.error e, s') := by
      rw [runBy, hwhole, linesBy, hv]
    obtain ⟨herrors, ⟨-, hok, -⟩ | ⟨-, hcount⟩⟩ := h last l.2
    · rw [hv] at hok
      cases hok
    · rw [hv] at herrors hcount
      dsimp only at herrors hcount
      refine ⟨visited, _, last, ⟨hlines, hread, hran, ?_, ?_, Or.inr ⟨l, tail, e, s', rfl, hv, ?_⟩⟩⟩
      · rw [hrun, herrors, hrecords]
      · rw [hrun, hcount]
        exact hcounts
      · rw [hrun]

theorem mem_records_runBy (h : visit.Faithful) {record : ErrorRecord}
    (hr : record ∈ (runBy visit s text).2.errors.records) :
    ∃ l ∈ programLines text, recordOf? l = some record := by
  obtain ⟨visited, rest, last, hcovers⟩ := exists_covers h s text
  rw [hcovers.records] at hr
  obtain ⟨l, hl, hrecord⟩ := List.mem_filterMap.1 hr
  exact ⟨l, hcovers.lines ▸ List.mem_append_left rest hl, hrecord⟩

theorem run_eq_check (s t : Session) (text : String) :
    (s.run text).1 = (t.check text).1 ∧ (s.run text).2.errors = (t.check text).2.errors := by
  obtain ⟨visited, rest, last, hcovers⟩ := exists_covers faithful_visitExecuted s text
  have hlines := hcovers.lines
  have hrecords := hcovers.records
  rw [← run_eq_runBy] at hrecords
  have herrors : (s.run text).2.errors = ⟨visited.filterMap recordOf?⟩ :=
    congrArg ErrorList.mk hrecords
  rw [run_eq_runBy] at herrors ⊢
  rcases hcovers.ends with ⟨rfl, hend⟩ | ⟨l, tail, e, s', rfl, hv, hend⟩
  · rw [List.append_nil] at hlines
    rw [t.check_of_readable (hlines ▸ hcovers.readable), hlines]
    exact ⟨hend, herrors⟩
  · obtain ⟨digits, hd, rfl⟩ := overlong_of_visitExecuted hv
    rw [t.check_of_overlong hlines hcovers.readable hd]
    exact ⟨hend, herrors⟩

end Session

theorem pairwise_programLines (text : String) :
    (programLines text).Pairwise fun l k => l.1 < k.1 := by
  have hnumbers : ((text.toList.splitOn '\n').zipIdx 1).Pairwise fun a b => a.2 < b.2 := by
    rw [← List.pairwise_map (f := Prod.snd), List.zipIdx_map_snd]
    exact List.pairwise_lt_range' 1
  refine hnumbers.filterMap _ fun a b hab l hl k hk => ?_
  simp only [Option.ite_none_left_eq_some, Option.some.injEq] at hl hk
  obtain ⟨-, rfl⟩ := hl
  obtain ⟨-, rfl⟩ := hk
  exact hab

/-- The lines of a program are its lines between line ends but for the blank ones, counted from
one. -/
theorem mem_programLines_iff (text : String) (n : Nat) (line : String) :
    (n, line) ∈ programLines text ↔
      1 ≤ n ∧ (text.toList.splitOn '\n')[n - 1]? = some line.toList ∧
        isBlankText line = false := by
  simp only [programLines, List.mem_filterMap, Prod.exists, Option.ite_none_left_eq_some,
    Option.some.injEq, Prod.mk.injEq, List.mk_mem_zipIdx_iff_le_and_getElem?_sub, isBlankText,
    Bool.not_eq_true]
  constructor
  · rintro ⟨cs, m, ⟨hm, hcs⟩, hb, rfl, rfl⟩
    exact ⟨hm, by rw [hcs, String.toList_ofList], by rwa [String.toList_ofList]⟩
  · rintro ⟨hn, hl, hb⟩
    exact ⟨line.toList, n, ⟨hn, hl⟩, hb, rfl, String.ofList_toList⟩

theorem pairwise_filterMap_recordOf? {lines : List (Nat × String)}
    (h : lines.Pairwise fun l k => l.1 < k.1) :
    (lines.filterMap recordOf?).Pairwise fun r q => r.line < q.line := by
  refine h.filterMap _ fun l k hlk r hr q hq => ?_
  rw [(recordOf?_eq_some hr).1, (recordOf?_eq_some hq).1]
  exact Int.ofNat_lt.2 hlk

theorem pairwise_records (text : String) :
    ((programLines text).filterMap recordOf?).Pairwise fun r q => r.line < q.line :=
  pairwise_filterMap_recordOf? (pairwise_programLines text)

theorem ErrorList.sorted_eq {es : ErrorList}
    (h : es.records.Pairwise fun r q => r.line < q.line) : es.sorted = es.records := by
  refine List.mergeSort_of_pairwise (h.imp fun hrq => ?_)
  simp [ErrorRecord.notAfter, hrq]

end Drawboard
