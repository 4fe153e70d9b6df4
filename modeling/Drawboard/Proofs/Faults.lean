import Drawboard.Proofs.Display
import Drawboard.Proofs.Programs

/-! The faulty lines of a program: those that are neither blank nor commands. A check that comes to its
end marks their numbers and lists what is said against them, in ascending order. A blank program is not
checked at all, though, so the marks and the list of the program before it stay. -/

namespace Drawboard

/-- A line of a program that is not blank and is rejected, its number counted from one, with the
rejection. -/
def FaultyAt (text : String) (n : Nat) (r : Rejection) : Prop :=
  ∃ line : String, 1 ≤ n ∧ (text.toList.splitOn '\n')[n - 1]? = some line.toList ∧
    isBlankText line = false ∧ parse line = .error (.rejected r)

/-- All faulty lines of a program, each once and in ascending order. -/
structure AllFaults (text : String) (faults : List (Nat × Rejection)) : Prop where
  ascending : faults.Pairwise fun a b => a.1 < b.1
  mem_iff : ∀ n r, (n, r) ∈ faults ↔ FaultyAt text n r

def noFaults : String := "No errors found."

def faultList (faults : List (Nat × Rejection)) : String :=
  if faults = [] then noFaults
  else String.intercalate "\n" (faults.map fun (n, r) => s!"Line {n}: {r.message}")

/-- The window marks and lists just the faulty lines of the program in the editor. -/
def Window.ShowsFaults (w : Window) : Prop :=
  ∃ faults, AllFaults w.editor.text faults ∧ w.editor.marks = faults.map (fun f => (f.1 : Int)) ∧
    w.errorText = faultList faults

def faults (text : String) : List (Nat × Rejection) :=
  (programLines text).filterMap fun l => (rejection? l.2).map fun r => (l.1, r)

theorem mem_faults_iff (text : String) (n : Nat) (r : Rejection) :
    (n, r) ∈ faults text ↔ FaultyAt text n r := by
  simp only [faults, FaultyAt, List.mem_filterMap, Prod.exists, mem_programLines_iff,
    Option.map_eq_some_iff, rejection?_eq_some_iff, Prod.mk.injEq]
  constructor
  · rintro ⟨m, line, ⟨hm, hl, hb⟩, r', hr, rfl, rfl⟩
    exact ⟨line, hm, hl, hb, hr⟩
  · rintro ⟨line, hn, hl, hb, hr⟩
    exact ⟨n, line, ⟨hn, hl, hb⟩, r, hr, rfl, rfl⟩

theorem allFaults_faults (text : String) : AllFaults text (faults text) := by
  refine ⟨?_, mem_faults_iff text⟩
  refine (pairwise_programLines text).filterMap _ fun l k hlk a ha b hb => ?_
  obtain ⟨-, -, rfl⟩ := Option.map_eq_some_iff.1 ha
  obtain ⟨-, -, rfl⟩ := Option.map_eq_some_iff.1 hb
  exact hlk

theorem filterMap_recordOf?_eq (text : String) :
    (programLines text).filterMap recordOf? =
      (faults text).map fun (n, r) => r.record n := by
  rw [faults, List.map_filterMap]
  refine List.filterMap_congr fun l _ => ?_
  rw [recordOf?, Option.map_map]
  rfl

theorem mem_of_mem_splitOn {a c : Char} {cs piece : List Char} (h : piece ∈ cs.splitOn a)
    (hc : c ∈ piece) : c ∈ cs := by
  induction cs generalizing piece with
  | nil =>
    rw [List.splitOn_nil, List.mem_singleton] at h
    rwa [h] at hc
  | cons d cs ih =>
    rw [List.splitOn_cons_eq_if_modifyHead] at h
    split at h
    · rcases List.mem_cons.1 h with rfl | h
      · cases hc
      · exact List.mem_cons_of_mem _ (ih h hc)
    · obtain ⟨p, ps, hp⟩ := List.exists_cons_of_ne_nil (List.splitOn_ne_nil a cs)
      rw [hp, List.modifyHead_cons] at h
      rcases List.mem_cons.1 h with rfl | h
      · rcases List.mem_cons.1 hc with rfl | hc
        · exact List.mem_cons_self
        · exact List.mem_cons_of_mem _ (ih (hp ▸ List.mem_cons_self) hc)
      · exact List.mem_cons_of_mem _ (ih (hp ▸ List.mem_cons_of_mem _ h) hc)

theorem not_faultyAt_of_blank {text : String} (h : isBlankText text = true) (n : Nat)
    (r : Rejection) : ¬FaultyAt text n r := by
  rintro ⟨line, -, hl, hb, -⟩
  have hline : isBlankText line = true := by
    rw [isBlankText, List.all_eq_true] at h ⊢
    exact fun c hc => h c (mem_of_mem_splitOn (List.mem_of_getElem? hl) hc)
  rw [hline] at hb
  cases hb

theorem AllFaults.eq_nil_of_blank {text : String} {fs : List (Nat × Rejection)}
    (h : AllFaults text fs) (hb : isBlankText text = true) : fs = [] :=
  List.eq_nil_iff_forall_not_mem.2 fun (n, r) hmem =>
    not_faultyAt_of_blank hb n r ((h.mem_iff n r).1 hmem)

/-- With a blank program in the editor, there is nothing to mark and nothing to list. -/
theorem Window.showsFaults_iff_of_blank {w : Window} (hb : isBlankText w.editor.text = true) :
    w.ShowsFaults ↔ w.editor.marks = [] ∧ w.errorText = noFaults := by
  constructor
  · rintro ⟨fs, hfs, hmarks, hlist⟩
    obtain rfl := hfs.eq_nil_of_blank hb
    exact ⟨hmarks, hlist⟩
  · rintro ⟨hmarks, hlist⟩
    have hnone : faults w.editor.text = [] := (allFaults_faults _).eq_nil_of_blank hb
    refine ⟨faults w.editor.text, allFaults_faults _, ?_, ?_⟩
    · rw [hmarks, hnone]
      rfl
    · rw [hlist, hnone]
      rfl

namespace Editor

theorem drawBands_eq (e : Editor) : ∃ bands, e.drawBands = { e with bands := bands } := by
  unfold drawBands
  split <;> exact ⟨_, rfl⟩

theorem moveCursor_eq (e : Editor) (position : Nat) :
    ∃ cursor bands, e.moveCursor position = { e with cursor := cursor, bands := bands } := by
  unfold moveCursor
  split
  · exact ⟨_, _, rfl⟩
  · obtain ⟨bands, he⟩ := drawBands_eq { e with cursor := position }
    exact ⟨position, bands, he⟩

theorem goTo_eq (e : Editor) (line : Int) :
    ∃ cursor bands, e.goTo line = { e with cursor := cursor, bands := bands } := by
  unfold goTo
  split
  · exact e.moveCursor_eq _
  · exact ⟨_, _, rfl⟩

theorem mark_eq (e : Editor) (lines : List Int) :
    ∃ cursor bands, e.mark lines =
      { e with marks := marksOf lines, cursor := cursor, bands := bands } := by
  obtain ⟨bands, hdrawn⟩ := drawBands_eq { e with marks := marksOf lines }
  unfold mark
  dsimp only
  rw [hdrawn]
  split
  · exact ⟨_, _, rfl⟩
  · split
    · exact ⟨_, _, rfl⟩
    · obtain ⟨cursor, bands', he⟩ :=
        goTo_eq { e with marks := marksOf lines, bands := bands } _
      exact ⟨cursor, bands', he⟩

theorem setText_eq (e : Editor) (text : String) :
    ∃ cursor bands, e.setText text = { e with text := text, cursor := cursor, bands := bands } := by
  obtain ⟨cursor, bands, he⟩ := moveCursor_eq { e with text := text } 0
  exact ⟨cursor, bands, he⟩

theorem enterMark_of_lt {n : Int} {ms : List Int} (h : ∀ m ∈ ms, n < m) :
    enterMark n ms = n :: ms := by
  cases ms with
  | nil => rfl
  | cons m ms => rw [enterMark, if_pos (h m List.mem_cons_self)]

theorem marksOf_eq_self {lines : List Int} (h : lines.Pairwise (· < ·)) :
    marksOf lines = lines := by
  induction lines with
  | nil => rfl
  | cons n lines ih =>
    obtain ⟨hn, hlines⟩ := List.pairwise_cons.1 h
    have htail : marksOf lines = lines := ih hlines
    have hcons : marksOf (n :: lines) = enterMark n (marksOf lines) := rfl
    rw [hcons, htail, enterMark_of_lt hn]

end Editor

namespace Window

theorem showErrors_of_nil {w : Window} (h : w.session.errors.sorted = []) :
    w.showErrors = { w with errorText := noFaults, editor := w.editor.clearMarks } := by
  unfold showErrors
  rw [h]
  rfl

theorem showErrors_of_ne_nil {w : Window} (h : w.session.errors.sorted ≠ []) :
    w.showErrors =
      { w with
        errorText := String.intercalate "\n" (w.session.errors.sorted.map (·.text))
        editor := w.editor.mark (w.session.errors.sorted.map (·.line)) } := by
  unfold showErrors
  split
  · next hnil => exact absurd hnil h
  · rfl

theorem showErrors_fields {w : Window} {fs : List (Nat × Rejection)}
    (h : w.session.errors.sorted = fs.map fun (n, r) => r.record n) :
    w.showErrors.editor.text = w.editor.text ∧
      w.showErrors.editor.marks = Editor.marksOf (fs.map fun f => (f.1 : Int)) ∧
      w.showErrors.errorText = faultList fs := by
  by_cases hfs : fs = []
  · rw [hfs, List.map_nil] at h
    rw [showErrors_of_nil h, hfs]
    exact ⟨rfl, rfl, rfl⟩
  · have hne : w.session.errors.sorted ≠ [] := by
      rw [h]
      exact fun hnil => hfs (List.map_eq_nil_iff.1 hnil)
    obtain ⟨cursor, bands, he⟩ := w.editor.mark_eq (w.session.errors.sorted.map (·.line))
    rw [showErrors_of_ne_nil hne, he, faultList, if_neg hfs, h, List.map_map, List.map_map]
    exact ⟨rfl, rfl, rfl⟩

/-- After a check has recorded the rejected lines of a program, listing them lists its faulty lines. -/
theorem showsFaults_showErrors {w : Window}
    (h : w.session.errors.records = (programLines w.editor.text).filterMap recordOf?) :
    w.showErrors.editor.text = w.editor.text ∧ w.showErrors.ShowsFaults := by
  have hfs := allFaults_faults w.editor.text
  have hsorted : w.session.errors.sorted =
      (faults w.editor.text).map fun (n, r) => r.record n := by
    have hpairwise := pairwise_records w.editor.text
    rw [← h] at hpairwise
    rw [ErrorList.sorted_eq hpairwise, h, filterMap_recordOf?_eq]
  obtain ⟨htext, hmarks, hlist⟩ := w.showErrors_fields hsorted
  have hascending : ((faults w.editor.text).map fun f => (f.1 : Int)).Pairwise (· < ·) :=
    List.pairwise_map.2 (hfs.ascending.imp Int.ofNat_lt.2)
  rw [Editor.marksOf_eq_self hascending] at hmarks
  exact ⟨htext, _, by rw [htext]; exact hfs, hmarks, hlist⟩

theorem editor_follow (w : Window) (s : Session) : (w.follow s).editor = w.editor := by
  unfold follow
  split <;> rfl

theorem checkProgram_of_blank {w : Window} (hb : isBlankText w.editor.text = true) :
    w.checkProgram = (.ok (), w) := by
  rw [checkProgram, if_pos hb]

theorem checkProgram_of_not_blank {w : Window} (hb : isBlankText w.editor.text = false) :
    (∃ failure, (w.session.check w.editor.text).1 = .error failure ∧
        w.checkProgram.1 = .error failure) ∨
      w.checkProgram.1 = .ok () ∧ w.checkProgram.2.editor.text = w.editor.text ∧
        w.checkProgram.2.ShowsFaults := by
  have hcheck := w.session.check_cases w.editor.text
  rw [checkProgram, if_neg (by rw [hb]; decide)]
  generalize w.session.check w.editor.text = checked at hcheck
  obtain ⟨result, s⟩ := checked
  dsimp only at hcheck
  rcases hcheck with ⟨digits, rfl⟩ | ⟨-, rfl, hrecords⟩
  · exact Or.inl ⟨_, rfl, rfl⟩
  · refine Or.inr ?_
    -- The two endings differ in the status only.
    have hshown (status : String) :
        ((w.follow s).setStatus status).showErrors.editor.text = w.editor.text ∧
          ((w.follow s).setStatus status).showErrors.ShowsFaults := by
      have heditor : ((w.follow s).setStatus status).editor = w.editor := w.editor_follow s
      have hsession : ((w.follow s).setStatus status).session = s := w.session_follow s
      have h := showsFaults_showErrors (w := (w.follow s).setStatus status)
      rw [heditor, hsession] at h
      exact h hrecords
    cases s.errors.records.isEmpty with
    | true => exact ⟨rfl, hshown _⟩
    | false => exact ⟨rfl, hshown _⟩

/-- Whether nothing is shown of an earlier program that a check of a text would have to take away. -/
def ReadyFor (w : Window) (text : String) : Prop :=
  isBlankText text = true → w.editor.marks = [] ∧ w.errorText = noFaults

theorem checkProgram_showsFaults_iff {w : Window} (h : w.checkProgram.1 = .ok ()) :
    w.checkProgram.2.editor.text = w.editor.text ∧
      (w.checkProgram.2.ShowsFaults ↔ w.ReadyFor w.editor.text) := by
  unfold ReadyFor
  cases hb : isBlankText w.editor.text with
  | true =>
    rw [checkProgram_of_blank hb, showsFaults_iff_of_blank hb]
    exact ⟨rfl, fun hshown _ => hshown, fun hready => hready rfl⟩
  | false =>
    rcases checkProgram_of_not_blank hb with ⟨failure, -, hfail⟩ | ⟨-, htext, hshows⟩
    · rw [h] at hfail
      cases hfail
    · exact ⟨htext, fun _ => nofun, fun _ => hshows⟩

theorem checkProgram_of_readable {w : Window}
    (h : ∀ l ∈ programLines w.editor.text, Readable l.2) : w.checkProgram.1 = .ok () := by
  cases hb : isBlankText w.editor.text with
  | true => rw [checkProgram_of_blank hb]
  | false =>
    rcases checkProgram_of_not_blank hb with ⟨failure, hfail, -⟩ | ⟨hdone, -, -⟩
    · exact nomatch (congrArg Prod.fst (w.session.check_of_readable h)).symm.trans hfail
    · exact hdone

/-- What loading amounts to once a file has been read: its text takes the place of the program, and
that is checked. -/
theorem load_eq {files : Files} {path content : String} (w : Window)
    (hpath : path.isEmpty = false) (hread : files.read path = .ok content) :
    ∃ loaded : Window, loaded.editor.text = String.ofList (Files.unifyLineEnds content.toList) ∧
      loaded.editor.marks = w.editor.marks ∧ loaded.errorText = w.errorText ∧
      w.load files path = loaded.checkProgram := by
  let program := String.ofList (Files.unifyLineEnds content.toList)
  obtain ⟨cursor, bands, he⟩ := w.editor.setText_eq program
  have heditor : ((w.setProgram program).say s!"Loaded: {path}").editor = _ := he
  refine ⟨(w.setProgram program).say s!"Loaded: {path}", ?_, ?_, rfl, ?_⟩
  · rw [heditor]
  · rw [heditor]
  · rw [load, if_neg (by rw [hpath]; decide), hread]

/-- A check that comes to its end, also the one after a program has been loaded, leaves the program as
it is and shows just its faulty lines, each once and in ascending order, if it is not blank. If it is
blank, what was shown stays, so this is right only if no lines were marked and no errors listed. A
check comes to its end if no line breaks it off. -/
theorem check_shows_faulty_lines (w : Window) :
    ((∀ l ∈ programLines w.editor.text, Readable l.2) → w.checkProgram.1 = .ok ()) ∧
      (w.checkProgram.1 = .ok () →
        let w' := w.checkProgram.2
        w'.editor.text = w.editor.text ∧ (w'.ShowsFaults ↔ w.ReadyFor w.editor.text)) ∧
      ∀ (files : Files) (path content : String), path.isEmpty = false →
        files.read path = .ok content →
        let text := String.ofList (Files.unifyLineEnds content.toList)
        ((∀ l ∈ programLines text, Readable l.2) → (w.load files path).1 = .ok ()) ∧
          ((w.load files path).1 = .ok () →
            let w' := (w.load files path).2
            w'.editor.text = text ∧ (w'.ShowsFaults ↔ w.ReadyFor text)) := by
  refine ⟨checkProgram_of_readable, checkProgram_showsFaults_iff, ?_⟩
  intro files path content hpath hread text
  obtain ⟨loaded, htext, hmarks, hlist, hload⟩ := w.load_eq hpath hread
  have hready : loaded.ReadyFor text ↔ w.ReadyFor text := by
    rw [ReadyFor, hmarks, hlist]
    rfl
  rw [hload]
  refine ⟨fun h => checkProgram_of_readable (by rw [htext]; exact h), fun h => ?_⟩
  obtain ⟨htext', hshows⟩ := checkProgram_showsFaults_iff h
  rw [htext] at htext' hshows
  exact ⟨htext', hshows.trans hready⟩

/-- A check of a program with two faulty lines shows them, and after that loading a program without any
shows that it has none. -/
theorem faults_of_two_programs :
    ∃ w₀, start = .ok w₀ ∧
      let w := w₀.after [.editProgram "frob\n \npen red\ncircle"]
      let files : Files := { entries := [("square.txt", "pen blue\r\n\r\nrectangle 5 5")] }
      let next := w.checkProgram.2
      w.checkProgram.1 = .ok () ∧ next.editor.text = "frob\n \npen red\ncircle" ∧
        next.ShowsFaults ∧ (next.load files "./square.txt").1 = .ok () ∧
        (next.load files "./square.txt").2.editor.text = "pen blue\n\nrectangle 5 5" ∧
        (next.load files "./square.txt").2.ShowsFaults := by
  obtain ⟨w₀, hstart⟩ : ∃ w₀, start = .ok w₀ := ⟨_, rfl⟩
  refine ⟨w₀, hstart, ?_⟩
  intro w files next
  have hw : w.editor.text = "frob\n \npen red\ncircle" := by
    cases hstart
    decide +kernel
  obtain ⟨hends, hshows, -⟩ := check_shows_faulty_lines w
  have hdone : w.checkProgram.1 = .ok () := hends (by rw [hw]; decide +kernel)
  obtain ⟨htext, hiff⟩ := hshows hdone
  have hready : w.ReadyFor w.editor.text := by
    intro hb
    rw [hw] at hb
    exact absurd hb (by decide)
  have hread : files.read "./square.txt" = .ok "pen blue\r\n\r\nrectangle 5 5" := by
    have hname : Files.nameOf? "./square.txt" = some "square.txt" := by decide +kernel
    unfold Files.read
    rw [hname]
    rfl
  have hunified : String.ofList (Files.unifyLineEnds "pen blue\r\n\r\nrectangle 5 5".toList) =
      "pen blue\n\nrectangle 5 5" := by
    decide +kernel
  obtain ⟨-, -, hload⟩ := check_shows_faulty_lines next
  obtain ⟨hends', hshows'⟩ := hload files "./square.txt" _ (by decide) hread
  rw [hunified] at hends' hshows'
  have hdone' : (next.load files "./square.txt").1 = .ok () := hends' (by decide +kernel)
  obtain ⟨htext', hiff'⟩ := hshows' hdone'
  refine ⟨hdone, htext.trans hw, hiff.2 hready, hdone', htext', hiff'.2 fun hb => ?_⟩
  exact absurd hb (by decide)

/-- After a program with a faulty line, an empty program is checked without an error, but the line is
still marked and the error still listed. -/
theorem frob_stays_marked :
    ∃ w₀, start = .ok w₀ ∧
      let w := w₀.after [.editProgram "frob", .checkProgram, .editProgram ""]
      let w' := w.checkProgram.2
      w.checkProgram.1 = .ok () ∧ w'.editor.text = "" ∧ w'.editor.marks = [1] ∧
        w'.errorText = "Line 1: Unknown command: 'frob'." ∧ ¬w'.ShowsFaults := by
  obtain ⟨w₀, hstart⟩ : ∃ w₀, start = .ok w₀ := ⟨_, rfl⟩
  refine ⟨w₀, hstart, ?_⟩
  intro w w'
  have hw : w.editor.text = "" := by
    cases hstart
    decide +kernel
  have hmarks : w.editor.marks = [1] := by
    cases hstart
    decide +kernel
  have hlist : w.errorText = "Line 1: Unknown command: 'frob'." := by
    cases hstart
    decide +kernel
  have hblank : isBlankText w.editor.text = true := by
    rw [hw]
    decide
  have hcheck := checkProgram_of_blank hblank
  have hsame : w' = w := congrArg Prod.snd hcheck
  rw [hsame]
  refine ⟨congrArg Prod.fst hcheck, hw, hmarks, hlist, fun hshown => ?_⟩
  rw [showsFaults_iff_of_blank hblank, hmarks] at hshown
  cases hshown.1

end Window

end Drawboard
