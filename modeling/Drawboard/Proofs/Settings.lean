import Drawboard.Proofs.Handlers
import Drawboard.Proofs.Histories

/-! The pen is as it was last set. After lines that were executed one after another, accepted or not,
its color and its filling are those last chosen, and it stands where it was last moved to since the
last reset. No other command and no line that is not accepted has a part in it. -/

namespace Drawboard

namespace Action

def color? : Action → Option PenColor
  | .pen color => some color
  | _ => none

def filling? : Action → Option Bool
  | fill on => some on
  | _ => none

def target? : Action → Option Point
  | moveTo target | drawTo target => some target
  | _ => none

def setsPen : Action → Bool
  | moveTo _ | drawTo _ | .pen _ | fill _ | reset => true
  | rectangle .. | circle _ | triangle .. | clear => false

theorem applyTo_of_not_setsPen {action : Action} (h : action.setsPen = false) (pen : Pen) :
    action.applyTo pen = pen := by
  cases action with
  | rectangle | circle | triangle | clear => rfl
  | _ => cases h

end Action

/-- The pen that the last settings of each kind make. A reset undoes the moves before it. -/
def lastSettings (actions : List Action) : Pen :=
  { color := (actions.filterMap Action.color?).getLastD .black
    filled := (actions.filterMap Action.filling?).getLastD false
    position :=
      ((actions.rtakeWhile (· ≠ .reset)).filterMap Action.target?).getLastD Point.origin }

theorem getLastD_filterMap_snoc {α : Type} (f : Action → Option α) (actions : List Action)
    (action : Action) (a : α) :
    ((actions ++ [action]).filterMap f).getLastD a =
      (f action).getD ((actions.filterMap f).getLastD a) := by
  rw [List.filterMap_append]
  cases hf : f action with
  | none =>
    rw [List.filterMap_cons_none hf, List.filterMap_nil, List.append_nil]
    rfl
  | some b =>
    rw [List.filterMap_cons_some hf, List.filterMap_nil, List.getLastD_concat]
    rfl

/-- An action sets what it is about and leaves all else as it was last set. -/
theorem lastSettings_snoc (actions : List Action) (action : Action) :
    lastSettings (actions ++ [action]) = action.applyTo (lastSettings actions) := by
  by_cases hreset : action = .reset
  · subst hreset
    have hnone : (actions ++ [Action.reset]).rtakeWhile (· ≠ .reset) = [] :=
      List.rtakeWhile_concat_neg _ _ _ (by decide)
    simp only [lastSettings, getLastD_filterMap_snoc, hnone]
    rfl
  · have hmore : (actions ++ [action]).rtakeWhile (· ≠ .reset) =
        actions.rtakeWhile (· ≠ .reset) ++ [action] :=
      List.rtakeWhile_concat_pos _ _ _ (by simpa using hreset)
    simp only [lastSettings, getLastD_filterMap_snoc, hmore]
    cases action with
    | reset => exact absurd rfl hreset
    | _ => rfl

namespace Drawing

variable {d d' : Drawing}

def outcomes (answers : List (Except Interruption Outcome)) : List Outcome :=
  answers.filterMap Except.toOption

def accepted (answers : List (Except Interruption Outcome)) : List Action :=
  (outcomes answers).map (·.command.action)

@[simp] theorem outcomes_ok (o : Outcome) (answers : List (Except Interruption Outcome)) :
    outcomes (.ok o :: answers) = o :: outcomes answers := rfl

@[simp] theorem outcomes_error (i : Interruption) (answers : List (Except Interruption Outcome)) :
    outcomes (.error i :: answers) = outcomes answers := rfl

@[simp] theorem accepted_ok (o : Outcome) (answers : List (Except Interruption Outcome)) :
    accepted (.ok o :: answers) = o.command.action :: accepted answers := rfl

@[simp] theorem accepted_error (i : Interruption) (answers : List (Except Interruption Outcome)) :
    accepted (.error i :: answers) = accepted answers := rfl

def setsPen (line : String) : Bool :=
  match parse line with
  | .ok c => c.action.setsPen
  | .error _ => false

theorem dispatchAll_cons (d : Drawing) (line : String) (lines : List String) :
    d.dispatchAll (line :: lines) =
      ((d.dispatch line).1 :: ((d.dispatch line).2.dispatchAll lines).1,
        ((d.dispatch line).2.dispatchAll lines).2) := rfl

/-- An outcome reports the pen as it has become. Without an outcome it is as it was. -/
theorem pen_dispatch (d : Drawing) (line : String) :
    (∃ o, (d.dispatch line).1 = .ok o ∧ parse line = .ok o.command ∧
        o.pen = o.command.action.applyTo d.pen ∧ (d.dispatch line).2.pen = o.pen) ∨
      ∃ i, (d.dispatch line).1 = .error i ∧ (d.dispatch line).2.pen = d.pen := by
  rcases d.dispatch_cases line with ⟨r, -, hd⟩ | ⟨c, n, -, -, hd⟩ | ⟨c, hc, -, hd⟩
  · rw [hd, refresh_eq]
    exact Or.inr ⟨_, rfl, rfl⟩
  · rw [hd, refresh_eq]
    exact Or.inr ⟨_, rfl, rfl⟩
  · rw [hd, refresh_eq]
    exact Or.inl ⟨_, rfl, hc, rfl, rfl⟩

/-- Whatever was done before, the pen and the pens reported are as the accepted commands have set
them since. -/
theorem pen_dispatchAll {before : List Action} (h : d.pen = lastSettings before)
    (lines : List String) :
    (d.dispatchAll lines).2.pen =
        lastSettings (before ++ accepted (d.dispatchAll lines).1) ∧
      ∀ i o, (outcomes (d.dispatchAll lines).1)[i]? = some o →
        o.pen = lastSettings (before ++ (accepted (d.dispatchAll lines).1).take (i + 1)) := by
  induction lines generalizing d before with
  | nil =>
    refine ⟨h.trans (congrArg lastSettings (List.append_nil before).symm), fun i o ho => ?_⟩
    have hnone : (outcomes (d.dispatchAll []).1)[i]? = none := List.getElem?_nil
    rw [hnone] at ho
    cases ho
  | cons line lines ih =>
    rw [dispatchAll_cons]
    rcases d.pen_dispatch line with ⟨o, hanswer, -, ho, hpen⟩ | ⟨i, hanswer, hpen⟩
    -- An accepted command joins what was done before, a line that is not accepted does not.
    · have hset : o.pen = lastSettings (before ++ [o.command.action]) := by
        rw [ho, h, lastSettings_snoc]
      obtain ⟨hlast, hreported⟩ := ih (hpen.trans hset)
      simp only [hanswer, accepted_ok, outcomes_ok]
      rw [List.append_cons]
      refine ⟨hlast, fun i o' ho' => ?_⟩
      cases i with
      | zero =>
        obtain rfl : o = o' := Option.some.inj ho'
        exact hset
      | succ i =>
        rw [List.take_succ_cons, List.append_cons]
        exact hreported i o' ho'
    · simp only [hanswer, accepted_error, outcomes_error]
      exact ih (hpen.trans h)

theorem pen_dispatch_congr (hpen : d.pen = d'.pen) (hmarker : d.markerSize = d'.markerSize)
    (line : String) : (d.dispatch line).2.pen = (d'.dispatch line).2.pen := by
  cases hp : parse line with
  | error r =>
    rw [dispatch_of_error hp, dispatch_of_error hp, refresh_eq, refresh_eq]
    exact hpen
  | ok c =>
    have hsame : d.fault? c.action = d'.fault? c.action :=
      fault?_congr rfl hmarker (by rw [hpen, markerSide_congr hmarker])
    cases hn : d'.fault? c.action with
    | some n =>
      rw [dispatch_of_fault hp (hsame.trans hn), dispatch_of_fault hp hn, refresh_eq,
        refresh_eq]
      exact hpen
    | none =>
      rw [dispatch_of_no_fault hp (hsame.trans hn), dispatch_of_no_fault hp hn, refresh_eq,
        refresh_eq]
      exact congrArg c.action.applyTo hpen

theorem markerSize_dispatch (d : Drawing) (line : String) :
    (d.dispatch line).2.markerSize = d.markerSize := by
  rcases d.dispatch_cases line with ⟨r, -, hd⟩ | ⟨c, n, -, -, hd⟩ | ⟨c, -, -, hd⟩ <;>
    rw [hd, refresh_eq]
  rfl

theorem pen_dispatch_of_not_setsPen {line : String} (h : setsPen line = false) :
    (d.dispatch line).2.pen = d.pen := by
  rcases d.pen_dispatch line with ⟨o, -, hp, ho, hpen⟩ | ⟨i, -, hpen⟩
  · rw [setsPen, hp] at h
    rw [hpen, ho]
    exact Action.applyTo_of_not_setsPen h d.pen
  · exact hpen

theorem pen_dispatchAll_filter (hpen : d.pen = d'.pen) (hmarker : d.markerSize = d'.markerSize)
    (lines : List String) :
    (d.dispatchAll (lines.filter setsPen)).2.pen = (d'.dispatchAll lines).2.pen := by
  induction lines generalizing d d' with
  | nil => exact hpen
  | cons line lines ih =>
    cases hs : setsPen line with
    | true =>
      rw [List.filter_cons_of_pos hs, dispatchAll_cons, dispatchAll_cons]
      refine ih (pen_dispatch_congr hpen hmarker line) ?_
      rw [markerSize_dispatch, markerSize_dispatch, hmarker]
    | false =>
      rw [List.filter_cons_of_neg (by rw [hs]; decide), dispatchAll_cons]
      refine ih (hpen.trans (pen_dispatch_of_not_setsPen hs).symm) ?_
      rw [markerSize_dispatch, hmarker]

/-- An outcome that a line has for an answer is that of the command which the line is read as. -/
def Suits (line : String) (answer : Except Interruption Outcome) : Prop :=
  ∀ o, answer = .ok o → parse line = .ok o.command

theorem suits_dispatchAll (d : Drawing) (lines : List String) :
    List.Forall₂ Suits lines (d.dispatchAll lines).1 := by
  induction lines generalizing d with
  | nil => exact .nil
  | cons line lines ih =>
    rw [dispatchAll_cons]
    refine .cons ?_ (ih _)
    intro o ho
    rcases d.pen_dispatch line with ⟨o', hanswer, hp, -⟩ | ⟨i, hanswer, -⟩
    · obtain rfl : o' = o := Except.ok.inj (hanswer.symm.trans ho)
      exact hp
    · rw [hanswer] at ho
      cases ho

/-- As long as numbers are in range, every line that is a command is accepted. -/
theorem accepted_dispatchAll (h : d.Bounded) (lines : List String) :
    accepted (d.dispatchAll lines).1 = actionsOf lines := by
  induction lines generalizing d with
  | nil => rfl
  | cons line lines ih =>
    rw [dispatchAll_cons, actionsOf]
    cases hp : parse line with
    | error r =>
      have hnone : action? line = none := by
        rw [action?, hp]
        rfl
      rw [dispatch_of_error hp, accepted_error, List.filterMap_cons_none hnone]
      exact ih (kept_bounded.refresh d h)
    | ok c =>
      have hc := inRange_of_parse hp
      rw [dispatch_of_ok h hp, accepted_ok, List.filterMap_cons_some (action?_of_parse hp)]
      exact congrArg _ (ih (kept_bounded.refresh _ (h.perform hc)))

/-- Of lines executed one after another on a new drawing, the accepted ones leave the pen in the color
and the filling they have chosen last and, unless they have reset it since, where they have moved it
last. The outcome of each reports the pen that those up to it have made. Lines that set nothing of the
pen can be left out. An accepted line is a command, and unless markers are of a size that they may not
have, every command is accepted. -/
theorem pen_is_as_last_set (canvas : Canvas) (markerSize : Int) (watched : Bool)
    (lines : List String) :
    let fresh := start canvas (some markerSize) watched
    let answers := (fresh.dispatchAll lines).1
    (fresh.dispatchAll lines).2.pen = lastSettings (accepted answers) ∧
      (∀ i o, (outcomes answers)[i]? = some o →
        o.pen = lastSettings ((accepted answers).take (i + 1))) ∧
      (fresh.dispatchAll (lines.filter setsPen)).2.pen = (fresh.dispatchAll lines).2.pen ∧
      List.Forall₂ Suits lines answers ∧
      (-2147483648 ≤ markerSize → markerSize ≤ 2147483648 →
        accepted answers = actionsOf lines) := by
  intro fresh answers
  have hfresh : fresh.pen = lastSettings [] := rfl
  obtain ⟨hlast, hreported⟩ := pen_dispatchAll hfresh lines
  refine ⟨hlast, hreported, pen_dispatchAll_filter rfl rfl lines, suits_dispatchAll fresh lines,
    fun hlow hhigh => ?_⟩
  exact accepted_dispatchAll (bounded_start canvas ⟨markerSize, hlow, hhigh⟩ watched) lines

/-- The reset undoes the first move and not the second, and the last line, which lacks a number, does
nothing. The sixth outcome is that of the circle. -/
theorem pen_is_blue_and_filled :
    let canvas : Canvas := { serial := 0, width := 36, height := 26, background := ⟨255, 255, 255⟩ }
    let lines := ["pen red", "moveto 7 8", "FILL on", "frob", "reset", "drawto 3 -4", "circle 5",
      " Pen BLUE", "drawto 1"]
    let ran := (start canvas (some 3) true).dispatchAll lines
    ran.2.pen = ⟨.blue, true, ⟨3, -4⟩⟩ ∧
      ∃ o : Outcome, (outcomes ran.1)[5]? = some o ∧ o.pen = ⟨.red, true, ⟨3, -4⟩⟩ := by
  intro canvas lines ran
  obtain ⟨hlast, hreported, -, -, haccepted⟩ := pen_is_as_last_set canvas 3 true lines
  have hread : actionsOf lines = [.pen .red, .moveTo ⟨7, 8⟩, .fill true, .reset,
      .drawTo ⟨3, -4⟩, .circle 5, .pen .blue] := by
    decide +kernel
  have hactions : accepted ran.1 = _ := (haccepted (by decide) (by decide)).trans hread
  constructor
  · rw [hlast, hactions]
    decide
  · have hsixth : (accepted ran.1)[5]? = some (.circle 5) := by
      rw [hactions]
      rfl
    rw [accepted, List.getElem?_map, Option.map_eq_some_iff] at hsixth
    obtain ⟨o, ho, -⟩ := hsixth
    refine ⟨o, ho, ?_⟩
    rw [hreported 5 o ho, hactions]
    decide

end Drawing

end Drawboard
