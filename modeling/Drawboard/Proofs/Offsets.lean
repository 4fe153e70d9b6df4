import Drawboard.Proofs.Breaks
import Drawboard.Proofs.Literals
import Drawboard.Proofs.Printing
import Drawboard.Proofs.Record
import Drawboard.Proofs.Settings

/-! The same drawing in another place. If the pen is moved to somewhere before it draws, and is not
reset, a program draws the same with an offset when the targets of its moves and lines have that
offset. Nothing but places differs between the two runs, and each line is accepted in both or in
neither. -/

namespace Drawboard

def Box.offset (b : Box) (dx dy : Int) : Box := { b with x := b.x + dx, y := b.y + dy }

def Sketch.offset (s : Sketch) (dx dy : Int) : Sketch :=
  { s with points := s.points.map (·.offset dx dy), bounds := s.bounds.map (·.offset dx dy) }

def Shape.offset (s : Shape) (dx dy : Int) : Shape :=
  { s with points := s.points.map (·.offset dx dy), bounds := s.bounds.map (·.offset dx dy) }

/-- The same shapes under the same numbers, each in a place with an offset. -/
def ShapeLog.offset (log : ShapeLog) (dx dy : Int) : ShapeLog :=
  { log with shapes := log.shapes.map (·.offset dx dy) }

/-- A pen that is told apart from another by its place if it has been placed. -/
def Pen.placedBy (placed : Bool) (pen : Pen) (dx dy : Int) : Pen :=
  if placed then pen.shift dx dy else pen

namespace Action

def offset (action : Action) (dx dy : Int) : Action :=
  match action with
  | moveTo target => moveTo (target.offset dx dy)
  | drawTo target => drawTo (target.offset dx dy)
  | action => action

def isPlaceless : Action → Bool
  | .pen _ | fill _ | clear => true
  | _ => false

end Action

/-- The pen is moved to some place before anything is done that depends on where it is. -/
def MovesFirst (actions : List Action) : Prop :=
  ∀ action, actions.find? (fun a => !a.isPlaceless) = some action → action.isMove = true

theorem MovesFirst.tail {action : Action} {actions : List Action}
    (h : MovesFirst (action :: actions)) :
    action.isMove = true ∨ action.isPlaceless = true ∧ MovesFirst actions := by
  cases hp : action.isPlaceless with
  | true =>
    refine Or.inr ⟨rfl, fun a ha => h a ?_⟩
    rw [List.find?_cons_of_neg (by rw [hp]; decide), ha]
  | false => exact Or.inl (h action (List.find?_cons_of_pos (by rw [hp]; rfl)))

section

variable (dx dy : Int)

theorem Box.marker_offset (p : Point) (size : Int) :
    Box.marker (p.offset dx dy) size = (Box.marker p size).offset dx dy := by
  simp only [marker, offset, Point.offset, mk.injEq, and_true]
  omega

theorem Box.circle_offset (p : Point) (r : Int) :
    Box.circle (p.offset dx dy) r = (Box.circle p r).offset dx dy := by
  simp only [circle, offset, Point.offset, mk.injEq, and_true]
  omega

theorem Box.anchored_offset (p : Point) (w h : Int) :
    Box.anchored (p.offset dx dy) w h = (Box.anchored p w h).offset dx dy := rfl

theorem Box.corners_offset (b : Box) :
    (b.offset dx dy).corners = b.corners.map (·.offset dx dy) := by
  simp only [corners, offset, List.map_cons, List.map_nil, Point.offset, List.cons.injEq,
    Point.mk.injEq, and_true, true_and]
  omega

theorem triangle_offset (p : Point) (b s t : Int) :
    triangle (p.offset dx dy) b s t = (triangle p b s t).map (·.offset dx dy) := by
  simp only [triangle, Point.offset, List.map_cons, List.map_nil, List.cons.injEq, Point.mk.injEq,
    and_true, true_and]
  omega

theorem ShapeLog.offset_add (log : ShapeLog) (command : Int) (s : Sketch) :
    (log.offset dx dy).add command (s.offset dx dy) = (log.add command s).offset dx dy := by
  simp only [ShapeLog.add, offset, List.map_append]
  rfl

end

namespace Action

variable {dx dy : Int} {placed : Bool} {action : Action}

/-- An action can be done by a pen that has been placed, or else it places the pen or has nothing to
do with its place. -/
def Timely (placed : Bool) (action : Action) : Prop :=
  placed = true ∨ action.isMove = true ∨ action.isPlaceless = true

theorem offset_eq_self (h : action.target? = none) : action.offset dx dy = action := by
  cases action with
  | moveTo | drawTo => cases h
  | _ => rfl

theorem isMove_offset (action : Action) : (action.offset dx dy).isMove = action.isMove := by
  cases action <;> rfl

theorem verb_offset (action : Action) : (action.offset dx dy).verb = action.verb := by
  cases action <;> rfl

theorem target?_offset (action : Action) :
    (action.offset dx dy).target? = action.target?.map (·.offset dx dy) := by
  cases action <;> rfl

theorem applyTo_offset (h : action.Timely placed) (hreset : action ≠ .reset) (pen : Pen) :
    (action.offset dx dy).applyTo (pen.placedBy placed dx dy) =
      (action.applyTo pen).placedBy (placed || action.isMove) dx dy := by
  cases placed with
  | true =>
    cases action with
    | reset => exact absurd rfl hreset
    | _ => rfl
  | false =>
    cases action with
    | moveTo | pen | fill | clear => rfl
    | reset => exact absurd rfl hreset
    | _ => simp [Timely, isMove, isPlaceless] at h

theorem sketch?_shift (action : Action) (pen : Pen) (markerSize : Int) :
    (action.offset dx dy).sketch? (pen.shift dx dy) markerSize =
      (action.sketch? pen markerSize).map (·.offset dx dy) := by
  have hposition : (pen.shift dx dy).position = pen.position.offset dx dy := rfl
  cases action with
  | moveTo target =>
    simp only [offset, sketch?, Box.marker_offset]
    rfl
  | rectangle w h =>
    simp only [offset, sketch?, hposition, Box.anchored_offset, Box.corners_offset]
    rfl
  | circle r =>
    simp only [offset, sketch?, hposition, Box.circle_offset]
    rfl
  | triangle b s t =>
    simp only [offset, sketch?, hposition, triangle_offset]
    rfl
  | drawTo | pen | fill | clear | reset => rfl

theorem sketch?_offset (h : action.Timely placed) (pen : Pen) (markerSize : Int) :
    (action.offset dx dy).sketch? (pen.placedBy placed dx dy) markerSize =
      (action.sketch? pen markerSize).map (·.offset dx dy) := by
  cases placed with
  | true => exact sketch?_shift action pen markerSize
  | false =>
    have hsame : (action.offset dx dy).sketch? (pen.placedBy false dx dy) markerSize =
        (action.offset dx dy).sketch? (pen.shift dx dy) markerSize := by
      cases action with
      | moveTo | pen | fill | clear => rfl
      | _ => simp [Timely, isMove, isPlaceless] at h
    exact hsame.trans (sketch?_shift action pen markerSize)

end Action

namespace Drawing

variable {dx dy : Int} {placed : Bool} {d d' : Drawing} {action : Action}

/-- The drawings are the same but for an offset of all that is drawn, and of the pen if it has been
placed. -/
structure Displaced (dx dy : Int) (placed : Bool) (d d' : Drawing) : Prop where
  pen : d'.pen = d.pen.placedBy placed dx dy
  log : d'.log = d.log.offset dx dy
  commands : d'.commands = d.commands
  markerSize : d'.markerSize = d.markerSize
  watched : d'.watched = d.watched
  refreshes : d'.refreshes = d.refreshes
  fits : d.pen.position.Fits32
  fits' : d'.pen.position.Fits32

theorem Displaced.paintsMarkers_iff (h : Displaced dx dy placed d d') :
    d'.PaintsMarkers ↔ d.PaintsMarkers := by
  rw [PaintsMarkers, h.markerSize, PaintsMarkers]

theorem Displaced.refresh (h : Displaced dx dy placed d d') :
    Displaced dx dy placed d.refresh d'.refresh := by
  rw [refresh_eq, refresh_eq]
  exact { h with
    refreshes := by
      rw [h.refreshes, h.watched] }

theorem Displaced.count (h : Displaced dx dy placed d d') :
    Displaced dx dy placed { d with commands := d.commands + 1 }
      { d' with commands := d'.commands + 1 } :=
  { h with commands := congrArg (· + 1) h.commands }

theorem Displaced.logAfter (h : Displaced dx dy placed d d') (ha : action.Timely placed)
    (number : Nat) :
    d'.logAfter number (action.offset dx dy) = (d.logAfter number action).offset dx dy := by
  by_cases hne : action = .clear
  · subst hne
    have hclear : d'.log.clear = d.log.clear.offset dx dy := by
      rw [h.log]
      rfl
    exact hclear
  · have hne' : action.offset dx dy ≠ .clear := by
      cases action with
      | clear => exact absurd rfl hne
      | _ => exact nofun
    rw [d.logAfter_of_ne_clear number hne, d'.logAfter_of_ne_clear number hne', h.pen,
      markerSide_congr h.markerSize, Action.sketch?_offset ha, h.log]
    cases action.sketch? d.pen d.markerSide with
    | none => rfl
    | some s => exact ShapeLog.offset_add dx dy d.log number s

theorem Displaced.perform (h : Displaced dx dy placed d d') (ha : action.Timely placed)
    (hreset : action ≠ .reset) (hr : action.InRange) (hr' : (action.offset dx dy).InRange) :
    Displaced dx dy (placed || action.isMove) (d.perform action)
      (d'.perform (action.offset dx dy)) where
  pen := by
    rw [Drawing.perform, Drawing.perform, h.pen]
    exact Action.applyTo_offset ha hreset d.pen
  log := by
    rw [Drawing.perform, Drawing.perform, h.commands]
    exact h.logAfter ha _
  commands := congrArg (· + 1) h.commands
  markerSize := h.markerSize
  watched := h.watched
  refreshes := h.refreshes
  fits := fits32_applyTo h.fits hr
  fits' := fits32_applyTo h.fits' hr'

theorem Displaced.fault?_eq_none (h : Displaced dx dy placed d d') (hr : action.InRange)
    (hr' : (action.offset dx dy).InRange) (hn : d.fault? action = none) :
    d'.fault? (action.offset dx dy) = none := by
  have hsame : (action.offset dx dy).isMove = action.isMove := action.isMove_offset
  cases hm : action.isMove with
  | true =>
    rw [fault?_of_isMove hm hr] at hn
    rw [fault?_of_isMove (hsame.trans hm) hr', h.paintsMarkers_iff]
    exact hn
  | false => exact fault?_of_not_isMove (hsame.trans hm) h.fits' hr'

/-- A line that was accepted and takes the pen somewhere goes with one that takes it there with an
offset, and any other line with itself. -/
inductive Displaces (dx dy : Int) : String → Except Interruption Outcome → String → Prop
  | taken {line line' : String} {o : Outcome} : o.command.action.target? ≠ none →
      action? line' = some (o.command.action.offset dx dy) → Displaces dx dy line (.ok o) line'
  | same {line : String} {answer : Except Interruption Outcome} :
      (∀ o, answer = .ok o → o.command.action.target? = none) → Displaces dx dy line answer line

theorem Displaces.action?_eq {line line' : String} {o : Outcome}
    (h : Displaces dx dy line (.ok o) line') (hline : action? line = some o.command.action) :
    action? line' = some (o.command.action.offset dx dy) := by
  cases h with
  | taken _ hread => exact hread
  | same hsame => rw [Action.offset_eq_self (hsame o rfl), hline]

theorem Displaces.eq_of_error {line line' : String} {i : Interruption}
    (h : Displaces dx dy line (.error i) line') : line' = line := by
  cases h
  rfl

/-- A program with an offset: its lines, as they were answered, and those that go with them. -/
def Displacement (dx dy : Int) (lines : List String) (answers : List (Except Interruption Outcome)) :
    List String → Prop :=
  List.Forall₂ (fun asked line' => Displaces dx dy asked.1 asked.2 line') (lines.zip answers)

/-- What has to be known of the actions that are accepted from some point on. -/
structure Displaceable (dx dy : Int) (placed : Bool) (actions : List Action) : Prop where
  noReset : Action.reset ∉ actions
  first : placed = true ∨ MovesFirst actions
  fits : ∀ action ∈ actions, ∀ target, action.target? = some target →
    (target.offset dx dy).Fits32

theorem Displaceable.timely {actions : List Action}
    (h : Displaceable dx dy placed (action :: actions)) : action.Timely placed := by
  rcases h.first with hplaced | hfirst
  · exact Or.inl hplaced
  · rcases hfirst.tail with hmove | ⟨hplaceless, -⟩
    · exact Or.inr (Or.inl hmove)
    · exact Or.inr (Or.inr hplaceless)

theorem Displaceable.tail {actions : List Action}
    (h : Displaceable dx dy placed (action :: actions)) :
    Displaceable dx dy (placed || action.isMove) actions where
  noReset hm := h.noReset (List.mem_cons_of_mem _ hm)
  first := by
    rcases h.first with rfl | hfirst
    · exact Or.inl rfl
    · rcases hfirst.tail with hmove | ⟨-, hrest⟩
      · rw [hmove]
        exact Or.inl (Bool.or_true _)
      · exact Or.inr hrest
  fits a ha := h.fits a (List.mem_cons_of_mem _ ha)

theorem Displaced.dispatch_of_error (h : Displaced dx dy placed d d') {line : String}
    {i : Interruption} (hi : (d.dispatch line).1 = .error i) :
    (∃ i', (d'.dispatch line).1 = .error i') ∧
      Displaced dx dy placed (d.dispatch line).2 (d'.dispatch line).2 := by
  rcases d.dispatch_cases line with ⟨r, hp, hd⟩ | ⟨c, n, hp, hn, hd⟩ | ⟨c, -, -, hd⟩
  · rw [hd, Drawing.dispatch_of_error hp]
    exact ⟨⟨_, rfl⟩, h.refresh⟩
  · have hr := inRange_of_parse hp
    have hmove : c.action.isMove = true := by
      refine Bool.eq_true_of_not_eq_false fun hm => ?_
      rw [fault?_of_not_isMove hm h.fits hr] at hn
      cases hn
    cases hn' : d'.fault? c.action with
    | none =>
      rw [fault?_of_isMove hmove hr, h.paintsMarkers_iff, ← fault?_of_isMove hmove hr, hn] at hn'
      cases hn'
    | some n' =>
      rw [hd, dispatch_of_fault hp hn']
      exact ⟨⟨_, rfl⟩, h.count.refresh⟩
  · rw [hd] at hi
    cases hi

theorem Displaced.dispatch_of_ok (h : Displaced dx dy placed d d') {line line' : String} {o : Outcome}
    (ho : (d.dispatch line).1 = .ok o) (hl : Displaces dx dy line (.ok o) line')
    (ht : o.command.action.Timely placed) (hreset : o.command.action ≠ .reset) :
    (∃ o', (d'.dispatch line').1 = .ok o') ∧
      Displaced dx dy (placed || o.command.action.isMove) (d.dispatch line).2
        (d'.dispatch line').2 := by
  rcases d.dispatch_cases line with ⟨r, -, hd⟩ | ⟨c, n, -, -, hd⟩ | ⟨c, hp, hn, hd⟩
  · rw [hd] at ho
    cases ho
  · rw [hd] at ho
    cases ho
  · rw [hd] at ho
    cases ho
    obtain ⟨c', hp', hc'⟩ := exists_parse_of_action? (hl.action?_eq (action?_of_parse hp))
    have hr := inRange_of_parse hp
    have hr' := inRange_of_parse hp'
    rw [hc'] at hr'
    have hn' := h.fault?_eq_none hr hr' hn
    rw [← hc'] at hn'
    rw [hd, dispatch_of_no_fault hp' hn', hc']
    exact ⟨⟨_, rfl⟩, (h.perform ht hreset hr hr').refresh⟩

theorem Displaced.dispatchAll (h : Displaced dx dy placed d d') {lines lines' : List String}
    (hl : Displacement dx dy lines (d.dispatchAll lines).1 lines')
    (ha : Displaceable dx dy placed (accepted (d.dispatchAll lines).1)) :
    (d'.dispatchAll lines').1.map Except.isOk = (d.dispatchAll lines).1.map Except.isOk ∧
      Displaced dx dy (placed || (accepted (d.dispatchAll lines).1).any Action.isMove)
        (d.dispatchAll lines).2 (d'.dispatchAll lines').2 := by
  induction lines generalizing d d' lines' placed with
  | nil =>
    cases hl
    refine ⟨rfl, ?_⟩
    have hnone : (accepted (d.dispatchAll []).1).any Action.isMove = false := rfl
    rw [hnone, Bool.or_false]
    exact h
  | cons line lines ih =>
    rw [dispatchAll_cons] at hl ha ⊢
    obtain _ | ⟨hline, hlines⟩ := hl
    next line' lines' =>
    rw [dispatchAll_cons]
    cases hanswer : (d.dispatch line).1 with
    | error i =>
      rw [hanswer, accepted_error] at ha
      rw [hanswer] at hline
      obtain rfl := hline.eq_of_error
      obtain ⟨⟨i', hi'⟩, hnext⟩ := h.dispatch_of_error hanswer
      obtain ⟨hmap, hlast⟩ := ih hnext hlines ha
      rw [hi', accepted_error]
      exact ⟨congrArg (List.cons false) hmap, hlast⟩
    | ok o =>
      rw [hanswer, accepted_ok] at ha
      rw [hanswer] at hline
      obtain ⟨⟨o', ho'⟩, hnext⟩ := h.dispatch_of_ok hanswer hline ha.timely fun hreset =>
        ha.noReset (hreset ▸ List.mem_cons_self)
      obtain ⟨hmap, hlast⟩ := ih hnext hlines ha.tail
      rw [ho', accepted_ok, List.any_cons, ← Bool.or_assoc]
      exact ⟨congrArg (List.cons true) hmap, hlast⟩

end Drawing

theorem spellsInt_toString {n : Int} (h : Fits32 n) : SpellsInt (toString n) n := by
  have hshort : (Nat.toDigits 10 n.natAbs).length ≤ 10 := by
    rw [Nat.length_toDigits_le_iff (by decide) (by decide)]
    unfold Fits32 at h
    omega
  have hdigits (d : Char) (hd : d ∈ Nat.toDigits 10 n.natAbs) : '0' ≤ d ∧ d ≤ '9' :=
    (isDigit_iff d).1 (Json.isDigit_of_mem_toDigits hd)
  have hvalue : decimal (Nat.toDigits 10 n.natAbs) = n.natAbs :=
    (ofDigitChars_eq_decimal _).symm.trans Nat.ofDigitChars_ten_toDigits
  refine ⟨_, _, Json.int_toList n, ?_, Nat.length_toDigits_pos, hshort.trans (by decide), hdigits,
    ?_, h⟩
  · split
    · exact Or.inr (Or.inr rfl)
    · exact Or.inl rfl
  · rw [hvalue]
    by_cases hn : n < 0
    · rw [if_pos hn, if_pos rfl]
      omega
    · rw [if_neg hn, if_neg (by decide)]
      omega

def Verb.lineTo (verb : Verb) (target : Point) : String :=
  String.intercalate " " [verb.name, toString target.x, toString target.y]

theorem action?_lineTo {action : Action} {target : Point} (ht : action.target? = some target)
    (hf : target.Fits32) : action? (action.verb.lineTo target) = some action := by
  let token (word : String) : Token := ⟨word, ⟨0, 0⟩⟩
  let c : Command := ⟨action, ⟨token action.verb.name,
    [token (toString target.x), token (toString target.y)]⟩⟩
  have hfit : FitAll c.verb.slots c.arguments c.action.values := by
    have hx := Fits.integer (spellsInt_toString hf.1)
    have hy := Fits.integer (spellsInt_toString hf.2)
    cases action with
    | moveTo | drawTo =>
      cases ht
      exact .cons hx (.cons hy .nil)
    | _ => cases ht
  obtain ⟨c', hparse, hback⟩ := Command.exists_readBack hfit
  have haction : c'.action = action := Action.ext_values hback.verb hback.values
  have htext : c.text = action.verb.lineTo target := rfl
  rw [← htext, action?_of_parse hparse, haction]

namespace Drawing

/-- The line that goes with one that was answered so. -/
def displacedLine (dx dy : Int) (line : String) : Except Interruption Outcome → String
  | .ok o =>
    match o.command.action.target? with
    | some target => o.command.verb.lineTo (target.offset dx dy)
    | none => line
  | .error _ => line

theorem displaces_displacedLine {dx dy : Int} (line : String) {answer : Except Interruption Outcome}
    (h : ∀ o, answer = .ok o → ∀ target, o.command.action.target? = some target →
      (target.offset dx dy).Fits32) :
    Displaces dx dy line answer (displacedLine dx dy line answer) := by
  cases answer with
  | error i =>
    refine .same fun o ho => ?_
    cases ho
  | ok o =>
    rw [displacedLine]
    split
    · next target ht =>
      refine .taken (by rw [ht]; exact nofun) ?_
      have ht' : (o.command.action.offset dx dy).target? = some (target.offset dx dy) := by
        rw [Action.target?_offset, ht]
        rfl
      have hverb : o.command.verb = (o.command.action.offset dx dy).verb :=
        (o.command.action.verb_offset).symm
      rw [hverb]
      exact action?_lineTo ht' (h o rfl target ht)
    · next hnone =>
      refine .same fun o' ho' => ?_
      cases ho'
      exact hnone

theorem displacement_displacedLine {dx dy : Int} (lines : List String)
    {answers : List (Except Interruption Outcome)}
    (h : ∀ action ∈ accepted answers, ∀ target, action.target? = some target →
      (target.offset dx dy).Fits32) :
    Displacement dx dy lines answers (List.zipWith (displacedLine dx dy) lines answers) := by
  rw [Displacement, ← List.map_uncurry_zip_eq_zipWith, List.forall₂_map_right_iff,
    List.forall₂_same]
  rintro ⟨line, answer⟩ hasked
  refine displaces_displacedLine line fun o ho => h _ ?_
  obtain rfl : answer = .ok o := ho
  have hanswer : .ok o ∈ answers := (List.of_mem_zip hasked).2
  rw [accepted, outcomes, List.mem_map]
  exact ⟨o, List.mem_filterMap.2 ⟨.ok o, hanswer, rfl⟩, rfl⟩

/-- A program is executed on a new drawing. No reset is accepted, and the pen is moved to some place
before anything is done that depends on where it is. Then on another new drawing, whatever its canvas,
the program with the targets of accepted moves and lines offset draws the same with that offset: the
same lines are accepted, the pen is as on the first drawing but for the offset if it has been moved
at all, and so is the log but for the places of shapes. There is such a program if the targets with
the offset are in range. -/
theorem displaced_programs_draw_displaced (canvas canvas' : Canvas) (markerSize : Int)
    (watched : Bool) (dx dy : Int) (lines : List String) :
    let ran := (start canvas (some markerSize) watched).dispatchAll lines
    Action.reset ∉ accepted ran.1 → MovesFirst (accepted ran.1) →
    (∀ action ∈ accepted ran.1, ∀ target, action.target? = some target →
      (target.offset dx dy).Fits32) →
    Displacement dx dy lines ran.1 (List.zipWith (displacedLine dx dy) lines ran.1) ∧
      ∀ lines', Displacement dx dy lines ran.1 lines' →
        let ran' := (start canvas' (some markerSize) watched).dispatchAll lines'
        ran'.1.map Except.isOk = ran.1.map Except.isOk ∧
          ran'.2.pen = (if (accepted ran.1).any Action.isMove then ran.2.pen.shift dx dy
            else ran.2.pen) ∧
          ran'.2.commands = ran.2.commands ∧ ran'.2.refreshes = ran.2.refreshes ∧
          ran'.2.log = ran.2.log.offset dx dy := by
  intro ran hreset hfirst hfits
  refine ⟨displacement_displacedLine lines hfits, fun lines' hl => ?_⟩
  have hstart : Displaced dx dy false (start canvas (some markerSize) watched)
      (start canvas' (some markerSize) watched) :=
    ⟨rfl, rfl, rfl, rfl, rfl, rfl, ⟨fits32_zero, fits32_zero⟩, fits32_zero, fits32_zero⟩
  obtain ⟨hmap, hlast⟩ := hstart.dispatchAll hl ⟨hreset, Or.inr hfirst, hfits⟩
  exact ⟨hmap, hlast.pen, hlast.commands, hlast.refreshes, hlast.log⟩

/-- A red dot, a circle and a line from it, drawn again on the other side of the origin with markers
of an odd size. -/
theorem dot_and_circle_are_displaced :
    let canvas : Canvas := { serial := 0, width := 56, height := 42, background := ⟨255, 255, 255⟩ }
    let canvas' : Canvas := { serial := 1, width := 9, height := 8, background := ⟨0, 0, 0⟩ }
    let lines := ["pen red", "frob", "MoveTo 10 007", "circle -5", "fill on", "drawto 1 2"]
    let lines' := ["pen red", "frob", "moveto -90 7", "circle -5", "fill on", "drawto -99 2"]
    let ran := (start canvas (some 3) true).dispatchAll lines
    let ran' := (start canvas' (some 3) true).dispatchAll lines'
    ran'.2.pen = ⟨.red, true, ⟨-99, 2⟩⟩ ∧ ran'.2.log = ran.2.log.offset (-100) 0 ∧
      ran.2.log.shapes.length = 3 := by
  intro canvas canvas' lines lines' ran ran'
  have hran : (accepted ran.1, ran.2.pen, ran.2.log.shapes.length,
      List.zipWith (displacedLine (-100) 0) lines ran.1) =
      ([.pen .red, .moveTo ⟨10, 7⟩, .circle (-5), .fill true, .drawTo ⟨1, 2⟩],
        ⟨.red, true, ⟨1, 2⟩⟩, 3, lines') := by
    decide +kernel
  simp only [Prod.mk.injEq] at hran
  obtain ⟨hactions, hpen, hlength, hlines⟩ := hran
  have hfirst : MovesFirst (accepted ran.1) := by
    rw [hactions]
    rintro action h
    cases h
    rfl
  have hfits : ∀ action ∈ accepted ran.1, ∀ target ∈ action.target?,
      (target.offset (-100) 0).Fits32 := by
    rw [hactions]
    simp only [Point.Fits32, Fits32]
    decide
  obtain ⟨hdisplaced, hdrawn⟩ := displaced_programs_draw_displaced canvas canvas' 3 true (-100) 0
    lines (by rw [hactions]; decide) hfirst hfits
  rw [hlines] at hdisplaced
  obtain ⟨-, hplace, -, -, hlog⟩ := hdrawn lines' hdisplaced
  rw [hactions, hpen] at hplace
  exact ⟨hplace.trans (by decide), hlog, hlength⟩

end Drawing

end Drawboard
