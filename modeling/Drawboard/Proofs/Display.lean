import Drawboard.Proofs.Resizing
import Drawboard.Window.Run

/-! The window shows its session. Its view of the pen follows only when the watcher of the drawing is
told, so this rests on what a session does: the pen moves only where the watcher is told of a line,
and the canvas is another one only after resizing, which the window follows by itself. -/

namespace Drawboard

namespace Session

/-- The watcher is told more and more often, and as long as he is not told the pen stays. -/
structure Told (s s' : Session) : Prop where
  le : s.drawing.refreshes ≤ s'.drawing.refreshes
  pen : s'.drawing.refreshes = s.drawing.refreshes → s'.drawing.pen = s.drawing.pen

theorem Told.refl (s : Session) : Told s s := ⟨Nat.le_refl _, fun _ => rfl⟩

theorem Told.trans {a b c : Session} (h : Told a b) (h' : Told b c) : Told a c := by
  refine ⟨h.le.trans h'.le, fun hsame => ?_⟩
  have hle := h.le
  have hle' := h'.le
  rw [h'.pen (by omega), h.pen (by omega)]

variable {s : Session}

theorem refreshes_execute (hw : s.drawing.watched = true) (line : String) :
    (s.execute line).2.drawing.refreshes = s.drawing.refreshes + 1 := by
  have hrefresh (d : Drawing) (hd : d.watched = true) : d.refresh.refreshes = d.refreshes + 1 := by
    rw [Drawing.refresh_eq, hd, if_pos rfl]
  cases hp : parse line with
  | ok c =>
    rw [s.execute_of_ok hp]
    exact hrefresh _ hw
  | error r =>
    cases r with
    | rejected r =>
      rw [s.execute_of_rejected hp]
      exact hrefresh _ hw
    | overlong digits =>
      rw [s.execute_of_overlong hp]
      exact hrefresh _ hw

theorem told_execute (hw : s.drawing.watched = true) (line : String) :
    Told s (s.execute line).2 := by
  have hrefreshes := refreshes_execute hw line
  exact ⟨by omega, fun hsame => by omega⟩

theorem sameSetup_execute (s : Session) (line : String) : SameSetup s (s.execute line).2 := by
  cases hp : parse line with
  | ok c =>
    rw [s.execute_of_ok hp, Drawing.refresh_eq]
    exact ⟨rfl, rfl, rfl, rfl, rfl, rfl, rfl⟩
  | error r =>
    cases r with
    | rejected r =>
      rw [s.execute_of_rejected hp, Drawing.refresh_eq]
      exact ⟨rfl, rfl, rfl, rfl, rfl, rfl, rfl⟩
    | overlong digits =>
      rw [s.execute_of_overlong hp, Drawing.refresh_eq]
      exact ⟨rfl, rfl, rfl, rfl, rfl, rfl, rfl⟩

theorem watched_execute (hw : s.drawing.watched = true) (line : String) :
    (s.execute line).2.drawing.watched = true :=
  (s.sameSetup_execute line).watched.trans hw

theorem told_setErrors (s : Session) (errors : ErrorList) : Told s { s with errors := errors } :=
  ⟨Nat.le_refl _, fun _ => rfl⟩

theorem followed_runLines (hw : s.drawing.watched = true) (lines : List (Nat × String)) :
    SameSetup s (s.runLines lines).2 ∧ Told s (s.runLines lines).2 := by
  rw [runLines_eq_linesBy]
  refine kept_linesBy (P := fun s' => SameSetup s s' ∧ Told s s') (fun s' line hs => ?_)
    (fun s' errors hs => ?_) ⟨SameSetup.refl s, Told.refl s⟩ lines
  · have hw' : s'.drawing.watched = true := hs.1.watched.trans hw
    rw [visitExecuted_snd]
    exact ⟨hs.1.trans (s'.sameSetup_execute line), hs.2.trans (told_execute hw' line)⟩
  · exact ⟨hs.1.trans (s'.sameSetup_setErrors errors), hs.2.trans (s'.told_setErrors errors)⟩

theorem followed_run (hw : s.drawing.watched = true) (text : String) :
    SameSetup s (s.run text).2 ∧ Told s (s.run text).2 := by
  obtain ⟨hsetup, htold⟩ :=
    followed_runLines (s := { s with errors := {} }) hw (programLines text)
  rw [run_snd]
  exact ⟨(s.sameSetup_setErrors {}).trans hsetup, (s.told_setErrors {}).trans htold⟩

theorem told_check (s : Session) (text : String) : Told s (s.check text).2 := by
  obtain ⟨errors, he⟩ := s.exists_check_snd_eq text
  rw [he]
  exact s.told_setErrors errors

theorem sameSetup_check (s : Session) (text : String) : SameSetup s (s.check text).2 := by
  have hcheck : (Request.check text).config? = none := rfl
  exact s.sameSetup_respond hcheck

end Session

/-- What presets take for granted: their background is a color, and there are images of their sizes. -/
structure Toolkit.Serves (kit : Toolkit) : Prop where
  color : (kit.color? defaultBackground).isSome = true
  image : ∀ p : Preset, kit.raster p.width p.height = .whole

theorem Toolkit.plain_serves : Toolkit.plain.Serves :=
  ⟨by decide +kernel, fun _ => rfl⟩

theorem Preset.usable_config {kit : Toolkit} (h : kit.Serves) (p : Preset) :
    p.config.usable kit = true := by
  obtain ⟨color, hcolor⟩ := Option.isSome_iff_exists.1 h.color
  have hbackground : p.config.background? kit = some color := by
    rw [Config.background?, config, Config.ofValues, Json.string?_ofString]
    exact hcolor
  have hpos : 0 < p.width ∧ 0 < p.height := by
    cases p <;> decide
  exact Config.usable_iff.2
    ((Config.raster?_eq_some_iff _).2 ⟨_, _, _, rfl, rfl, hbackground, hpos, h.image p⟩)

/-- Taking up a preset always succeeds. The canvas is of its size then, and the pen is where it was. -/
theorem Session.resize_preset {s : Session} (h : s.kit.Serves) (p : Preset) :
    ∃ canvas, canvas.width = p.width ∧ canvas.height = p.height ∧
      s.resize p.config = (.ok (), s.takeUp p.config canvas) := by
  have hu := p.usable_config h
  obtain ⟨canvas, hc, hr⟩ := s.resize_of_taken (Config.taken_of_usable hu)
  have hd := (Canvas.made_of_create hc).1.whole hu
  exact ⟨canvas, (Option.some.inj hd.width).symm, (Option.some.inj hd.height).symm, hr⟩

theorem Pen.label_eq (p : Pen) :
    p.label = "Pen: " ++ p.color.name ++ "   Fill: " ++ (if p.filled then "on" else "off") ++
      "   Position: (" ++ toString p.position.x ++ ", " ++ toString p.position.y ++ ")" := rfl

namespace View

theorem cursorVisible_iff (v : View) :
    v.cursorVisible = true ↔ 0 ≤ v.penPosition.x ∧ v.penPosition.x < v.canvas.width ∧
      0 ≤ v.penPosition.y ∧ v.penPosition.y < v.canvas.height := by
  simp only [cursorVisible, Bool.and_eq_true, decide_eq_true_eq, and_assoc]

/-- A view that is to show the cursor paints a crosshair just when the pen is on the canvas. -/
theorem cursorLine_mem_paint_iff {v : View} (h : v.showCursor = true) :
    (∃ a b, ViewMark.cursorLine a b ∈ v.paint) ↔ v.cursorVisible = true := by
  rw [paint, if_pos h, crosshair]
  constructor
  · rintro ⟨a, b, hmem⟩
    by_contra hv
    rw [if_neg hv] at hmem
    simp at hmem
  · intro hv
    rw [if_pos hv]
    exact ⟨_, _, List.mem_append_right _ List.mem_cons_self⟩

end View

namespace Window

variable {w : Window} {s s' : Session}

theorem follow_follow (h : Session.Told w.session s) (h' : Session.Told s s') :
    (w.follow s).follow s' = w.follow s' := by
  have hle := h.le
  have hle' := h'.le
  -- If nothing was told until `s`, the window still shows what it showed; otherwise it shows `s`,
  -- and if nothing more is told until `s'` the pen has not moved on from there.
  by_cases hfirst : s.drawing.refreshes = w.session.drawing.refreshes
  · have hquiet : w.follow s = { w with session := s } := if_pos hfirst
    rw [hquiet, follow, follow, hfirst]
  · have htold : w.follow s = ({ w with session := s } : Window).showState := if_neg hfirst
    have hlast : w.follow s' = ({ w with session := s' } : Window).showState :=
      if_neg (by omega)
    rw [htold, hlast, follow]
    split
    · next hsame =>
      have hpen := h'.pen hsame
      simp only [showState, hpen]
    · rfl

theorem session_follow (w : Window) (s : Session) : (w.follow s).session = s := by
  unfold follow
  split <;> rfl

theorem follow_of_drawing_eq (w : Window) (h : s'.drawing = s.drawing) :
    { w.follow s with session := s' } = w.follow s' := by
  unfold follow
  rw [h]
  split
  · rfl
  · simp only [showState, h]

/-- Following lines at their end is following each of them. -/
theorem followLines_eq (hw : w.session.drawing.watched = true) (lines : List (Nat × String)) :
    w.followLines lines =
      ((w.session.runLines lines).1, w.follow (w.session.runLines lines).2) := by
  induction lines generalizing w with
  | nil => exact congrArg (Prod.mk _) (if_pos rfl).symm
  | cons l lines ih =>
    have hw' := Session.watched_execute hw l.2
    have htold := Session.told_execute hw l.2
    have hnext (s : Session) (hs : s.drawing.watched = true) (ht : Session.Told w.session s) :
        (w.follow s).followLines lines =
          ((s.runLines lines).1, w.follow (s.runLines lines).2) := by
      have hsession := w.session_follow s
      rw [ih (by rw [hsession]; exact hs), hsession, follow_follow ht
        (Session.followed_runLines hs lines).2]
    rw [followLines, Session.runLines]
    -- A rejection is recorded after the window has followed, which makes no difference to it.
    generalize w.session.execute l.2 = executed at hw' htold
    obtain ⟨result, s⟩ := executed
    cases result with
    | ok outcome => exact hnext s hw' htold
    | error refusal =>
      cases refusal with
      | rejected r =>
        let recorded : Session := { s with errors := s.errors.reject l.1 r }
        have hshown : { w.follow s with session := recorded } = w.follow recorded :=
          w.follow_of_drawing_eq rfl
        dsimp only
        rw [hshown]
        exact hnext recorded hw' ⟨htold.le, htold.pen⟩
      | overlong digits => rfl

/-- So it is for the lines of a program, which starts with no errors. -/
theorem follow_run (hw : w.session.drawing.watched = true) (text : String) :
    let cleared : Session := { w.session with errors := {} }
    w.follow (w.session.run text).2 =
      ({ w with session := cleared }.followLines (programLines text)).2 := by
  intro cleared
  rw [followLines_eq (w := { w with session := cleared }) hw, Session.run_snd]
  rfl

/-- The view and the line about the pen show the session as it is, and the session will let the
window know of every line. -/
structure Shows (w : Window) : Prop where
  serves : w.session.kit.Serves
  canvas : w.view.canvas = w.session.canvas
  under : w.session.drawing.canvas = w.session.canvas
  watched : w.session.drawing.watched = true
  position : w.view.penPosition = w.session.drawing.pen.position
  label : w.stateLabel = w.session.drawing.pen.label
  cursor : w.view.showCursor = true

theorem Shows.of_eq {w' : Window} (h : w.Shows) (hsession : w'.session = w.session)
    (hview : w'.view = w.view) (hlabel : w'.stateLabel = w.stateLabel) : w'.Shows := by
  obtain ⟨hserves, hcanvas, hunder, hwatched, hposition, hline, hcursor⟩ := h
  rw [← hsession] at hserves hcanvas hunder hwatched hposition hline
  rw [← hview] at hcanvas hposition hcursor
  exact ⟨hserves, hcanvas, hunder, hwatched, hposition, hlabel.trans hline, hcursor⟩

theorem Shows.say (h : w.Shows) (line : String) : (w.say line).Shows := h.of_eq rfl rfl rfl

theorem Shows.tell (h : w.Shows) (kind : DialogKind) (title text : String) :
    (w.tell kind title text).Shows :=
  h.of_eq rfl rfl rfl

theorem Shows.setStatus (h : w.Shows) (status : String) : (w.setStatus status).Shows :=
  h.of_eq rfl rfl rfl

theorem Shows.setCommandLine (h : w.Shows) (line : String) : (w.setCommandLine line).Shows :=
  h.of_eq rfl rfl rfl

theorem Shows.setProgram (h : w.Shows) (text : String) : (w.setProgram text).Shows :=
  h.of_eq rfl rfl rfl

theorem Shows.follow (h : w.Shows) (hsetup : Session.SameSetup w.session s)
    (htold : Session.Told w.session s) : (w.follow s).Shows := by
  have hserves : s.kit.Serves := hsetup.kit.symm ▸ h.serves
  have hcanvas : w.view.canvas = s.canvas := h.canvas.trans hsetup.canvas.symm
  have hunder : s.drawing.canvas = s.canvas := by
    rw [hsetup.under, hsetup.canvas]
    exact h.under
  have hwatched : s.drawing.watched = true := hsetup.watched.trans h.watched
  rw [Window.follow]
  split
  · next hsame =>
    have hpen := htold.pen hsame
    refine ⟨hserves, hcanvas, hunder, hwatched, ?_, ?_, h.cursor⟩
    · rw [hpen]
      exact h.position
    · rw [hpen]
      exact h.label
  · exact ⟨hserves, hcanvas, hunder, hwatched, rfl, rfl, h.cursor⟩

theorem showErrors_eq (w : Window) :
    ∃ text editor, w.showErrors = { w with errorText := text, editor := editor } := by
  unfold showErrors
  split <;> exact ⟨_, _, rfl⟩

theorem Shows.showErrors (h : w.Shows) : w.showErrors.Shows := by
  obtain ⟨text, editor, he⟩ := w.showErrors_eq
  rw [he]
  exact h.of_eq rfl rfl rfl

theorem Shows.runCommand (h : w.Shows) : w.runCommand.2.Shows := by
  have hf := h.follow (w.session.sameSetup_execute w.commandLine)
    (Session.told_execute h.watched w.commandLine)
  unfold Window.runCommand
  split
  · next outcome session he =>
    rw [he] at hf
    refine Shows.setCommandLine (Shows.setStatus ?_ _) _
    split
    · exact ((hf.say _).say _).tell _ _ _
    · exact (hf.say _).say _
  · next r session he =>
    rw [he] at hf
    exact (hf.say _).tell _ _ _
  · next digits session he =>
    rw [he] at hf
    exact hf

theorem Shows.checkCommand (h : w.Shows) : w.checkCommand.2.Shows := by
  unfold Window.checkCommand
  split
  · exact h.tell _ _ _
  · exact h.tell _ _ _
  · exact h

theorem Shows.clearCanvas (h : w.Shows) : w.clearCanvas.Shows :=
  (h.follow (w.session.sameSetup_execute "clear") (Session.told_execute h.watched "clear")).say _

theorem Shows.runProgram (h : w.Shows) : w.runProgram.2.Shows := by
  obtain ⟨hsetup, htold⟩ := Session.followed_run h.watched w.editor.text
  have hf := h.follow hsetup htold
  unfold Window.runProgram
  split
  · exact h
  · split
    · next session he =>
      rw [he] at hf
      exact (hf.showErrors.setStatus _).say _
    · next session he =>
      rw [he] at hf
      exact (hf.showErrors.setStatus _).say _
    · next failure session he =>
      rw [he] at hf
      exact hf

theorem Shows.checkProgram (h : w.Shows) : w.checkProgram.2.Shows := by
  have hf := h.follow (w.session.sameSetup_check w.editor.text)
    (w.session.told_check w.editor.text)
  unfold Window.checkProgram
  split
  · exact h
  · split
    · next session he =>
      rw [he] at hf
      exact (hf.setStatus _).showErrors
    · next session he =>
      rw [he] at hf
      exact (hf.setStatus _).showErrors
    · next failure session he =>
      rw [he] at hf
      exact hf

theorem Shows.load (h : w.Shows) (files : Files) (path : String) :
    (w.load files path).2.Shows := by
  unfold Window.load
  split
  · exact h
  · split
    · exact ((h.setProgram _).say _).checkProgram
    · exact h

theorem Shows.save (h : w.Shows) (files : Files) (path : String) :
    (w.save files path).2.Shows := by
  unfold Window.save
  split
  · exact h
  · split
    · exact h.say _
    · exact h

/-- A preset is always taken up: the view has the canvas of the session, and the pen and what is said
about it are as before. -/
theorem choosePreset_eq (h : w.session.kit.Serves) (name : String) :
    let preset := Preset.named name
    ∃ canvas line, canvas.width = preset.width ∧ canvas.height = preset.height ∧
      w.choosePreset name =
        (.ok (),
          { w with
            session := w.session.takeUp preset.config canvas
            view := w.view.setCanvas canvas
            console := w.console ++ [line] }) := by
  intro preset
  obtain ⟨canvas, hwidth, hheight, hr⟩ := Session.resize_preset h preset
  -- The watcher is not told of a new canvas, so following it shows nothing new.
  have hfollow : w.follow (w.session.takeUp preset.config canvas) =
      { w with session := w.session.takeUp preset.config canvas } := if_pos rfl
  refine ⟨canvas, s!"Switched to {preset.title} canvas ({preset.width}x{preset.height})",
    hwidth, hheight, ?_⟩
  unfold choosePreset
  dsimp only
  rw [hr]
  dsimp only
  rw [hfollow]
  rfl

theorem Shows.choosePreset (h : w.Shows) (name : String) : (w.choosePreset name).2.Shows := by
  obtain ⟨canvas, line, -, -, hc⟩ := choosePreset_eq h.serves name
  rw [hc]
  exact ⟨h.serves, rfl, rfl, h.watched, h.position, h.label, h.cursor⟩

theorem Shows.step (h : w.Shows) (action : Step) : (w.step action).Shows := by
  cases action with
  | typeCommand line => exact h.setCommandLine line
  | editProgram text => exact h.setProgram text
  | runCommand => exact h.runCommand
  | checkCommand => exact h.checkCommand
  | clearCanvas => exact h.clearCanvas
  | runProgram => exact h.runProgram
  | checkProgram => exact h.checkProgram
  | load files path => exact h.load files path
  | save files path => exact h.save files path
  | choosePreset name => exact h.choosePreset name

theorem Shows.after (h : w.Shows) (steps : List Step) : (w.after steps).Shows := by
  induction steps generalizing w with
  | nil => exact h
  | cons action steps ih => exact ih (h.step action)

theorem exists_start {kit : Toolkit} (h : kit.Serves) : ∃ w, start kit = .ok w ∧ w.Shows := by
  obtain ⟨canvas, hc, -⟩ :=
    Canvas.create_of_taken (Config.taken_of_usable (Preset.default.usable_config h)) 0
  have hs : Session.start Preset.default.config kit = .ok
      { kit := kit, config := Preset.default.config, inForce := Preset.default.config
        canvas := canvas
        drawing := Drawing.start canvas Preset.default.config.markerSide? true } := by
    rw [Session.start, hc]
    rfl
  refine ⟨_, by rw [start, hs]; rfl, h, rfl, rfl, rfl, rfl, rfl, rfl⟩

/-- Whatever is done at the window, its view has the canvas of the session, on which the session draws,
its view of the pen is where the pen is, and the line about the pen says its color, whether it fills
and where it is. So a crosshair is painted just when the pen is on the canvas, also on the canvas of a
preset, which is of another size while the pen stays where it was. While a program runs, too, the
window follows each line: what it shows in the end is what following them has it show. -/
theorem window_shows_session {kit : Toolkit} (hk : kit.Serves) :
    ∃ w₀, start kit = .ok w₀ ∧ ∀ steps : List Step,
      let w := w₀.after steps
      let pen := w.session.drawing.pen
      let canvas := w.session.canvas
      w.view.canvas = canvas ∧ w.session.drawing.canvas = canvas ∧
        w.view.penPosition = pen.position ∧
        w.stateLabel = "Pen: " ++ pen.color.name ++ "   Fill: " ++
          (if pen.filled then "on" else "off") ++ "   Position: (" ++ toString pen.position.x ++
          ", " ++ toString pen.position.y ++ ")" ∧
        (w.view.cursorVisible = true ↔ 0 ≤ pen.position.x ∧ pen.position.x < canvas.width ∧
          0 ≤ pen.position.y ∧ pen.position.y < canvas.height) ∧
        ((∃ a b, ViewMark.cursorLine a b ∈ w.view.paint) ↔ w.view.cursorVisible = true) ∧
        (∀ name : String,
          let preset := Preset.named name
          let next := (w.choosePreset name).2
          (w.choosePreset name).1 = .ok () ∧ next.session.drawing.pen = pen ∧
            (next.view.cursorVisible = true ↔ 0 ≤ pen.position.x ∧ pen.position.x < preset.width ∧
              0 ≤ pen.position.y ∧ pen.position.y < preset.height)) ∧
        ∀ text : String,
          let cleared : Session := { w.session with errors := {} }
          w.follow (w.session.run text).2 =
            ({ w with session := cleared }.followLines (programLines text)).2 := by
  obtain ⟨w₀, hstart, hshows⟩ := exists_start hk
  refine ⟨w₀, hstart, fun steps => ?_⟩
  intro w pen canvas
  have h : w.Shows := hshows.after steps
  refine ⟨h.canvas, h.under, h.position, h.label.trans pen.label_eq, ?_,
    View.cursorLine_mem_paint_iff h.cursor, ?_, follow_run h.watched⟩
  · rw [View.cursorVisible_iff, h.canvas, h.position]
  · intro name preset next
    obtain ⟨fresh, line, hwidth, hheight, hc⟩ := choosePreset_eq h.serves name
    have hnext : next = _ := congrArg Prod.snd hc
    refine ⟨congrArg Prod.fst hc, ?_, ?_⟩
    · rw [hnext]
      rfl
    · rw [View.cursorVisible_iff, hnext]
      simp only [View.setCanvas, hwidth, hheight, h.position]
      rfl

/-- The last line moves the pen off the canvas, so there is no crosshair, and none on another preset. -/
theorem red_filling_pen_is_shown :
    let steps : List Step := [.editProgram "pen red\nFILL on\nfrob\nmoveto 3 -4", .runProgram]
    ∃ w₀, start = .ok w₀ ∧
      let w := w₀.after steps
      w.stateLabel = "Pen: red   Fill: on   Position: (3, -4)" ∧ w.view.cursorVisible = false ∧
        (w.choosePreset "hd").2.view.cursorVisible = false := by
  intro steps
  obtain ⟨w₀, hw, hshown⟩ := window_shows_session Toolkit.plain_serves
  refine ⟨w₀, hw, ?_⟩
  intro w
  obtain ⟨-, -, -, hlabel, hvisible, -, hpreset, -⟩ := hshown steps
  have hpen : w.session.drawing.pen = ⟨.red, true, ⟨3, -4⟩⟩ := by
    cases hw
    decide +kernel
  obtain ⟨-, -, hnext⟩ := hpreset "hd"
  refine ⟨?_, ?_, ?_⟩
  · rw [hlabel, hpen]
    decide +kernel
  · rw [← Bool.not_eq_true, hvisible, hpen]
    exact fun h => absurd h.2.2.1 (by decide)
  · rw [← Bool.not_eq_true, hnext, hpen]
    exact fun h => absurd h.2.2.1 (by decide)

end Window

end Drawboard
