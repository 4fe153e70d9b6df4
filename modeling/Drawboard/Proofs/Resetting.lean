import Drawboard.Proofs.Renumbering
import Drawboard.Proofs.Resizing

/-! What a reset leaves of the past: identifiers that are not given out again, the number of the
canvas, the calls made and how often whoever watches was told. A session with a past goes on as it
would without one. All that shows of it are the identifiers of shapes. -/

namespace Drawboard

structure Past where
  shapes : Nat
  canvases : Nat
  calls : List Call
  refreshes : Nat

namespace Drawing

/-- The same drawing, with a past before it. -/
def following (p : Past) (d : Drawing) : Drawing :=
  { d with
    canvas := d.canvas.shift p.canvases
    log := d.log.shift p.shapes
    calls := p.calls ++ d.calls
    refreshes := p.refreshes + d.refreshes }

variable (p : Past) (d : Drawing)

theorem markerSide_following : (d.following p).markerSide = d.markerSide := rfl

theorem logAfter_following (number : Nat) (action : Action) :
    (d.following p).logAfter number action = (d.logAfter number action).shift p.shapes := by
  by_cases hne : action = .clear
  · rw [hne]
    rfl
  · rw [logAfter_of_ne_clear _ _ hne, logAfter_of_ne_clear _ _ hne, markerSide_following]
    simp only [following]
    cases action.sketch? d.pen d.markerSide with
    | none => rfl
    | some sketch => exact ShapeLog.add_shift p.shapes d.log number sketch

theorem perform_following (action : Action) :
    (d.following p).perform action = (d.perform action).following p := by
  have hlog := logAfter_following p d (d.commands + 1) action
  have hcalls := action.calls_shift p.canvases d.canvas d.pen d.markerSide
  have hside := markerSide_following p d
  simp only [following] at hlog hside
  simp only [perform, following, hlog, hside, hcalls, List.append_assoc]

theorem refresh_following : (d.following p).refresh = d.refresh.following p := by
  rw [refresh_eq, refresh_eq]
  simp only [following, Nat.add_assoc]
  rfl

/-- The past has no part in what a line does, nor in whether it breaks. -/
theorem dispatch_following (line : String) :
    (d.following p).dispatch line = ((d.dispatch line).1, (d.dispatch line).2.following p) := by
  cases hp : parse line with
  | error r =>
    rw [dispatch_of_error hp, dispatch_of_error hp, refresh_following]
  | ok c =>
    have hsame : (d.following p).fault? c.action = d.fault? c.action := fault?_congr rfl rfl rfl
    cases hf : d.fault? c.action with
    | some fault =>
      rw [dispatch_of_fault hp (hsame.trans hf), dispatch_of_fault hp hf, ← refresh_following]
      rfl
    | none =>
      rw [dispatch_of_no_fault hp (hsame.trans hf), dispatch_of_no_fault hp hf,
        perform_following, refresh_following]
      rfl

theorem replaceCanvas_following (canvas : Canvas) :
    (d.following p).replaceCanvas (canvas.shift p.canvases) =
      (d.replaceCanvas canvas).following p := by
  simp only [replaceCanvas, following, ShapeLog.clear_shift, List.append_assoc]
  rfl

theorem reset_following : (d.following p).reset = d.reset.following p := by
  simp only [reset, following, ShapeLog.clear_shift, List.append_assoc]
  rfl

end Drawing

namespace Session

def following (p : Past) (s : Session) : Session :=
  { s with canvas := s.canvas.shift p.canvases, drawing := s.drawing.following p }

variable (p : Past) (s : Session)

theorem dispatch_following (line : String) :
    (s.following p).dispatch line = ((s.dispatch line).1, (s.dispatch line).2.following p) := by
  have hdrawing : (s.following p).drawing.dispatch line =
      ((s.drawing.dispatch line).1, (s.drawing.dispatch line).2.following p) :=
    Drawing.dispatch_following p s.drawing line
  rw [dispatch, hdrawing, dispatch]
  generalize s.drawing.dispatch line = dispatched
  obtain ⟨((r | digits) | fault) | outcome, drawing⟩ := dispatched <;> rfl

theorem dispatchLines_following (lines : List (Nat × String)) :
    (s.following p).dispatchLines lines =
      ((s.dispatchLines lines).1, (s.dispatchLines lines).2.following p) := by
  induction lines generalizing s with
  | nil => rfl
  | cons l lines ih =>
    rw [dispatchLines, dispatch_following, dispatchLines]
    generalize s.dispatch l.2 = dispatched
    obtain ⟨((r | digits) | fault) | outcome, s'⟩ := dispatched
    · exact ih { s' with errors := s'.errors.reject l.1 r }
    · rfl
    · rfl
    · exact ih s'

theorem dispatchProgram_following (text : String) :
    (s.following p).dispatchProgram text =
      ((s.dispatchProgram text).1, (s.dispatchProgram text).2.following p) := by
  have hlines := dispatchLines_following p { s with errors := {} } (programLines text)
  unfold dispatchProgram
  generalize ({ s with errors := {} } : Session).dispatchLines (programLines text) = ran at hlines ⊢
  obtain ⟨ending, s'⟩ := ran
  have hsame : ({ s.following p with errors := {} } : Session).dispatchLines (programLines text) =
      (ending, s'.following p) := hlines
  rw [hsame]
  cases ending <;> rfl

theorem check_following (text : String) :
    (s.following p).check text = ((s.check text).1, (s.check text).2.following p) := by
  unfold check
  generalize checkLines {} (programLines text) = checked
  obtain ⟨ending, errors⟩ := checked
  cases ending <;> rfl

theorem reset_following : (s.following p).reset = s.reset.following p := by
  simp only [reset, following, Drawing.reset_following]

theorem resize_following (config : Config) :
    (s.following p).resize config = ((s.resize config).1, (s.resize config).2.following p) := by
  have hserial : (s.following p).canvas.serial + 1 = s.canvas.serial + 1 + p.canvases :=
    Nat.add_right_comm _ _ _
  have hkit : (s.following p).kit = s.kit := rfl
  rw [resize, resize, hserial, hkit, Canvas.create_add]
  generalize
    Canvas.create (s.canvas.serial + 1) config.width config.height config.background s.kit = created
  cases created with
  | error failure => rfl
  | ok canvas =>
    simp only [Except.map, following, Drawing.replaceCanvas_following]
    rfl

/-- The same reply with larger identifiers. -/
def Reply.shift (k : Nat) : Reply → Reply
  | .shapes listed => .shapes (listed.map (·.shift k))
  | reply => reply

def Exchange.shift (k : Nat) (e : Exchange) : Exchange := { e with reply := e.reply.shift k }

theorem beq_canvas_shift (n : Nat) (c d : Canvas) : (c.shift n == d.shift n) = (c == d) := by
  rw [Bool.eq_iff_iff, beq_iff_eq, beq_iff_eq]
  exact (Canvas.shift_injective n).eq_iff

theorem answer_following (question : Question) :
    (s.following p).answer question = (s.answer question).shift p.shapes := by
  cases question with
  | canvas =>
    have hshared := beq_canvas_shift p.canvases s.canvas s.drawing.canvas
    simp only [answer, following, Drawing.following, hshared]
    rfl
  | shapesOf command =>
    exact congrArg Reply.shapes (ShapeLog.forCommand_shift p.shapes s.drawing.log command)
  | shapesOfKind kind =>
    exact congrArg Reply.shapes (ShapeLog.ofKind_shift p.shapes s.drawing.log kind)
  | lastShape =>
    refine congrArg Reply.shapes ?_
    rw [following, Drawing.following, ShapeLog.last?_shift]
    cases s.drawing.log.last? <;> rfl
  | shapeCounts =>
    exact congrArg Reply.shapeCounts (ShapeLog.counts_shift p.shapes s.drawing.log)
  | extent => exact congrArg Reply.extent (ShapeLog.extent?_shift p.shapes s.drawing.log)
  | statistics =>
    refine congrArg Reply.statistics ?_
    have hextent := ShapeLog.extent?_shift p.shapes s.drawing.log
    have hcounts := ShapeLog.counts_shift p.shapes s.drawing.log
    simp only [statistics, following, Drawing.following, hextent, hcounts]
  | config | pen | counts | history | errors | errorsAt | firstError | hasErrors | shapes => rfl

theorem respond_following (request : Request) :
    (s.following p).respond request =
      ((s.respond request).1.shift p.shapes, (s.respond request).2.following p) := by
  cases request with
  | execute line => rw [respond, dispatch_following]; rfl
  | checkSyntax line => rfl
  | run text => rw [respond, dispatchProgram_following]; rfl
  | check text => rw [respond, check_following]; rfl
  | reset => rw [respond, reset_following]; rfl
  | resize config => rw [respond, resize_following]; rfl
  | ask question => rw [respond, answer_following]; rfl

theorem exchange_following (request : Request) :
    (s.following p).exchange request =
      ((s.exchange request).1.shift p.shapes, (s.exchange request).2.following p) := by
  have hcalls (after : Session) : (after.following p).drawing.calls.drop
      (s.following p).drawing.calls.length = after.drawing.calls.drop s.drawing.calls.length := by
    simp only [following, Drawing.following, List.length_append]
    exact List.drop_length_add_append _
  have htold (after : Session) : (after.following p).drawing.refreshes -
      (s.following p).drawing.refreshes = after.drawing.refreshes - s.drawing.refreshes :=
    Nat.add_sub_add_left _ _ _
  rw [exchange, respond_following, exchange]
  simp only [hcalls, htold]
  rfl

/-- The past shows in no exchange but by the identifiers of shapes. -/
theorem converse_following (requests : List Request) :
    (s.following p).converse requests =
      ((s.converse requests).1.map (·.shift p.shapes), (s.converse requests).2.following p) := by
  induction requests generalizing s with
  | nil => rfl
  | cons request requests ih =>
    rw [converse, exchange_following, converse]
    simp only [ih, List.map_cons]

theorem watched_respond (request : Request) :
    (s.respond request).2.drawing.watched = s.drawing.watched := by
  rcases s.respond_cases request with
    ⟨-, hs⟩ | ⟨config, canvas, -, -, -, hr⟩ | ⟨config, failure, -, -, hr⟩
  · exact hs.watched
  · rw [hr]
    rfl
  · rw [hr]

theorem watched_handleAll (requests : List Request) :
    (s.handleAll requests).drawing.watched = s.drawing.watched := by
  induction requests generalizing s with
  | nil => rfl
  | cons request requests ih => exact (ih (s.handle request)).trans (s.watched_respond request)

def Reply.isFailedResize : Reply → Bool
  | .resized (.error _) => true
  | _ => false

theorem inForce_converse {s : Session} (h : s.inForce = s.config) {requests : List Request}
    (hall : ∀ e ∈ (s.converse requests).1, e.reply.isFailedResize = false) :
    (s.converse requests).2.inForce = (s.converse requests).2.config := by
  induction requests generalizing s with
  | nil => exact h
  | cons request requests ih =>
    obtain ⟨hfirst, hrest⟩ := List.forall_mem_cons.1 hall
    have hreply : (s.respond request).1.isFailedResize = false := hfirst
    have hnext : (s.respond request).2.inForce = (s.respond request).2.config := by
      rcases s.respond_cases request with
        ⟨-, hs⟩ | ⟨config, canvas, -, -, -, hr⟩ | ⟨config, failure, -, -, hr⟩
      · exact hs.inForce.trans (h.trans hs.config.symm)
      · rw [hr]
        rfl
      · rw [hr] at hreply
        cases hreply
    exact ih hnext hrest

def past (s : Session) : Past :=
  { shapes := s.drawing.log.nextId
    canvases := s.canvas.serial
    calls := s.drawing.calls
    refreshes := s.drawing.refreshes }

theorem Coherent.exists_reset_eq {s : Session} (h : s.Coherent) (hconfig : s.inForce = s.config) :
    ∃ t, opened s.config s.drawing.watched s.kit = .ok t ∧ s.reset = t.following s.past := by
  have hcreated := h.created
  have hmarker := h.markerSize
  rw [hconfig] at hcreated hmarker
  rw [← Nat.zero_add s.canvas.serial, Canvas.create_add] at hcreated
  cases hc : Canvas.create 0 s.config.width s.config.height s.config.background s.kit with
  | error failure =>
    rw [hc] at hcreated
    cases hcreated
  | ok canvas =>
    rw [hc] at hcreated
    have hcanvas : canvas.shift s.canvas.serial = s.canvas := Except.ok.inj hcreated
    have hopened : opened s.config s.drawing.watched s.kit = .ok
        { kit := s.kit, config := s.config, inForce := s.config, canvas := canvas
          drawing := Drawing.start canvas s.config.markerSide? s.drawing.watched } := by
      rw [opened, start, hc]
      rfl
    refine ⟨_, hopened, ?_⟩
    have hwipe : s.canvas.wipe = canvas.wipe := by
      rw [← hcanvas]
      rfl
    simp only [reset, Drawing.reset, following, Drawing.following, Drawing.start, past, hcanvas,
      h.canvas, hconfig, hmarker, hwipe, ShapeLog.clear, ShapeLog.shift, ShapeLog.shiftIndex,
      List.map_nil, Nat.zero_add, Nat.add_zero]

/-- A session in which no resize has failed, once it is reset, answers whatever it is asked as a new
session for its configuration does, makes the same calls, tells whoever watches as often and breaks at
the same commands. Only the identifiers of shapes are larger, by as many as were given out before. -/
theorem reset_renews {config : Config} {watched : Bool} {kit : Toolkit} {s₀ : Session}
    (hs : opened config watched kit = .ok s₀) {before : List Request}
    (hbefore : ∀ e ∈ (s₀.converse before).1, e.reply.isFailedResize = false) :
    let s := (s₀.converse before).2
    ∃ t, opened s.config watched kit = .ok t ∧ ∀ requests,
      (s.reset.converse requests).1 =
        (t.converse requests).1.map (·.shift s.drawing.log.nextId) := by
  intro s
  obtain ⟨h₀, hkit₀, hconfig, hinForce⟩ := coherent_opened hs
  have hall : s = s₀.handleAll before := s₀.snd_converse before
  have hs' : s.Coherent := by
    rw [hall]
    exact (h₀.handleAll before).1
  have hsame : s.inForce = s.config := inForce_converse (hinForce.trans hconfig.symm) hbefore
  have hkit : s.kit = kit := by
    rw [hall, kit_handleAll, hkit₀]
  have hwatched : s.drawing.watched = watched := by
    rw [hall, watched_handleAll]
    obtain ⟨canvas, -, rfl⟩ := opened_eq_ok hs
    rfl
  obtain ⟨t, ht, hreset⟩ := hs'.exists_reset_eq hsame
  rw [hwatched, hkit] at ht
  refine ⟨t, ht, fun requests => ?_⟩
  rw [hreset, converse_following]
  rfl

/-- Three shapes were drawn before, so those drawn since are numbered from three on. -/
theorem reset_after_three_shapes :
    let black := Config.ofValues "Black" 90 70 "#000" 3
    let before : List Request :=
      [.run "circle 5\n\nmoveto 1 2\ncircle", .resize black, .execute "drawto 8 8"]
    ∃ s₀ t, opened Preset.square.config true = .ok s₀ ∧ opened black true = .ok t ∧
      ∀ requests, ((s₀.converse before).2.reset.converse requests).1 =
        (t.converse requests).1.map (·.shift 3) := by
  intro black before
  obtain ⟨s₀, hs⟩ : ∃ s₀, opened Preset.square.config true = .ok s₀ := ⟨_, rfl⟩
  have hbefore : ∀ e ∈ (s₀.converse before).1, e.reply.isFailedResize = false := by
    cases hs
    decide +kernel
  have hthree : (s₀.converse before).2.drawing.log.nextId = 3 := by
    cases hs
    decide +kernel
  have hblack : (s₀.converse before).2.config = black :=
    (congrArg Session.config (s₀.snd_converse before)).trans
      ((coherent_opened hs).1.handleAll before).2.1
  obtain ⟨t, ht, hsame⟩ := reset_renews hs hbefore
  rw [hblack] at ht
  rw [hthree] at hsame
  exact ⟨s₀, t, hs, ht, hsame⟩

end Session

end Drawboard
