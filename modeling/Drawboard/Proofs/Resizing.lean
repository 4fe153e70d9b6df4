import Drawboard.Proofs.Lines
import Drawboard.Proofs.Units
import Drawboard.Session.Request

/-! Canvas and configuration. Only resizing changes them, and what canvases are made with decides
whether it can. A configuration that a canvas was made for is in force from then on; of any other just
the configuration is taken up, so that the session says it has one which its canvas does not have. -/

namespace Drawboard

namespace Config

def background? (kit : Toolkit) (config : Config) : Option Rgb :=
  config.background.string?.bind kit.color?

/-- What comes of asking for the image of a configuration. It is asked for if the size is positive and
the background is a color. -/
def raster? (kit : Toolkit) (config : Config) : Option Raster :=
  match config.width.whole?, config.height.whole?, config.background? kit with
  | some width, some height, some _ =>
    if 0 < width ∧ 0 < height then some (kit.raster width height) else none
  | _, _, _ => none

/-- Whether there is an image of the size of a configuration. -/
def usable (kit : Toolkit) (config : Config) : Bool :=
  match config.raster? kit with
  | some .whole => true
  | _ => false

/-- Whether a canvas is made for a configuration, be it on a null image. -/
def taken (kit : Toolkit) (config : Config) : Bool :=
  match config.raster? kit with
  | some .whole | some .null => true
  | _ => false

/-- A canvas of the size, not empty, and of the background that a configuration asks for. -/
structure Describes (kit : Toolkit) (config : Config) (canvas : Canvas) : Prop where
  width : config.width.whole? = some canvas.width
  height : config.height.whole? = some canvas.height
  background : config.background? kit = some canvas.background
  wide : 0 < canvas.width
  tall : 0 < canvas.height

/-- A canvas that was made for a configuration. It is of the size asked for or, on a null image, of
none. -/
structure Made (kit : Toolkit) (config : Config) (canvas : Canvas) : Prop where
  background : config.background? kit = some canvas.background
  whole : config.usable kit = true → config.Describes kit canvas
  null : config.usable kit = false → canvas.width = 0 ∧ canvas.height = 0

variable {kit : Toolkit} {config : Config}

theorem raster?_eq_some_iff (r : Raster) :
    config.raster? kit = some r ↔ ∃ width height color, config.width.whole? = some width ∧
      config.height.whole? = some height ∧ config.background? kit = some color ∧
      (0 < width ∧ 0 < height) ∧ kit.raster width height = r := by
  unfold raster?
  split
  · next width height color hw hh hb =>
    rw [Option.ite_none_right_eq_some, Option.some.injEq]
    constructor
    · rintro ⟨hpos, hr⟩
      exact ⟨width, height, color, hw, hh, hb, hpos, hr⟩
    · rintro ⟨width', height', color', hw', hh', -, hpos, hr⟩
      obtain rfl : width = width' := Option.some.inj (hw.symm.trans hw')
      obtain rfl : height = height' := Option.some.inj (hh.symm.trans hh')
      exact ⟨hpos, hr⟩
  · next hnone =>
    refine iff_of_false nofun ?_
    rintro ⟨width, height, color, hw, hh, hb, -⟩
    exact hnone width height color hw hh hb

theorem usable_iff : config.usable kit = true ↔ config.raster? kit = some .whole := by
  unfold usable
  split
  · next h => exact iff_of_true rfl h
  · next h => exact iff_of_false Bool.false_ne_true h

theorem taken_iff :
    config.taken kit = true ↔ config.raster? kit = some .whole ∨ config.raster? kit = some .null := by
  unfold taken
  split
  · next h => exact iff_of_true rfl (Or.inl h)
  · next h => exact iff_of_true rfl (Or.inr h)
  · next h h' => exact iff_of_false Bool.false_ne_true (not_or.2 ⟨h, h'⟩)

theorem taken_of_usable (h : config.usable kit = true) : config.taken kit = true :=
  taken_iff.2 (Or.inl (usable_iff.1 h))

theorem taken_ofValues_iff (kit : Toolkit) (name : String) (width height : Int) (background : String)
    (markerSize : Int) :
    (ofValues name width height background markerSize).taken kit = true ↔
      0 < width ∧ 0 < height ∧ (kit.color? background).isSome = true ∧
        ∀ message, kit.raster width height ≠ .refused message := by
  have hbackground : (ofValues name width height background markerSize).background? kit =
      kit.color? background := by
    rw [background?, ofValues, Json.string?_ofString, Option.bind_some]
  have hrefused : (∀ message, kit.raster width height ≠ .refused message) ↔
      kit.raster width height = .whole ∨ kit.raster width height = .null := by
    cases kit.raster width height <;> simp
  have hraster (r : Raster) : (ofValues name width height background markerSize).raster? kit = some r ↔
      0 < width ∧ 0 < height ∧ (kit.color? background).isSome = true ∧
        kit.raster width height = r := by
    rw [raster?_eq_some_iff, hbackground]
    constructor
    · rintro ⟨w, h, color, ⟨⟩, ⟨⟩, hb, hpos, hr⟩
      exact ⟨hpos.1, hpos.2, Option.isSome_iff_exists.2 ⟨color, hb⟩, hr⟩
    · rintro ⟨hw, hh, hb, hr⟩
      obtain ⟨color, hb⟩ := Option.isSome_iff_exists.1 hb
      exact ⟨width, height, color, rfl, rfl, hb, ⟨hw, hh⟩, hr⟩
  rw [taken_iff, hraster, hraster, hrefused, ← and_or_left, ← and_or_left, ← and_or_left]

/-- A canvas that is not empty can only have been made on an image of its size. -/
theorem Made.usable_of_describes {canvas : Canvas} {other : Config} (h : config.Made kit canvas)
    (hd : other.Describes kit canvas) : other.usable kit = true := by
  have hwhole : config.usable kit = true := by
    refine Bool.eq_true_of_not_eq_false fun hu => ?_
    have hwidth := (h.null hu).1
    have hwide := hd.wide
    omega
  obtain ⟨width, height, color, hw, hh, -, -, hr⟩ :=
    (raster?_eq_some_iff _).1 (usable_iff.1 hwhole)
  obtain rfl : width = canvas.width := Option.some.inj (hw.symm.trans (h.whole hwhole).width)
  obtain rfl : height = canvas.height := Option.some.inj (hh.symm.trans (h.whole hwhole).height)
  exact usable_iff.2 ((raster?_eq_some_iff _).2
    ⟨_, _, _, hd.width, hd.height, hd.background, ⟨hd.wide, hd.tall⟩, hr⟩)

end Config

namespace Canvas

theorem create_of_taken {kit : Toolkit} {config : Config} (h : config.taken kit = true)
    (serial : Nat) :
    ∃ canvas, create serial config.width config.height config.background kit = .ok canvas ∧
      config.Made kit canvas ∧ canvas.serial = serial := by
  rcases Config.taken_iff.1 h with hr | hr
  all_goals
    obtain ⟨width, height, color, hw, hh, hb, hpos, hraster⟩ := (Config.raster?_eq_some_iff _).1 hr
    have hb' := hb
    rw [Config.background?] at hb'
    simp only [create, hw, hh, hb', dif_pos hpos, hraster]
    refine ⟨_, rfl, ⟨hb, fun hu => ?_, fun hu => ?_⟩, rfl⟩
  · exact ⟨hw, hh, hb, hpos.1, hpos.2⟩
  · rw [Config.usable_iff.2 hr] at hu
    cases hu
  · rw [Config.usable_iff, hr] at hu
    cases hu
  · exact ⟨rfl, rfl⟩

theorem create_of_not_taken {kit : Toolkit} {config : Config} (h : config.taken kit = false)
    (serial : Nat) :
    ∃ failure,
      create serial config.width config.height config.background kit = .error failure := by
  have hnot {r : Raster} (hr : config.raster? kit = some r) : r ≠ .whole ∧ r ≠ .null := by
    rw [← Bool.not_eq_true, Config.taken_iff, hr, not_or, Option.some.injEq, Option.some.injEq] at h
    exact h
  unfold create
  split
  · next width height hw hh =>
    split
    · next hpos =>
      split
      · next color hb =>
        obtain ⟨hwhole, hnull⟩ :=
          hnot ((Config.raster?_eq_some_iff _).2 ⟨_, _, _, hw, hh, hb, hpos, rfl⟩)
        cases hr : kit.raster width height with
        | whole => exact absurd hr hwhole
        | null => exact absurd hr hnull
        | refused message => exact ⟨_, rfl⟩
      · exact ⟨_, rfl⟩
    · exact ⟨_, rfl⟩
  · exact ⟨_, rfl⟩

theorem made_of_create {kit : Toolkit} {config : Config} {serial : Nat} {canvas : Canvas}
    (h : create serial config.width config.height config.background kit = .ok canvas) :
    config.Made kit canvas ∧ canvas.serial = serial := by
  cases ht : config.taken kit with
  | true =>
    obtain ⟨canvas', hc, hmade⟩ := create_of_taken ht serial
    rw [hc] at h
    cases h
    exact hmade
  | false =>
    obtain ⟨failure, hf⟩ := create_of_not_taken ht serial
    rw [hf] at h
    cases h

end Canvas

namespace Session

structure SameSetup (s s' : Session) : Prop where
  kit : s'.kit = s.kit
  config : s'.config = s.config
  inForce : s'.inForce = s.inForce
  canvas : s'.canvas = s.canvas
  under : s'.drawing.canvas = s.drawing.canvas
  markerSize : s'.drawing.markerSize = s.drawing.markerSize
  watched : s'.drawing.watched = s.drawing.watched

theorem SameSetup.refl (s : Session) : SameSetup s s := ⟨rfl, rfl, rfl, rfl, rfl, rfl, rfl⟩

theorem SameSetup.trans {a b c : Session} (h : SameSetup a b) (h' : SameSetup b c) :
    SameSetup a c :=
  ⟨h'.kit.trans h.kit, h'.config.trans h.config, h'.inForce.trans h.inForce,
    h'.canvas.trans h.canvas, h'.under.trans h.under, h'.markerSize.trans h.markerSize,
    h'.watched.trans h.watched⟩

theorem sameSetup_setErrors (s : Session) (errors : ErrorList) :
    SameSetup s { s with errors := errors } :=
  ⟨rfl, rfl, rfl, rfl, rfl, rfl, rfl⟩

theorem sameSetup_dispatch (s : Session) (line : String) : SameSetup s (s.dispatch line).2 := by
  cases hp : parse line with
  | ok c =>
    cases hf : s.drawing.fault? c.action with
    | none =>
      rw [s.dispatch_of_no_fault hp hf, Drawing.refresh_eq]
      exact ⟨rfl, rfl, rfl, rfl, rfl, rfl, rfl⟩
    | some fault =>
      rw [s.dispatch_of_fault hp hf, Drawing.refresh_eq]
      exact ⟨rfl, rfl, rfl, rfl, rfl, rfl, rfl⟩
  | error r =>
    cases r with
    | rejected r =>
      rw [s.dispatch_of_rejected hp, Drawing.refresh_eq]
      exact ⟨rfl, rfl, rfl, rfl, rfl, rfl, rfl⟩
    | overlong digits =>
      rw [s.dispatch_of_overlong hp, Drawing.refresh_eq]
      exact ⟨rfl, rfl, rfl, rfl, rfl, rfl, rfl⟩

theorem sameSetup_linesBy_dispatched (s : Session) (lines : List (Nat × String)) :
    SameSetup s (linesBy visitDispatched s lines).2 := by
  refine kept_linesBy (P := SameSetup s) (fun s' line hs => ?_) (fun s' errors hs => ?_)
    (SameSetup.refl s) lines
  · rw [visitDispatched_snd]
    exact hs.trans (s'.sameSetup_dispatch line)
  · exact hs.trans (s'.sameSetup_setErrors errors)

theorem sameSetup_dispatchProgram (s : Session) (text : String) :
    SameSetup s (s.dispatchProgram text).2 := by
  rw [dispatchProgram_eq_runBy, runBy_snd]
  exact (s.sameSetup_setErrors {}).trans (sameSetup_linesBy_dispatched _ _)

def Request.config? : Request → Option Config
  | .resize config => some config
  | _ => none

theorem Request.config?_resize (config : Config) :
    (Request.resize config).config? = some config := rfl

theorem sameSetup_respond (s : Session) {request : Request} (h : request.config? = none) :
    SameSetup s (s.respond request).2 := by
  cases request with
  | execute line => exact s.sameSetup_dispatch line
  | checkSyntax line => exact SameSetup.refl s
  | run text => exact s.sameSetup_dispatchProgram text
  | check text =>
    obtain ⟨errors, he⟩ := s.exists_check_snd_eq text
    rw [respond, he]
    exact s.sameSetup_setErrors errors
  | reset => exact ⟨rfl, rfl, rfl, rfl, rfl, rfl, rfl⟩
  | resize config => cases h
  | ask question => exact SameSetup.refl s

def takeUp (s : Session) (config : Config) (canvas : Canvas) : Session :=
  { s with
    config := config
    inForce := config
    canvas := canvas
    drawing := { s.drawing.replaceCanvas canvas with markerSize := config.markerSide? } }

theorem resize_of_taken (s : Session) {config : Config} (h : config.taken s.kit = true) :
    ∃ canvas,
      Canvas.create (s.canvas.serial + 1) config.width config.height config.background s.kit =
        .ok canvas ∧ s.resize config = (.ok (), s.takeUp config canvas) := by
  obtain ⟨canvas, hc, -⟩ := Canvas.create_of_taken h (s.canvas.serial + 1)
  refine ⟨canvas, hc, ?_⟩
  rw [resize, hc]
  rfl

theorem resize_of_not_taken (s : Session) {config : Config} (h : config.taken s.kit = false) :
    ∃ failure, s.resize config = (.error failure, { s with config := config }) := by
  obtain ⟨failure, hf⟩ := Canvas.create_of_not_taken h (s.canvas.serial + 1)
  refine ⟨failure, ?_⟩
  rw [resize, hf]

/-- With settings of the right kinds it is known which sizes and backgrounds fail. -/
theorem resize_ofValues (s : Session) (name : String) (width height : Int) (background : String)
    (markerSize : Int) :
    let next := Config.ofValues name width height background markerSize
    let fits : Prop := 0 < width ∧ 0 < height ∧ (s.kit.color? background).isSome = true ∧
      ∀ message, s.kit.raster width height ≠ .refused message
    (fits → (s.resize next).1 = .ok ()) ∧
      (¬fits → ∃ failure, s.resize next = (.error failure, { s with config := next })) := by
  intro next fits
  have hnext : next.taken s.kit = true ↔ fits :=
    Config.taken_ofValues_iff s.kit name width height background markerSize
  constructor
  · intro hfits
    obtain ⟨canvas, -, hr⟩ := s.resize_of_taken (hnext.2 hfits)
    rw [hr]
  · intro hfits
    rw [← hnext, Bool.not_eq_true] at hfits
    exact s.resize_of_not_taken hfits

theorem respond_cases (s : Session) (request : Request) :
    (request.config? = none ∧ SameSetup s (s.respond request).2) ∨
      (∃ config canvas, request = .resize config ∧ config.taken s.kit = true ∧
        Canvas.create (s.canvas.serial + 1) config.width config.height config.background s.kit =
          .ok canvas ∧
        s.respond request = (.resized (.ok ()), s.takeUp config canvas)) ∨
      ∃ config failure, request = .resize config ∧ config.taken s.kit = false ∧
        s.respond request = (.resized (.error failure), { s with config := config }) := by
  cases request with
  | resize config =>
    refine Or.inr ?_
    cases ht : config.taken s.kit with
    | true =>
      obtain ⟨canvas, hc, hr⟩ := s.resize_of_taken ht
      exact Or.inl ⟨config, canvas, rfl, ht, hc, by rw [respond, hr]⟩
    | false =>
      obtain ⟨failure, hr⟩ := s.resize_of_not_taken ht
      exact Or.inr ⟨config, failure, rfl, ht, by rw [respond, hr]⟩
  | execute | checkSyntax | run | check | reset | ask =>
    exact Or.inl ⟨rfl, s.sameSetup_respond rfl⟩

theorem kit_respond (s : Session) (request : Request) : (s.respond request).2.kit = s.kit := by
  rcases s.respond_cases request with ⟨-, hs⟩ | ⟨_, _, -, -, -, hr⟩ | ⟨_, _, -, -, hr⟩
  · exact hs.kit
  · rw [hr]
    rfl
  · rw [hr]

/-- The canvas drawn on is the one that is shown, and it was made for the configuration in force. -/
structure Coherent (s : Session) : Prop where
  canvas : s.drawing.canvas = s.canvas
  created : Canvas.create s.canvas.serial s.inForce.width s.inForce.height s.inForce.background s.kit =
    .ok s.canvas
  markerSize : s.drawing.markerSize = s.inForce.markerSide?

theorem Coherent.made {s : Session} (h : s.Coherent) : s.inForce.Made s.kit s.canvas :=
  (Canvas.made_of_create h.created).1

theorem Coherent.of_sameSetup {s s' : Session} (h : s.Coherent) (hs : SameSetup s s') :
    s'.Coherent := by
  refine ⟨?_, ?_, ?_⟩
  · rw [hs.under, hs.canvas]
    exact h.canvas
  · rw [hs.inForce, hs.canvas, hs.kit]
    exact h.created
  · rw [hs.markerSize, hs.inForce]
    exact h.markerSize

theorem coherent_takeUp {s : Session} {config : Config} {canvas : Canvas}
    (h : Canvas.create (s.canvas.serial + 1) config.width config.height config.background s.kit =
      .ok canvas) : (s.takeUp config canvas).Coherent := by
  have hserial := (Canvas.made_of_create h).2
  rw [← hserial] at h
  exact ⟨rfl, h, rfl⟩

theorem opened_eq_ok {config : Config} {watched : Bool} {kit : Toolkit} {s : Session}
    (h : opened config watched kit = .ok s) :
    ∃ canvas, Canvas.create 0 config.width config.height config.background kit = .ok canvas ∧
      s = { kit := kit, config := config, inForce := config, canvas := canvas
            drawing := Drawing.start canvas config.markerSide? watched } := by
  unfold opened at h
  cases hs : start config kit with
  | error e =>
    rw [hs] at h
    cases h
  | ok t =>
    obtain ⟨canvas, hc, rfl⟩ := exists_start_eq hs
    rw [hs] at h
    exact ⟨canvas, hc, (Except.ok.inj h).symm⟩

def lastConfig (config : Config) (requests : List Request) : Config :=
  (requests.filterMap Request.config?).getLastD config

/-- The last configuration asked for that a canvas was made for. -/
def lastTaken (kit : Toolkit) (config : Config) (requests : List Request) : Config :=
  ((requests.filterMap Request.config?).filter (·.taken kit)).getLastD config

theorem lastTaken_eq_lastConfig {kit : Toolkit} {config : Config} {requests : List Request}
    (h : (lastConfig config requests).taken kit = true) :
    lastTaken kit config requests = lastConfig config requests := by
  rw [lastConfig] at h
  rw [lastTaken, lastConfig]
  rcases List.eq_nil_or_concat' (requests.filterMap Request.config?) with hnil | ⟨init, last, hl⟩
  · rw [hnil]
    rfl
  · rw [hl, List.getLastD_concat] at h
    rw [hl, List.getLastD_concat, List.filter_append, List.filter_cons_of_pos h]
    exact List.getLastD_concat

theorem snd_converse (s : Session) (requests : List Request) :
    (s.converse requests).2 = s.handleAll requests := by
  induction requests generalizing s with
  | nil => rfl
  | cons request requests ih => exact ih (s.respond request).2

theorem kit_handleAll (s : Session) (requests : List Request) :
    (s.handleAll requests).kit = s.kit := by
  induction requests generalizing s with
  | nil => rfl
  | cons request requests ih => exact (ih (s.handle request)).trans (s.kit_respond request)

/-- What a session has been asked for, one request after another, is what it has at the end. -/
theorem Coherent.handleAll {s : Session} (h : s.Coherent) (requests : List Request) :
    (s.handleAll requests).Coherent ∧
      (s.handleAll requests).config = lastConfig s.config requests ∧
      (s.handleAll requests).inForce = lastTaken s.kit s.inForce requests := by
  induction requests generalizing s with
  | nil => exact ⟨h, rfl, rfl⟩
  | cons request requests ih =>
    have hkit := s.kit_respond request
    rw [Session.handleAll, List.foldl_cons, handle, ← Session.handleAll]
    rcases s.respond_cases request with
      ⟨hc, hs⟩ | ⟨config, canvas, rfl, ht, hc, hr⟩ | ⟨config, failure, rfl, ht, hr⟩
    · simp only [lastConfig, lastTaken, List.filterMap_cons_none hc, ← hs.config, ← hs.inForce,
        ← hkit]
      exact ih (h.of_sameSetup hs)
    · simp only [lastConfig, lastTaken, List.filterMap_cons_some (Request.config?_resize config),
        List.filter_cons_of_pos ht, List.getLastD_cons, hr]
      exact ih (coherent_takeUp hc)
    · have hnext : Coherent { s with config := config } := ⟨h.canvas, h.created, h.markerSize⟩
      have ht' : ¬config.taken s.kit = true := by rw [ht]; decide
      simp only [lastConfig, lastTaken, List.filterMap_cons_some (Request.config?_resize config),
        List.filter_cons_of_neg ht', List.getLastD_cons, hr]
      exact ih hnext

theorem coherent_opened {config : Config} {watched : Bool} {kit : Toolkit} {s : Session}
    (h : opened config watched kit = .ok s) :
    s.Coherent ∧ s.kit = kit ∧ s.config = config ∧ s.inForce = config := by
  obtain ⟨canvas, hc, rfl⟩ := opened_eq_ok h
  have hserial := (Canvas.made_of_create hc).2
  rw [← hserial] at hc
  exact ⟨⟨rfl, hc, rfl⟩, rfl, rfl, rfl⟩

/-- Whatever is asked of a session, and whatever canvases are made with, the canvas it shows is the one
drawn on, and it was made for the last configuration asked for that one could be made for. The
configuration the session says it has is the last one asked for, so this one describes the canvas only
if there is an image of its size. A configuration of no positive size, with a background that is no
color, or with an image that is refused, fails, and then it has been taken up and nothing else has
changed. -/
theorem canvas_is_for_last_usable {config : Config} {watched : Bool} {kit : Toolkit} {s₀ : Session}
    (hs : opened config watched kit = .ok s₀) (requests : List Request) :
    let s := (s₀.converse requests).2
    s.drawing.canvas = s.canvas ∧ (lastTaken kit config requests).Made kit s.canvas ∧
      s.drawing.markerSize = (lastTaken kit config requests).markerSide? ∧
      s.config = lastConfig config requests ∧
      (s.config.Describes kit s.canvas ∧ s.drawing.markerSize = s.config.markerSide? ↔
        s.config.usable kit = true) ∧
      ∀ (name : String) (width height : Int) (background : String) (markerSize : Int),
        let next := Config.ofValues name width height background markerSize
        let fits : Prop := 0 < width ∧ 0 < height ∧ (kit.color? background).isSome = true ∧
          ∀ message, kit.raster width height ≠ .refused message
        (fits → (s.resize next).1 = .ok ()) ∧
          (¬fits → ∃ failure, s.resize next = (.error failure, { s with config := next })) := by
  intro s
  obtain ⟨h₀, hkit, hconfig, hinForce⟩ := coherent_opened hs
  obtain ⟨h, hlast, htaken⟩ := h₀.handleAll requests
  have hkit' := s₀.kit_handleAll requests
  rw [← snd_converse, hkit] at hkit'
  rw [← snd_converse] at h hlast htaken
  rw [hconfig] at hlast
  rw [hkit, hinForce] at htaken
  have hmade : (lastTaken kit config requests).Made kit s.canvas := by
    rw [← htaken, ← hkit']
    exact h.made
  have hmarker : s.drawing.markerSize = (lastTaken kit config requests).markerSide? := by
    rw [← htaken]
    exact h.markerSize
  refine ⟨h.canvas, hmade, hmarker, hlast, ⟨fun hd => hmade.usable_of_describes hd.1, fun hu => ?_⟩,
    ?_⟩
  · have hsame : lastTaken kit config requests = s.config := by
      rw [hlast] at hu
      rw [hlast]
      exact lastTaken_eq_lastConfig (Config.taken_of_usable hu)
    rw [hsame] at hmade hmarker
    exact ⟨hmade.whole hu, hmarker⟩
  · intro name width height background markerSize
    rw [← hkit']
    exact s.resize_ofValues name width height background markerSize

/-- Between two sizes that fail one succeeds. The canvas is of that one and the configuration is the
last one, and a color that is none is refused next. -/
theorem canvas_of_ninety_by_seventy :
    let empty := Config.ofValues "Empty" 0 5 defaultBackground 2
    let black := Config.ofValues "Black" 90 70 "#000" 3
    let below := Config.ofValues "Below" 60 (-1) defaultBackground 2
    let unnamed := Config.ofValues "Unnamed" 60 40 "no color" 2
    ∃ s₀, opened Preset.square.config true = .ok s₀ ∧
      let s := (s₀.converse [.resize empty, .run "circle 5", .resize black, .resize below]).2
      black.Describes .plain s.canvas ∧ s.drawing.markerSize = some 3 ∧ s.config = below ∧
        ∃ failure, s.resize unnamed = (.error failure, { s with config := unnamed }) := by
  intro empty black below unnamed
  obtain ⟨s₀, hs⟩ : ∃ s₀, opened Preset.square.config true = .ok s₀ := ⟨_, rfl⟩
  obtain ⟨-, hmade, hmarker, hlast, -, hnext⟩ :=
    canvas_is_for_last_usable hs [.resize empty, .run "circle 5", .resize black, .resize below]
  have hblack : lastTaken .plain Preset.square.config
      [.resize empty, .run "circle 5", .resize black, .resize below] = black := by
    have hempty : ¬empty.taken .plain = true := by decide +kernel
    have ht : black.taken .plain = true := by decide +kernel
    have hbelow : ¬below.taken .plain = true := by decide +kernel
    have hasked : [.resize empty, .run "circle 5", .resize black, .resize below].filterMap
        Request.config? = [empty, black, below] := rfl
    rw [lastTaken, hasked, List.filter_cons_of_neg hempty, List.filter_cons_of_pos ht,
      List.filter_cons_of_neg hbelow]
    rfl
  rw [hblack] at hmade hmarker
  have hcolor : ¬(Toolkit.plain.color? "no color").isSome = true := by decide +kernel
  obtain ⟨-, hfails⟩ := hnext "Unnamed" 60 40 "no color" 2
  exact ⟨s₀, hs, hmade.whole (by decide +kernel), hmarker, hlast,
    hfails fun h => hcolor h.2.2.1⟩

/-- A size of no width fails, and then the configuration has a width that the canvas does not have. -/
theorem canvas_without_width :
    let empty := Config.ofValues "Empty" 0 5 defaultBackground 2
    ∃ s, start Preset.default.config = .ok s ∧
      (s.resize empty).1 = .error (.canvasSize (.int 0) (.int 5)) ∧
      s.config.width.whole? = some 1060 ∧ (s.resize empty).2.config.width.whole? = some 0 ∧
      ¬(s.resize empty).2.config.Describes .plain (s.resize empty).2.canvas := by
  intro empty
  obtain ⟨s, hs⟩ : ∃ s, start Preset.default.config = .ok s := ⟨_, rfl⟩
  obtain ⟨canvas, -, rfl⟩ := exists_start_eq hs
  have hsize : Canvas.create (canvas.serial + 1) empty.width empty.height empty.background =
      .error (.canvasSize (.int 0) (.int 5)) := rfl
  refine ⟨_, hs, ?_⟩
  rw [resize, hsize]
  refine ⟨rfl, rfl, rfl, fun hd => ?_⟩
  have hwidth : (0 : Int) = canvas.width := Option.some.inj hd.width
  exact absurd hd.wide (by rw [← hwidth]; decide)

end Session

end Drawboard
