import Drawboard.Proofs.Index
import Drawboard.Proofs.Interruptions
import Drawboard.Proofs.Lasting
import Drawboard.Proofs.Record

/-! What a session counts. A line that is executed enters the history and is the next command, and
whoever watches is told once of each line, executed, rejected or broken off. So since the last reset
each counter can be told from the others. The shapes held in the log are of different commands, in
their order. -/

namespace Drawboard

namespace ShapeLog

/-- The shapes held are of different commands, in their order, and none of a later one than `last`. -/
structure NumberedTo (log : ShapeLog) (last : Nat) : Prop where
  ascending : (log.shapes.map (·.command)).Pairwise (· < ·)
  inRange : ∀ shape ∈ log.shapes, 1 ≤ shape.command ∧ shape.command ≤ last
  consistent : ∃ first, log.Consistent first

variable {log : ShapeLog} {last : Nat}

theorem NumberedTo.mono (h : log.NumberedTo last) {later : Nat} (hle : last ≤ later) :
    log.NumberedTo later where
  ascending := h.ascending
  inRange shape hs := ⟨(h.inRange shape hs).1, (h.inRange shape hs).2.trans (Int.ofNat_le.2 hle)⟩
  consistent := h.consistent

theorem numberedTo_clear (log : ShapeLog) (last : Nat) : log.clear.NumberedTo last where
  ascending := .nil
  inRange _ hs := absurd hs List.not_mem_nil
  consistent := ⟨log.nextId, log.consistent_clear⟩

theorem NumberedTo.add (h : log.NumberedTo last) (sketch : Sketch) :
    (log.add (last + 1 : Nat) sketch).NumberedTo (last + 1) where
  ascending := by
    rw [ShapeLog.add, List.map_append, List.pairwise_append]
    refine ⟨h.ascending, List.pairwise_singleton _ _, ?_⟩
    intro earlier he next hn
    obtain ⟨shape, hs, rfl⟩ := List.mem_map.1 he
    obtain rfl := List.mem_singleton.1 hn
    exact Int.lt_of_le_of_lt (h.inRange shape hs).2 (Int.ofNat_lt.2 (Nat.lt_succ_self last))
  inRange shape hs := by
    rcases List.mem_append.1 hs with hs | hs
    · exact (h.mono (Nat.le_succ last)).inRange shape hs
    · obtain rfl := List.mem_singleton.1 hs
      exact ⟨Int.ofNat_le.2 (Nat.succ_pos last), le_rfl⟩
  consistent := by
    obtain ⟨first, hfirst⟩ := h.consistent
    exact ⟨first, hfirst.add _ sketch⟩

theorem NumberedTo.nodup (h : log.NumberedTo last) : (log.shapes.map (·.command)).Nodup :=
  h.ascending.imp fun hlt => hlt.ne

theorem NumberedTo.length_forCommand_le (h : log.NumberedTo last) (n : Int) :
    (log.forCommand n).length ≤ 1 := by
  obtain ⟨first, hfirst⟩ := h.consistent
  have hcount := List.nodup_iff_count_le_one.1 h.nodup n
  rw [List.count, List.countP_map, List.countP_eq_length_filter] at hcount
  rw [hfirst.forCommand_eq]
  exact hcount

theorem NumberedTo.total_eq_commands (h : log.NumberedTo last) :
    log.counts.total = log.counts.commands := by
  obtain ⟨first, hfirst⟩ := h.consistent
  rw [hfirst.counts_eq, List.toFinset_card_of_nodup h.nodup, List.length_map]

end ShapeLog

namespace Drawing

def Numbered (d : Drawing) : Prop := d.log.NumberedTo d.commands

theorem Numbered.perform {d : Drawing} (h : d.Numbered) (action : Action) :
    (d.perform action).Numbered := by
  by_cases hne : action = .clear
  · subst hne
    exact d.log.numberedTo_clear _
  · rw [Numbered, Drawing.perform, d.logAfter_of_ne_clear _ hne]
    cases action.sketch? d.pen d.markerSide with
    | none => exact ShapeLog.NumberedTo.mono h (Nat.le_succ d.commands)
    | some sketch => exact ShapeLog.NumberedTo.add h sketch

theorem lasting_numbered : Lasting Numbered where
  perform _ action h := h.perform action
  number d h := ShapeLog.NumberedTo.mono h (Nat.le_succ d.commands)
  refresh d h := by
    rw [refresh_eq]
    exact h
  reset d _ := d.log.numberedTo_clear 0
  resize d _ _ _ := d.log.numberedTo_clear d.commands

end Drawing

namespace Session

def brokenOff {α : Type} : Except Interruption α → Bool
  | .error (.refused (.overlong _)) => true
  | _ => false

/-- How many lines are broken off when they are executed for a request. There is at most one, since it
ends the program that it is in. -/
def aborted (s : Session) : Request → Nat
  | .execute line => (brokenOff (s.dispatch line).1).toNat
  | .run text => (brokenOff (s.dispatchProgram text).1).toNat
  | _ => 0

def abortedAll (s : Session) : List Request → Nat
  | [] => 0
  | request :: requests => s.aborted request + abortedAll (s.handle request) requests

def Request.isReset : Request → Bool
  | .reset => true
  | _ => false

/-- The counters of a session that is watched, since its watcher had been told `told` times and with
`aborted` lines broken off. -/
structure Tallied (told aborted : Nat) (s : Session) : Prop where
  bounded : s.drawing.Bounded
  watched : s.drawing.watched = true
  history : s.history.length = s.executed
  commands : s.drawing.commands = s.executed
  refreshes : s.drawing.refreshes = told + (s.executed + s.failed + aborted)

variable {told n : Nat} {s : Session}

theorem Tallied.dispatch (h : Tallied told n s) (line : String) :
    Tallied told (n + (brokenOff (s.dispatch line).1).toNat) (s.dispatch line).2 := by
  have hb : (s.execute line).2.drawing.Bounded :=
    s.drawing_execute line ▸ bounded_execute h.bounded line
  have hwatched := h.watched
  have htold := h.refreshes
  rw [dispatch_eq_execute h.bounded]
  cases hp : parse line with
  | ok c =>
    rw [s.execute_of_ok hp, Drawing.refresh_eq] at hb ⊢
    refine ⟨hb, hwatched, ?_, congrArg (· + 1) h.commands, ?_⟩
    · rw [List.length_append, h.history, List.length_singleton]
    · simp only [Drawing.perform, hwatched, if_true, Except.mapError, brokenOff, Bool.toNat_false]
      omega
  | error r =>
    cases r with
    | rejected r =>
      rw [s.execute_of_rejected hp, Drawing.refresh_eq] at hb ⊢
      refine ⟨hb, hwatched, h.history, h.commands, ?_⟩
      simp only [hwatched, if_true, Except.mapError, brokenOff, Bool.toNat_false]
      omega
    | overlong digits =>
      rw [s.execute_of_overlong hp, Drawing.refresh_eq] at hb ⊢
      refine ⟨hb, hwatched, h.history, h.commands, ?_⟩
      simp only [hwatched, if_true, Except.mapError, brokenOff, Bool.toNat_true]
      omega

theorem Tallied.setErrors (h : Tallied told n s) (errors : ErrorList) :
    Tallied told n { s with errors := errors } :=
  ⟨h.bounded, h.watched, h.history, h.commands, h.refreshes⟩

theorem Tallied.dispatchLines (h : Tallied told n s) (lines : List (Nat × String)) :
    Tallied told (n + (brokenOff (s.dispatchLines lines).1).toNat) (s.dispatchLines lines).2 := by
  induction lines generalizing s with
  | nil => exact h
  | cons l lines ih =>
    have hd := h.dispatch l.2
    rw [Session.dispatchLines]
    generalize s.dispatch l.2 = dispatched at hd ⊢
    obtain ⟨((r | digits) | fault) | outcome, s'⟩ := dispatched
    · exact ih (hd.setErrors _)
    · exact hd
    · exact hd
    · exact ih hd

theorem Tallied.dispatchProgram (h : Tallied told n s) (text : String) :
    Tallied told (n + (brokenOff (s.dispatchProgram text).1).toNat) (s.dispatchProgram text).2 := by
  have hl := (h.setErrors {}).dispatchLines (programLines text)
  unfold Session.dispatchProgram
  generalize Session.dispatchLines _ _ = dispatched at hl ⊢
  obtain ⟨ending, s'⟩ := dispatched
  cases ending with
  | ok => exact hl
  | error interruption =>
    obtain ((r | digits) | fault) := interruption <;> exact hl

/-- Only a reset has the counting start anew. -/
theorem Tallied.handle (h : Tallied told n s) {request : Request} (hreset : request.isReset = false)
    (hr : ∀ config ∈ request.config?, config.MarkerInRange) :
    Tallied told (n + s.aborted request) (s.handle request) := by
  cases request with
  | execute line => exact h.dispatch line
  | run text => exact h.dispatchProgram text
  | check text =>
    obtain ⟨errors, he⟩ := s.exists_check_snd_eq text
    rw [Session.handle, respond, he]
    exact h.setErrors errors
  | resize config =>
    have hb := bounded_handle h.bounded hr
    rw [Session.handle] at hb ⊢
    rcases s.respond_cases (.resize config) with
      ⟨hc, -⟩ | ⟨_, canvas, -, -, -, hs⟩ | ⟨_, failure, -, -, hs⟩
    · cases hc
    · rw [hs] at hb ⊢
      exact ⟨hb, h.watched, h.history, h.commands, h.refreshes⟩
    · rw [hs] at hb ⊢
      exact ⟨hb, h.watched, h.history, h.commands, h.refreshes⟩
  | reset => cases hreset
  | checkSyntax line | ask question => exact h

theorem Tallied.reset (h : Tallied told n s) : Tallied s.drawing.refreshes 0 s.reset :=
  ⟨Drawing.kept_bounded.reset _ h.bounded, h.watched, rfl, rfl, rfl⟩

theorem tallied_opened {config : Config} {kit : Toolkit} (hc : config.MarkerInRange)
    (hs : opened config true kit = .ok s) : Tallied s.drawing.refreshes 0 s := by
  obtain ⟨canvas, -, rfl⟩ := opened_eq_ok hs
  obtain ⟨side, hside, hlow, hhigh⟩ := hc
  refine ⟨?_, rfl, rfl, rfl, rfl⟩
  rw [hside]
  exact Drawing.bounded_start canvas ⟨side, hlow, hhigh⟩ true

def upToReset (requests : List Request) : List Request := requests.rdropWhile (!·.isReset)

def sinceReset (requests : List Request) : List Request := requests.rtakeWhile (!·.isReset)

theorem handleAll_concat (s : Session) (requests : List Request) (request : Request) :
    s.handleAll (requests ++ [request]) = (s.handleAll requests).handle request := by
  rw [Session.handleAll, List.foldl_append]
  rfl

theorem handleAll_sinceReset (s : Session) (requests : List Request) :
    (s.handleAll (upToReset requests)).handleAll (sinceReset requests) = s.handleAll requests := by
  have hparts : upToReset requests ++ sinceReset requests = requests :=
    List.rdropWhile_append_rtakeWhile
  conv_rhs => rw [← hparts]
  exact List.foldl_append.symm

theorem abortedAll_concat (s : Session) (requests : List Request) (request : Request) :
    s.abortedAll (requests ++ [request]) =
      s.abortedAll requests + (s.handleAll requests).aborted request := by
  induction requests generalizing s with
  | nil => exact Nat.add_comm _ _
  | cons r requests ih =>
    rw [List.cons_append, abortedAll, abortedAll, ih, Nat.add_assoc]
    rfl

/-- Request by request, the counters are those since the last reset. -/
theorem Tallied.handleAll (h : Tallied s.drawing.refreshes 0 s) {requests : List Request}
    (hr : ∀ request ∈ requests, ∀ config ∈ request.config?, config.MarkerInRange) :
    Tallied (s.handleAll (upToReset requests)).drawing.refreshes
      ((s.handleAll (upToReset requests)).abortedAll (sinceReset requests))
      (s.handleAll requests) := by
  induction requests using List.reverseRecOn with
  | nil => exact h
  | append_singleton requests request ih =>
    have hbefore := ih fun r hm => hr r (List.mem_append_left _ hm)
    have hlast := hr request (List.mem_append_right _ (List.mem_singleton_self request))
    rw [handleAll_concat]
    cases hreset : request.isReset with
    | true =>
      have hup : upToReset (requests ++ [request]) = requests ++ [request] :=
        List.rdropWhile_concat_neg _ _ _ (by rw [hreset]; decide)
      have hsince : sinceReset (requests ++ [request]) = [] :=
        List.rtakeWhile_concat_neg _ _ _ (by rw [hreset]; decide)
      rw [hup, hsince, handleAll_concat]
      cases request with
      | reset => exact hbefore.reset
      | _ => cases hreset
    | false =>
      have hup : upToReset (requests ++ [request]) = upToReset requests :=
        List.rdropWhile_concat_pos _ _ _ (by rw [hreset]; decide)
      have hsince : sinceReset (requests ++ [request]) = sinceReset requests ++ [request] :=
        List.rtakeWhile_concat_pos _ _ _ (by rw [hreset]; decide)
      rw [hup, hsince, abortedAll_concat, handleAll_sinceReset]
      exact hbefore.handle hreset hlast

/-- Whatever is asked of a watched session, with markers of a size they may have: as many lines are in
its history as have been executed, and as many commands have been numbered. Its watcher has been told
once of each line since the last reset, executed, failed or broken off. The shapes held are of
different commands in their order, so of each there is at most one, and there are as many shapes as
commands with shapes. -/
theorem counters_are_in_step {config : Config} {kit : Toolkit} (hc : config.MarkerInRange)
    {s₀ : Session} (hs : opened config true kit = .ok s₀) {requests : List Request}
    (hr : ∀ request ∈ requests, ∀ config ∈ request.config?, config.MarkerInRange) :
    let base := s₀.handleAll (upToReset requests)
    let s := s₀.handleAll requests
    let shapes := s.drawing.log.shapes
    s.executed = s.history.length ∧ s.executed = s.drawing.commands ∧
      s.drawing.refreshes = base.drawing.refreshes +
        (s.executed + s.failed + base.abortedAll (sinceReset requests)) ∧
      (shapes.map (·.command)).Pairwise (· < ·) ∧
      (∀ shape ∈ shapes, 1 ≤ shape.command ∧ shape.command ≤ s.drawing.commands) ∧
      (∀ n, (s.drawing.log.forCommand n).length ≤ 1) ∧
      s.drawing.log.counts.total = s.drawing.log.counts.commands := by
  intro base s shapes
  have htally := (tallied_opened hc hs).handleAll hr
  have hstart : s₀.drawing.Numbered := by
    obtain ⟨canvas, -, rfl⟩ := opened_eq_ok hs
    exact ShapeLog.numberedTo_clear {} 0
  have hnumbered : s.drawing.log.NumberedTo s.drawing.commands :=
    lasting_handleAll Drawing.lasting_numbered hstart requests
  exact ⟨htally.history.symm, htally.commands.symm, htally.refreshes, hnumbered.ascending,
    hnumbered.inRange, hnumbered.length_forCommand_le, hnumbered.total_eq_commands⟩

/-- Since the reset a program of four lines has been run, one of them no command, and another line was
broken off. -/
theorem five_lines_are_told :
    let config := Config.ofValues "Small" 60 40 defaultBackground 2
    let before : List Request := [.execute "circle 5", .reset]
    let program : Request := .run "moveto 1 2\nfrob\nclear\ncircle 3"
    let since : List Request := [program, .execute (circleOfNines 4301)]
    ∃ s₀ s, opened config true = .ok s₀ ∧ s₀.handleAll (before ++ since) = s ∧
      s.executed = s.history.length ∧ s.executed + s.failed = 4 ∧
      s.drawing.refreshes = (s₀.handleAll before).drawing.refreshes + 5 ∧
      (s.drawing.log.forCommand 3).length ≤ 1 := by
  intro config before program since
  obtain ⟨s₀, hs⟩ : ∃ s₀, opened config true = .ok s₀ := ⟨_, rfl⟩
  have hparse : parse (circleOfNines 4301) = .error (.overlong 4301) :=
    (parse_eq_overlong_iff _ _).2 (overlong_circleOfNines (by decide))
  have hdispatch (t : Session) : t.dispatch (circleOfNines 4301) =
      (.error (.refused (.overlong 4301)), { t with drawing := t.drawing.refresh }) :=
    t.dispatch_of_overlong hparse
  have hran : (s₀.handleAll (before ++ [program])).executed +
        (s₀.handleAll (before ++ [program])).failed = 4 ∧
      (s₀.handleAll before).aborted program = 0 := by
    cases hs
    decide +kernel
  have haborted : (s₀.handleAll before).abortedAll since = 1 := by
    rw [abortedAll, hran.2, abortedAll, aborted, hdispatch]
    rfl
  have hc : config.MarkerInRange := ⟨2, rfl, by decide, by decide⟩
  have hr : ∀ request ∈ before ++ since, ∀ config ∈ request.config?, config.MarkerInRange := by
    simp [before, since, program, Request.config?]
  have hup : upToReset (before ++ since) = before := rfl
  have hsince : sinceReset (before ++ since) = since := rfl
  have hlast : s₀.handleAll (before ++ since) =
      (s₀.handleAll (before ++ [program])).handle (.execute (circleOfNines 4301)) :=
    handleAll_concat s₀ (before ++ [program]) _
  obtain ⟨hhistory, -, htold, -, -, hone, -⟩ := counters_are_in_step hc hs hr
  obtain ⟨s, hall⟩ : ∃ s, s₀.handleAll (before ++ since) = s := ⟨_, rfl⟩
  rw [hup, hsince, haborted] at htold
  rw [hall] at hhistory htold hone
  have hlines : s.executed + s.failed = 4 := by
    rw [← hall, hlast, Session.handle, respond, hdispatch]
    exact hran.1
  rw [hlines] at htold
  exact ⟨s₀, s, hs, hall, hhistory, hlines, htold, hone 3⟩

end Session

end Drawboard
