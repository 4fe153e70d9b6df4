import Drawboard.Proofs.Histories
import Drawboard.Proofs.Lasting

/-! The history of a session, run as a program, replays it. -/

namespace Drawboard

def penAfter (actions : List Action) : Pen := actions.foldl Action.applyTo {}

/-- The pen is where the actions have brought it, and they have been counted. -/
structure InStep (d : Drawing) (actions : List Action) : Prop where
  pen : d.pen = penAfter actions
  commands : d.commands = actions.length

theorem InStep.of_eq {d d' : Drawing} {actions : List Action} (h : InStep d actions)
    (hpen : d'.pen = d.pen) (hcommands : d'.commands = d.commands) : InStep d' actions :=
  ⟨hpen.trans h.pen, hcommands.trans h.commands⟩

theorem InStep.perform {d : Drawing} {actions : List Action} (h : InStep d actions)
    (action : Action) : InStep (d.perform action) (actions ++ [action]) := by
  constructor
  · simp only [Drawing.perform, h.pen, penAfter, List.foldl_append, List.foldl_cons,
      List.foldl_nil]
  · simp only [Drawing.perform, h.commands, List.length_append, List.length_singleton]

theorem InStep.refresh {d : Drawing} {actions : List Action} (h : InStep d actions) :
    InStep d.refresh actions := by
  rw [Drawing.refresh_eq]
  exact h.of_eq rfl rfl

namespace Session

end Session

end Drawboard
