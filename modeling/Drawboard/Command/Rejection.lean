import Drawboard.Command.Token
import Drawboard.Command.Verb

/-!
Why a line is not a command. Every rejection names a verb and a place in the line, and its message
says what the right form would have been.
-/

namespace Drawboard

inductive RejectionKind where
  | unknownCommand
  | invalidArguments
  deriving DecidableEq

def RejectionKind.name : RejectionKind → String
  | unknownCommand => "unknown_command"
  | invalidArguments => "invalid_arguments"

inductive Rejection where
  | unknownVerb (word : Token)
  | wrongArity (verb : Verb) (given : Nat) (span : Span)
  | badArgument (verb : Verb) (slot : Slot) (word : Token)
  deriving DecidableEq

namespace Rejection

def kind : Rejection → RejectionKind
  | unknownVerb _ => .unknownCommand
  | wrongArity .. | badArgument .. => .invalidArguments

def verb : Rejection → String
  | unknownVerb word => lowered word.text
  | wrongArity verb .. | badArgument verb .. => verb.name

def span : Rejection → Span
  | unknownVerb word => word.span
  | wrongArity _ _ span => span
  | badArgument _ _ word => word.span

def expected (verb : Verb) : String :=
  let names := String.intercalate ", " (verb.slots.map (·.name))
  match verb.arity with
  | 0 => "no parameters"
  | 1 => s!"1 parameter ({names})"
  | n => s!"{n} parameters ({names})"

def problem (slot : Slot) (word : String) : String :=
  match slot.kind with
  | .integer => s!"'{word}' is not a valid integer for {slot.name}"
  | .color =>
    let names := String.intercalate ", " (PenColor.choices.map (·.name))
    s!"'{word}' is not a supported color (choose from {names})"
  | .switch => s!"'{word}' is not a valid {slot.name}, use 'on' or 'off'"

def invalidSyntax (verb : Verb) (what : String) : String :=
  s!"Invalid syntax for {verb.name}: {what}. Correct syntax: '{verb.usage}'."

def message : Rejection → String
  | unknownVerb word => s!"Unknown command: '{lowered word.text}'."
  | wrongArity verb given _ => invalidSyntax verb s!"expected {expected verb}, got {given}"
  | badArgument verb slot word => invalidSyntax verb (problem slot word.text)

end Rejection

end Drawboard
