import Drawboard.Command.Basic
import Drawboard.Failure

/-!
Reading commands. The verb is looked up first, then the number of arguments is compared with the
verb's slots, and then the arguments are read from left to right; the first fault is reported.
-/

namespace Drawboard

/-- Why a line yields no command. An overlong numeral is not judged as an argument at all. -/
inductive Refusal where
  | rejected (r : Rejection)
  | overlong (digits : Nat)
  deriving DecidableEq

def readArgument (verb : Verb) (slot : Slot) (word : Token) : Except Refusal slot.kind.Value :=
  match slot.kind.read word.text with
  | .value v => .ok v
  | .unfit => .error (.rejected (.badArgument verb slot word))
  | .overlong digits => .error (.overlong digits)

def readArguments (verb : Verb) : (slots : List Slot) → (words : List Token) →
    words.length = slots.length → Except Refusal (Values slots)
  | [], [], _ => .ok ()
  | slot :: slots, word :: words, h => do
    let value ← readArgument verb slot word
    let values ← readArguments verb slots words (Nat.succ.inj h)
    pure (value, values)

/-- Looks up the lowered first word; looking up lowers what it is given once more. -/
def Phrase.parse (p : Phrase) : Except Refusal Command :=
  match Verb.named? (lowered p.head.text) with
  | none => .error (.rejected (.unknownVerb p.head))
  | some verb =>
    if h : p.arguments.length = verb.slots.length then do
      let values ← readArguments verb verb.slots p.arguments h
      pure ⟨verb.action values, p⟩
    else .error (.rejected (.wrongArity verb p.arguments.length ⟨p.head.span.start, p.stop⟩))

-- Irreducible: to evaluate it in passing is to search the tables of letters.
@[irreducible]
def parse (line : String) : Except Refusal Command := (Phrase.ofLine line).parse

/-- Whether a line is a command; a line with an overlong numeral gets no answer. -/
def accepts (line : String) : Except Failure Bool :=
  match parse line with
  | .ok _ => .ok true
  | .error (.rejected _) => .ok false
  | .error (.overlong digits) => .error (.overlong digits)

end Drawboard
