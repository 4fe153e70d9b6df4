import Drawboard.Command.Verb

/-!
Coloring of a program line in the editor. Each word gets the style of what it is: the first word
as a verb, the others as arguments, whether or not they fit the verb.
-/

namespace Drawboard

inductive Style where
  | motion
  | shape
  | setting
  | number
  | color (c : PenColor)
  | switch
  | unknown
  deriving DecidableEq

namespace Style

/-- Pen colors are shown in lighter shades, which stand out on a dark background. -/
def shade : PenColor → String
  | .black => "#f8f8f2"
  | .red => "#ff6b6b"
  | .green => "#69db7c"
  | .blue => "#4dabf7"

def foreground : Style → String
  | motion => "#51cf66"
  | shape => "#ffd43b"
  | setting => "#74c0fc"
  | number => "#ff8cc8"
  | color c => shade c
  | switch => "#20c997"
  | unknown => "#ff6b6b"

def isBold (s : Style) : Bool := s = motion || s = shape

def isWavy (s : Style) : Bool := s = unknown

def ofVerb : Verb → Style
  | .moveTo | .drawTo => motion
  | .rectangle | .circle | .triangle => shape
  | .pen | .fill | .clear | .reset => setting

def ofFirstWord (word : String) : Style :=
  match Verb.named? word with
  | some verb => ofVerb verb
  | none => unknown

def ofArgument (word : String) : Style :=
  if (Numeral.of? word).isSome then number
  else
    match readColor word with
    | .value c => color c
    | _ =>
      match readSwitch word with
      | .value _ => switch
      | _ => unknown

end Style

structure Highlight where
  start : Nat
  length : Nat
  style : Style
  deriving DecidableEq

namespace Highlight

/-- The styles of words that stand a space apart from `start` on; an empty word has none. -/
def ofWords (start : Nat) (isFirst : Bool) : List (List Char) → List Highlight
  | [] => []
  | word :: words =>
    if word.isEmpty then ofWords (start + 1) isFirst words
    else
      let text := String.ofList word
      ⟨start, word.length, if isFirst then Style.ofFirstWord text else Style.ofArgument text⟩ ::
        ofWords (start + word.length + 1) false words

def ofLine (line : String) : List Highlight := ofWords 0 true (line.toList.splitOn ' ')

end Highlight

end Drawboard
