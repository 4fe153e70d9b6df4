import Drawboard.Text.Blank

/-!
Command lines as words with their places. A line is trimmed and cut at every single space, so two
spaces in a row have an empty word between them. Places count characters from the start of the
line as given.
-/

namespace Drawboard

structure Span where
  start : Int
  stop : Int
  deriving DecidableEq

structure Token where
  text : String
  span : Span
  deriving DecidableEq

/-- The words of a line: there is always a first one, if only an empty one. -/
structure Phrase where
  head : Token
  arguments : List Token
  deriving DecidableEq

namespace Phrase

def tokens (p : Phrase) : List Token := p.head :: p.arguments

def stop (p : Phrase) : Int := (p.arguments.getLast?.getD p.head).span.stop

def tokenAt (start : Nat) (word : List Char) : Token :=
  ⟨String.ofList word, start, (start + word.length : Nat)⟩

/-- Places words one after another, each a space behind the one before. -/
def place (start : Nat) : List (List Char) → List Token
  | [] => []
  | word :: words => tokenAt start word :: place (start + word.length + 1) words

def ofWords (start : Nat) (words : List (List Char)) (h : words ≠ []) : Phrase :=
  ⟨tokenAt start (words.head h), place (start + (words.head h).length + 1) words.tail⟩

def ofLine (line : String) : Phrase :=
  ofWords (Text.indent line.toList) ((Text.trim line.toList).splitOn ' ') (List.splitOn_ne_nil _ _)

end Phrase

end Drawboard
