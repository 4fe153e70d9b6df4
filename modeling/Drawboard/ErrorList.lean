import Drawboard.Command.Rejection

/-!
The errors found in a program, each at a line and a place in it. They are kept in the order found
and listed by line and place; errors at the same place stay in the order found.
-/

namespace Drawboard

inductive Severity where
  | warning
  | error
  deriving DecidableEq

def Severity.name : Severity → String
  | warning => "warning"
  | error => "error"

structure ErrorRecord where
  line : Int
  span : Span
  message : String
  kind : RejectionKind
  severity : Severity := .error
  deriving DecidableEq

namespace ErrorRecord

def text (r : ErrorRecord) : String := s!"Line {r.line}: {r.message}"

/-- Whether the place of one record is not after that of another. -/
def notAfter (a b : ErrorRecord) : Bool :=
  a.line < b.line || (a.line == b.line && a.span.start ≤ b.span.start)

end ErrorRecord

structure ErrorList where
  records : List ErrorRecord := []
  deriving DecidableEq

namespace ErrorList

def add (es : ErrorList) (r : ErrorRecord) : ErrorList := ⟨es.records ++ [r]⟩

def reject (es : ErrorList) (line : Int) (r : Rejection) : ErrorList :=
  es.add { line := line, span := r.span, message := r.message, kind := r.kind }

def forLine (es : ErrorList) (line : Int) : List ErrorRecord := es.records.filter (·.line == line)

def sorted (es : ErrorList) : List ErrorRecord := es.records.mergeSort ErrorRecord.notAfter

def first? (es : ErrorList) : Option ErrorRecord := es.sorted.head?

/-- Warnings do not count. -/
def hasErrors (es : ErrorList) : Bool := es.records.any (·.severity == .error)

inductive Step where
  | add (record : ErrorRecord)
  | clear

def step (es : ErrorList) : Step → ErrorList
  | .add record => es.add record
  | .clear => {}

def after (es : ErrorList) (steps : List Step) : ErrorList := steps.foldl step es

def Step.record? : Step → Option ErrorRecord
  | .add record => some record
  | .clear => none

/-- The steps behind the last one that clears the list. -/
def sinceCleared (steps : List Step) : List Step :=
  (steps.reverse.takeWhile (·.record?.isSome)).reverse

end ErrorList

end Drawboard
