/-!
The program editor: a text with a cursor, and bands behind the line of the cursor and behind the
lines marked as faulty. Lines are counted from one; marks on lines that the text does not have
are kept but not shown. Bands are drawn anew when marks change and when the cursor moves. Where lines
start is left to a document, which may not take every number.
-/

namespace Drawboard

inductive BandKind where
  | currentLine
  | faultyLine
  deriving DecidableEq

def BandKind.color : BandKind → String
  | currentLine => "#44475a"
  | faultyLine => "#660000"

structure Band where
  position : Nat
  kind : BandKind
  deriving DecidableEq

/-- What a document says of a number: it has a block of that number, which starts somewhere, it has
none, or it cannot be asked for such a number. -/
inductive Lookup where
  | found (position : Nat)
  | missing
  | refused
  deriving DecidableEq

/-- How texts are laid out in blocks, which are counted from zero. -/
structure Document where
  find : String → Int → Lookup

namespace Document

/-- Where lines start that begin at `start` and are one line end apart. -/
def startsFrom (start : Nat) : List (List Char) → List Nat
  | [] => []
  | line :: lines => start :: startsFrom (start + line.length + 1) lines

def lineStarts (text : String) : List Nat := startsFrom 0 (text.toList.splitOn '\n')

/-- A block for each line, and positions count characters. -/
def plain : Document where
  find text number :=
    if 0 ≤ number then (lineStarts text)[number.toNat]?.elim .missing .found else .missing

end Document

structure Editor where
  text : String := ""
  document : Document := .plain
  cursor : Nat := 0
  marks : List Int := []
  bands : List Band := []

namespace Editor

def lookup (e : Editor) (line : Int) : Lookup := e.document.find e.text (line - 1)

def lineStart? (e : Editor) (line : Int) : Option Nat :=
  match e.lookup line with
  | .found position => if 0 < line then some position else none
  | .missing | .refused => none

def refuses (e : Editor) (line : Int) : Bool := e.lookup line = .refused

def cursorLine (e : Editor) : Nat := ((e.text.toList.take e.cursor).filter (· == '\n')).length

/-- Draws the bands anew, unless a mark is on a line that cannot be asked for. -/
def drawBands (e : Editor) : Editor :=
  if e.marks.any e.refuses then e
  else
    { e with
      bands := ⟨e.cursor, .currentLine⟩ ::
        (e.marks.filterMap e.lineStart?).map fun position => ⟨position, .faultyLine⟩ }

def moveCursor (e : Editor) (position : Nat) : Editor :=
  if position = e.cursor then e else { e with cursor := position }.drawBands

def goTo (e : Editor) (line : Int) : Editor :=
  match e.lineStart? line with
  | some position => e.moveCursor position
  | none => e

/-- Enters a number in an ascending list, unless it is there. -/
def enterMark (line : Int) : List Int → List Int
  | [] => [line]
  | m :: ms =>
    if line < m then line :: m :: ms else if line = m then m :: ms else m :: enterMark line ms

def marksOf (lines : List Int) : List Int := lines.foldr enterMark []

/-- Marks these lines instead of those marked before, and goes to the first of them. -/
def mark (e : Editor) (lines : List Int) : Editor :=
  let marked := { e with marks := marksOf lines }
  if marked.marks.any marked.refuses then marked
  else
    match marked.marks with
    | [] => marked.drawBands
    | first :: _ => marked.drawBands.goTo first

def clearMarks (e : Editor) : Editor := { e with marks := [] }.drawBands

def setText (e : Editor) (text : String) : Editor := { e with text := text }.moveCursor 0

inductive Step where
  | mark (lines : List Int)
  | clearMarks
  | goTo (line : Int)

def step (e : Editor) : Step → Editor
  | .mark lines => e.mark lines
  | .clearMarks => e.clearMarks
  | .goTo line => e.goTo line

def after (e : Editor) (steps : List Step) : Editor := steps.foldl step e

end Editor

end Drawboard
