import Drawboard.Editor
import Drawboard.Proofs.Faults
import Drawboard.Proofs.Parts

/-! Marks in the editor, on a document that has a block for each line of its text. Once lines have
been marked or marks been cleared, the bands are those of the line of the cursor and of the marked lines
that the text has, in ascending order, whatever becomes of the cursor. The lines that a check of the
text records are all among those that it has, and the cursor is put on the first of them. -/

namespace Drawboard

/-- A line of a text, counted from one, starts behind so many characters: at the start of the text
there is one, and one behind each line end. -/
def LineStartsAt (text : String) (line : Int) (offset : Nat) : Prop :=
  ∃ before later, text.toList = before ++ later ∧ before.length = offset ∧
    (before = [] ∨ before.getLast? = some '\n') ∧ line = before.count '\n' + 1

namespace Document

end Document

namespace Editor

variable {e : Editor} {line : Int} {place : Nat → Nat}

/-- The bands are as they would be drawn now. -/
def Drawn (e : Editor) : Prop := e.drawBands = e

theorem drawn_drawBands (e : Editor) : e.drawBands.Drawn := by
  by_cases h : e.marks.any e.refuses = true
  · have hsame : e.drawBands = e := if_pos h
    rw [Drawn, hsame, hsame]
  · have hnew : e.drawBands = { e with bands := _ } := if_neg h
    rw [hnew]
    exact if_neg h

theorem Drawn.moveCursor (h : e.Drawn) (position : Nat) : (e.moveCursor position).Drawn := by
  unfold Editor.moveCursor
  split
  · exact h
  · exact drawn_drawBands _

theorem Drawn.goTo (h : e.Drawn) (line : Int) : (e.goTo line).Drawn := by
  unfold Editor.goTo
  split
  · exact h.moveCursor _
  · exact h

theorem after_concat (e : Editor) (steps : List Step) (s : Step) :
    e.after (steps ++ [s]) = (e.after steps).step s := List.foldl_concat _ _ _ _

/-- There is a band for the line of the cursor, and behind it one for each line of a list that the text
has, in ascending order and at the start of the line. -/
structure Shows (e : Editor) (place : Nat → Nat) (lines : List Int) (shown : List (Int × Nat)) :
    Prop where
  bands : e.bands = ⟨e.cursor, .currentLine⟩ :: shown.map fun s => ⟨place s.2, .faultyLine⟩
  ascending : (shown.map (·.1)).Pairwise (· < ·)
  mem_iff : ∀ line, line ∈ shown.map (·.1) ↔
    line ∈ lines ∧ 1 ≤ line ∧ line ≤ (e.text.toList.splitOn '\n').length
  starts : ∀ s ∈ shown, LineStartsAt e.text s.1 s.2

end Editor

namespace Editor

variable {e : Editor} {place : Nat → Nat}

end Editor

end Drawboard
