import Drawboard.Color
import Drawboard.Text.Lower
import Drawboard.Text.Numeral

/-!
The verbs of the command language. Each has a fixed row of argument slots, and each slot takes
words of one kind; letter case does not matter in verbs, colors and switches.
-/

namespace Drawboard

inductive SlotKind where
  | integer
  | color
  | switch
  deriving DecidableEq

namespace SlotKind

def name : SlotKind → String
  | integer => "integer"
  | color => "color"
  | switch => "switch"

@[reducible] def Value : SlotKind → Type
  | integer => Int
  | color => PenColor
  | switch => Bool

end SlotKind

def switchName (on : Bool) : String := if on then "on" else "off"

def readColor (word : String) : Reading PenColor :=
  match PenColor.choices.find? (·.name == lowered word) with
  | some color => .value color
  | none => .unfit

def readSwitch (word : String) : Reading Bool :=
  match [true, false].find? (switchName · == lowered word) with
  | some on => .value on
  | none => .unfit

def SlotKind.read : (kind : SlotKind) → String → Reading kind.Value
  | .integer => readInt
  | .color => readColor
  | .switch => readSwitch

structure Slot where
  name : String
  kind : SlotKind
  deriving DecidableEq

/-- How a slot is written in the form of a command: a number by its name, other slots by what they
take. -/
def Slot.placeholder (slot : Slot) : String :=
  match slot.kind with
  | .integer => slot.name
  | .color => String.intercalate "|" (PenColor.choices.map (·.name))
  | .switch => String.intercalate "|" ([true, false].map switchName)

@[reducible] def Values : List Slot → Type
  | [] => Unit
  | slot :: slots => slot.kind.Value × Values slots

inductive Verb where
  | moveTo
  | drawTo
  | rectangle
  | circle
  | triangle
  | pen
  | fill
  | clear
  | reset
  deriving DecidableEq

namespace Verb

def all : List Verb := [moveTo, drawTo, rectangle, circle, triangle, pen, fill, clear, reset]

def name : Verb → String
  | moveTo => "moveto"
  | drawTo => "drawto"
  | rectangle => "rectangle"
  | circle => "circle"
  | triangle => "triangle"
  | pen => "pen"
  | fill => "fill"
  | clear => "clear"
  | reset => "reset"

@[reducible] def slots : Verb → List Slot
  | moveTo | drawTo => [⟨"x", .integer⟩, ⟨"y", .integer⟩]
  | rectangle => [⟨"width", .integer⟩, ⟨"height", .integer⟩]
  | circle => [⟨"radius", .integer⟩]
  | triangle => [⟨"base", .integer⟩, ⟨"side1", .integer⟩, ⟨"side2", .integer⟩]
  | pen => [⟨"color", .color⟩]
  | fill => [⟨"mode", .switch⟩]
  | clear | reset => []

def arity (v : Verb) : Nat := v.slots.length

def summary : Verb → String
  | moveTo => "Move the pen to (x, y) and mark the position"
  | drawTo => "Draw a line from the pen position to (x, y)"
  | rectangle => "Draw a rectangle with its top-left corner at the pen"
  | circle => "Draw a circle centered at the pen"
  | triangle => "Draw a triangle standing on the pen position"
  | pen => "Change the pen color"
  | fill => "Turn filling of shapes on or off"
  | clear => "Clear the drawing area"
  | reset => "Move the pen back to the origin"

def usage (v : Verb) : String := String.intercalate " " (v.name :: v.slots.map Slot.placeholder)

def named? (word : String) : Option Verb := all.find? (·.name == lowered word)

end Verb

/-- One line for each verb: its form, filled up to a common width, and what it does. -/
def manual : String :=
  let width := (Verb.all.map (·.usage.length)).foldl max 0
  let line (v : Verb) :=
    v.usage ++ String.ofList (List.replicate (width - v.usage.length) ' ') ++ "  " ++ v.summary
  String.intercalate "\n" (Verb.all.map line)

end Drawboard
