import Drawboard.Command.Rejection
import Drawboard.Geometry

/-!
Commands: what a line says once its verb and its arguments have been read.
-/

namespace Drawboard

/-- What a command does, with the values it does it with. -/
inductive Action where
  | moveTo (target : Point)
  | drawTo (target : Point)
  | rectangle (width height : Int)
  | circle (radius : Int)
  | triangle (base side1 side2 : Int)
  | pen (color : PenColor)
  | fill (on : Bool)
  | clear
  | reset
  deriving DecidableEq

inductive Value where
  | integer (n : Int)
  | color (c : PenColor)
  | switch (on : Bool)
  deriving DecidableEq

namespace Action

def verb : Action → Verb
  | moveTo _ => .moveTo
  | drawTo _ => .drawTo
  | rectangle .. => .rectangle
  | circle _ => .circle
  | triangle .. => .triangle
  | pen _ => .pen
  | fill _ => .fill
  | clear => .clear
  | reset => .reset

def values : Action → List Value
  | moveTo p | drawTo p => [.integer p.x, .integer p.y]
  | rectangle w h => [.integer w, .integer h]
  | circle r => [.integer r]
  | triangle b s t => [.integer b, .integer s, .integer t]
  | pen c => [.color c]
  | fill on => [.switch on]
  | clear | reset => []

end Action

def Verb.action : (verb : Verb) → Values verb.slots → Action
  | .moveTo, (x, y, ()) => .moveTo ⟨x, y⟩
  | .drawTo, (x, y, ()) => .drawTo ⟨x, y⟩
  | .rectangle, (w, h, ()) => .rectangle w h
  | .circle, (r, ()) => .circle r
  | .triangle, (b, s, t, ()) => .triangle b s t
  | .pen, (c, ()) => .pen c
  | .fill, (on, ()) => .fill on
  | .clear, () => .clear
  | .reset, () => .reset

structure Command where
  action : Action
  phrase : Phrase
  deriving DecidableEq

namespace Command

def verb (c : Command) : Verb := c.action.verb

def arguments (c : Command) : List String := c.phrase.arguments.map (·.text)

/-- The command in one line, the verb in lower case and the arguments as they were given. -/
def text (c : Command) : String := String.intercalate " " (c.verb.name :: c.arguments)

end Command

end Drawboard
