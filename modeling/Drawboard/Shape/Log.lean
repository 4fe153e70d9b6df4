import Drawboard.Shape.Basic

/-!
The log of the shapes on a canvas. Identifiers are given out in order and never twice, also when
the log has been cleared in between. An index lists, for each command with shapes, their
identifiers in order.
-/

namespace Drawboard

structure ShapeLog where
  shapes : List Shape := []
  index : List (Int × List Nat) := []
  nextId : Nat := 0
  deriving DecidableEq

structure ShapeCounts where
  total : Nat
  ofKind : ShapeKind → Nat
  filled : Nat
  commands : Nat

namespace ShapeLog

/-- Enters an identifier under its command, after those that are there already. -/
def enter (command : Int) (id : Nat) : List (Int × List Nat) → List (Int × List Nat)
  | [] => [(command, [id])]
  | (c, ids) :: rest =>
    if c = command then (c, ids ++ [id]) :: rest else (c, ids) :: enter command id rest

def shapeOf (log : ShapeLog) (command : Int) (sketch : Sketch) : Shape :=
  { sketch with id := log.nextId, command := command }

def add (log : ShapeLog) (command : Int) (sketch : Sketch) : ShapeLog :=
  { shapes := log.shapes ++ [log.shapeOf command sketch]
    index := enter command log.nextId log.index
    nextId := log.nextId + 1 }

/-- Forgets all shapes, but not which identifiers have been given out. -/
def clear (log : ShapeLog) : ShapeLog := { nextId := log.nextId }

def idsOf (log : ShapeLog) (command : Int) : List Nat := (log.index.lookup command).getD []

def forCommand (log : ShapeLog) (command : Int) : List Shape :=
  log.shapes.filter fun s => (log.idsOf command).contains s.id

def ofKind (log : ShapeLog) (kind : ShapeKind) : List Shape := log.shapes.filter (·.kind == kind)

def last? (log : ShapeLog) : Option Shape := log.shapes.getLast?

def extentOf? (e : Extent) : List Shape → Option Extent
  | [] => some e
  | s :: rest =>
    match s.extent? with
    | some f => extentOf? (e.join f) rest
    | none => none

def extent? (log : ShapeLog) : Option Extent :=
  match log.shapes with
  | [] => some (Extent.ofPoint Point.origin)
  | s :: rest =>
    match s.extent? with
    | some e => extentOf? e rest
    | none => none

def counts (log : ShapeLog) : ShapeCounts :=
  { total := log.shapes.length
    ofKind := fun kind => (log.ofKind kind).length
    filled := (log.shapes.filter (·.filled)).length
    commands := log.index.length }

inductive Step where
  | add (command : Int) (sketch : Sketch)
  | clear

def step (log : ShapeLog) : Step → ShapeLog
  | .add command sketch => log.add command sketch
  | .clear => log.clear

def after (log : ShapeLog) (steps : List Step) : ShapeLog := steps.foldl step log

def entry? (log : ShapeLog) : Step → Option Shape
  | .add command sketch => some (log.shapeOf command sketch)
  | .clear => none

/-- All shapes that are entered on the way, forgotten at the end or not. -/
def entered (log : ShapeLog) : List Step → List Shape
  | [] => []
  | s :: steps => (log.entry? s).toList ++ entered (log.step s) steps

end ShapeLog

end Drawboard
