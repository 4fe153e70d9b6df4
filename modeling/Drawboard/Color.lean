import Drawboard.Text.Numeral

/-!
Colors as painted, and the four colors of a pen.
-/

namespace Drawboard

structure Rgb where
  red : UInt8
  green : UInt8
  blue : UInt8
  deriving DecidableEq

namespace Rgb

def channel? (high low : Char) : Option UInt8 := do
  let high ← Text.hexValue? high
  let low ← Text.hexValue? low
  pure (high * 16 + low).toUInt8

/-- Reads `#rrggbb`, or `#rgb` with each digit standing for two. -/
def ofHex? (name : String) : Option Rgb :=
  match name.toList with
  | ['#', r, g, b] => do pure ⟨← channel? r r, ← channel? g g, ← channel? b b⟩
  | ['#', r, r', g, g', b, b'] => do pure ⟨← channel? r r', ← channel? g g', ← channel? b b'⟩
  | _ => none

def channelText (n : UInt8) : String :=
  String.ofList [(n.toNat / 16).digitChar, (n.toNat % 16).digitChar]

def hex (c : Rgb) : String := "#" ++ channelText c.red ++ channelText c.green ++ channelText c.blue

end Rgb

inductive PenColor where
  | black
  | red
  | green
  | blue
  deriving DecidableEq

namespace PenColor

def name : PenColor → String
  | black => "black"
  | red => "red"
  | green => "green"
  | blue => "blue"

def rgb : PenColor → Rgb
  | black => ⟨0, 0, 0⟩
  | red => ⟨255, 0, 0⟩
  | green => ⟨0, 128, 0⟩
  | blue => ⟨0, 0, 255⟩

/-- The colors a command may choose. Black is for a pen that has not been given one. -/
def choices : List PenColor := [red, green, blue]

end PenColor

end Drawboard
