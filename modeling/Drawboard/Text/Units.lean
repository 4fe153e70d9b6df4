/-!
Text as a sequence of 16-bit units. A character beyond U+FFFF takes two units, a high and a low
surrogate; a sequence in which each surrogate has its partner is the units of exactly one text.
-/

namespace Drawboard

abbrev Units := List UInt16

namespace Units

def ofChar (c : Char) : Units :=
  let n := c.toNat
  if n < 0x10000 then [n.toUInt16]
  else [(0xd800 + (n - 0x10000) / 0x400).toUInt16, (0xdc00 + (n - 0x10000) % 0x400).toUInt16]

def ofChars (cs : List Char) : Units := cs.flatMap ofChar

def ofString (s : String) : Units := ofChars s.toList

def isHigh (u : UInt16) : Bool := 0xd800 ≤ u.toNat && u.toNat < 0xdc00

def isLow (u : UInt16) : Bool := 0xdc00 ≤ u.toNat && u.toNat < 0xe000

/-- Refuses a surrogate without its partner. -/
def toChars? : Units → Option (List Char)
  | [] => some []
  | u :: v :: rest =>
    if isHigh u then
      if isLow v then
        (toChars? rest).map
          (Char.ofNat (0x10000 + (u.toNat - 0xd800) * 0x400 + (v.toNat - 0xdc00)) :: ·)
      else none
    else if isLow u then none
    else (toChars? (v :: rest)).map (Char.ofNat u.toNat :: ·)
  | [u] => if isHigh u || isLow u then none else some [Char.ofNat u.toNat]

def toString? (us : Units) : Option String := (toChars? us).map String.ofList

end Units

end Drawboard
