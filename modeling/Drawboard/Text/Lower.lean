import Drawboard.Text.Letters

/-!
Lower-casing of whole texts. Characters are lowered one by one, except the Greek capital sigma,
which has a form of its own at the end of a word.
-/

namespace Drawboard.Text

def isCased (c : Char) : Bool := casedRanges.any (·.holds c.toNat)

def isCaseIgnorable (c : Char) : Bool := caseIgnorableRanges.any (·.holds c.toNat)

def lowerChar (c : Char) : List Char :=
  if c.toNat = 0x130 then ['i', Char.ofNat 0x307]
  else match lowerRuns.find? (·.covers c.toNat) with
    | some run => [Char.ofNat (c.toNat + run.shift).toNat]
    | none => [c]

/-- Whether the nearest character that counts for the case of a word is a cased one. -/
def meetsCased (cs : List Char) : Bool :=
  match cs.dropWhile isCaseIgnorable with
  | c :: _ => isCased c
  | [] => false

/-- A capital sigma ends a word when a cased letter comes before it and none after it. -/
def lowerSigma (before after : List Char) : Char :=
  if meetsCased before && !meetsCased after then Char.ofNat 0x3c2 else Char.ofNat 0x3c3

/-- Lowers a text of which `before` has been read already, its last character first. -/
def lowerAfter (before : List Char) : List Char → List Char
  | [] => []
  | c :: rest =>
    (if c.toNat = 0x3a3 then [lowerSigma before rest] else lowerChar c) ++
      lowerAfter (c :: before) rest

def lower (cs : List Char) : List Char := lowerAfter [] cs

end Drawboard.Text

namespace Drawboard

def lowered (s : String) : String := String.ofList (Text.lower s.toList)

end Drawboard
