/-!
Blank characters and trimming. A text is blank when nothing is left of it after trimming.
-/

namespace Drawboard.Text

/-- White space of every kind: the Unicode spaces and line ends, and the four separators
U+001C to U+001F. -/
def isBlank (c : Char) : Bool :=
  let n := c.toNat
  (0x09 ≤ n && n ≤ 0x0d) || (0x1c ≤ n && n ≤ 0x20) || n == 0x85 || n == 0xa0 || n == 0x1680 ||
    (0x2000 ≤ n && n ≤ 0x200a) || n == 0x2028 || n == 0x2029 || n == 0x202f || n == 0x205f ||
    n == 0x3000

def trimLeft (cs : List Char) : List Char := cs.dropWhile isBlank

def trimRight (cs : List Char) : List Char := (cs.reverse.dropWhile isBlank).reverse

def trim (cs : List Char) : List Char := trimRight (trimLeft cs)

def indent (cs : List Char) : Nat := (cs.takeWhile isBlank).length

end Drawboard.Text

namespace Drawboard

def trimmed (s : String) : String := String.ofList (Text.trim s.toList)

def isBlankText (s : String) : Bool := s.toList.all Text.isBlank

end Drawboard
