/-!
Blank characters of Unicode and texts without them at their ends.
-/

namespace SchemaChecks.Text

/-- White space of every script, with the four information separators of ASCII. -/
def isBlank (c : Char) : Bool :=
  let n := c.toNat
  (0x09 ≤ n && n ≤ 0x0d) || (0x1c ≤ n && n ≤ 0x20) || n = 0x85 || n = 0xa0 || n = 0x1680 ||
    (0x2000 ≤ n && n ≤ 0x200a) || n = 0x2028 || n = 0x2029 || n = 0x202f || n = 0x205f ||
    n = 0x3000

def isAsciiBlank (c : Char) : Bool :=
  let n := c.toNat
  (0x09 ≤ n && n ≤ 0x0d) || n = 0x20

def dropBlank (cs : List Char) : List Char := cs.dropWhile isBlank

def strip (cs : List Char) : List Char := (dropBlank (dropBlank cs).reverse).reverse

def stripped (s : String) : String := String.ofList (strip s.toList)

def isBlankText (s : String) : Bool := s.toList.all isBlank

end SchemaChecks.Text
