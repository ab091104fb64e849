/-!
Places in a text: offsets count characters from 0, lines and columns count from 1.
-/

namespace SchemaChecks.Text

structure Position where
  line : Nat
  column : Nat
  deriving DecidableEq, Repr

/-- The line and column of an offset; a line ends after its line feed. -/
def positionAt (cs : List Char) (offset : Nat) : Position :=
  let before := cs.take offset
  { line := before.count '\n' + 1
    column := (before.reverse.takeWhile (· ≠ '\n')).length + 1 }

end SchemaChecks.Text
