/-!
Runs of characters that follow one another and whose names begin alike.
-/

namespace SchemaChecks.Text.CharacterName

/-- The first ending belongs to the character `first`; within a row a bar stands between two. -/
structure NameRun where
  first : Nat
  stem : String
  rows : List String

namespace NameRun

def endings (r : NameRun) : List String := r.rows.flatMap (·.splitOn "|")

def names (r : NameRun) : List String := r.endings.map (r.stem ++ ·)

def code? (r : NameRun) (name : String) : Option Nat :=
  (r.names.idxOf? name).map (r.first + ·)

end NameRun

end SchemaChecks.Text.CharacterName
