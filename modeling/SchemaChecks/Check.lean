import SchemaChecks.Tree

/-!
Checks on the values of fields, and extractions: for every schema of a document the fields that have
checks, in order.
-/

namespace SchemaChecks

inductive BaseType where
  | string
  | integer
  | array
  | unsupported
  deriving DecidableEq, Repr

namespace BaseType

def name : BaseType → String
  | .string => "string"
  | .integer => "integer"
  | .array => "array"
  | .unsupported => "unsupported"

def ofScalar : Scalar → BaseType
  | .atom (.text "string") => .string
  | .atom (.text "integer") => .integer
  | .atom (.text "array") => .array
  | _ => .unsupported

end BaseType

/-- Inclusive bounds; either side may be open. -/
structure Bounds where
  least : Option Int
  most : Option Int
  deriving DecidableEq, Repr

def Bounds.isOpen (b : Bounds) : Bool := b.least.isNone && b.most.isNone

inductive Check where
  /-- Bounds on the number of characters. -/
  | length (b : Bounds)
  /-- A pattern that the whole text has to match. -/
  | pattern (regex : String)
  | range (b : Bounds)
  | minItems (n : Int)
  /-- A check of no known kind. -/
  | unknown
  deriving DecidableEq, Repr

namespace Check

def boundText : Option Int → String
  | none => "None"
  | some i => toString i

def shown : Check → String
  | .length b => s!"StringLengthRange(min={boundText b.least}, max={boundText b.most})"
  | .pattern regex => s!"StringPattern(regex={Text.quoted regex})"
  | .range b => s!"IntegerRange(min={boundText b.least}, max={boundText b.most})"
  | .minItems n => s!"ArrayMinItems(n={n})"
  | .unknown => "None"

def numbers : Check → List Int
  | .length b | .range b => b.least.toList ++ b.most.toList
  | .minItems n => [n]
  | .pattern _ | .unknown => []

def isPrintable (c : Check) : Bool := c.numbers.all Atom.intIsPrintable

end Check

structure FieldChecks where
  name : String
  type : BaseType
  nullable : Bool
  checks : List Check
  deriving DecidableEq, Repr

abbrev Extraction := List (String × List FieldChecks)

namespace Extraction

/-- Puts a schema's fields under its name: a new name goes to the end, a known one keeps its
place. -/
def insert (name : String) (fields : List FieldChecks) : Extraction → Extraction
  | [] => [(name, fields)]
  | (n, fs) :: rest =>
    if n = name then (n, fields) :: rest else (n, fs) :: insert name fields rest

def ofList (schemas : List (String × List FieldChecks)) : Extraction :=
  schemas.foldl (fun acc s => insert s.1 s.2 acc) []

def names (e : Extraction) : List String := e.map Prod.fst

def get? (e : Extraction) (name : String) : Option (List FieldChecks) := e.lookup name

end Extraction

end SchemaChecks
