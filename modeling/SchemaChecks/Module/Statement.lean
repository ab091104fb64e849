import SchemaChecks.Violation

/-!
Statements of validator functions: for each field a reading of its value, a guard against null, and
tests that raise a violation.
-/

namespace SchemaChecks

inductive Measure where
  | value
  | length
  deriving DecidableEq, Repr

inductive Condition where
  | wrongType (t : BaseType)
  | outside (m : Measure) (least most : Int)
  | below (m : Measure) (least : Int)
  | above (m : Measure) (most : Option Int)
  /-- The pattern of this number does not match. -/
  | noMatch (index : Nat)
  deriving DecidableEq, Repr

structure Guard where
  condition : Condition
  violation : Violation
  deriving DecidableEq, Repr

structure FieldBlock where
  field : String
  nullable : Bool
  guards : List Guard
  deriving DecidableEq, Repr

structure ValidatorFunction where
  name : String
  schema : String
  blocks : List FieldBlock
  deriving DecidableEq, Repr

namespace Measure

def text : Measure → String
  | .value => "value"
  | .length => "len(value)"

end Measure

def patternName (index : Nat) : String := s!"_PATTERN_{index}"

namespace Condition

def typeText : BaseType → String
  | .string => "not isinstance(value, str)"
  | .integer => "not isinstance(value, int) or isinstance(value, bool)"
  | .array =>
    "not isinstance(value, (Sequence, Set)) or isinstance(value, (str, bytes, bytearray))"
  | .unsupported => "False"

def text : Condition → String
  | .wrongType t => typeText t
  | .outside m least most => s!"not {least} <= {m.text} <= {most}"
  | .below m least => s!"{m.text} < {least}"
  | .above m most => s!"{m.text} > {Check.boundText most}"
  | .noMatch index => s!"{patternName index}.fullmatch(value) is None"

end Condition

def raiseText (field : String) (v : Violation) : String :=
  s!"raise ValidationError({Text.quoted field}, {Text.quoted v.message})"

def Guard.lines (field : String) (g : Guard) : List String :=
  [s!"if {g.condition.text}:", "    " ++ raiseText field g.violation]

namespace FieldBlock

def indented (width : Nat) (line : String) : String :=
  String.ofList (List.replicate width ' ') ++ line

/-- The lines of a block. A field that may be null is tested only if it is not. -/
def lines (b : FieldBlock) : List String :=
  let tests := b.guards.flatMap (·.lines b.field)
  let read := s!"value = _read(instance, {Text.quoted b.field})"
  let body :=
    if b.nullable then "if value is not None:" :: tests.map (indented 4)
    else ["if value is None:", indented 4 (raiseText b.field .null)] ++ tests
  (read :: body).map (indented 4)

end FieldBlock

/-- A text as it stands in a documentation string: quotes and backslashes get a backslash. -/
def docText (s : String) : String :=
  String.ofList (s.toList.flatMap fun c => if c = '\\' || c = '"' then ['\\', c] else [c])

namespace ValidatorFunction

def lines (f : ValidatorFunction) : List String :=
  [s!"def {f.name}(instance):",
   s!"    \"\"\"Validate a {docText f.schema} instance and return it unchanged.\"\"\""] ++
    f.blocks.flatMap FieldBlock.lines ++ ["    return instance"]

def text (f : ValidatorFunction) : String := String.join (f.lines.map (· ++ "\n"))

end ValidatorFunction

end SchemaChecks
