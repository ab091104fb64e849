import SchemaChecks.Module.FunctionName
import SchemaChecks.Module.Statement

/-!
Validator modules: a documentation string, the patterns, one function for each schema that has
fields with checks, and a table of the functions by the names of their schemas.
-/

namespace SchemaChecks

structure ValidatorModule where
  doc : String
  /-- The patterns, each once; the place of a pattern is its number. -/
  patterns : List String
  functions : List ValidatorFunction
  deriving DecidableEq, Repr

namespace Extraction

def pattern? : Check → Option String
  | .pattern regex => some regex
  | _ => none

def patternList (e : Extraction) : List String :=
  e.flatMap fun (_, fields) => fields.flatMap fun f => f.checks.filterMap pattern?

def addOnce (known : List String) (s : String) : List String :=
  if s ∈ known then known else known ++ [s]

/-- The patterns in the order of their first use. -/
def patterns (e : Extraction) : List String := e.patternList.foldl addOnce []

end Extraction

namespace Bounds

def condition (b : Bounds) (m : Measure) : Condition :=
  match b.least, b.most with
  | some lo, some hi => .outside m lo hi
  | some lo, none => .below m lo
  | none, most => .above m most

end Bounds

namespace ValidatorModule

/-- The guard of a check; the numbers of a check have to have texts. -/
def guardOf (patterns : List String) (c : Check) : Except Fault Guard :=
  if !c.isPrintable then .error (.scalar .tooManyDigitsToWrite)
  else
    match c with
    | .length b => .ok ⟨b.condition .length, .length b⟩
    | .pattern regex => .ok ⟨.noMatch (patterns.idxOf regex), .noMatch regex⟩
    | .range b => .ok ⟨b.condition .value, .range b⟩
    | .minItems n => .ok ⟨.below .length n, .tooFewItems n⟩
    | .unknown => .error .unsupportedCheck

def typeGuard : BaseType → List Guard
  | .unsupported => []
  | t => [⟨.wrongType t, .wrongType t⟩]

def guardsOf (patterns : List String) : List Check → Except Fault (List Guard)
  | [] => .ok []
  | c :: rest =>
    match guardOf patterns c with
    | .error f => .error f
    | .ok g => (guardsOf patterns rest).map (g :: ·)

def blockOf (patterns : List String) (f : FieldChecks) : Except Fault FieldBlock :=
  (guardsOf patterns f.checks).map fun guards =>
    ⟨f.name, f.nullable, typeGuard f.type ++ guards⟩

def blocksOf (patterns : List String) : List FieldChecks → Except Fault (List FieldBlock)
  | [] => .ok []
  | f :: rest =>
    match blockOf patterns f with
    | .error e => .error e
    | .ok b => (blocksOf patterns rest).map (b :: ·)

def functionsOf (patterns : List String) :
    List (String × String × List FieldChecks) → Except Fault (List ValidatorFunction)
  | [] => .ok []
  | (_, _, []) :: rest => functionsOf patterns rest
  | (name, schema, fields) :: rest =>
    match blocksOf patterns fields with
    | .error e => .error e
    | .ok blocks => (functionsOf patterns rest).map (⟨name, schema, blocks⟩ :: ·)

def defaultDoc : String := "Generated schema validators. Do not edit."

def docOf : Option String → String
  | none | some "" => defaultDoc
  | some doc => doc

def ofExtraction (e : Extraction) (doc : Option String) : Except Fault ValidatorModule :=
  let patterns := e.patterns
  let named := (FunctionName.assign e.names).zip e
  (functionsOf patterns named).map (⟨docOf doc, patterns, ·⟩)

def preamble : List String :=
  ["from __future__ import annotations", "", "import re",
   "from collections.abc import Mapping, Sequence, Set", "", "",
   "class ValidationError(ValueError):",
   "    \"\"\"Raised for the first violated check of an instance.\"\"\"", "",
   "    def __init__(self, field, violation):",
   "        super().__init__(f\"\x7bfield\x7d: \x7bviolation\x7d\")",
   "        self.field = field", "        self.violation = violation", "", "",
   "def _read(instance, field_name):", "    if isinstance(instance, Mapping):",
   "        return instance.get(field_name)",
   "    return getattr(instance, field_name, None)"]

def lineText (line : String) : String := line ++ "\n"

def docLine (doc : String) : String := s!"\"\"\"{docText doc}\"\"\""

def patternLinesFrom : Nat → List String → List String
  | _, [] => []
  | n, regex :: rest =>
    s!"{patternName n} = re.compile({Text.quoted regex})" :: patternLinesFrom (n + 1) rest

def patternLines (m : ValidatorModule) : List String := patternLinesFrom 0 m.patterns

def tableLine (f : ValidatorFunction) : String := s!"    {Text.quoted f.schema}: {f.name},"

def tableLines (m : ValidatorModule) : List String :=
  ["VALIDATORS = \x7b"] ++ m.functions.map tableLine ++ ["\x7d"]

/-- Patterns follow a blank line, and each function and the table follow two. -/
def lines (m : ValidatorModule) : List String :=
  docLine m.doc :: preamble ++ (if m.patterns.isEmpty then [] else "" :: m.patternLines) ++
    m.functions.flatMap (fun f => ["", ""] ++ f.lines) ++ ["", ""] ++ m.tableLines

def text (m : ValidatorModule) : String := String.join (m.lines.map lineText)

end ValidatorModule

end SchemaChecks
