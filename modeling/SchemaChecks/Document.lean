import SchemaChecks.Json.Reader
import SchemaChecks.Path
import SchemaChecks.Yaml.Heap

/-!
Documents of schemas: a text in one of two formats, read as a tree.
-/

namespace SchemaChecks

inductive Format where
  | yaml
  | json
  deriving DecidableEq, Repr

namespace Format

def all : List Format := [.yaml, .json]

def name : Format → String
  | .yaml => "yaml"
  | .json => "json"

def ofName? (s : String) : Option Format := all.find? (·.name = s)

/-- A text that starts with a brace or a bracket is JSON, any other is YAML. -/
def ofText (text : String) : Format :=
  match Text.dropBlank text.toList with
  | '\x7b' :: _ | '[' :: _ => .json
  | _ => .yaml

def ofPath? (p : Path) : Option Format :=
  match Text.lowercase p.suffix with
  | ".json" => some .json
  | ".yaml" | ".yml" => some .yaml
  | _ => none

end Format

inductive LoadError where
  | empty
  | unsupportedFormat (name : String)
  /-- What the JSON reader says, with the place. -/
  | malformedJson (detail : String)
  | malformedYaml
  | tooDeep (format : Format)
  deriving DecidableEq, Repr

/-- The details of a fault in a YAML text are not told. -/
def Yaml.malformedText : String := "<yaml>"

def LoadError.message : LoadError → String
  | .empty => "Schema document is empty."
  | .unsupportedFormat name => "Unsupported schema document format: " ++ name
  | .malformedJson detail => "Invalid json schema document: " ++ detail
  | .malformedYaml => "Invalid yaml schema document: " ++ Yaml.malformedText
  | .tooDeep format => s!"Invalid {format.name} schema document: nesting is too deep or recursive"

namespace Value

mutual

def fits (limit : Nat) : Value → Bool
  | .scalar _ => true
  | .list items => match limit with
    | 0 => false
    | limit + 1 => fitsAll limit items
  | .dict entries => match limit with
    | 0 => false
    | limit + 1 => fitsEach limit entries

def fitsAll (limit : Nat) : List Value → Bool
  | [] => true
  | v :: rest => fits limit v && fitsAll limit rest

def fitsEach (limit : Nat) : List (Atom × Value) → Bool
  | [] => true
  | (_, v) :: rest => fits limit v && fitsEach limit rest

end

mutual

def keysArePrintable : Value → Bool
  | .scalar _ => true
  | .list items => keysOfItems items
  | .dict entries => keysOfEntries entries

def keysOfItems : List Value → Bool
  | [] => true
  | v :: rest => keysArePrintable v && keysOfItems rest

def keysOfEntries : List (Atom × Value) → Bool
  | [] => true
  | (k, v) :: rest => k.isPrintable && keysArePrintable v && keysOfEntries rest

end

end Value

structure Document where
  format : Format
  root : Tree
  deriving Repr

namespace Document

/-- How deep the parts of a document may nest, so that its conversion to a tree does not recurse too
deep. -/
def depthLimit : Nat := 480

def readValue (format : Format) (text : String) : Except (Failure LoadError) Value :=
  match format with
  | .json =>
    match Json.read text with
    | .ok v => .ok v
    | .error (.malformed cause left) =>
      .error (.error (.malformedJson (Json.faultText text cause left)))
    | .error (.tooManyDigits count) => .error (.fault (.scalar (.tooManyDigits count)))
    | .error .tooDeep => .error (.error (.tooDeep .json))
  | .yaml =>
    match Yaml.read text with
    | .ok v => .ok v
    | .error .malformed => .error (.error .malformedYaml)
    | .error .tooDeep => .error (.error (.tooDeep .yaml))
    | .error (.scalar f) => .error (.fault (.scalar f))

def ofValue (format : Format) (v : Value) : Except (Failure LoadError) Document :=
  if !v.fits depthLimit then .error (.error (.tooDeep format))
  else if !v.keysArePrintable then .error (.fault (.scalar .tooManyDigitsToWrite))
  else .ok ⟨format, Tree.ofValue v⟩

/-- The format with a name, or the one that the text looks like if no name is given. -/
def formatFor (name : Option String) (text : String) : Except LoadError Format :=
  match name with
  | none | some "" => .ok (Format.ofText text)
  | some name =>
    match Format.ofName? name with
    | some f => .ok f
    | none => .error (.unsupportedFormat name)

def load (text : String) (format : Option String) : Except (Failure LoadError) Document :=
  if Text.isBlankText text then .error (.error .empty)
  else
    match formatFor format text with
    | .error e => .error (.error e)
    | .ok format => (readValue format text).bind (ofValue format)

end Document

end SchemaChecks
