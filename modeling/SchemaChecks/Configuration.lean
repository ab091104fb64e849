import SchemaChecks.Document
import SchemaChecks.Files.Text

/-!
Configurations of compile runs: where the schemas come from and where the module goes. Relative
paths in a configuration start at the directory of its file.
-/

namespace SchemaChecks

inductive SchemaSource where
  | inline (text : String)
  | file (p : Path)
  deriving DecidableEq, Repr

structure Configuration where
  path : Path
  source : SchemaSource
  /-- The format of the schemas, if it is known without their text. -/
  format : Option Format
  collection : Option String
  output : Path
  moduleDoc : Option String
  deriving DecidableEq, Repr

inductive ConfigurationError where
  | notFound (path : String)
  | notUtf8 (e : Text.Utf8.Malformed)
  | malformed
  | rootNotMapping
  | sectionRequired (name : String)
  | bothSources
  | noSource
  | blankInline
  | notText (field : String)
  | blank (field : String)
  | unknownFormat
  | outputNotModule
  | file (e : FileError)
  deriving DecidableEq, Repr

def ConfigurationError.message : ConfigurationError → String
  | .notFound path => "Configuration file not found: " ++ path
  | .notUtf8 e => "Configuration file is not valid UTF-8: " ++ e.message
  | .malformed => "Failed to parse configuration file: " ++ Yaml.malformedText
  | .rootNotMapping => "Configuration root must be a mapping."
  | .sectionRequired name => s!"Configuration section '{name}' is required."
  | .bothSources => "Schema definition must not set both inline and path."
  | .noSource => "Schema definition requires either inline or path."
  | .blankInline => "Schema text cannot be empty."
  | .notText field => s!"{field} must be a string."
  | .blank field => s!"{field} must not be empty."
  | .unknownFormat =>
    let names := ", ".intercalate (Format.all.map Format.name)
    s!"schema.format must be one of: {names}."
  | .outputNotModule => "output.path must point to a .py module."
  | .file e => e.message

namespace Value

/-- Null, false, zero, and everything empty: a field that holds it counts as not given. -/
def isVoid : Value → Bool
  | .scalar (.atom a) =>
    match a with
    | .null => true
    | .bool b => !b
    | .int i => i = 0
    | .real x => x.toInt? = some 0
    | .text s => s.isEmpty
    | .bytes b => b.isEmpty
    | .date _ | .moment _ => false
  | .scalar (.set members) => members.isEmpty
  | .list items => items.isEmpty
  | .dict entries => entries.isEmpty

def entries? : Value → Option (List (Atom × Value))
  | .dict entries => some entries
  | _ => none

end Value

namespace Configuration

abbrev Section := List (Atom × Value)

abbrev Result (α : Type) := Except ConfigurationError α

def field (s : Section) (name : String) : Value := (Value.get? name s).getD .null

def section? (root : Section) (name : String) : Result Section :=
  match (field root name).entries? with
  | some s => .ok s
  | none => .error (.sectionRequired name)

/-- A text without blanks at its ends; null and blank texts count as none. -/
def optionalText (name : String) : Value → Result (Option String)
  | .scalar (.atom .null) => .ok none
  | .scalar (.atom (.text s)) =>
    let t := Text.stripped s
    .ok (if t.isEmpty then none else some t)
  | _ => .error (.notText name)

def requiredText (name : String) : Value → Result String
  | .scalar (.atom (.text s)) =>
    let t := Text.stripped s
    if t.isEmpty then .error (.blank name) else .ok t
  | _ => .error (.notText name)

inductive WrittenSource where
  | inline (text : String)
  | file (text : String)

def writtenSource (s : Section) : Result WrittenSource :=
  let inlined := field s "inline"
  let path := field s "path"
  if !inlined.isVoid && !path.isVoid then .error .bothSources
  else if !inlined.isVoid then
    match inlined with
    | .scalar (.atom (.text t)) =>
      if Text.isBlankText t then .error .blankInline else .ok (.inline t)
    | _ => .error (.notText "schema.inline")
  else if !path.isVoid then
    match path with
    | .scalar (.atom (.text t)) => .ok (.file t)
    | _ => .error (.notText "schema.path")
  else .error .noSource

def formatOf (s : Section) : Result (Option Format) := do
  match ← optionalText "schema.format" (field s "format") with
  | none => .ok none
  | some name =>
    match Format.ofName? (Text.lowercase name) with
    | some f => .ok (some f)
    | none => .error .unknownFormat

def resolved (here : Place) (base : Path) (written : String) :
    Except (Failure ConfigurationError) Path :=
  let p := Path.ofText written
  if p.isAbsolute then .ok p else ((base.join p).resolved here).mapError .fault

def sourceOf (here : Place) (base : Path) (s : Section) :
    Except (Failure ConfigurationError) SchemaSource :=
  match writtenSource s with
  | .error e => .error (.error e)
  | .ok (.inline text) => .ok (.inline text)
  | .ok (.file written) => (resolved here base written).map .file

/-- The format that is asked for, or the one that the suffix of the schemas' file stands for. -/
def effectiveFormat (asked : Option Format) : SchemaSource → Option Format
  | .inline _ => asked
  | .file p => asked.or (Format.ofPath? p)

def outputOf (here : Place) (base : Path) (s : Section) :
    Except (Failure ConfigurationError) Path := do
  let written ← (requiredText "output.path" (field s "path")).mapError .error
  let p ← resolved here base written
  if p.suffix = ".py" then .ok p else .error (.error .outputNotModule)

def ofValue (here : Place) (path : Path) (v : Value) :
    Except (Failure ConfigurationError) Configuration := do
  let root ← match v with
    | .scalar (.atom .null) => pure []
    | .dict entries => pure entries
    | _ => throw (.error .rootNotMapping)
  let schema ← (section? root "schema").mapError .error
  let source ← sourceOf here path.parent schema
  let asked ← (formatOf schema).mapError .error
  let collection ← (optionalText "schema.collection" (field schema "collection")).mapError .error
  let output ← (section? root "output").mapError .error
  let target ← outputOf here path.parent output
  let moduleDoc ← (optionalText "output.module_doc" (field output "module_doc")).mapError .error
  pure
    { path := path
      source := source
      format := effectiveFormat asked source
      collection := collection
      output := target
      moduleDoc := moduleDoc }

def depth : Nat := 4

def readValue (text : String) : Except (Failure ConfigurationError) Value :=
  match Yaml.readUpTo depth text with
  | .ok v => .ok v
  | .error .malformed => .error (.error .malformed)
  | .error .tooDeep => .error (.fault .tooDeep)
  | .error (.scalar f) => .error (.fault (.scalar f))

def readError : ReadError → ConfigurationError
  | .file e => .file e
  | .notUtf8 e => .notUtf8 e

def load (path : Path) : Program (Except (Failure ConfigurationError) Configuration) := do
  match ← Program.exists? path with
  | .error e => pure (.error (.error (.file e)))
  | .ok false => pure (.error (.error (.notFound path.text)))
  | .ok true =>
    match ← Program.readText path with
    | .error e => pure (.error (e.map readError))
    | .ok text =>
      let here ← Program.perform .here
      pure ((readValue text).bind (ofValue here path))

end Configuration

end SchemaChecks
