import SchemaChecks.Files.Text

/-!
The template of a configuration, and its writing to a file that is not there yet.
-/

namespace SchemaChecks.Scaffold

def defaultName : String := "validators.yaml"

def lines : List String :=
  ["# Compile configuration template for contract-validators.",
   "# Replace every <REQUIRED> placeholder before running compile.",
   "# Replace <OPTIONAL> placeholders only when your setup needs them.", "",
   "schema:",
   "  # Provide either an inline schema document or a schema document path.",
   "  path: \"<REQUIRED>\"",
   "  # inline: \"<OPTIONAL>\"",
   "  # yaml or json; detected from the file suffix or the document text when omitted.",
   "  # format: \"<OPTIONAL>\"",
   "  # Dotted path to the named schema collection.",
   "  # Defaults to the first of components.schemas, definitions, $defs.",
   "  # collection: \"<OPTIONAL>\"", "",
   "output:",
   "  # Generated Python module; relative paths resolve against this file.",
   "  path: \"<REQUIRED>\"",
   "  # module_doc: \"<OPTIONAL>\""]

def text : String := String.join (lines.map (· ++ "\n"))

inductive Error where
  | alreadyThere (p : Path)
  | file (e : FileError)
  deriving DecidableEq, Repr

def Error.message : Error → String
  | .alreadyThere p => "Compile configuration file already exists: " ++ p.text
  | .file e => e.message

def write (p : Path) : Program (Except (Failure Error) Path) := do
  match ← Program.exists? p with
  | .error e => pure (.error (.error (.file e)))
  | .ok true =>
    match ← Program.resolve p with
    | .error f => pure (.error (.fault f))
    | .ok q => pure (.error (.error (.alreadyThere q)))
  | .ok false =>
    match ← Program.writeText p text with
    | .error e => pure (.error (e.map .file))
    | .ok () => pure ((← Program.resolve p).mapError .fault)

end SchemaChecks.Scaffold
