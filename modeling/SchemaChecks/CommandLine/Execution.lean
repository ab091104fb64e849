import SchemaChecks.CommandLine.Arguments
import SchemaChecks.CommandLine.Commands
import SchemaChecks.CommandLine.Help
import SchemaChecks.CompileRun

/-!
What the program does with its arguments: it reads them, carries out a command, and ends with an
exit code. Errors that a command reports end it with 1, errors in its use with 2.
-/

namespace SchemaChecks.CommandLine

/-- A run without an exit code. -/
inductive Crash where
  | fault (f : Fault)
  | file (e : FileError)
  | pattern (e : Pattern.Error)
  deriving DecidableEq, Repr

abbrev Exit := Except Crash Nat

def complain (line : String) : Program Unit := Program.echo .error (Text.Utf8.spelled line)

def report (message : String) : Program Exit := do
  complain message
  pure (.ok 1)

def crash (f : Fault) : Program Exit := pure (.error (.fault f))

/-- A line on the output, which takes no surrogates. -/
def succeed (line : String) : Program Exit := do
  match Text.Utf8.unencodable? (fun _ => false) line.toList with
  | some e => crash (.unencodable e)
  | none =>
    Program.echo .output line
    pure (.ok 0)

def failWith {ε : Type} (message : ε → String) : Failure ε → Program Exit
  | .error e => report (message e)
  | .fault f => crash f

/-! ### Commands -/

def generateConfig (output : String) : Program Exit := do
  match ← Scaffold.write (.ofText output) with
  | .error e => failWith Scaffold.Error.message e
  | .ok p => succeed p.text

def compile (config : String) (output : Option String) : Program Exit := do
  match ← CompileRun.run ⟨config, output⟩ with
  | .ok outcome => succeed outcome.output.text
  | .error (.compilation e) => report e.message
  | .error (.removal e) => pure (.error (.file e))
  | .error (.fault f) => crash f

inductive SchemaError where
  | file (e : FileError)
  | notUtf8 (path : String) (e : Text.Utf8.Malformed)
  | load (e : LoadError)

def SchemaError.message : SchemaError → String
  | .file e => e.message
  | .notUtf8 path e => schemaNotUtf8Text path e
  | .load e => e.message

def SchemaError.ofRead (path : String) : ReadError → SchemaError
  | .file e => .file e
  | .notUtf8 e => .notUtf8 path e

def loadDocument (schema : String) : Program (Except (Failure SchemaError) Document) := do
  let p := Path.ofText schema
  match ← Program.readText p with
  | .error e => pure (.error (e.map (.ofRead p.text)))
  | .ok text =>
    match Document.load text ((Format.ofPath? p).map Format.name) with
    | .error e => pure (.error (e.map .load))
    | .ok d =>
      Program.noteAll [Diagnostics.ofDocument text d]
      pure (.ok d)

def fieldLine (f : FieldChecks) : String :=
  let presence := if f.nullable then "nullable" else "required"
  let checks := ", ".intercalate (f.checks.map Check.shown)
  s!"  {f.name} ({f.type.name}, {presence}): {checks}"

def describeFields : List FieldChecks → Program Exit
  | [] => pure (.ok 0)
  | f :: rest => do
    if f.checks.all Check.isPrintable then
      match ← succeed (fieldLine f) with
      | .error e => pure (.error e)
      | .ok _ => describeFields rest
    else crash (.scalar .tooManyDigitsToWrite)

def describeSchemas : Extraction → Program Exit
  | [] => pure (.ok 0)
  | (name, fields) :: rest => do
    match ← succeed name with
    | .error e => pure (.error e)
    | .ok _ =>
      match ← describeFields fields with
      | .error e => pure (.error e)
      | .ok _ => describeSchemas rest

def describe (schema : String) (collection : Option String) : Program Exit := do
  match ← loadDocument schema with
  | .error e => failWith SchemaError.message e
  | .ok d =>
    Program.noteAll (Diagnostics.ofExtraction d.root collection)
    match Extraction.ofTree d.root collection with
    | .error e => failWith StructureError.message e
    | .ok [] => succeed "No constrained schemas found."
    | .ok extraction => describeSchemas extraction

/-- How deep an instance is looked into: to the parts of its fields. -/
def instanceDepth : Nat := 3

def instanceUnreadable (detail : String) : String := "Failed to read instance document: " ++ detail

def loadInstance (path : String) : Program (Except (Failure String) Datum) := do
  match ← Program.readText (.ofText path) with
  | .error (.error (.file e)) => pure (.error (.error (instanceUnreadable e.message)))
  | .error (.error (.notUtf8 e)) => pure (.error (.error (instanceUnreadable e.message)))
  | .error (.fault f) => pure (.error (ofFault f))
  | .ok text =>
    match Yaml.readUpTo instanceDepth text with
    | .error .malformed => pure (.error (.error (instanceUnreadable Yaml.malformedText)))
    | .error .tooDeep => pure (.error (.fault .tooDeep))
    | .error (.scalar f) => pure (.error (ofFault (.scalar f)))
    | .ok (.dict entries) => pure (.ok (Datum.ofValue (.dict entries)))
    | .ok _ => pure (.error (.error "Instance document root must be a mapping."))
where
  /-- Values that cannot be read are reported. -/
  ofFault (f : Fault) : Failure String :=
    if f.kind = .value then .error (instanceUnreadable f.message) else .fault f

def checkInstance (validators : ValidatorSet) (name path : String) : Program Exit := do
  match ← loadInstance path with
  | .error e => failWith id e
  | .ok subject =>
    match validators.rejection? name subject with
    | .error f => crash f
    | .ok (some r) => report r.message
    | .ok none => succeed "valid"

def checkExtraction (definitions : List Definition) (extraction : Extraction) (name path : String) :
    Program Exit := do
  match ValidatorSet.ofExtraction extraction with
  | .error (.fault f) => crash f
  | .error (.error e) => pure (.error (.pattern e))
  | .ok validators =>
    Program.noteAll [Diagnostics.ofValidators validators]
    if definitions.any (·.name = name) then checkInstance validators name path
    else report ("Unknown object schema: " ++ name)

def check (schema name path : String) (collection : Option String) : Program Exit := do
  match ← loadDocument schema with
  | .error e => failWith SchemaError.message e
  | .ok d =>
    Program.noteAll (Diagnostics.ofDefinitions d.root collection)
    match definitionsOf d.root collection with
    | .error e => report e.message
    | .ok definitions =>
      Program.noteAll (Diagnostics.ofExtraction d.root collection)
      match Extraction.ofTree d.root collection with
      | .error e => failWith StructureError.message e
      | .ok extraction => checkExtraction definitions extraction name path

def perform (v : Verb) (l : Line) : Program Exit :=
  let text (o : Opt) := (l.value? o).getD ""
  match v with
  | .generateConfig => generateConfig (text scaffoldOption)
  | .compile => compile (text configOption) (l.value? outputOption)
  | .describe => describe (text schemaOption) (l.value? collectionOption)
  | .check =>
    check (text schemaOption) (text nameOption) (text instanceOption) (l.value? collectionOption)

/-! ### Arguments -/

def misuse (c : Command) (e : UsageError) : Program Exit := do
  if e.showsUsage then
    complain (Help.usage c)
    complain s!"Try '{c.fullName} --help' for help.\n"
  complain ("Error: " ++ e.message)
  pure (.ok 2)

def answer (c : Command) (below : List Command) : Action → Program Exit
  | .version => succeed s!"{programName}, version {programVersion}"
  | _ => succeed (Help.text c below)

def runVerb (v : Verb) (args : List String) : Program Exit := do
  let c := v.command
  match Arguments.read c.options true args with
  | .error e => misuse c e
  | .ok l =>
    match l.eager? with
    | some a => answer c [] a
    | none =>
      match l.paths.find? fun p => (Path.ofText p).isRefused with
      | some p => crash (Path.refusalOf p)
      | none =>
        match l.missing? c.options with
        | some o => misuse c (.optionMissing o.longName)
        | none =>
          if l.operands.isEmpty then perform v l else misuse c (.extraArguments l.operands)

def verbCommands : List Command := Verb.all.map Verb.command

def unknownVerb (name : String) : UsageError :=
  .unknownCommand name (Text.Similarity.closeTo name (Verb.all.map Verb.name))

def looksLikeOption (word : String) : Bool :=
  match word.toList with
  | [] => false
  | c :: _ => !(Text.isLetterOrNumeral c)

def runUnknown (name : String) (args : List String) : Program Exit := do
  if looksLikeOption name then
    match Arguments.read program.options false args with
    | .error e => misuse program e
    | .ok l =>
      match l.eager? with
      | some a => answer program verbCommands a
      | none => misuse program (unknownVerb name)
  else misuse program (unknownVerb name)

def run (args : List String) : Program Exit := do
  if args.isEmpty then
    complain (Help.text program verbCommands)
    pure (.ok 2)
  else
    match Arguments.read program.options false args with
    | .error e => misuse program e
    | .ok l =>
      match l.eager?, l.operands with
      | some a, _ => answer program verbCommands a
      | none, [] => misuse program .commandMissing
      | none, name :: rest =>
        match Verb.ofName? name with
        | none => runUnknown name (name :: rest)
        | some v =>
          if l.has verboseOption then Program.perform (.splitLog Log.debug Log.warning)
          runVerb v rest

end SchemaChecks.CommandLine
