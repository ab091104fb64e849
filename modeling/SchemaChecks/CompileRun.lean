import SchemaChecks.Configuration
import SchemaChecks.Diagnostics
import SchemaChecks.Module.Rendering

/-!
Compile runs: a configuration is loaded, the schemas it names are read, and the module of their
validators is written. A run that fails for a reason it can tell removes what stands at the output
path.
-/

namespace SchemaChecks

structure CompileRequest where
  config : String
  /-- A path to use instead of the configuration's output; an empty one does not count. -/
  output : Option String
  deriving DecidableEq, Repr

structure CompileOutcome where
  output : Path
  /-- The schemas that have validators. -/
  validated : List String
  /-- How many object schemas have none. -/
  skipped : Nat
  deriving DecidableEq, Repr

inductive CompilationError where
  | configuration (e : ConfigurationError)
  | schemaNotUtf8 (path : String) (e : Text.Utf8.Malformed)
  | load (e : LoadError)
  | structural (e : StructureError)
  | file (e : FileError)
  deriving DecidableEq, Repr

def schemaNotUtf8Text (path : String) (e : Text.Utf8.Malformed) : String :=
  s!"Schema document {path} is not valid UTF-8: {e.message}"

def CompilationError.message : CompilationError → String
  | .configuration e => e.message
  | .schemaNotUtf8 path e => schemaNotUtf8Text path e
  | .load e => e.message
  | .structural e => e.message
  | .file e => e.message

/-- How a run ends that has no outcome: with a reason, or because the old output cannot be removed,
or by a fault. -/
inductive CompileStop where
  | compilation (e : CompilationError)
  | removal (e : FileError)
  | fault (f : Fault)
  deriving DecidableEq, Repr

namespace CompileRun

def logger : String := "contract_validators.compile_execution.compile_run_use_case"

def override (r : CompileRequest) : Program (Except Fault (Option Path)) := do
  match r.output with
  | none | some "" => pure (.ok none)
  | some written =>
    match ← Program.resolve (.ofText written) with
    | .error f => pure (.error f)
    | .ok p => pure (.ok (some p))

def removeStale (p : Path) : Program (Reply Unit) := do
  match ← Program.exists? p with
  | .error e => pure (.error (.error e))
  | .ok false => pure (.ok ())
  | .ok true =>
    Program.note logger Log.warning s!"Removing stale validator module {p.text}"
    Program.remove p

def giveUp {α : Type} (p : Path) (e : CompilationError) : Program (Except CompileStop α) := do
  match ← removeStale p with
  | .ok () => pure (.error (.compilation e))
  | .error (.error e) => pure (.error (.removal e))
  | .error (.fault f) => pure (.error (.fault f))

/-- Makes a directory with all those above it; one that is there already will do. -/
def makeDirectories : Nat → Path → Program (Reply Unit)
  | 0, _ => pure (.ok ())
  | fuel + 1, p => do
    match ← Program.makeDirectory p with
    | .ok () => pure (.ok ())
    | .error (.fault f) => pure (.error (.fault f))
    | .error (.error e) =>
      if e.kind = .notFound && p.parent ≠ p then
        match ← makeDirectories fuel p.parent with
        | .error e => pure (.error e)
        | .ok () => ensureDirectory p (← Program.makeDirectory p)
      else ensureDirectory p (.error (.error e))
where
  /-- An error does not count if the directory is there. -/
  ensureDirectory (p : Path) : Reply Unit → Program (Reply Unit)
    | .error (.error e) => do
      match ← Program.kindOf p with
      | .ok .directory => pure (.ok ())
      | _ => pure (.error (.error e))
    | reply => pure reply

/-- Removes a temporary file after an error. After a fault it stays. -/
def discardTemporary (temporary : Path) : Failure FileError → Program (Reply Unit)
  | .fault f => pure (.error (.fault f))
  | .error e => do
    match ← Program.remove temporary with
    | .error (.error other) =>
      pure (.error (.error (if other.kind = .notFound then e else other)))
    | _ => pure (.error (.error e))

def fillAndMove (temporary target : Path) (text : String) : Program (Reply Unit) := do
  match ← Program.writeText temporary text with
  | .error e => discardTemporary temporary e
  | .ok () =>
    match ← Program.replace temporary target with
    | .error e => discardTemporary temporary e
    | .ok () => pure (.ok ())

/-- Writes a text to a file beside the target, which it then replaces. -/
def writeWhole (target : Path) (text : String) : Program (Reply Unit) := do
  let directory := target.parent
  match ← makeDirectories (directory.names.length + 1) directory with
  | .error e => pure (.error e)
  | .ok () =>
    match ← Program.createTemporary directory target.name with
    | .error e => pure (.error e)
    | .ok temporary => fillAndMove temporary target text

def sourceText : SchemaSource → Program (Except (Failure CompilationError) String)
  | .inline text => pure (.ok text)
  | .file p => do
    let reason : ReadError → CompilationError
      | .file e => .file e
      | .notUtf8 e => .schemaNotUtf8 p.text e
    pure ((← Program.readText p).mapError (·.map reason))

structure Compiled where
  definitions : List Definition
  extraction : Extraction
  module : ValidatorModule

def compile (c : Configuration) (text : String) :
    Program (Except (Failure CompilationError) Compiled) := do
  match Document.load text (c.format.map Format.name) with
  | .error e => pure (.error (e.map .load))
  | .ok d =>
    Program.noteAll [Diagnostics.ofDocument text d]
    Program.noteAll (Diagnostics.ofDefinitions d.root c.collection)
    match definitionsOf d.root c.collection with
    | .error e => pure (.error (.error (.structural e)))
    | .ok definitions =>
      Program.noteAll (Diagnostics.ofExtraction d.root c.collection)
      match Extraction.ofTree d.root c.collection with
      | .error e => pure (.error (e.map .structural))
      | .ok extraction =>
        match ValidatorModule.ofExtraction extraction c.moduleDoc with
        | .error f => pure (.error (.fault f))
        | .ok module => pure (.ok ⟨definitions, extraction, module⟩)

def produce (c : Configuration) (output : Path) :
    Program (Except (Failure CompilationError) CompileOutcome) := do
  match ← sourceText c.source with
  | .error e => pure (.error e)
  | .ok text =>
    match ← compile c text with
    | .error e => pure (.error e)
    | .ok result =>
      match ← writeWhole output result.module.text with
      | .error e => pure (.error (e.map .file))
      | .ok () =>
        pure (.ok
          { output := output
            validated := result.extraction.names
            skipped := result.definitions.length - result.extraction.length })

def outputPath (c : Configuration) (override : Option Path) : Path := override.getD c.output

def withConfiguration (c : Configuration) (r : CompileRequest) :
    Program (Except CompileStop CompileOutcome) := do
  match ← override r with
  | .error f => pure (.error (.fault f))
  | .ok p =>
    let output := outputPath c p
    match ← produce c output with
    | .error (.fault f) => pure (.error (.fault f))
    | .error (.error e) => giveUp output e
    | .ok outcome =>
      Program.note logger Log.info
        (s!"Wrote {outcome.validated.length} validators to {output.text} " ++
          s!"({outcome.skipped} object schemas without constraints)")
      pure (.ok outcome)

def withoutConfiguration (e : ConfigurationError) (r : CompileRequest) :
    Program (Except CompileStop CompileOutcome) := do
  match ← override r with
  | .error f => pure (.error (.fault f))
  | .ok none => pure (.error (.compilation (.configuration e)))
  | .ok (some p) => giveUp p (.configuration e)

def run (r : CompileRequest) : Program (Except CompileStop CompileOutcome) := do
  match ← Configuration.load (.ofText r.config) with
  | .ok c => withConfiguration c r
  | .error (.error e) => withoutConfiguration e r
  | .error (.fault f) => pure (.error (.fault f))

end CompileRun

end SchemaChecks
