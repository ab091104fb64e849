import SchemaChecks.CommandLine.Execution

/-!
The program on a real machine: requests are answered by its files and streams.
-/

namespace SchemaChecks.Machine

def numberOf : IO.Error → Nat
  | .alreadyExists _ code _ | .noFileOrDirectory _ code _ | .inappropriateType _ code _
  | .permissionDenied _ code _ | .invalidArgument _ code _ | .resourceBusy code _
  | .unsatisfiedConstraints code _ | .otherError code _ | .noSuchThing _ code _
  | .resourceExhausted _ code _ | .illegalOperation code _ | .hardwareFault code _ => code.toNat
  | _ => 5

def kindOf (e : IO.Error) : FileErrorKind :=
  match numberOf e with
  | 2 => .notFound
  | 17 => .alreadyExists
  | 20 => .notADirectory
  | 21 => .isADirectory
  | 36 => .nameTooLong
  | n => .other n "Input/output error"

def attempt {α : Type} (p : Path) (target : Option Path) (act : IO α) : IO (Reply α) := do
  if p.isRefused then pure (.error (.fault p.refusal))
  else
    try
      let a ← act
      pure (.ok a)
    catch e => pure (.error (.error ⟨kindOf e, p.text, target.map Path.text⟩))

def nodeKind (p : Path) : IO NodeKind := do
  let data ← ((← IO.currentDir) / p.text).metadata
  pure (match data.type with
    | .dir => .directory
    | _ => .file)

/-- Makes a new file; the first free number is its name. -/
def makeTemporary (directory : Path) (stem : String) : Nat → Nat → IO Path
  | 0, _ => throw (IO.userError "no free name")
  | tries + 1, k => do
    let p := { directory with names := directory.names ++ [s!".{stem}.{k}.tmp"] }
    try
      discard (IO.FS.Handle.mk p.text .writeNew)
      pure p
    catch e =>
      if kindOf e = .alreadyExists then makeTemporary directory stem tries (k + 1) else throw e

def streamOf : Stream → IO IO.FS.Stream
  | .output => IO.getStdout
  | .error => IO.getStderr

def put (stream : Stream) (text : String) : IO Unit := do
  let s ← streamOf stream
  s.putStr text
  s.flush

def answer (log : IO.Ref Log) : (r : Request) → IO r.Answer
  | .here => do pure (Path.ofText (← IO.currentDir).toString).names
  | .kindOf p => attempt p none (nodeKind p)
  | .read p => attempt p none do pure (← IO.FS.readBinFile p.text).toList
  | .makeDirectory p => attempt p none (IO.FS.createDir p.text)
  | .createTemporary directory stem =>
    attempt directory none (makeTemporary directory stem 10000 0)
  | .write p content => attempt p none (IO.FS.writeBinFile p.text ⟨content.toArray⟩)
  | .replace source target => attempt source (some target) (IO.FS.rename source.text target.text)
  | .remove p => attempt p none (IO.FS.removeFile p.text)
  | .splitLog level threshold => log.modify fun l => l.split level threshold .standard
  | .note r => do
    for (stream, line) in (← log.get).deliver r do
      put stream line
  | .print stream text => put stream text

def execute {α : Type} (log : IO.Ref Log) : Program α → IO α
  | .done a => pure a
  | .ask r next => do
    let a ← answer log r
    execute log (next a)

def crashText : CommandLine.Crash → String
  | .fault f => f.message
  | .file e => e.message
  | .pattern e => e.cause.message

end SchemaChecks.Machine

def main (args : List String) : IO UInt32 := do
  let log ← IO.mkRef SchemaChecks.Log.unset
  match ← SchemaChecks.Machine.execute log (SchemaChecks.CommandLine.run args) with
  | .ok code => pure (UInt32.ofNat code)
  | .error c => do
    SchemaChecks.Machine.put .error (SchemaChecks.Machine.crashText c ++ "\n")
    pure 1
