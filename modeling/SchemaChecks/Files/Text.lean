import SchemaChecks.Files.Program
import SchemaChecks.Text.Newline

/-!
Text files: UTF-8 with line ends of any kind.
-/

namespace SchemaChecks

inductive ReadError where
  | file (e : FileError)
  | notUtf8 (e : Text.Utf8.Malformed)
  deriving DecidableEq, Repr

/-- The text that bytes spell, with one kind of line end. -/
def textOfBytes (bytes : List UInt8) : Except Text.Utf8.Malformed String :=
  (Text.Utf8.decode bytes).map fun cs => String.ofList (Text.unifyLineEnds cs)

def Program.readText (p : Path) : Program (Except (Failure ReadError) String) := do
  match ← Program.read p with
  | .error e => pure (.error (e.map .file))
  | .ok bytes => pure ((textOfBytes bytes).mapError fun e => .error (.notUtf8 e))

/-- Writes a text, or nothing of it if it holds surrogates. -/
def Program.writeText (p : Path) (text : String) : Program (Reply Unit) :=
  match Text.Utf8.unencodable? (fun _ => false) text.toList with
  | some e => pure (.error (.fault (.unencodable e)))
  | none => Program.write p (Text.Utf8.encode text.toList)

end SchemaChecks
