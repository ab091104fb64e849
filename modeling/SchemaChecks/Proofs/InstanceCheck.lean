import SchemaChecks.CommandLine.Execution
import SchemaChecks.Proofs.Portable.Yaml
import SchemaChecks.Proofs.Spelling
import SchemaChecks.Proofs.WellFormed

/-!
How a check of an instance ends. The file of the instance is always read as YAML, so that the
verdict is the one on what YAML makes of the text. It is the verdict on the JSON value of the text
wherever both readings agree down to the parts of the fields, as they do on every object in portable
form.
-/

namespace SchemaChecks

open Program Host

namespace Diagnostics

end Diagnostics

namespace Host

variable {h : Host}

theorem after_noteAll (records : List Log.Record) :
    h.after (noteAll records) =
      { h with written := h.written ++ records.flatMap h.log.deliver } := by
  induction records generalizing h with
  | nil => simp [noteAll]
  | cons r rest ih =>
    have first : h.after (noteAll (r :: rest)) =
        { h with written := h.written ++ h.log.deliver r ++ rest.flatMap h.log.deliver } :=
      ih (h := { h with written := h.written ++ h.log.deliver r })
    rw [first, List.flatMap_cons, List.append_assoc]

end Host

namespace CommandLine

inductive Outcome where
  | exit (code : Nat) (stream : Stream) (line : String)
  | crash (f : Fault)
  deriving DecidableEq, Repr

namespace Outcome

def reported (message : String) : Outcome := .exit 1 .error (Text.Utf8.spelled message)

def ofVerdict : Except SchemaChecks.Fault (Option Rejection) → Outcome
  | .ok none => .exit 0 .output "valid"
  | .ok (some r) => reported r.message
  | .error f => .crash f

/-- The end of a check with the reading of an instance. -/
def ofReading (s : ValidatorSet) (schema : String) : Except Yaml.Fault Value → Outcome
  | .ok (.dict entries) => ofVerdict (s.rejection? schema (Datum.ofValue (.dict entries)))
  | .ok _ => reported "Instance document root must be a mapping."
  | .error .malformed => reported (instanceUnreadable Yaml.malformedText)
  | .error .tooDeep => .crash .tooDeep
  | .error (.scalar f) =>
    if f.kind = .value then reported (instanceUnreadable f.message) else .crash (.scalar f)

def ofText (s : ValidatorSet) (schema : String) : Except (Failure ReadError) String → Outcome
  | .ok text => ofReading s schema (Yaml.readUpTo instanceDepth text)
  | .error (.error (.file e)) => reported (instanceUnreadable e.message)
  | .error (.error (.notUtf8 e)) => reported (instanceUnreadable e.message)
  | .error (.fault f) =>
    if f.kind = .value then reported (instanceUnreadable f.message) else .crash f

def code : Outcome → Exit
  | exit code _ _ => .ok code
  | crash f => .error (.fault f)

def lines : Outcome → List (Stream × String)
  | exit _ stream line => [(stream, line ++ "\n")]
  | crash _ => []

end Outcome

def Notes {α : Type} (h : Host) (p : Program α) : Prop :=
  ∃ records : List Log.Record, (∀ r ∈ records, r.level = Log.debug) ∧
    h.after p = h.after (noteAll records)

theorem Notes.sameFiles {α : Type} {h : Host} {p : Program α} (notes : Notes h p) :
    SameFiles h (h.after p) := by
  obtain ⟨records, -, noted⟩ := notes
  exact noted ▸ sameFiles_of_spares (noteAll_spares records) h

/-- A program gives an exit code, and changes nothing but that it writes lines after notes for the
log, all of the debug level. -/
structure Prints (h : Host) (p : Program Exit) (exit : Exit) (lines : List (Stream × String)) :
    Prop where
  answer : h.answer p = exit
  files : SameFiles h (h.after p)
  shown : ∃ notes : List Log.Record, (∀ r ∈ notes, r.level = Log.debug) ∧
    (h.after p).written = h.written ++ notes.flatMap h.log.deliver ++ lines

/-- What only takes notes before a program leaves its lines as they are. -/
theorem Prints.bind {α : Type} {h : Host} {q : Program α} {f : α → Program Exit} {exit : Exit}
    {lines : List (Stream × String)} (notes : Notes h q)
    (prints : Prints (h.after q) (f (h.answer q)) exit lines) : Prints h (q >>= f) exit lines := by
  have same := notes.sameFiles
  obtain ⟨records, debug, noted⟩ := notes
  obtain ⟨answer, files, later, level, written⟩ := prints
  refine ⟨?_, ?_, records ++ later, ?_, ?_⟩
  · rw [answer_bind]
    exact answer
  · rw [after_bind]
    exact same.trans files
  · intro r hr
    exact (List.mem_append.mp hr).elim (debug r) (level r)
  · rw [after_bind, written, noted, after_noteAll]
    simp only [List.flatMap_append, List.append_assoc]

theorem succeed_of_hasBytes {line : String} (bytes : Text.HasBytes line.toList) :
    succeed line = (do
      Program.echo .output line
      pure (.ok 0)) := by
  rw [succeed, Text.Utf8.unencodable?_eq_none.mpr bytes]

structure Ends (h : Host) (p : Program Exit) (o : Outcome) : Prop where
  answer : h.answer p = o.code
  files : SameFiles h (h.after p)
  shown : ∃ notes : List Log.Record, (∀ r ∈ notes, r.level = Log.debug) ∧
    (h.after p).written = h.written ++ notes.flatMap h.log.deliver ++ o.lines

namespace Ends

variable {h : Host} {p : Program Exit} {o : Outcome}

theorem report (message : String) : Ends h (report message) (.reported message) where
  answer := rfl
  files := ⟨rfl, rfl⟩
  shown := ⟨[], by simp, by simp [Outcome.reported, Outcome.lines]; rfl⟩

theorem succeed {line : String} (bytes : Text.HasBytes line.toList) :
    Ends h (succeed line) (.exit 0 .output line) := by
  rw [succeed_of_hasBytes bytes]
  exact ⟨rfl, ⟨rfl, rfl⟩, [], by simp, by simp [Outcome.lines]; rfl⟩

theorem crash (f : SchemaChecks.Fault) : Ends h (crash f) (.crash f) where
  answer := rfl
  files := ⟨rfl, rfl⟩
  shown := ⟨[], by simp, by simp [Outcome.lines, CommandLine.crash]⟩

theorem iff_prints : Ends h p o ↔ Prints h p o.code o.lines :=
  ⟨fun ⟨answer, files, shown⟩ => ⟨answer, files, shown⟩,
    fun ⟨answer, files, shown⟩ => ⟨answer, files, shown⟩⟩

/-- What only takes notes before a program leaves its outcome as it is. -/
theorem bind {α : Type} {q : Program α} {f : α → Program Exit} (notes : Notes h q)
    (ends : Ends (h.after q) (f (h.answer q)) o) : Ends h (q >>= f) o :=
  iff_prints.mpr (.bind notes (iff_prints.mp ends))

end Ends

variable {h : Host} {schema name path text : String} {collection : Option String}

theorem loadInstance_looks : (loadInstance path).Asks Request.Looks := by
  refine Asks.bind readText_looks fun reply => ?_
  split
  · exact asks_pure _
  · exact asks_pure _
  · exact asks_pure _
  · split <;> exact asks_pure _

theorem readText_of_read {p : Path} {bytes : List UInt8} (holds : h.answer (.read p) = .ok bytes) :
    h.answer (readText p) = (textOfBytes bytes).mapError fun x => .error (.notUtf8 x) := by
  simp only [readText, answer_bind, holds]
  rfl

namespace Sample

def indentedText : String := "\x7b\n\t\"row\": 3\n\x7d\n"

def rowsText : String :=
  "$defs: \x7bSeat: \x7btype: object, properties: " ++
    "\x7brow: \x7btype: integer, minimum: 1\x7d\x7d\x7d\x7d\n"

def indented : Host where
  disk := ⟨[(["work"], .directory),
    (["work", "api.yaml"], .file (Text.Utf8.encode rowsText.toList)),
    (["work", "seat.json"], .file (Text.Utf8.encode indentedText.toList))]⟩
  here := ["work"]
  log := .unset
  written := []

end Sample

end CommandLine

end SchemaChecks
