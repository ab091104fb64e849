import SchemaChecks.Proofs.InstanceCheck
import SchemaChecks.Proofs.Reading
import SchemaChecks.Proofs.Repetition

/-!
The three ways to read a file of schemas: a compile run, a description, and a check. Each chooses
the format, the collection and the path in its own way, and all work on the same extraction.
-/

namespace SchemaChecks

open Program Host

/-! ### Paths that lead to a file -/

namespace Disk

variable {d : Disk} {here place : Place} {p : Path} {content : List UInt8}

def IsTree (d : Disk) : Prop := ∀ q n, d.get? q = some n → d.get? q.dropLast = some .directory

/-- The last name of a path that leads to a file is the file's own. -/
theorem name_of_locate (tree : d.IsTree) (inside : d.get? here = some .directory)
    (located : d.locate here p = .ok place) (held : d.get? place = some (.file content)) :
    p.name = place.getLastD "" := by
  have start : d.get? (if p.isAbsolute then [] else here) = some .directory := by
    split
    · rfl
    · exact inside
  unfold locate at located
  generalize (if p.isAbsolute then [] else here) = first at *
  rcases List.eq_nil_or_concat p.names with none | ⟨names, last, some⟩
  · rw [none, walk] at located
    obtain rfl := Except.ok.inj located
    cases start.symm.trans held
  · rw [some, List.concat_eq_append, walk_append] at located
    obtain ⟨mid, -, steps⟩ := exists_of_bind_eq_ok located
    unfold walk at steps
    split at steps
    · cases steps
    · cases steps
    · rename_i directory
      split at steps
      · -- a step up leads to a directory, and to no file
        rw [walk] at steps
        obtain rfl := Except.ok.inj steps
        cases (tree mid _ directory).symm.trans held
      · split at steps
        · cases steps
        · rw [walk] at steps
          obtain rfl := Except.ok.inj steps
          simp [Path.name, some]

end Disk

namespace Host

variable {h : Host} {p q : Path} {place : Place} {bytes : List UInt8}

structure Leads (h : Host) (p : Path) (place : Place) (bytes : List UInt8) : Prop where
  accepted : p.isRefused = false
  located : h.disk.locate h.here p = .ok place
  held : h.disk.get? place = some (.file bytes)

theorem Leads.readText (leads : Leads h p place bytes) :
    h.answer (readText p) = (textOfBytes bytes).mapError fun e => .error (.notUtf8 e) := by
  have node := Disk.nodeAt_eq_ok.mpr ⟨place, leads.located, leads.held⟩
  exact CommandLine.readText_of_read
    (answer_read_eq_ok.mpr ⟨leads.accepted, Disk.read_eq_ok.mpr node⟩)

/-- Paths that lead to one file stand for one format. -/
theorem Leads.format (tree : h.disk.IsTree) (inside : h.disk.get? h.here = some .directory)
    (first : Leads h p place bytes) (second : Leads h q place bytes) :
    Format.ofPath? p = Format.ofPath? q := by
  have names : p.name = q.name :=
    (Disk.name_of_locate tree inside first.located first.held).trans
      (Disk.name_of_locate tree inside second.located second.held).symm
  unfold Format.ofPath? Path.suffix
  rw [names]

end Host

/-! ### The schemas of a file -/

inductive Refusal where
  | notUtf8 (e : Text.Utf8.Malformed)
  | load (e : LoadError)
  | structural (e : StructureError)

def Refusal.compilation (path : String) : Refusal → CompilationError
  | .notUtf8 e => .schemaNotUtf8 path e
  | .load e => .load e
  | .structural e => .structural e

def Refusal.message (path : String) (x : Refusal) : String := (x.compilation path).message

structure Schemas where
  document : Document
  definitions : List Definition
  extraction : Extraction

namespace Schemas

def ofText (text : String) (format : Option Format) (collection : Option String) :
    Except (Failure Refusal) Schemas :=
  match Document.load text (format.map Format.name) with
  | .error e => .error (e.map .load)
  | .ok d =>
    match definitionsOf d.root collection, Extraction.ofTree d.root collection with
    | .error e, _ => .error (.error (.structural e))
    | .ok _, .error e => .error (e.map .structural)
    | .ok definitions, .ok extraction => .ok ⟨d, definitions, extraction⟩

variable {bytes : List UInt8} {format : Option Format} {collection : Option String} {text : String}
  {s : Schemas} {e : Failure Refusal}

end Schemas

/-! ### Texts that can be written -/

/-- What keeps texts from being written: a number in them has too many digits, or one of them has a
surrogate. -/
inductive Breaks (printable : Prop) (texts : List String) : Fault → Prop where
  | digits (long : ¬ printable) : Breaks printable texts (.scalar .tooManyDigitsToWrite)
  | surrogate {text : String} (mem : text ∈ texts) (lone : ¬ Text.HasBytes text.toList)
      (e : Text.Utf8.Unencodable) : Breaks printable texts (.unencodable e)

theorem Breaks.mono {first all : Prop} {some texts : List String} {f : Fault}
    (breaks : Breaks first some f) (within : all → first) (subset : some ⊆ texts) :
    Breaks all texts f := by
  cases breaks with
  | digits long => exact .digits (mt within long)
  | surrogate mem lone e => exact .surrogate (subset mem) lone e

namespace CommandLine

variable {h : Host} {schema : String} {collection : Option String} {place : Place}
  {bytes : List UInt8} {e : Failure Refusal} {s : Schemas}

def shown (lines : List String) : List (Stream × String) :=
  lines.map fun line => (.output, line ++ "\n")

inductive Shows (h : Host) (p : Program Exit) (printable : Prop) (lines : List String) : Prop where
  | whole (digits : printable) (bytes : ∀ line ∈ lines, Text.HasBytes line.toList)
      (answer : h.answer p = .ok 0)
      (after : h.after p = { h with written := h.written ++ shown lines })
  | broken {f : Fault} (breaks : Breaks printable lines f)
      (answer : h.answer p = .error (.fault f))

/-- Lines after lines. -/
theorem Shows.andThen {p q : Program Exit} {first second : Prop} {before after : List String}
    (shows : Shows h p first before) (next : ∀ k, Shows k q second after) :
    Shows h (p >>= fun reply => match reply with
      | .error e => pure (.error e)
      | .ok _ => q) (first ∧ second) (before ++ after) := by
  cases shows with
  | broken breaks answer =>
    refine .broken (breaks.mono And.left (List.subset_append_left before after)) ?_
    rw [answer_bind, answer]
    rfl
  | whole digits bytes answer written =>
    cases next (h.after p) with
    | broken breaks stops =>
      refine .broken (breaks.mono And.right (List.subset_append_right before after)) ?_
      rw [answer_bind, answer]
      exact stops
    | whole more others ends later =>
      refine .whole ⟨digits, more⟩ ?_ ?_ ?_
      · intro line mem
        exact (List.mem_append.mp mem).elim (bytes line) (others line)
      · rw [answer_bind, answer]
        exact ends
      · rw [after_bind, answer]
        refine later.trans ?_
        simp [written, shown]

theorem Shows.congr {p : Program Exit} {first second : Prop} {lines : List String}
    (shows : Shows h p first lines) (same : first ↔ second) : Shows h p second lines := by
  rwa [← same]

end CommandLine

namespace CompileRun

variable {h : Host} {c : Configuration} {o : Option Path} {p q : Path} {r : CompileRequest}
  {place : Place} {bytes : List UInt8} {e : Failure Refusal} {s : Schemas} {text : String}

structure Configured (h : Host) (r : CompileRequest) (c : Configuration) (o : Option Path)
    (q : Path) (place : Place) (bytes : List UInt8) : Prop where
  loads : h.answer (Configuration.load (.ofText r.config)) = .ok c
  overrides : h.answer (override r) = .ok o
  named : c.source = .file q
  leads : Leads h q place bytes

theorem Configured.sourceText (configured : Configured h r c o q place bytes) :
    h.answer (sourceText c.source) =
      (textOfBytes bytes).mapError fun e => .error (.schemaNotUtf8 q.text e) := by
  simp only [configured.named, CompileRun.sourceText, answer_bind, configured.leads.readText]
  cases textOfBytes bytes <;> rfl

end CompileRun

open CommandLine CompileRun Schemas

namespace CompileRun.Sample

end CompileRun.Sample

end SchemaChecks
