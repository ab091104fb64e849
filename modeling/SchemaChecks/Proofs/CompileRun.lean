import Mathlib.Control.Monad.Basic
import SchemaChecks.CompileRun
import SchemaChecks.Proofs.Files

/-!
What a compile run leaves at its output path. A run that reports why it failed leaves no file there;
the other ways in which it can end without an outcome are listed, stage by stage.
-/

namespace SchemaChecks

open Program Host

section looking

variable {p : Path} {r : CompileRequest}

theorem exists?_looks : (exists? p).Asks Request.Looks := by
  refine Asks.bind (asks_perform trivial) fun reply => ?_
  split <;> exact asks_pure _

theorem readText_looks : (readText p).Asks Request.Looks := by
  refine Asks.bind (asks_perform trivial) fun reply => ?_
  split <;> exact asks_pure _

theorem load_looks : (Configuration.load p).Asks Request.Looks := by
  refine Asks.bind exists?_looks fun found => ?_
  split
  · exact asks_pure _
  · exact asks_pure _
  · refine Asks.bind readText_looks fun text => ?_
    split
    · exact asks_pure _
    · exact Asks.bind (asks_perform trivial) fun _ => asks_pure _

theorem resolve_looks (q : Path) : (resolve q).Asks Request.Looks :=
  Asks.bind (asks_perform trivial) fun _ => asks_pure _

theorem override_looks : (CompileRun.override r).Asks Request.Looks := by
  unfold CompileRun.override
  split
  · exact asks_pure _
  · exact asks_pure _
  · refine Asks.bind (resolve_looks _) fun resolved => ?_
    split <;> exact asks_pure _

theorem sourceText_looks (source : SchemaSource) :
    (CompileRun.sourceText source).Asks Request.Looks := by
  cases source with
  | inline text => exact asks_pure _
  | file p => exact Asks.bind readText_looks fun _ => asks_pure _

theorem noteAll_isNote (records : List Log.Record) : (noteAll records).Asks Request.IsNote := by
  induction records with
  | nil => exact asks_pure _
  | cons r rest ih => exact Asks.bind (asks_perform trivial) fun _ => ih

theorem noteAll_spares (records : List Log.Record) : (noteAll records).Asks Request.Spares :=
  (noteAll_isNote records).imp fun _ => Request.IsNote.spares

theorem compile_isNote (c : Configuration) (text : String) :
    (CompileRun.compile c text).Asks Request.IsNote := by
  unfold CompileRun.compile
  split
  · exact asks_pure _
  · refine Asks.bind (noteAll_isNote _) fun _ => Asks.bind (noteAll_isNote _) fun _ => ?_
    split
    · exact asks_pure _
    · refine Asks.bind (noteAll_isNote _) fun _ => ?_
      split
      · exact asks_pure _
      · split <;> exact asks_pure _

theorem compile_spares (c : Configuration) (text : String) :
    (CompileRun.compile c text).Asks Request.Spares :=
  (compile_isNote c text).imp fun _ => Request.IsNote.spares

end looking

namespace Host

variable {h : Host} {p : Path}

/-- What stands at a path is no file, or the path itself is refused, so that nothing there can be
removed. -/
def Unremovable (h : Host) (p : Path) : Prop :=
  p.isRefused = false ∧ (h.disk.nodeAt h.here p = .ok .directory ∨
    ∃ e, h.disk.nodeAt h.here p = .error e ∧ e.isAbsence = false)

theorem answer_kindOf (accepted : p.isRefused = false) :
    h.answer (kindOf p) = match h.disk.nodeAt h.here p with
      | .ok n => .ok n.kind
      | .error e => .error (.error ⟨e, p.text, none⟩) := by
  change guarded p ((h.disk.nodeAt h.here p).map Node.kind) = _
  unfold guarded
  cases h.disk.nodeAt h.here p <;> simp [accepted, Except.map]

theorem exists?_of_refused (hp : p.isRefused = true) : h.answer (exists? p) = .ok false := by
  have hk : h.answer (kindOf p) = .error (.fault p.refusal) := by
    change guarded p _ = _
    simp [guarded, hp]
  simp only [exists?, answer_bind, hk]
  rfl

theorem exists?_of_node {n : Node} (accepted : p.isRefused = false)
    (hn : h.disk.nodeAt h.here p = .ok n) : h.answer (exists? p) = .ok true := by
  simp only [exists?, answer_bind, answer_kindOf accepted, hn]
  rfl

theorem exists?_of_error {e : FileErrorKind} (accepted : p.isRefused = false)
    (hn : h.disk.nodeAt h.here p = .error e) :
    h.answer (exists? p) = if e.isAbsence then .ok false else .error ⟨e, p.text, none⟩ := by
  simp only [exists?, answer_bind, answer_kindOf accepted, hn]
  rfl

end Host

namespace CompileRun

variable {h : Host} {p : Path}

theorem removeStale_of_unremovable (hu : h.Unremovable p) :
    ∃ e, h.answer (removeStale p) = .error (.error e) := by
  obtain ⟨accepted, directory | ⟨e, refused, present⟩⟩ := hu
  · have found : h.answer (exists? p) = .ok true := exists?_of_node accepted directory
    refine ⟨⟨.isADirectory, p.text, none⟩, ?_⟩
    simp only [removeStale, answer_bind, found, after_of_looks exists?_looks, answer_remove]
    simp [change, guarded, accepted, Disk.remove_of_directory directory]
  · have unknown := exists?_of_error (h := h) accepted refused
    refine ⟨⟨e, p.text, none⟩, ?_⟩
    simp [removeStale, unknown, present]

theorem removeStale_of_removable (hu : ¬ h.Unremovable p) :
    h.answer (removeStale p) = .ok () ∧ ¬ (h.after (removeStale p)).HasFile p := by
  cases accepted : p.isRefused with
  | true =>
    have missing : h.answer (exists? p) = .ok false := exists?_of_refused accepted
    simp only [removeStale, answer_bind, after_bind, missing, after_of_looks exists?_looks]
    exact ⟨rfl, not_hasFile_of_refused accepted⟩
  | false =>
    cases hn : h.disk.nodeAt h.here p with
    | error e =>
      cases absent : e.isAbsence with
      | false => exact absurd ⟨accepted, .inr ⟨e, hn, absent⟩⟩ hu
      | true =>
        have missing : h.answer (exists? p) = .ok false := by
          rw [exists?_of_error accepted hn, if_pos absent]
        simp only [removeStale, answer_bind, after_bind, missing, after_of_looks exists?_looks]
        exact ⟨rfl, not_hasFile_of_error hn⟩
    | ok n =>
      cases n with
      | directory => exact absurd ⟨accepted, .inl hn⟩ hu
      | file content =>
        have found : h.answer (exists? p) = .ok true := exists?_of_node accepted hn
        obtain ⟨d, removed⟩ := Disk.remove_of_file hn
        simp only [removeStale, answer_bind, after_bind, found, after_of_looks exists?_looks,
          answer_remove, after_remove]
        simp only [after_note_disk, after_note_here, change, guarded, accepted, removed]
        refine ⟨rfl, ?_⟩
        rintro ⟨content, hr⟩
        exact Disk.read_after_remove removed content (answer_read_eq_ok.mp hr).2

theorem giveUp_of_unremovable {α : Type} (hu : h.Unremovable p) (e : CompilationError) :
    ∃ x, h.answer (@giveUp α p e) = .error (.removal x) := by
  obtain ⟨x, stuck⟩ := removeStale_of_unremovable hu
  exact ⟨x, by simp [giveUp, stuck]⟩

theorem giveUp_of_removable {α : Type} (hu : ¬ h.Unremovable p) (e : CompilationError) :
    h.answer (@giveUp α p e) = .error (.compilation e) ∧
      ¬ (h.after (@giveUp α p e)).HasFile p := by
  obtain ⟨removed, gone⟩ := removeStale_of_removable hu
  simp only [giveUp, answer_bind, after_bind, removed]
  exact ⟨rfl, gone⟩

theorem giveUp_ne_fault (e : CompilationError) (f : Fault) :
    h.answer (@giveUp CompileOutcome p e) ≠ .error (.fault f) := by
  by_cases stuck : h.Unremovable p
  · obtain ⟨x, removal⟩ := @giveUp_of_unremovable h p CompileOutcome stuck e
    simp [removal]
  · simp [giveUp_of_removable stuck e]

variable {c : Configuration} {r : CompileRequest}

/-- The path at which a run writes or removes: the override, or else the configuration's output if
the configuration loads. -/
def effectiveOutput (h : Host) (r : CompileRequest) : Option Path :=
  match h.answer (override r), h.answer (Configuration.load (.ofText r.config)) with
  | .ok (some p), _ => some p
  | .ok none, .ok c => some c.output
  | _, _ => none

/-- Only an override that no file may have for a path is refused. -/
theorem answer_override_error_iff {f : Fault} :
    h.answer (override r) = .error f ↔
      ∃ written, r.output = some written ∧ (Path.ofText written).isRefused = true ∧
        f = (Path.ofText written).refusedPart.refusal := by
  unfold override
  split
  · rename_i none_given
    simp [none_given]
  · rename_i empty
    have accepted : (Path.ofText "").isRefused = false := by decide
    simp [empty, accepted]
  · rename_i written _ given
    simp only [answer_bind, given, Option.some.injEq, exists_eq_left']
    have resolves : h.answer (resolve (.ofText written)) = (Path.ofText written).resolved h.here :=
      rfl
    rw [resolves]
    unfold Path.resolved
    cases refused : (Path.ofText written).isRefused with
    | true => simp [eq_comm]
    | false => simp

theorem accepted_of_override {o : Option Path} (overrides : h.answer (override r) = .ok o)
    (written : String) (given : r.output = some written) :
    (Path.ofText written).isRefused = false := by
  cases refused : (Path.ofText written).isRefused with
  | false => rfl
  | true =>
    rw [answer_override_error_iff.mpr ⟨written, given, refused, rfl⟩] at overrides
    cases overrides

inductive Course (h : Host) (r : CompileRequest) :
    Except CompileStop CompileOutcome → Host → Prop
  | loadFault {f : Fault}
      (loads : h.answer (Configuration.load (.ofText r.config)) = .error (.fault f)) :
      Course h r (.error (.fault f)) h
  | overrideFault {f : Fault} (overrides : h.answer (override r) = .error f) :
      Course h r (.error (.fault f)) h
  | unconfigured {e : ConfigurationError}
      (loads : h.answer (Configuration.load (.ofText r.config)) = .error (.error e))
      (overrides : h.answer (override r) = .ok none) :
      Course h r (.error (.compilation (.configuration e))) h
  | givenUpUnconfigured {e : ConfigurationError} {p : Path}
      (loads : h.answer (Configuration.load (.ofText r.config)) = .error (.error e))
      (overrides : h.answer (override r) = .ok (some p)) :
      Course h r (h.answer (giveUp p (.configuration e)))
        (h.after (@giveUp CompileOutcome p (.configuration e)))
  | faulty {c : Configuration} {o : Option Path} {f : Fault}
      (loads : h.answer (Configuration.load (.ofText r.config)) = .ok c)
      (overrides : h.answer (override r) = .ok o)
      (produces : h.answer (produce c (outputPath c o)) = .error (.fault f)) :
      Course h r (.error (.fault f)) (h.after (produce c (outputPath c o)))
  | givenUp {c : Configuration} {o : Option Path} {e : CompilationError}
      (loads : h.answer (Configuration.load (.ofText r.config)) = .ok c)
      (overrides : h.answer (override r) = .ok o)
      (produces : h.answer (produce c (outputPath c o)) = .error (.error e)) :
      Course h r ((h.after (produce c (outputPath c o))).answer (giveUp (outputPath c o) e))
        ((h.after (produce c (outputPath c o))).after
          (@giveUp CompileOutcome (outputPath c o) e))
  | done {c : Configuration} {o : Option Path} {outcome : CompileOutcome} {k : Host}
      (loads : h.answer (Configuration.load (.ofText r.config)) = .ok c)
      (overrides : h.answer (override r) = .ok o)
      (produces : h.answer (produce c (outputPath c o)) = .ok outcome) :
      Course h r (.ok outcome) k

theorem run_of_loads {c : Configuration}
    (loads : h.answer (Configuration.load (.ofText r.config)) = .ok c) :
    h.answer (run r) = h.answer (withConfiguration c r) ∧
      h.after (run r) = h.after (withConfiguration c r) := by
  simp only [run, answer_bind, after_bind, after_of_looks load_looks, loads, and_self]

theorem course_of_run (h : Host) (r : CompileRequest) :
    Course h r (h.answer (run r)) (h.after (run r)) := by
  unfold run
  simp only [answer_bind, after_bind, after_of_looks load_looks]
  cases loads : h.answer (Configuration.load (.ofText r.config)) with
  | error e =>
    cases e with
    | fault f => exact .loadFault loads
    | error e =>
      simp only [withoutConfiguration, answer_bind, after_bind, after_of_looks override_looks]
      cases overrides : h.answer (override r) with
      | error f => exact .overrideFault overrides
      | ok o =>
        cases o with
        | none => exact .unconfigured loads overrides
        | some p => exact .givenUpUnconfigured loads overrides
  | ok c =>
    simp only [withConfiguration, answer_bind, after_bind, after_of_looks override_looks]
    cases overrides : h.answer (override r) with
    | error f => exact .overrideFault overrides
    | ok o =>
      simp only [answer_bind, after_bind]
      cases produces : h.answer (produce c (outputPath c o)) with
      | error e =>
        cases e with
        | fault f => exact .faulty loads overrides produces
        | error e => exact .givenUp loads overrides produces
      | ok outcome => exact .done loads overrides produces

/-- Directories are made at a path and at those above it, and looked for. -/
theorem makeDirectories_asks {kind : Request → Prop} (looks : ∀ q, kind (.kindOf q)) (fuel : Nat)
    (q : Path) (makes : ∀ names, names <+: q.names → kind (.makeDirectory { q with names })) :
    (makeDirectories fuel q).Asks kind := by
  have ensures : ∀ (q : Path) (reply : Reply Unit),
      (makeDirectories.ensureDirectory q reply).Asks kind := by
    intro q reply
    unfold makeDirectories.ensureDirectory
    split
    · refine Asks.bind (asks_perform (looks q)) fun _ => ?_
      split <;> exact asks_pure _
    · exact asks_pure _
  induction fuel generalizing q with
  | zero => exact asks_pure _
  | succ fuel ih =>
    have here : kind (.makeDirectory q) := makes q.names (List.prefix_refl _)
    refine Asks.bind (asks_perform here) fun made => ?_
    split
    · exact asks_pure _
    · exact asks_pure _
    · split
      · have above := ih q.parent fun names shorter =>
          makes names (shorter.trans (List.dropLast_prefix _))
        refine Asks.bind above fun made => ?_
        split
        · exact asks_pure _
        · exact Asks.bind (asks_perform here) fun _ => ensures q _
      · exact ensures q _

theorem makeDirectories_adds (fuel : Nat) (q : Path) :
    (makeDirectories fuel q).Asks Request.Adds :=
  makeDirectories_asks (fun _ => trivial) fuel q fun _ _ => trivial

theorem discardTemporary_ne_fault (q : Path) (e : FileError) (f : Fault) :
    h.answer (discardTemporary q (.error e)) ≠ .error (.fault f) := by
  simp only [discardTemporary, answer_bind]
  split <;> simp

/-- A fault in writing leaves every file as it was. -/
theorem writeWhole_keeps_of_fault {text : String} {f : Fault}
    (fault : h.answer (writeWhole p text) = .error (.fault f)) :
    h.Keeps (h.after (writeWhole p text)) := by
  unfold writeWhole at fault ⊢
  simp only [answer_bind, after_bind] at fault ⊢
  have directories := keeps_of_adds (makeDirectories_adds (p.parent.names.length + 1) p.parent) h
  split at fault
  · rename_i e stops
    simpa [stops] using directories
  · simp only [answer_bind, after_bind] at fault ⊢
    generalize h.after (makeDirectories (p.parent.names.length + 1) p.parent) = k at *
    have created := directories.trans
      (keeps_of_adds (p := createTemporary p.parent p.name) (asks_perform trivial) k)
    split at fault
    · rename_i e stops
      simpa [stops] using created
    · rename_i temporary placed
      simp only [fillAndMove, answer_bind, after_bind] at fault ⊢
      generalize k.after (createTemporary p.parent p.name) = l at *
      split at fault
      · rename_i e stops
        cases e with
        | error e => exact absurd fault (discardTemporary_ne_fault _ e f)
        | fault f' =>
          have unchanged : l.after (writeText temporary text) = l := after_writeText_of_error stops
          rw [unchanged]
          exact created
      · simp only [answer_bind, after_bind] at fault ⊢
        split at fault
        · rename_i e stops
          cases e with
          | error e => exact absurd fault (discardTemporary_ne_fault _ e f)
          | fault f' => exact absurd stops (replace_ne_fault _ _ f')
        · cases fault

theorem produce_keeps_of_fault {f : Fault}
    (fault : h.answer (produce c p) = .error (.fault f)) : h.Keeps (h.after (produce c p)) := by
  unfold produce at fault ⊢
  simp only [answer_bind, after_bind, after_of_looks (sourceText_looks c.source)] at fault ⊢
  split at fault
  · rename_i e stops
    simpa [stops] using Keeps.refl h
  · rename_i text reads
    simp only [answer_bind, after_bind] at fault ⊢
    have noted := (sameFiles_of_spares (compile_spares c text) h).keeps
    generalize h.after (compile c text) = k at *
    split at fault
    · rename_i e stops
      simpa [stops] using noted
    · rename_i result compiles
      simp only [answer_bind, after_bind] at fault ⊢
      split at fault
      · rename_i e stops
        cases e with
        | error e => simp [Failure.map] at fault
        | fault f' => exact noted.trans (writeWhole_keeps_of_fault stops)
      · cases fault

/-- A run that ends with a fault leaves every file as it was. -/
theorem run_keeps_of_fault {f : Fault} (fault : h.answer (run r) = .error (.fault f)) :
    h.Keeps (h.after (run r)) := by
  have course := course_of_run h r
  generalize h.after (run r) = k at course ⊢
  generalize h.answer (run r) = a at course fault
  cases course with
  | loadFault | overrideFault => exact Keeps.refl h
  | unconfigured | done => cases fault
  | givenUpUnconfigured | givenUp => exact absurd fault (giveUp_ne_fault _ f)
  | faulty loads overrides produces => exact produce_keeps_of_fault produces

/-- An old module outlives a run that ends with a fault. -/
theorem stale_of_fault {f : Fault} (fault : h.answer (run r) = .error (.fault f)) {q : Path}
    {content : List UInt8} (old : h.answer (.read q) = .ok content) :
    (h.after (run r)).answer (.read q) = .ok content :=
  (run_keeps_of_fault fault).read old

def Sample.misdated : Host where
  disk := ⟨[(["work"], .directory),
    (["work", "api.yaml"], .file (Text.Utf8.encode "since: 2020-13-01".toList)),
    (["work", "run.yaml"], .file (Text.Utf8.encode
      "schema: \x7bpath: api.yaml\x7d\noutput: \x7bpath: out.py\x7d\n".toList)),
    (["work", "out.py"], .file (Text.Utf8.encode "VALIDATORS = \x7b\x7d\n".toList))]⟩
  here := ["work"]
  log := .unset
  written := []

/-- A date with a thirteenth month ends the run, and the old module is still there. -/
example :
    Sample.misdated.answer (run ⟨"run.yaml", none⟩) =
        .error (.fault (.scalar (.calendar .monthOutOfRange))) ∧
      (Sample.misdated.after (run ⟨"run.yaml", none⟩)).disk = Sample.misdated.disk := by
  decide +kernel

end CompileRun

end SchemaChecks
