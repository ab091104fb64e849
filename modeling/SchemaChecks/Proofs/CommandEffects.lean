import SchemaChecks.Proofs.Footprint
import SchemaChecks.Proofs.InstanceCheck

/-!
What each command may change on the disk, whichever operations fail. Commands that answer questions
change nothing, the template of a configuration is written where nothing was, and a compile run
touches its output path alone, but for directories on the way and for a draft that it could not
remove or that no file can hold.
-/

namespace SchemaChecks

open Program Host

namespace CommandLine

/-! ### Programs that leave the files alone -/

theorem echo_spares (stream : Stream) (line : String) : (echo stream line).Asks Request.Spares :=
  asks_perform trivial

theorem splitLog_spares (level threshold : Int) :
    (Program.perform (.splitLog level threshold)).Asks Request.Spares :=
  asks_perform (r := .splitLog level threshold) trivial

theorem report_spares (message : String) : (report message).Asks Request.Spares :=
  Asks.bind (echo_spares _ _) fun _ => asks_pure _

theorem succeed_spares (line : String) : (succeed line).Asks Request.Spares := by
  unfold succeed
  split
  · exact asks_pure _
  · exact Asks.bind (echo_spares _ _) fun _ => asks_pure _

theorem failWith_spares {ε : Type} (message : ε → String) (e : Failure ε) :
    (failWith message e).Asks Request.Spares := by
  cases e with
  | error e => exact report_spares _
  | fault f => exact asks_pure _

theorem loadDocument_spares (schema : String) : (loadDocument schema).Asks Request.Spares := by
  refine Asks.bind (readText_looks.imp fun _ => Request.Looks.spares) fun text => ?_
  split
  · exact asks_pure _
  · split
    · exact asks_pure _
    · exact Asks.bind (noteAll_spares _) fun _ => asks_pure _

theorem describeFields_spares (fields : List FieldChecks) :
    (describeFields fields).Asks Request.Spares := by
  induction fields with
  | nil => exact asks_pure _
  | cons f rest ih =>
    unfold describeFields
    split
    · refine Asks.bind (succeed_spares _) fun shown => ?_
      split
      · exact asks_pure _
      · exact ih
    · exact asks_pure _

theorem describeSchemas_spares (e : Extraction) : (describeSchemas e).Asks Request.Spares := by
  induction e with
  | nil => exact asks_pure _
  | cons schema rest ih =>
    refine Asks.bind (succeed_spares _) fun shown => ?_
    split
    · exact asks_pure _
    · refine Asks.bind (describeFields_spares _) fun ended => ?_
      split
      · exact asks_pure _
      · exact ih

theorem describe_spares (schema : String) (collection : Option String) :
    (describe schema collection).Asks Request.Spares := by
  refine Asks.bind (loadDocument_spares _) fun loaded => ?_
  split
  · exact failWith_spares _ _
  · refine Asks.bind (noteAll_spares _) fun _ => ?_
    split
    · exact failWith_spares _ _
    · exact succeed_spares _
    · exact describeSchemas_spares _

theorem checkInstance_spares (validators : ValidatorSet) (name path : String) :
    (checkInstance validators name path).Asks Request.Spares := by
  refine Asks.bind (loadInstance_looks.imp fun _ => Request.Looks.spares) fun loaded => ?_
  split
  · exact failWith_spares _ _
  · split
    · exact asks_pure _
    · exact report_spares _
    · exact succeed_spares _

theorem checkExtraction_spares (definitions : List Definition) (e : Extraction)
    (name path : String) : (checkExtraction definitions e name path).Asks Request.Spares := by
  unfold checkExtraction
  split
  · exact asks_pure _
  · exact asks_pure _
  · refine Asks.bind (noteAll_spares _) fun _ => ?_
    split
    · exact checkInstance_spares _ _ _
    · exact report_spares _

theorem check_spares (schema name path : String) (collection : Option String) :
    (check schema name path collection).Asks Request.Spares := by
  refine Asks.bind (loadDocument_spares _) fun loaded => ?_
  split
  · exact failWith_spares _ _
  · refine Asks.bind (noteAll_spares _) fun _ => ?_
    split
    · exact report_spares _
    · refine Asks.bind (noteAll_spares _) fun _ => ?_
      split
      · exact failWith_spares _ _
      · exact checkExtraction_spares _ _ _ _

theorem misuse_spares (c : Command) (e : UsageError) : (misuse c e).Asks Request.Spares := by
  unfold misuse
  split
  · exact Asks.bind (echo_spares _ _) fun _ => Asks.bind (echo_spares _ _) fun _ =>
      Asks.bind (echo_spares _ _) fun _ => asks_pure _
  · exact Asks.bind (echo_spares _ _) fun _ => asks_pure _

theorem answer_spares (c : Command) (below : List Command) (a : Action) :
    (answer c below a).Asks Request.Spares := by
  unfold answer
  split <;> exact succeed_spares _

theorem runUnknown_spares (name : String) (args : List String) :
    (runUnknown name args).Asks Request.Spares := by
  unfold runUnknown
  split
  · split
    · exact misuse_spares _ _
    · split
      · exact answer_spares _ _ _
      · exact misuse_spares _ _
  · exact misuse_spares _ _

/-! ### The command that is carried out -/

def lineFor? (v : Verb) (args : List String) : Option Line :=
  match Arguments.read v.command.options true args with
  | .error _ => none
  | .ok l =>
    if l.eager?.isNone && (l.paths.find? fun p => (Path.ofText p).isRefused).isNone &&
        (l.missing? v.command.options).isNone && l.operands.isEmpty then some l
    else none

/-- The command that arguments ask for, with what they say to it, if it is carried out. -/
def called? (args : List String) : Option (Verb × Line) :=
  match Arguments.read program.options false args with
  | .error _ => none
  | .ok l =>
    match l.eager?, l.operands with
    | none, name :: rest => (Verb.ofName? name).bind fun v => (lineFor? v rest).map (v, ·)
    | _, _ => none

/-- A command is either carried out or leaves the files alone. -/
theorem runVerb_cases (v : Verb) (args : List String) :
    (∃ l, lineFor? v args = some l ∧ runVerb v args = perform v l) ∨
      lineFor? v args = none ∧ (runVerb v args).Asks Request.Spares := by
  unfold lineFor? runVerb
  dsimp only
  cases Arguments.read v.command.options true args with
  | error e => exact .inr ⟨rfl, misuse_spares _ _⟩
  | ok l =>
    dsimp only
    cases l.eager? with
    | some a => exact .inr ⟨rfl, answer_spares _ _ _⟩
    | none =>
      dsimp only
      cases l.paths.find? fun p => (Path.ofText p).isRefused with
      | some p => exact .inr ⟨rfl, asks_pure _⟩
      | none =>
        dsimp only
        cases l.missing? v.command.options with
        | some o => exact .inr ⟨rfl, misuse_spares _ _⟩
        | none =>
          cases l.operands.isEmpty with
          | true => exact .inl ⟨l, rfl, rfl⟩
          | false =>
            simp only [Bool.false_eq_true, if_false]
            exact .inr ⟨rfl, misuse_spares _ _⟩

def logged {α : Type} (verbose : Bool) (p : Program α) : Program α := do
  if verbose then Program.perform (.splitLog Log.debug Log.warning)
  p

theorem logged_spares {α : Type} (verbose : Bool) {p : Program α} (spares : p.Asks Request.Spares) :
    (logged verbose p).Asks Request.Spares := by
  cases verbose with
  | false => exact spares
  | true => exact Asks.bind (splitLog_spares _ _) fun _ => spares

/-- Arguments that call a command carry it out, and others leave the files alone. -/
theorem run_cases (args : List String) :
    (∃ v l verbose, called? args = some (v, l) ∧ run args = logged verbose (perform v l)) ∨
      called? args = none ∧ (run args).Asks Request.Spares := by
  cases args with
  | nil => exact .inr ⟨rfl, Asks.bind (echo_spares _ _) fun _ => asks_pure _⟩
  | cons first others =>
    unfold called? run
    simp only [List.isEmpty_cons, Bool.false_eq_true, if_false]
    cases Arguments.read program.options false (first :: others) with
    | error e => exact .inr ⟨rfl, misuse_spares _ _⟩
    | ok w =>
      dsimp only
      cases w.eager? with
      | some a => exact .inr ⟨rfl, answer_spares _ _ _⟩
      | none =>
        cases w.operands with
        | nil => exact .inr ⟨rfl, misuse_spares _ _⟩
        | cons name rest =>
          dsimp only
          cases Verb.ofName? name with
          | none => exact .inr ⟨rfl, runUnknown_spares _ _⟩
          | some v =>
            rcases runVerb_cases v rest with ⟨l, line, carries⟩ | ⟨line, spares⟩
            · have started := congrArg (logged (w.has verboseOption)) carries
              exact .inl ⟨v, l, w.has verboseOption, by simp [line], started⟩
            · exact .inr ⟨by simp [line], logged_spares (w.has verboseOption) spares⟩

def IsLogFor (h : Host) (log : Log) : Prop :=
  log = h.log ∨ log = h.log.split Log.debug Log.warning .standard

/-- A command that is called is carried out with the log as it is or split. -/
theorem run_of_called {v : Verb} {l : Line} {args : List String} (h : Host)
    (calls : called? args = some (v, l)) : ∃ log, IsLogFor h log ∧
      h.answer (run args) = ({ h with log := log } : Host).answer (perform v l) ∧
      h.after (run args) = ({ h with log := log } : Host).after (perform v l) := by
  rcases run_cases args with ⟨v', l', verbose, calls', carried⟩ | ⟨other, -⟩
  · obtain ⟨rfl, rfl⟩ := Prod.mk.inj (Option.some.inj (calls.symm.trans calls'))
    rw [carried]
    cases verbose with
    | false => exact ⟨h.log, .inl rfl, rfl, rfl⟩
    | true => exact ⟨_, .inr rfl, answer_bind _ _, after_bind _ _⟩
  · rw [calls] at other
    cases other

theorem runs_logged {α : Type} {liable : Request → Prop} {verbose : Bool} {p : Program α}
    {h k : Host} {a : α} (runs : Runs liable (logged verbose p) h a k) :
    ∃ h', SameFiles h h' ∧ Runs liable p h' a k := by
  cases verbose with
  | false => exact ⟨h, SameFiles.refl h, runs⟩
  | true =>
    obtain ⟨_, h', splits, rest⟩ := runs_bind.mp runs
    exact ⟨h', splits.sameFiles (splitLog_spares _ _), rest⟩

/-- Options may stand before the command, which needs its own ones to be carried out. -/
example : called? ["-v", "describe", "--schema", "api.yaml"] =
      some (.describe, ⟨[⟨schemaOption, "api.yaml"⟩], []⟩) ∧
    called? ["-v", "describe"] = none := by
  decide +kernel

def shownExit (line : String) : Exit :=
  match Text.Utf8.unencodable? (fun _ => false) line.toList with
  | some e => .error (.fault (.unencodable e))
  | none => .ok 0

section steady

variable {liable : Request → Prop} {h : Host}

theorem report_steady (message : String) :
    (report message).Asks (Request.IsSteady liable) :=
  Asks.bind (asks_perform Request.isSteady_print) fun _ => asks_pure _

theorem succeed_steady (line : String) : (succeed line).Asks (Request.IsSteady liable) := by
  unfold succeed
  split
  · exact asks_pure _
  · exact Asks.bind (asks_perform Request.isSteady_print) fun _ => asks_pure _

theorem answer_succeed (line : String) : h.answer (succeed line) = shownExit line := by
  unfold succeed shownExit
  cases Text.Utf8.unencodable? (fun _ => false) line.toList <;> rfl

end steady

/-! ### The template -/

variable {liable : Request → Prop} {h k : Host} {p : Path}

def templateBytes : List UInt8 := Text.Utf8.encode Scaffold.text.toList

/-- What comes of writing the template: nothing changes, or a new file holds it. If the write breaks
off, a part of it stays. -/
inductive Template (liable : Request → Prop) (p : Path) (h k : Host) :
    Except (Failure Scaffold.Error) Path → Prop
  | unchanged {e : Failure Scaffold.Error} (same : k.disk = h.disk) :
      Template liable p h k (.error e)
  | written {place : Place} (located : h.disk.locate h.here p = .ok place)
      (free : h.disk.get? place = none) (disk : k.disk = h.disk.put place (.file templateBytes)) :
      Template liable p h k (.ok (p.resolve h.here))
  | broken {place : Place} {part : List UInt8} {e : Scaffold.Error}
      (failed : liable (.write p templateBytes)) (located : h.disk.locate h.here p = .ok place)
      (free : h.disk.get? place = none) (begun : part <+: templateBytes)
      (disk : k.disk = h.disk.put place (.file part)) : Template liable p h k (.error (.error e))

/-- Where a path is said to lead to nothing, a file that is written is new. -/
theorem put_of_write {content : List UInt8} (absent : h.answer (exists? p) = .ok false)
    (written : h.answer (write p content) = .ok ()) : p.isRefused = false ∧
      ∃ place, h.disk.locate h.here p = .ok place ∧ h.disk.get? place = none ∧
        (h.after (write p content)).disk = h.disk.put place (.file content) := by
  change (h.change p (h.disk.write h.here p content)).1 = .ok () at written
  change _ ∧ ∃ place, _ ∧ _ ∧ (h.change p (h.disk.write h.here p content)).2.disk = _
  unfold change at written ⊢
  cases hg : guarded p (h.disk.write h.here p content) with
  | error e => simp [hg] at written
  | ok d =>
    have accepted := accepted_of_guarded hg
    have puts := guarded_eq_ok hg
    unfold Disk.write at puts
    cases hl : h.disk.locate h.here p with
    | error e => simp [hl] at puts
    | ok place =>
      have free : h.disk.get? place = none := by
        cases hp : h.disk.get? place with
        | none => rfl
        | some n =>
          have found := exists?_of_node accepted (Disk.nodeAt_eq_ok.mpr ⟨place, hl, hp⟩)
          rw [absent] at found
          cases found
      simp only [hl, free, Except.ok.injEq] at puts
      exact ⟨accepted, place, rfl, free, puts.symm⟩

theorem writeText_template (p : Path) : writeText p Scaffold.text = write p templateBytes := by
  have bytes : Text.HasBytes Scaffold.text.toList := by
    rw [Scaffold.text, Text.hasBytes_join]
    unfold Scaffold.lines
    simp only [List.forall_mem_map, String.toList_append, Text.hasBytes_append,
      List.forall_mem_cons]
    repeat rw [String.toList_ofList]
    decide +kernel
  rcases Host.writeText_cases p Scaffold.text with ⟨-, write⟩ | ⟨e, surrogates, -⟩
  · exact write
  · rw [Text.Utf8.unencodable?_eq_none.mpr bytes] at surrogates
    cases surrogates

theorem template_of_write {a : Except (Failure Scaffold.Error) Path}
    (runs : Runs liable (Scaffold.write p) h a k) : Template liable p h k a := by
  obtain ⟨found, l, looks, rest⟩ := runs_bind.mp runs
  obtain rfl := looks.unmoved exists?_looks
  rcases found with e | _ | _
  · cases rest
    exact .unchanged rfl
  · rcases runs_exists? looks with absent | ⟨-, e, told⟩
    · obtain ⟨reply, l, writes, rest⟩ := runs_bind.mp rest
      rw [writeText_template] at writes
      rcases runs_perform.mp writes with ⟨done, rfl⟩ | ⟨failed, ⟨e, rfl⟩, still | amid⟩
      · replace done : h.answer (write p templateBytes) = reply := done.symm
        change Runs liable _ (h.after (write p templateBytes)) a k at rest
        cases reply with
        | error e =>
          rw [after_write_of_error done] at rest
          cases rest
          exact .unchanged rfl
        | ok u =>
          obtain ⟨accepted, place, located, free, disk⟩ := put_of_write absent.symm done
          have here := after_here (write p templateBytes) h
          obtain ⟨resolved, l, resolves, rest⟩ := runs_bind.mp rest
          obtain ⟨rfl, rfl⟩ := runs_of_steady (resolve_steady p) resolves
          cases rest
          have found : (h.after (write p templateBytes)).answer (resolve p) =
              .ok (p.resolve h.here) := by
            change p.resolved (h.after (write p templateBytes)).here = _
            simp [Path.resolved, accepted, here]
          rw [found, after_of_looks (resolve_looks p)]
          exact .written located free disk
      · cases rest
        exact .unchanged (congrArg Host.disk still)
      · obtain ⟨part, begun, written, rfl⟩ := amid
        obtain ⟨-, place, located, free, disk⟩ := put_of_write absent.symm written
        cases rest
        exact .broken failed located free begun disk
    · cases told
  · obtain ⟨resolved, l, resolves, rest⟩ := runs_bind.mp rest
    obtain rfl := resolves.unmoved (resolve_looks p)
    cases resolved with
    | error f =>
      cases rest
      exact .unchanged rfl
    | ok q =>
      cases rest
      exact .unchanged rfl

def templateExit : Except (Failure Scaffold.Error) Path → Exit
  | .ok q => shownExit q.text
  | .error (.error _) => .ok 1
  | .error (.fault f) => .error (.fault f)

theorem failWith_steady {ε : Type} (message : ε → String) (e : Failure ε) :
    (failWith message e).Asks (Request.IsSteady liable) := by
  cases e with
  | error e => exact report_steady _
  | fault f => exact asks_pure _

theorem template_of_generateConfig {output : String} {exit : Exit}
    (runs : Runs liable (generateConfig output) h exit k) :
    ∃ a, exit = templateExit a ∧ Template liable (.ofText output) h k a := by
  obtain ⟨a, l, writes, rest⟩ := runs_bind.mp runs
  have template := template_of_write writes
  have shown : exit = templateExit a ∧ SameFiles l k := by
    rcases a with e | q
    · obtain ⟨rfl, rfl⟩ := runs_of_steady (failWith_steady _ _) rest
      refine ⟨?_, sameFiles_of_spares (failWith_spares _ _) l⟩
      cases e <;> rfl
    · obtain ⟨rfl, rfl⟩ := runs_of_steady (succeed_steady _) rest
      exact ⟨answer_succeed _, sameFiles_of_spares (succeed_spares _) l⟩
  refine ⟨a, shown.1, ?_⟩
  cases template with
  | unchanged same => exact .unchanged (shown.2.disk.symm.trans same)
  | written located free disk => exact .written located free (shown.2.disk.symm.trans disk)
  | broken failed located free begun disk =>
    exact .broken failed located free begun (shown.2.disk.symm.trans disk)

/-! ### The compile run -/

def compileExit : Except CompileStop CompileOutcome → Exit
  | .ok outcome => shownExit outcome.output.text
  | .error (.compilation _) => .ok 1
  | .error (.removal e) => .error (.file e)
  | .error (.fault f) => .error (.fault f)

theorem runs_compile {config : String} {output : Option String} {exit : Exit}
    (runs : Runs liable (compile config output) h exit k) :
    ∃ a l, Runs liable (CompileRun.run ⟨config, output⟩) h a l ∧ exit = compileExit a ∧
      SameFiles l k := by
  obtain ⟨a, l, first, rest⟩ := runs_bind.mp runs
  refine ⟨a, l, first, ?_⟩
  rcases a with (e | e | f) | outcome
  · obtain ⟨rfl, rfl⟩ := runs_of_steady (report_steady _) rest
    exact ⟨rfl, sameFiles_of_spares (report_spares _) l⟩
  · cases rest
    exact ⟨rfl, SameFiles.refl _⟩
  · cases rest
    exact ⟨rfl, SameFiles.refl _⟩
  · obtain ⟨rfl, rfl⟩ := runs_of_steady (succeed_steady _) rest
    exact ⟨answer_succeed _, sameFiles_of_spares (succeed_spares _) l⟩

theorem compile_ends (h : Host) (config : String) (output : Option String) :
    h.answer (compile config output) =
        compileExit (h.answer (CompileRun.run ⟨config, output⟩)) ∧
      SameFiles (h.after (CompileRun.run ⟨config, output⟩)) (h.after (compile config output)) := by
  obtain ⟨a, l, runs, ends, files⟩ :=
    runs_compile (runs_certainly (compile config output) h)
  obtain ⟨rfl, rfl⟩ := runs_of_certain runs
  exact ⟨ends, files⟩

/-- A call of the command ends as the run does, with the files that the run leaves. -/
theorem run_of_compile {args : List String} {l : Line} (h : Host)
    (calls : called? args = some (.compile, l)) :
    h.answer (run args) = compileExit (h.answer (CompileRun.run
        ⟨(l.value? configOption).getD "", l.value? outputOption⟩)) ∧
      SameFiles (h.after (CompileRun.run
        ⟨(l.value? configOption).getD "", l.value? outputOption⟩)) (h.after (run args)) := by
  obtain ⟨log, -, answers, leaves⟩ := run_of_called h calls
  have same : SameFiles h { h with log := log } := ⟨rfl, rfl⟩
  obtain ⟨gives, files⟩ := same.run (CompileRun.run
    ⟨(l.value? configOption).getD "", l.value? outputOption⟩)
  obtain ⟨ends, shown⟩ := compile_ends { h with log := log } ((l.value? configOption).getD "")
    (l.value? outputOption)
  rw [gives, leaves]
  exact ⟨answers.trans ends, files.trans shown⟩

/-! ### All commands -/

/-- What the command that is carried out may change, and how it tells of it. -/
def Permitted (liable : Request → Prop) (h k : Host) (exit : Exit) : Option (Verb × Line) → Prop
  | some (.generateConfig, l) => ∃ a, exit = templateExit a ∧
    Template liable (.ofText ((l.value? scaffoldOption).getD "")) h k a
  | some (.compile, l) =>
    let r : CompileRequest := ⟨(l.value? configOption).getD "", l.value? outputOption⟩
    ∃ a, exit = compileExit a ∧
      match CompileRun.effectiveOutput h r with
      | some p => CompileRun.Footprint liable p h k a ∨ CompileRun.Unread liable h k r a
      | none => k.disk = h.disk
  | some (.describe, _) | some (.check, _) | none => k.disk = h.disk

theorem effectiveOutput_of_sameFiles {l : Host} (same : SameFiles h l) (r : CompileRequest) :
    CompileRun.effectiveOutput h r = CompileRun.effectiveOutput l r := by
  unfold CompileRun.effectiveOutput
  rw [same.answer, same.answer]

/-- What a command does to the files depends on them alone. -/
theorem permitted_of_runs {l : Host} {v : Verb} {line : Line} {exit : Exit}
    (same : SameFiles h l) (runs : Runs liable (perform v line) l exit k) :
    Permitted liable h k exit (some (v, line)) := by
  cases v with
  | generateConfig =>
    obtain ⟨a, ends, template⟩ := template_of_generateConfig runs
    refine ⟨a, ends, ?_⟩
    cases template with
    | unchanged files => exact .unchanged (files.trans same.disk.symm)
    | written located free disk =>
      rw [← same.here]
      rw [← same.disk, ← same.here] at located
      rw [← same.disk] at free disk
      exact .written located free disk
    | broken failed located free begun disk =>
      rw [← same.disk, ← same.here] at located
      rw [← same.disk] at free disk
      exact .broken failed located free begun disk
  | compile =>
    obtain ⟨a, m, runs, ends, files⟩ := runs_compile runs
    refine ⟨a, ends, ?_⟩
    rw [effectiveOutput_of_sameFiles same]
    split
    · rename_i p hp
      rcases CompileRun.footprint_of_run hp runs with left | ⟨failed, told, disk⟩
      · exact .inl (left.congr same files)
      · exact .inr ⟨failed, told, files.disk.symm.trans (disk.trans same.disk.symm)⟩
    · rename_i absent
      exact files.disk.symm.trans ((CompileRun.untouched_of_run absent runs).trans same.disk.symm)
  | describe => exact (runs.sameFiles (describe_spares _ _)).disk.symm.trans same.disk.symm
  | check => exact (runs.sameFiles (check_spares _ _ _ _)).disk.symm.trans same.disk.symm

/-- Whatever the arguments are, whatever is on the disk but links, and whichever operations fail, a
run of the program changes no more than is permitted to the command that it carries out, with or
without a log of its steps. -/
theorem run_permitted {args : List String} {exit : Exit} (runs : Runs liable (run args) h exit k) :
    Permitted liable h k exit (called? args) := by
  rcases run_cases args with ⟨v, l, verbose, calls, carried⟩ | ⟨calls, spares⟩
  · rw [carried] at runs
    obtain ⟨h', same, runs⟩ := runs_logged runs
    rw [calls]
    exact permitted_of_runs same runs
  · rw [calls]
    exact (runs.sameFiles spares).disk.symm

namespace Sample

open CompileRun.Sample

def loneText : String :=
  "$defs: \x7b\"\\ud800\": \x7btype: object, properties: " ++
    "\x7bno: \x7btype: integer, minimum: 1\x7d\x7d\x7d\x7d\n"

def lone : Host where
  disk := ⟨[(["work"], .directory), (["work", "api.yaml"], fileOf loneText),
    (["work", "run.yaml"], fileOf
      "schema: \x7bpath: api.yaml\x7d\noutput: \x7bpath: out.py\x7d\n"),
    (["work", "out.py"], fileOf "VALIDATORS = \x7b\x7d\n")]⟩
  here := ["work"]
  log := .unset
  written := []

theorem lone_loads :
    lone.answer (Configuration.load (.ofText "run.yaml")) = .ok configuration := by
  have node : lone.disk.nodeAt ["work"] (.ofText "run.yaml") = .ok (fileOf _) := rfl
  have same : seats.disk.nodeAt ["work"] (.ofText "run.yaml") = .ok (fileOf _) := rfl
  have unmoved : lone.here = seats.here := rfl
  rw [CompileRun.load_congr unmoved (node.trans same.symm)]
  exact seats_loads

theorem lone_compiles : ∃ source, lone.answer (CompileRun.sourceText (.file schemas)) = .ok source ∧
    ∃ result : CompileRun.Compiled,
      (∀ h : Host, h.answer (CompileRun.compile configuration source) = .ok result) ∧
      result.definitions.map Definition.name = [String.ofList [Text.charOfCode 0xd800]] ∧
        result.extraction.names = [String.ofList [Text.charOfCode 0xd800]] :=
  ⟨_, sourceText_of_node rfl rfl String.ofList_append (by decide),
    CompileRun.compile_of_names String.ofList_append rfl (by decide) (by decide +kernel)⟩

end Sample

/-- A name that no file can hold ends the run with its draft in place, beside the old module. -/
theorem lone_left : ∃ e,
    Sample.lone.answer (run ["compile", "--config", "run.yaml"]) =
        .error (.fault (.unencodable e)) ∧
      Permitted (fun _ => False) Sample.lone
        (Sample.lone.after (run ["compile", "--config", "run.yaml"]))
        (.error (.fault (.unencodable e))) (called? ["compile", "--config", "run.yaml"]) ∧
      (Sample.lone.after (run ["compile", "--config", "run.yaml"])).disk.get?
        ["work", ".out.py.00000000.tmp"] = some (.file []) ∧
      (Sample.lone.after (run ["compile", "--config", "run.yaml"])).disk.get?
        ["work", "out.py"] = Sample.lone.disk.get? ["work", "out.py"] := by
  obtain ⟨source, reads, result, compiles, -, names⟩ := Sample.lone_compiles
  have writes : CompileRun.Writes Sample.lone ⟨"run.yaml", none⟩ CompileRun.Sample.configuration
      none source result := ⟨Sample.lone_loads, rfl, reads, compiles _⟩
  have surrogates : ¬ Text.HasBytes result.module.text.toList := by
    rw [CompileRun.hasBytes_of_names (compiles Sample.lone) names]
    decide +kernel
  obtain ⟨e, unfilled⟩ :=
    CompileRun.fillAndMove_of_surrogates (p := CompileRun.Sample.out) surrogates
  have fault : Sample.lone.answer (CompileRun.writeWhole CompileRun.Sample.out
      result.module.text) = .error (.fault (.unencodable e)) := by
    simp only [CompileRun.writeWhole, unfilled]
    rfl
  have disk : (Sample.lone.after (CompileRun.writeWhole CompileRun.Sample.out
      result.module.text)).disk =
      Sample.lone.disk.put ["work", ".out.py.00000000.tmp"] (.file []) := by
    simp only [CompileRun.writeWhole, unfilled]
    rfl
  obtain ⟨stops, files⟩ := CompileRun.run_of_fault writes fault
  have called : called? ["compile", "--config", "run.yaml"] =
      some (.compile, ⟨[⟨configOption, "run.yaml"⟩], []⟩) := by decide +kernel
  obtain ⟨ends, shown⟩ := run_of_compile Sample.lone called
  have fails : Sample.lone.answer (run ["compile", "--config", "run.yaml"]) =
      .error (.fault (.unencodable e)) := ends.trans (congrArg compileExit stops)
  have left : (Sample.lone.after (run ["compile", "--config", "run.yaml"])).disk =
      Sample.lone.disk.put ["work", ".out.py.00000000.tmp"] (.file []) :=
    (files.trans shown).disk.symm.trans disk
  have permitted := run_permitted
    (runs_certainly (run ["compile", "--config", "run.yaml"]) Sample.lone)
  rw [fails] at permitted
  refine ⟨e, fails, permitted, ?_, ?_⟩
  · rw [left]
    rfl
  · rw [left]
    rfl

end CommandLine

end SchemaChecks
