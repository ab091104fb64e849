import SchemaChecks.Proofs.Footprint
import SchemaChecks.Proofs.Writable

/-!
Compile runs that are repeated. A run that has written its module writes it again, and a run that
gives up before its write gives up again for the same reason, as long as the file that it takes away
at the output path was no part of what it reads.
-/

namespace SchemaChecks

open Program Host

namespace Disk

variable {d e : Disk} {here taken : Place} {content : List UInt8} {p : Path}

/-- Without the file at a place a walk goes as before, unless it came by that place: then nothing is
found where no directory was. -/
theorem walk_erase (held : d.get? taken = some (.file content)) (start : Place)
    (names : List String) : (d.erase taken).walk start names = d.walk start names ∨
      d.walk start names = .error .notADirectory ∧
        (d.erase taken).walk start names = .error .notFound ∧
          ∃ before, before <+: names ∧ d.walk start before = .ok taken := by
  have inner := inner_of_file held
  induction names generalizing start with
  | nil => exact .inl rfl
  | cons name rest ih =>
    by_cases same : start = taken
    · refine .inr ⟨?_, ?_, [], List.nil_prefix, same ▸ rfl⟩
      · simp only [walk, same, held]
      · simp only [walk, get?_erase_inner inner, same, if_true]
    · have step : (d.erase taken).get? start = d.get? start := by
        rw [get?_erase_inner inner, if_neg same]
      simp only [walk, step]
      cases there : d.get? start with
      | none => exact .inl rfl
      | some n =>
        cases n with
        | file _ => exact .inl rfl
        | directory =>
          have goesOn : ∀ next, (∀ more, d.walk start (name :: more) = d.walk next more) →
              ((d.erase taken).walk next rest = d.walk next rest ∨
                d.walk next rest = .error .notADirectory ∧
                  (d.erase taken).walk next rest = .error .notFound ∧
                    ∃ before, before <+: name :: rest ∧ d.walk start before = .ok taken) := by
            intro next steps
            rcases ih next with same | ⟨file, gone, before, shorter, found⟩
            · exact .inl same
            · refine .inr ⟨file, gone, name :: before, ?_, (steps before).trans found⟩
              exact (List.prefix_cons_inj name).mpr shorter
          dsimp only
          split
          · rename_i up
            exact goesOn _ fun more => by simp only [walk, there, up, if_true]
          · rename_i down
            split
            · exact .inl rfl
            · rename_i fits
              exact goesOn _ fun more => by simp only [walk, there, down, fits, if_false]

/-- Without a file, what stands at a path is the same, unless the path led to the file or through
it. -/
theorem nodeAt_erase (held : d.get? taken = some (.file content))
    (apart : d.locate here p ≠ .ok taken) :
    (d.erase taken).nodeAt here p = d.nodeAt here p ∨
      d.nodeAt here p = .error .notADirectory ∧ (d.erase taken).nodeAt here p = .error .notFound ∧
        ∃ before, before <+: p.names ∧ d.locate here { p with names := before } = .ok taken := by
  have inner := inner_of_file held
  unfold nodeAt locate
  rcases walk_erase held (if p.isAbsolute then [] else here) p.names with
    same | ⟨file, gone, before, shorter, found⟩
  · refine .inl ?_
    rw [same]
    split
    · rfl
    · rename_i place located
      have away : place ≠ taken := by
        rintro rfl
        exact apart located
      rw [get?_erase_inner inner, if_neg away]
  · rw [file, gone]
    exact .inr ⟨rfl, rfl, before, shorter, found⟩

end Disk

/-! ### What a run reads -/

namespace CompileRun

variable {h k : Host} {p : Path} {c : Configuration} {r : CompileRequest}

theorem override_congr (here : k.here = h.here) (r : CompileRequest) :
    k.answer (override r) = h.answer (override r) := by
  have resolves : ∀ q, k.answer (resolve q) = h.answer (resolve q) := by
    intro q
    change q.resolved k.here = q.resolved h.here
    rw [here]
  unfold override
  split
  · rfl
  · rfl
  · simp only [answer_bind, resolves]
    split <;> rfl

/-- Where nothing is, there is no configuration to load. -/
theorem load_of_absent {q : Path} {e : FileErrorKind}
    (absent : h.disk.nodeAt h.here q = .error e) (kind : e.isAbsence = true) :
    h.answer (Configuration.load q) = .error (.error (.notFound q.text)) := by
  have missing : h.answer (exists? q) = .ok false := by
    cases accepted : q.isRefused with
    | true => exact exists?_of_refused accepted
    | false => rw [exists?_of_error accepted absent, if_pos kind]
  simp only [Configuration.load, answer_bind, missing]
  rfl

/-! ### How the stages of a run end -/

section stages

variable {o : Option Path} {source : String} {result : Compiled} {outcome : CompileOutcome}
  {e : CompilationError}

/-- What a run with an outcome has done. -/
theorem writes_of_outcome (ended : h.answer (run r) = .ok outcome) :
    ∃ c o source result, Writes h r c o source result ∧
      h.answer (writeWhole (outputPath c o) result.module.text) = .ok () := by
  obtain ⟨c, o, loads, overrides, produces, -⟩ := run_eq_ok ended
  obtain ⟨source, result, reads, compiles, -, -⟩ := produce_eq_ok produces
  refine ⟨c, o, source, result, ⟨loads, overrides, reads, compiles⟩, ?_⟩
  have noted := sameFiles_of_spares (compile_spares c source) h
  simp only [produce, answer_bind, after_of_looks (sourceText_looks c.source), reads,
    compiles, ← noted.answer] at produces
  split at produces
  · simp at produces
  · assumption

theorem file_of_readText {q : Path} {text : String} (reads : h.answer (readText q) = .ok text) :
    ∃ bytes, h.disk.nodeAt h.here q = .ok (.file bytes) := by
  cases holds : h.answer (.read q) with
  | error e => simp [readText, holds] at reads
  | ok bytes => exact ⟨bytes, Disk.read_eq_ok.mp (answer_read_eq_ok.mp holds).2⟩

theorem file_of_load {q : Path} (loads : h.answer (Configuration.load q) = .ok c) :
    ∃ bytes, h.disk.nodeAt h.here q = .ok (.file bytes) := by
  simp only [Configuration.load, answer_bind, after_of_looks exists?_looks] at loads
  split at loads
  · simp at loads
  · simp at loads
  · simp only [answer_bind] at loads
    split at loads
    · simp at loads
    · exact file_of_readText ‹_›

theorem file_of_sourceText {q : Path} (file : c.source = .file q)
    (reads : h.answer (sourceText c.source) = .ok source) :
    ∃ bytes, h.disk.nodeAt h.here q = .ok (.file bytes) := by
  have text := schemaText_of_answer reads
  rw [file] at text
  obtain _ | ⟨holds, -⟩ := text
  exact ⟨_, Disk.read_eq_ok.mp (answer_read_eq_ok.mp holds).2⟩

/-- A file away from the target of a write is still there. -/
theorem file_after_write {q : Path} {l : Host} {liable : Request → Prop} {text : String}
    {bytes : List UInt8} (here : l.here = h.here) (w : Writing liable p text h l (.ok ()))
    (file : h.disk.nodeAt h.here q = .ok (.file bytes))
    (away : h.disk.locate h.here q ≠ .ok (Path.climb p.names)) :
    l.disk.nodeAt l.here q = .ok (.file bytes) := by
  obtain _ | _ | _ | ⟨paved, noDirectory, nodes⟩ := w
  have kept : ∀ x n, h.disk.get? x = some n → x ≠ Path.climb p.names → l.disk.get? x = some n := by
    intro x n held other
    rw [nodes, if_neg other]
    exact paved.within x n held
  have directories : ∀ x, h.disk.get? x = some .directory → l.disk.get? x = some .directory := by
    intro x held
    refine kept x _ held ?_
    rintro rfl
    exact noDirectory (paved.within _ _ held)
  obtain ⟨place, located, held⟩ := Disk.nodeAt_eq_ok.mp file
  rw [here]
  refine Disk.nodeAt_eq_ok.mpr ⟨place, Disk.locate_mono directories located, kept _ _ held ?_⟩
  rintro rfl
  exact away located

/-- A run reads nothing of what it may take away: the output is neither its configuration nor its
schemas, and no file there is on the way to the schemas. -/
structure Apart (h : Host) (r : CompileRequest) (p : Path) : Prop where
  config : h.disk.locate h.here (.ofText r.config) ≠ .ok (Path.climb p.names)
  schemas : ∀ {c q}, h.answer (Configuration.load (.ofText r.config)) = .ok c →
    c.source = .file q → h.disk.locate h.here q ≠ .ok (Path.climb p.names)
  way : ∀ {c q}, h.answer (Configuration.load (.ofText r.config)) = .ok c → c.source = .file q →
    ∀ names, names <+: q.names →
      h.disk.locate h.here { q with names := names } = .ok (Path.climb p.names) →
        ∀ content, h.disk.get? (Path.climb p.names) ≠ some (.file content)

/-- A run that has written its module writes it again. -/
theorem again_of_writes (absolute : (outputPath c o).isAbsolute = true)
    (w : Writes h r c o source result)
    (written : h.answer (writeWhole (outputPath c o) result.module.text) = .ok ())
    (apart : Apart h r (outputPath c o)) :
    (h.after (run r)).answer (run r) = h.answer (run r) ∧
      ∀ place, ((h.after (run r)).after (run r)).disk.get? place =
        (h.after (run r)).disk.get? place := by
  obtain ⟨ended, files⟩ := run_of_writes w written
  obtain ⟨-, bytes⟩ := (writeWhole_ok_iff absolute result.module.text).mp written
  obtain ⟨again, nodes⟩ := writeWhole_again absolute written bytes
  have writing := writing_of_writeWhole (h := h) absolute result.module.text
  rw [written] at writing
  have here := after_here (writeWhole (outputPath c o) result.module.text) h
  rw [ended]
  generalize h.after (run r) = k at *
  generalize h.after (writeWhole (outputPath c o) result.module.text) = l at *
  have config : l.disk.nodeAt l.here (.ofText r.config) =
      h.disk.nodeAt h.here (.ofText r.config) := by
    obtain ⟨bytes, file⟩ := file_of_load w.loads
    rw [file, file_after_write here writing file apart.config]
  have schemas : ∀ q, c.source = .file q → l.disk.nodeAt l.here q = h.disk.nodeAt h.here q := by
    intro q named
    obtain ⟨bytes, file⟩ := file_of_sourceText named w.reads
    rw [file, file_after_write here writing file (apart.schemas w.loads named)]
  have writes : Writes l r c o source result :=
    ⟨(load_congr here config).trans w.loads, (override_congr here r).trans w.overrides,
      (sourceText_congr _ schemas).trans w.reads,
      (answer_of_notes (compile_isNote c source) l h).trans w.compiles⟩
  obtain ⟨ends, leaves⟩ := run_of_writes writes again
  obtain ⟨same, after⟩ := files.run (run r)
  refine ⟨same ▸ ends, fun place => ?_⟩
  rw [← after.disk, ← leaves.disk, ← files.disk, nodes]
  obtain _ | _ | _ | ⟨-, -, held⟩ := writing
  split
  · rename_i target
    rw [held, if_pos target]
  · rfl

/-! ### A run that gives up -/

inductive Refused (h : Host) (r : CompileRequest) (p : Path) (e : CompilationError) : Prop
  | configuration {reason : ConfigurationError}
      (loads : h.answer (Configuration.load (.ofText r.config)) = .error (.error reason))
      (overrides : h.answer (override r) = .ok (some p)) (why : e = .configuration reason)
  | reading {c : Configuration} {o : Option Path}
      (loads : h.answer (Configuration.load (.ofText r.config)) = .ok c)
      (overrides : h.answer (override r) = .ok o) (output : outputPath c o = p)
      (reads : h.answer (sourceText c.source) = .error (.error e))
  | compiling {c : Configuration} {o : Option Path} {source : String}
      (loads : h.answer (Configuration.load (.ofText r.config)) = .ok c)
      (overrides : h.answer (override r) = .ok o) (output : outputPath c o = p)
      (reads : h.answer (sourceText c.source) = .ok source)
      (compiles : h.answer (compile c source) = .error (.error e))

/-- A run that is refused gives up, with the files as they were. -/
theorem run_of_refused (refused : Refused h r p e) : ∃ k, SameFiles h k ∧
    h.answer (run r) = k.answer (giveUp p e) ∧
      h.after (run r) = k.after (@giveUp CompileOutcome p e) := by
  cases refused with
  | configuration loads overrides why =>
    subst why
    refine ⟨h, SameFiles.refl h, ?_⟩
    simp only [run, answer_bind, after_bind, after_of_looks load_looks, loads,
      withoutConfiguration, after_of_looks override_looks, overrides, and_self]
  | @reading c o loads overrides output reads =>
    subst output
    refine ⟨h, SameFiles.refl h, ?_⟩
    simp only [run, answer_bind, after_bind, after_of_looks load_looks, loads, withConfiguration,
      after_of_looks override_looks, overrides, produce, after_of_looks (sourceText_looks c.source),
      reads, answer_pure, after_pure, and_self]
  | @compiling c o source loads overrides output reads compiles =>
    subst output
    refine ⟨h.after (compile c source), sameFiles_of_spares (compile_spares c source) h, ?_⟩
    simp only [run, answer_bind, after_bind, after_of_looks load_looks, loads, withConfiguration,
      after_of_looks override_looks, overrides, produce, after_of_looks (sourceText_looks c.source),
      reads, compiles, answer_pure, after_pure, and_self]

theorem eq_of_giveUp {reason : CompilationError}
    (told : h.answer (@giveUp CompileOutcome p reason) = .error (.compilation e)) : reason = e := by
  by_cases stuck : h.Unremovable p
  · obtain ⟨x, removal⟩ := @giveUp_of_unremovable h p CompileOutcome stuck reason
    rw [removal] at told
    cases told
  · rw [(giveUp_of_removable stuck reason).1] at told
    cases told
    rfl

theorem produce_error_cases (produces : h.answer (produce c p) = .error (.error e)) :
    h.answer (sourceText c.source) = .error (.error e) ∨
      ∃ source, h.answer (sourceText c.source) = .ok source ∧
        (h.answer (compile c source) = .error (.error e) ∨
          ∃ result x, h.answer (compile c source) = .ok result ∧ e = .file x) := by
  simp only [produce, answer_bind, after_of_looks (sourceText_looks c.source)] at produces
  cases reads : h.answer (sourceText c.source) with
  | error x => exact .inl (by simpa [reads] using produces)
  | ok source =>
    refine .inr ⟨source, rfl, ?_⟩
    simp only [reads, answer_bind] at produces
    cases compiles : h.answer (compile c source) with
    | error x => exact .inl (by simpa [compiles] using produces)
    | ok result =>
      simp only [compiles, answer_bind] at produces
      split at produces
      next x _ =>
        cases x with
        | error x => exact .inr ⟨result, x, rfl, by simpa [Failure.map] using produces.symm⟩
        | fault f => simp [Failure.map] at produces
      next => cases produces

/-- A run that ends with a reason before its write is refused for it. -/
theorem refused_of_compilation (hp : effectiveOutput h r = some p)
    (ended : h.answer (run r) = .error (.compilation e))
    (early : ¬ ∃ c o source result, Writes h r c o source result) : Refused h r p e := by
  have course := course_of_run h r
  generalize h.after (run r) = k at course
  generalize h.answer (run r) = a at course ended
  cases course with
  | loadFault | overrideFault | faulty | done => cases ended
  | unconfigured loads overrides => simp [effectiveOutput, loads, overrides] at hp
  | @givenUpUnconfigured reason q loads overrides =>
    obtain rfl : q = p := by simpa [effectiveOutput, overrides] using hp
    exact .configuration loads overrides (eq_of_giveUp ended).symm
  | @givenUp c o reason loads overrides produces =>
    obtain rfl := eq_of_giveUp ended
    have output := outputPath_of_effectiveOutput hp loads overrides
    rcases produce_error_cases produces with
      reads | ⟨source, reads, compiles | ⟨result, -, compiles, -⟩⟩
    · exact .reading loads overrides output reads
    · exact .compiling loads overrides output reads compiles
    · exact absurd ⟨c, o, source, result, loads, overrides, reads, compiles⟩ early

/-- Without the file that a run took away, it is refused again. -/
theorem refused_again (here : k.here = h.here) (taken : TakesAway p h k) (apart : Apart h r p)
    (refused : Refused h r p e) : Refused k r p e := by
  obtain ⟨content, held, erased⟩ := taken
  have node : ∀ q, h.disk.locate h.here q ≠ .ok (Path.climb p.names) →
      k.disk.nodeAt k.here q = h.disk.nodeAt h.here q ∨
        h.disk.nodeAt h.here q = .error .notADirectory ∧ k.disk.nodeAt k.here q = .error .notFound ∧
          ∃ before, before <+: q.names ∧
            h.disk.locate h.here { q with names := before } = .ok (Path.climb p.names) := by
    intro q away
    rw [here, erased]
    exact Disk.nodeAt_erase held away
  have loads : k.answer (Configuration.load (.ofText r.config)) =
      h.answer (Configuration.load (.ofText r.config)) := by
    rcases node _ apart.config with same | ⟨file, gone, -⟩
    · exact load_congr here same
    · rw [load_of_absent file rfl, load_of_absent gone rfl]
  have schemas : ∀ {c}, h.answer (Configuration.load (.ofText r.config)) = .ok c →
      k.answer (sourceText c.source) = h.answer (sourceText c.source) := by
    intro c loaded
    refine sourceText_congr _ fun q named => ?_
    rcases node q (apart.schemas loaded named) with same | ⟨-, -, before, shorter, through⟩
    · exact same
    · exact absurd held (apart.way loaded named before shorter through content)
  have overrides := override_congr here r
  cases refused with
  | configuration loaded overridden why =>
    exact .configuration (loads.trans loaded) (overrides.trans overridden) why
  | reading loaded overridden output reads =>
    exact .reading (loads.trans loaded) (overrides.trans overridden) output
      ((schemas loaded).trans reads)
  | compiling loaded overridden output reads compiles =>
    exact .compiling (loads.trans loaded) (overrides.trans overridden) output
      ((schemas loaded).trans reads) ((answer_of_notes (compile_isNote _ _) k h).trans compiles)

theorem unremovable_congr (same : SameFiles h k) : h.Unremovable p ↔ k.Unremovable p := by
  rw [Unremovable, Unremovable, same.disk, same.here]

/-- Where a file has been taken away, nothing stands in the way of a removal. -/
theorem removable_of_takesAway (absolute : p.isAbsolute = true) (here : k.here = h.here)
    (taken : TakesAway p h k) (removable : ¬ h.Unremovable p) : ¬ k.Unremovable p := by
  obtain ⟨content, held, erased⟩ := taken
  have inner := Disk.inner_of_file held
  have gone : k.disk.get? (Path.climb p.names) = none := by
    rw [erased, Disk.get?_erase_inner inner, if_pos rfl]
  rintro ⟨accepted, directory | ⟨x, refused, present⟩⟩
  · obtain ⟨place, located, there⟩ := Disk.nodeAt_eq_ok.mp directory
    rw [Disk.locate_of_absolute absolute located, gone] at there
    cases there
  · by_cases target : h.disk.locate h.here p = .ok (Path.climb p.names)
    · have located : k.disk.locate k.here p = .ok (Path.climb p.names) := by
        rw [here, erased]
        exact Disk.locate_erase_file held target
      have missing : k.disk.nodeAt k.here p = .error .notFound := by
        simp [Disk.nodeAt, located, gone]
      rw [missing] at refused
      cases refused
      cases present
    · rw [here, erased] at refused
      rcases Disk.nodeAt_erase held target with same | ⟨-, missing, -⟩
      · exact removable ⟨accepted, .inr ⟨x, same ▸ refused, present⟩⟩
      · rw [missing] at refused
        cases refused
        cases present

/-- A run that has given up before its write gives up again, for the same reason. -/
theorem again_of_refused (absolute : p.isAbsolute = true) (refused : Refused h r p e)
    (ended : h.answer (run r) = .error (.compilation e)) (apart : Apart h r p) :
    (h.after (run r)).answer (run r) = h.answer (run r) ∧
      ∀ place, ((h.after (run r)).after (run r)).disk.get? place =
        (h.after (run r)).disk.get? place := by
  have here := after_here (run r) h
  obtain ⟨m, same, answers, leaves⟩ := run_of_refused refused
  have told : m.answer (@giveUp CompileOutcome p e) = .error (.compilation e) :=
    answers.symm.trans ended
  rcases disk_of_giveUp (α := CompileOutcome) (h := m) absolute e with disk | ⟨-, taken⟩
  · -- nothing was there to take away
    rw [← leaves] at disk
    have unchanged : SameFiles h (h.after (run r)) := ⟨same.disk.trans disk.symm, here.symm⟩
    obtain ⟨repeated, after⟩ := unchanged.run (run r)
    exact ⟨repeated.symm, fun place => by rw [← after.disk]⟩
  · have removable : ¬ h.Unremovable p := by
      rw [unremovable_congr same]
      intro stuck
      obtain ⟨x, removal⟩ := @giveUp_of_unremovable m p CompileOutcome stuck e
      rw [removal] at told
      cases told
    rw [← leaves, TakesAway, ← same.disk] at taken
    generalize h.after (run r) = k at *
    have removable := removable_of_takesAway absolute here taken removable
    obtain ⟨m', same', answers', leaves'⟩ := run_of_refused (refused_again here taken apart refused)
    rw [unremovable_congr same'] at removable
    refine ⟨?_, fun place => ?_⟩
    · rw [answers', (giveUp_of_removable removable e).1, ended]
    · rcases disk_of_giveUp (α := CompileOutcome) (h := m') absolute e with
        disk | ⟨-, content, held, -⟩
      · rw [leaves', disk, same'.disk]
      · obtain ⟨_, there, erased⟩ := taken
        rw [← same'.disk, erased, Disk.get?_erase_inner (Disk.inner_of_file there),
          if_pos rfl] at held
        cases held

end stages

/-- A run that is repeated changes nothing and ends as before, if it has ended with an outcome or
with a reason that it found before its write, and reads nothing of what it may take away. -/
theorem run_again (apart : ∀ p, effectiveOutput h r = some p → Apart h r p)
    (ended : (∃ outcome, h.answer (run r) = .ok outcome) ∨
      (∃ e, h.answer (run r) = .error (.compilation e)) ∧
        ¬ ∃ c o source result, Writes h r c o source result) :
    (h.after (run r)).answer (run r) = h.answer (run r) ∧
      ∀ place, ((h.after (run r)).after (run r)).disk.get? place =
        (h.after (run r)).disk.get? place := by
  cases hp : effectiveOutput h r with
  | none =>
    have unchanged : SameFiles h (h.after (run r)) :=
      ⟨(run_untouched hp).symm, (after_here (run r) h).symm⟩
    obtain ⟨repeated, after⟩ := unchanged.run (run r)
    exact ⟨repeated.symm, fun place => by rw [← after.disk]⟩
  | some p =>
    have absolute := effectiveOutput_isAbsolute hp
    have apart := apart p hp
    rcases ended with ⟨outcome, ended⟩ | ⟨⟨e, ended⟩, early⟩
    · obtain ⟨c, o, source, result, writes, written⟩ := writes_of_outcome ended
      obtain rfl := outputPath_of_effectiveOutput hp writes.loads writes.overrides
      exact again_of_writes absolute writes written apart
    · exact again_of_refused absolute (refused_of_compilation hp ended early) ended apart

namespace Sample

def nested : Host where
  disk := ⟨[(["work"], .directory), (["work", "out.py"], fileOf ""),
    (["work", "run.yaml"], fileOf
      "schema: \x7bpath: out.py/api.yaml\x7d\noutput: \x7bpath: out.py\x7d\n")]⟩
  here := ["work"]
  log := .unset
  written := []

def request : CompileRequest := ⟨"run.yaml", none⟩

def nestedConfiguration : Configuration :=
  ⟨.ofText "run.yaml", .file ⟨.root, ["work", "out.py", "api.yaml"]⟩, some .yaml, none,
    ⟨.root, ["work", "out.py"]⟩, none⟩

theorem nested_loads : nested.answer (Configuration.load (.ofText "run.yaml")) =
    .ok nestedConfiguration :=
  (Configuration.load_of_node rfl rfl rfl (by decide)).trans (by decide +kernel)

/-- What a run takes away is not its configuration. -/
theorem nested_loads_again : (nested.after (run request)).answer
    (Configuration.load (.ofText "run.yaml")) = .ok nestedConfiguration := by
  rw [(run_of_loads (r := request) nested_loads).2]
  have node : (nested.after (withConfiguration nestedConfiguration request)).disk.nodeAt ["work"]
      (.ofText "run.yaml") = .ok (fileOf _) := rfl
  have same : nested.disk.nodeAt ["work"] (.ofText "run.yaml") = .ok (fileOf _) := rfl
  have unmoved : (nested.after (withConfiguration nestedConfiguration request)).here =
      nested.here :=
    rfl
  rw [load_congr unmoved (node.trans same.symm)]
  exact nested_loads

theorem seats_output : effectiveOutput seats request = some ⟨.root, ["work", "out.py"]⟩ :=
  effectiveOutput_of_loads (c := configuration) (o := none) seats_loads rfl

theorem seats_outcome :
    seats.answer (run request) = .ok ⟨⟨.root, ["work", "out.py"]⟩, ["Seat"], 0⟩ := by
  obtain ⟨source, reads, result, compiles, defined, validated⟩ := seats_compiles
  have writes : Writes seats request configuration none source result :=
    ⟨seats_loads, rfl, reads, compiles _⟩
  have bytes := (hasBytes_of_names (compiles seats) validated).mpr (by decide +kernel)
  have written : seats.answer (writeWhole out result.module.text) = .ok () := by
    simp only [writeWhole, fillAndMove_of_hasBytes bytes]
    rfl
  exact run_of_names writes written defined validated

end Sample

/-- The output is neither the configuration nor the schemas, but the schemas would be in it: the
second run finds nothing where the first one found no directory. -/
theorem nested_reasons_differ :
    effectiveOutput Sample.nested Sample.request = some ⟨.root, ["work", "out.py"]⟩ ∧
    Sample.nested.answer (Configuration.load (.ofText "run.yaml")) =
      .ok ⟨.ofText "run.yaml", .file ⟨.root, ["work", "out.py", "api.yaml"]⟩, some .yaml, none,
        ⟨.root, ["work", "out.py"]⟩, none⟩ ∧
    Sample.nested.disk.locate Sample.nested.here (.ofText "run.yaml") ≠ .ok ["work", "out.py"] ∧
    Sample.nested.disk.locate Sample.nested.here ⟨.root, ["work", "out.py", "api.yaml"]⟩ ≠
      .ok ["work", "out.py"] ∧
    ∃ e e' : FileError,
      Sample.nested.answer (run Sample.request) = .error (.compilation (.file e)) ∧
      (Sample.nested.after (run Sample.request)).answer (run Sample.request) =
        .error (.compilation (.file e')) ∧
      e.message = "[Errno 20] Not a directory: '/work/out.py/api.yaml'" ∧
      e'.message = "[Errno 2] No such file or directory: '/work/out.py/api.yaml'" := by
  have output : effectiveOutput Sample.nested Sample.request =
      some (outputPath Sample.nestedConfiguration none) :=
    effectiveOutput_of_loads Sample.nested_loads rfl
  refine ⟨output, Sample.nested_loads, by decide +kernel, by decide +kernel,
    ⟨.notADirectory, "/work/out.py/api.yaml", none⟩, ⟨.notFound, "/work/out.py/api.yaml", none⟩, ?_⟩
  rw [(run_of_loads (r := Sample.request) Sample.nested_loads_again).1,
    (run_of_loads (r := Sample.request) Sample.nested_loads).1,
    (run_of_loads (r := Sample.request) Sample.nested_loads).2]
  decide +kernel

/-- The module of the schemas of one object is written twice. -/
theorem seats_run_again :
    Sample.seats.answer (run Sample.request) = .ok ⟨⟨.root, ["work", "out.py"]⟩, ["Seat"], 0⟩ ∧
    (Sample.seats.after (run Sample.request)).answer (run Sample.request) =
      .ok ⟨⟨.root, ["work", "out.py"]⟩, ["Seat"], 0⟩ ∧
    ∀ place,
      ((Sample.seats.after (run Sample.request)).after (run Sample.request)).disk.get? place =
      (Sample.seats.after (run Sample.request)).disk.get? place := by
  have apart : ∀ p, effectiveOutput Sample.seats Sample.request = some p →
      Apart Sample.seats Sample.request p := by
    intro p hp
    obtain rfl := Option.some.inj (Sample.seats_output.symm.trans hp)
    have free : Sample.seats.disk.get? ["work", "out.py"] = none := by decide +kernel
    refine ⟨by decide +kernel, fun {c q} loaded named => ?_, fun {c q} _ _ _ _ _ content file => ?_⟩
    · obtain rfl := Except.ok.inj (Sample.seats_loads.symm.trans loaded)
      obtain rfl := SchemaSource.file.inj named
      decide +kernel
    · cases free.symm.trans file
  obtain ⟨again, nodes⟩ := run_again apart (.inl ⟨_, Sample.seats_outcome⟩)
  exact ⟨Sample.seats_outcome, again.trans Sample.seats_outcome, nodes⟩

end CompileRun

end SchemaChecks
