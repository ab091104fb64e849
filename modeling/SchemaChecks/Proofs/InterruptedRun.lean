import Mathlib.Data.List.Induction
import SchemaChecks.Proofs.Footprint

/-!
Compile runs while operations fail. Whichever operations on the way to the written module fail, its
target holds what it held before or the whole module; a run that could not write it then removes the
old file and tells why, unless there is something at the target that cannot be removed.
-/

namespace SchemaChecks

open Program Host

namespace Path

theorem climb_of_no_up {names : List String} (noUp : ".." ∉ names) : climb names = names := by
  induction names using List.reverseRecOn with
  | nil => rfl
  | append_singleton above last ih =>
    rw [List.mem_append, List.mem_singleton, not_or] at noUp
    rw [climb_concat _ (Ne.symm noUp.2), ih noUp.1]

/-- Only a path with steps up may name its own place on its way. -/
theorem up_of_passes {p : Path} (inner : climb p.names ≠ []) (passes : p.Passes (climb p.names)) :
    ".." ∈ p.names := by
  by_contra noUp
  obtain ⟨names, shorter, same⟩ := passes
  have within : names <+: p.names := shorter.trans (List.dropLast_prefix _)
  rw [climb_of_no_up noUp, climb_of_no_up fun up => noUp (within.subset up)] at same
  rw [climb_of_no_up noUp] at inner
  have length := shorter.length_le
  rw [← same] at length
  simp only [parent, List.length_dropLast] at length
  have : 0 < p.names.length := List.length_pos_iff.mpr inner
  omega

end Path

namespace CompileRun

variable {h k l : Host} {p : Path} {c : Configuration} {r : CompileRequest} {text : String}
    {liable : Request → Prop}

/-- What is at the target of a path is what was there before, or a whole text where no directory
was. Only a path with steps up may have become a directory on its own way. -/
def Whole (p : Path) (text : String) (h k : Host) : Prop :=
  k.disk.get? (Path.climb p.names) = h.disk.get? (Path.climb p.names) ∨
    h.disk.get? (Path.climb p.names) ≠ some .directory ∧
      k.disk.get? (Path.climb p.names) = some (.file (Text.Utf8.encode text.toList)) ∨
    ".." ∈ p.names ∧ h.disk.get? (Path.climb p.names) = none ∧
      k.disk.get? (Path.climb p.names) = some .directory

theorem whole_of_paved (paved : Paved p h k) : Whole p text h k := by
  rcases paved (Path.climb p.names) with same | ⟨free, made, passes⟩
  · exact .inl same
  · exact .inr (.inr ⟨Path.up_of_passes (Disk.inner_of_free free) passes, free, made⟩)

theorem whole_of_underway (state : Underway liable p text h k) : Whole p text h k := by
  cases state with
  | paving paved => exact whole_of_paved paved
  | drafting paved drafts drafted =>
    have same := drafted.disk.nodes (Path.climb p.names)
    rw [if_neg drafts.ne_target.symm] at same
    rw [Whole, same]
    exact whole_of_paved paved
  | written writing =>
    obtain _ | _ | _ | ⟨paved, noDirectory, nodes⟩ := writing
    refine .inr (.inl ⟨fun directory => noDirectory ?_, ?_⟩)
    · exact Disk.GrowsAt.within paved _ _ directory
    · rw [nodes, if_pos rfl]

/-! ### The run around the write -/

theorem giveUp_steady {α : Type} (p : Path) (e : CompilationError) :
    (@giveUp α p e).Asks (Request.IsSteady Request.Builds) := by
  have looks : (exists? p).Asks (Request.IsSteady Request.Builds) :=
    exists?_looks.imp fun _ looks => looks.spares.isSteady
  refine Asks.bind (Asks.bind looks fun found => ?_) fun removed => ?_
  · split
    · exact asks_pure _
    · exact asks_pure _
    · have notes := (note_isNote logger Log.warning
        s!"Removing stale validator module {p.text}").imp fun _ note => note.spares.isSteady
      exact Asks.bind notes fun _ => asks_perform fun builds => builds.elim
  · split <;> exact asks_pure _

inductive Concludes (p : Path) (result : Compiled) (k l : Host) :
    Reply Unit → Except CompileStop CompileOutcome → Prop
  | done (files : SameFiles k l) :
      Concludes p result k l (.ok ()) (.ok
        ⟨p, result.extraction.names, result.definitions.length - result.extraction.length⟩)
  | removed {e : FileError} (removable : ¬ k.Unremovable p) (gone : ¬ l.HasFile p)
      (others : l.disk = k.disk ∨ TakesAway p k l) :
      Concludes p result k l (.error (.error e)) (.error (.compilation (.file e)))
  | stuck {e x : FileError} (unremovable : k.Unremovable p) (files : l.disk = k.disk) :
      Concludes p result k l (.error (.error e)) (.error (.removal x))
  | fault {f : Fault} (files : SameFiles k l) :
      Concludes p result k l (.error (.fault f)) (.error (.fault f))

theorem concludes_giveUp {result : Compiled} (absolute : p.isAbsolute = true) (e : FileError) :
    Concludes p result k (k.after (@giveUp CompileOutcome p (.file e))) (.error (.error e))
      (k.answer (giveUp p (.file e))) := by
  have disk := disk_of_giveUp (α := CompileOutcome) (h := k) absolute (.file e)
  by_cases unremovable : k.Unremovable p
  · obtain ⟨x, removal⟩ := giveUp_of_unremovable (α := CompileOutcome) unremovable (.file e)
    rw [removal] at disk ⊢
    exact .stuck unremovable (disk.resolve_right fun told => nomatch told.1)
  · obtain ⟨told, gone⟩ := giveUp_of_removable (α := CompileOutcome) unremovable (.file e)
    rw [told] at disk ⊢
    exact .removed unremovable gone (disk.imp_right And.right)

theorem load_steady (q : Path) :
    (Configuration.load q).Asks (Request.IsSteady Request.Builds) :=
  load_looks.imp fun _ looks => looks.spares.isSteady

theorem override_steady (r : CompileRequest) :
    (override r).Asks (Request.IsSteady Request.Builds) :=
  override_looks.imp fun _ looks => looks.spares.isSteady

theorem sourceText_steady (source : SchemaSource) :
    (sourceText source).Asks (Request.IsSteady Request.Builds) :=
  (sourceText_looks source).imp fun _ looks => looks.spares.isSteady

theorem compile_steady (c : Configuration) (text : String) :
    (compile c text).Asks (Request.IsSteady Request.Builds) :=
  (compile_spares c text).imp fun _ => Request.Spares.isSteady

/-- A run that gets to writing its module does nothing that may fail but to write it. -/
theorem runs_run {o : Option Path} {source : String} {result : Compiled}
    (loads : h.answer (Configuration.load (.ofText r.config)) = .ok c)
    (overrides : h.answer (override r) = .ok o)
    (reads : h.answer (sourceText c.source) = .ok source)
    (compiles : h.answer (compile c source) = .ok result)
    (absolute : (outputPath c o).isAbsolute = true)
    {a : Except CompileStop CompileOutcome} (runs : Runs Request.Builds (run r) h a l) :
    ∃ h' reply k, SameFiles h h' ∧
      Runs Request.Builds (writeWhole (outputPath c o) result.module.text) h' reply k ∧
      Concludes (outputPath c o) result k l reply a := by
  obtain ⟨loaded, _, first, runs⟩ := runs_bind.mp runs
  obtain ⟨rfl, rfl⟩ := runs_of_steady (load_steady _) first
  rw [loads, after_of_looks load_looks] at runs
  obtain ⟨overridden, _, second, runs⟩ := runs_bind.mp runs
  obtain ⟨rfl, rfl⟩ := runs_of_steady (override_steady r) second
  rw [overrides, after_of_looks override_looks] at runs
  obtain ⟨produced, n, produces, runs⟩ := runs_bind.mp runs
  obtain ⟨read, _, third, produces⟩ := runs_bind.mp produces
  obtain ⟨rfl, rfl⟩ := runs_of_steady (sourceText_steady c.source) third
  rw [reads, after_of_looks (sourceText_looks c.source)] at produces
  obtain ⟨compiled, _, fourth, produces⟩ := runs_bind.mp produces
  obtain ⟨rfl, rfl⟩ := runs_of_steady (compile_steady c source) fourth
  rw [compiles] at produces
  obtain ⟨reply, k, writes, produces⟩ := runs_bind.mp produces
  refine ⟨_, reply, k, sameFiles_of_spares (compile_spares c source) h, writes, ?_⟩
  rcases reply with (e | f) | u
  · cases produces
    obtain ⟨rfl, rfl⟩ := runs_of_steady (giveUp_steady _ _) runs
    exact concludes_giveUp absolute e
  · cases produces
    cases runs
    exact .fault (SameFiles.refl _)
  · cases produces
    obtain ⟨rfl, rfl⟩ := runs_of_notes (Asks.bind (note_isNote _ _ _) fun _ => asks_pure _) runs
    exact .done ⟨rfl, rfl⟩

/-- In a state of the files without links, the output is never half-written, whichever operations of
its write fail: its place holds what it held before or the whole text at all times, after the write
it holds the text, and after a failure there is nothing new but directories on the way. The run then
ends with the error of the failure and the old file removed, or with another error if what is there
cannot be removed. -/
theorem never_half_written (absolute : p.isAbsolute = true) (text : String) :
    (∀ h k, Meets Request.Builds (writeWhole p text) h k → Whole p text h k) ∧
    (∀ h reply k, Runs Request.Builds (writeWhole p text) h reply k →
      Writing Request.Builds p text h k reply ∧
        (reply = .ok () → k.answer (.read p) = .ok (Text.Utf8.encode text.toList)) ∧
          ∀ e, reply = .error (.error e) → Paved p h k) ∧
    ∀ h r c o source result, h.answer (Configuration.load (.ofText r.config)) = .ok c →
      h.answer (override r) = .ok o → outputPath c o = p →
      h.answer (sourceText c.source) = .ok source → h.answer (compile c source) = .ok result →
      result.module.text = text → ∀ a l, Runs Request.Builds (run r) h a l →
        ∃ h' reply k, SameFiles h h' ∧ Runs Request.Builds (writeWhole p text) h' reply k ∧
          Concludes p result k l reply a := by
  refine ⟨fun h k met => ?_, fun h reply k runs => ?_, ?_⟩
  · exact whole_of_underway ((secures_writeWhole absolute text h).meets met)
  · obtain ⟨writing, held⟩ := (secures_writeWhole absolute text h).runs runs
    refine ⟨writing, held, ?_⟩
    rintro e rfl
    cases writing with
    | stopped paved => exact paved
    | kept unremoved => exact unremoved.elim
  · rintro h r c o source result loads overrides rfl reads compiles rfl a l runs
    exact runs_run loads overrides reads compiles absolute runs

namespace Sample

def occupied : Host where
  disk := seats.disk.put ["work", "out.py"] .directory
  here := ["work"]
  log := .unset
  written := []

theorem occupied_configured : occupied.answer (Configuration.load (.ofText "run.yaml")) =
    .ok configuration := by
  have node : occupied.disk.nodeAt ["work"] (.ofText "run.yaml") = .ok (fileOf _) := rfl
  have same : seats.disk.nodeAt ["work"] (.ofText "run.yaml") = .ok (fileOf _) := rfl
  have unmoved : occupied.here = seats.here := rfl
  rw [load_congr unmoved (node.trans same.symm)]
  exact seats_loads

theorem occupied_compiles : ∃ source result,
    occupied.answer (sourceText configuration.source) = .ok source ∧
      occupied.answer (compile configuration source) = .ok result ∧
        Text.HasBytes result.module.text.toList := by
  obtain ⟨source, reads, result, compiles, -, validated⟩ := seats_compiles
  have bytes := (hasBytes_of_names (compiles seats) validated).mpr (by decide +kernel)
  have same : occupied.answer (sourceText configuration.source) =
      seats.answer (sourceText configuration.source) := by
    refine sourceText_congr _ fun q named => ?_
    obtain rfl := SchemaSource.file.inj named
    rfl
  exact ⟨source, result, same.trans reads, compiles _, bytes⟩

theorem occupied_fails {text : String} (bytes : Text.HasBytes text.toList) :
    (∃ e, occupied.answer (writeWhole out text) = .error (.error e)) ∧
      occupied.after (writeWhole out text) = occupied := by
  simp only [writeWhole, fillAndMove_of_hasBytes bytes]
  exact ⟨⟨_, rfl⟩, rfl⟩

/-- A directory at the output path is not removed, so that the run ends without a reason. -/
theorem occupied_stuck : occupied.answer (run ⟨"run.yaml", none⟩) =
    .error (.removal ⟨.isADirectory, "/work/out.py", none⟩) := by
  obtain ⟨source, result, reads, compiles, bytes⟩ := occupied_compiles
  have writes : Writes occupied ⟨"run.yaml", none⟩ configuration none source result :=
    ⟨occupied_configured, rfl, reads, compiles⟩
  obtain ⟨⟨e, fails⟩, unchanged⟩ := occupied_fails bytes
  have stands : occupied.answer (removeStale out) =
      .error (.error ⟨.isADirectory, "/work/out.py", none⟩) := by decide +kernel
  have target : outputPath configuration none = out := rfl
  rw [answer_run_of_writes writes, target, fails, unchanged]
  simp [giveUp, stands]

end Sample

/-- The run that meets a directory at its output path has failed to write, and finds the directory
there. -/
theorem never_half_written_occupied : ∃ text h' reply k, SameFiles Sample.occupied h' ∧
    Runs Request.Builds (writeWhole Sample.out text) h' reply k ∧
    Writing Request.Builds Sample.out text h' k reply ∧ Whole Sample.out text h' k ∧
    k.Unremovable Sample.out ∧
    Sample.occupied.answer (run ⟨"run.yaml", none⟩) =
      .error (.removal ⟨.isADirectory, "/work/out.py", none⟩) := by
  obtain ⟨source, result, reads, compiles, -⟩ := Sample.occupied_compiles
  have overrides : Sample.occupied.answer (override ⟨"run.yaml", none⟩) = .ok none := by
    decide +kernel
  obtain ⟨whole, writing, ends⟩ := never_half_written (p := Sample.out) rfl result.module.text
  obtain ⟨h', reply, k, same, writes, concludes⟩ := ends Sample.occupied ⟨"run.yaml", none⟩
    Sample.configuration none source result Sample.occupied_configured overrides rfl reads compiles
    rfl _ _ (runs_answer _ _)
  rw [Sample.occupied_stuck] at concludes
  obtain _ | _ | ⟨unremovable⟩ := concludes
  exact ⟨_, h', _, k, same, writes, (writing _ _ _ writes).1, whole _ _ writes.meets, unremovable,
    Sample.occupied_stuck⟩

end CompileRun

end SchemaChecks
