import SchemaChecks.Proofs.Configuration
import SchemaChecks.Proofs.Interruption
import SchemaChecks.Proofs.WrittenModule

/-!
Which places of a disk a compile run touches, whichever of its operations fail. It makes directories
along its output path, and replaces or removes the file at the output path. A draft is left beside
it only if it could not be removed, or if the module holds surrogates, which no file can.
-/

namespace SchemaChecks

open Program Host

namespace Program

variable {h k : Host} {p : Path} {liable : Request → Prop}

theorem note_isNote (logger : String) (level : Int) (message : String) :
    (note logger level message).Asks Request.IsNote :=
  asks_perform (r := .note ⟨logger, level, message⟩) trivial

theorem resolve_steady (p : Path) : (resolve p).Asks (Request.IsSteady liable) :=
  Asks.bind (asks_perform Request.isSteady_here) fun _ => asks_pure _

/-- A look at a path tells what is there, or it fails and tells nothing. -/
theorem runs_exists? {a : Except FileError Bool} (runs : Runs liable (exists? p) h a k) :
    a = h.answer (exists? p) ∨ liable (.kindOf p) ∧ ∃ e, a = .error e := by
  obtain ⟨reply, l, asks, rest⟩ := runs_bind.mp runs
  rcases runs_perform.mp asks with ⟨rfl, rfl⟩ | ⟨fails, ⟨e, present, rfl⟩, rfl⟩
  · exact .inl (runs_of_steady (by split <;> exact asks_pure _) rest).1
  · simp only [present] at rest
    cases rest
    exact .inr ⟨fails, e, rfl⟩

theorem runs_readText {a : Except (Failure ReadError) String}
    (runs : Runs liable (readText p) h a k) :
    a = h.answer (readText p) ∨ liable (.read p) ∧ ∃ e, a = .error (.error (.file e)) := by
  obtain ⟨reply, l, asks, rest⟩ := runs_bind.mp runs
  rcases runs_perform.mp asks with ⟨rfl, rfl⟩ | ⟨fails, ⟨e, rfl⟩, rfl⟩
  · exact .inl (runs_of_steady (by split <;> exact asks_pure _) rest).1
  · cases rest
    exact .inr ⟨fails, e, rfl⟩

end Program

namespace CompileRun

variable {h k l : Host} {p q : Path} {c : Configuration} {r : CompileRequest} {x : Place}
  {liable : Request → Prop}

/-! ### Runs of the parts -/

/-- The configuration is the one in the files, or it cannot be read. -/
theorem runs_load {a : Except (Failure ConfigurationError) Configuration}
    (runs : Runs liable (Configuration.load p) h a k) :
    a = h.answer (Configuration.load p) ∨
      (liable (.kindOf p) ∨ liable (.read p)) ∧ ∃ e, a = .error (.error (.file e)) := by
  obtain ⟨found, l, looks, rest⟩ := runs_bind.mp runs
  obtain rfl := looks.unmoved exists?_looks
  simp only [Configuration.load, answer_bind, after_of_looks exists?_looks]
  rcases runs_exists? looks with rfl | ⟨fails, e, rfl⟩
  · generalize h.answer (exists? p) = found at rest
    rcases found with e | _ | _
    · cases rest
      exact .inl rfl
    · cases rest
      exact .inl rfl
    · obtain ⟨text, l, reads, rest⟩ := runs_bind.mp rest
      obtain rfl := reads.unmoved readText_looks
      simp only [answer_bind, after_of_looks readText_looks]
      rcases runs_readText reads with rfl | ⟨fails, e, rfl⟩
      · refine .inl (runs_of_steady ?_ rest).1
        split
        · exact asks_pure _
        · exact Asks.bind (asks_perform Request.isSteady_here) fun _ => asks_pure _
      · cases rest
        exact .inr ⟨.inr fails, e, rfl⟩
  · cases rest
    exact .inr ⟨.inl fails, e, rfl⟩

/-- Nothing fails in making the override of the output path absolute. -/
theorem runs_override {a : Except Fault (Option Path)} (runs : Runs liable (override r) h a k) :
    a = h.answer (override r) := by
  refine (runs_of_steady ?_ runs).1
  unfold override
  split
  · exact asks_pure _
  · exact asks_pure _
  · refine Asks.bind (resolve_steady _) fun resolved => ?_
    split <;> exact asks_pure _

/-- The old output is dealt with as its files allow, or it stays because an operation fails. -/
theorem runs_giveUp {α : Type} {e : CompilationError} {a : Except CompileStop α}
    (runs : Runs liable (giveUp p e) h a k) :
    a = h.answer (giveUp p e) ∧ k = h.after (@giveUp α p e) ∨
      SameFiles h k ∧ ∃ x, a = .error (.removal x) := by
  obtain ⟨removed, l, removes, rest⟩ := runs_bind.mp runs
  obtain ⟨found, m, looks, removes⟩ := runs_bind.mp removes
  obtain rfl := looks.unmoved exists?_looks
  simp only [giveUp, removeStale, answer_bind, after_bind, after_of_looks exists?_looks]
  rcases runs_exists? looks with rfl | ⟨-, e, rfl⟩
  · generalize h.answer (exists? p) = found at removes
    rcases found with x | _ | _
    · cases removes
      cases rest
      exact .inl ⟨rfl, rfl⟩
    · cases removes
      cases rest
      exact .inl ⟨rfl, rfl⟩
    · obtain ⟨_, m, notes, removes⟩ := runs_bind.mp removes
      obtain ⟨-, rfl⟩ := runs_of_notes (note_isNote _ _ _) notes
      rcases runs_perform.mp removes with ⟨rfl, rfl⟩ | ⟨-, ⟨x, rfl⟩, rfl⟩
      · exact .inl (runs_of_steady (by split <;> exact asks_pure _) rest)
      · cases rest
        exact .inr ⟨⟨rfl, rfl⟩, x, rfl⟩
  · cases removes
    cases rest
    exact .inr ⟨SameFiles.refl h, _, rfl⟩

/-! ### What giving up takes away -/

def TakesAway (p : Path) (h k : Host) : Prop :=
  ∃ content, h.disk.get? (Path.climb p.names) = some (.file content) ∧
    k.disk = h.disk.erase (Path.climb p.names)

theorem disk_of_remove (absolute : p.isAbsolute = true) :
    (h.after (remove p)).disk = h.disk ∨
      h.answer (remove p) = .ok () ∧ TakesAway p h (h.after (remove p)) := by
  rw [answer_remove, after_remove]
  unfold change
  cases hg : guarded p (h.disk.remove h.here p) with
  | error e => exact .inl rfl
  | ok d =>
    obtain ⟨place, content, located, held, rfl⟩ := Disk.remove_eq_ok (guarded_eq_ok hg)
    obtain rfl := Disk.locate_of_absolute absolute located
    exact .inr ⟨rfl, content, held, rfl⟩

theorem disk_of_removeStale (absolute : p.isAbsolute = true) :
    (h.after (removeStale p)).disk = h.disk ∨
      h.answer (removeStale p) = .ok () ∧ TakesAway p h (h.after (removeStale p)) := by
  unfold removeStale
  simp only [answer_bind, after_bind, after_of_looks exists?_looks]
  rcases h.answer (exists? p) with x | _ | _
  · exact .inl rfl
  · exact .inl rfl
  · exact @disk_of_remove (h.after (note logger Log.warning
      s!"Removing stale validator module {p.text}")) p absolute

/-- What ending a run for a reason does: it takes away the file at the output, if there is one. -/
theorem disk_of_giveUp {α : Type} (absolute : p.isAbsolute = true) (e : CompilationError) :
    (h.after (@giveUp α p e)).disk = h.disk ∨
      h.answer (@giveUp α p e) = .error (.compilation e) ∧
        TakesAway p h (h.after (@giveUp α p e)) := by
  unfold giveUp
  simp only [answer_bind, after_bind]
  rcases disk_of_removeStale (h := h) absolute with same | ⟨removed, taken⟩
  · refine .inl (Eq.trans ?_ same)
    split <;> rfl
  · rw [removed]
    exact .inr ⟨rfl, taken⟩

/-- A run that gives up tells its reason, with no file left at the path, or it is stuck. -/
theorem giveUp_cases {e : CompilationError} {a : Except CompileStop CompileOutcome}
    (absolute : p.isAbsolute = true) (runs : Runs liable (giveUp p e) h a k) :
    a = .error (.compilation e) ∧ (k.disk = h.disk ∨ TakesAway p h k) ∧ ¬ k.HasFile p ∨
      (∃ x, a = .error (.removal x)) ∧ k.disk = h.disk := by
  rcases runs_giveUp runs with ⟨rfl, rfl⟩ | ⟨same, stuck⟩
  · have disk := disk_of_giveUp (α := CompileOutcome) (h := h) absolute e
    by_cases stuck : h.Unremovable p
    · obtain ⟨x, removal⟩ := giveUp_of_unremovable (α := CompileOutcome) stuck e
      rw [removal] at disk ⊢
      exact .inr ⟨⟨x, rfl⟩, disk.resolve_right fun told => nomatch told.1⟩
    · obtain ⟨told, gone⟩ := giveUp_of_removable (α := CompileOutcome) stuck e
      exact .inl ⟨told, disk.imp_right And.right, gone⟩
  · exact .inr ⟨stuck, same.disk.symm⟩

/-! ### Absolute paths -/

theorem resolved_isAbsolute (here : Place) (resolves : q.resolved here = .ok p) :
    p.isAbsolute = true := by
  unfold Path.resolved at resolves
  split at resolves
  · cases resolves
  · rw [← Except.ok.inj resolves]
    rfl

theorem outputOf_isAbsolute {here : Place} {base : Path} {output : Configuration.Section}
    (outputs : Configuration.outputOf here base output = .ok p) : p.isAbsolute = true := by
  obtain ⟨written, -, outputs⟩ := exists_of_bind_eq_ok outputs
  obtain ⟨target, places, outputs⟩ := exists_of_bind_eq_ok outputs
  have target_absolute : target.isAbsolute = true := by
    unfold Configuration.resolved at places
    dsimp only at places
    split at places
    · rename_i absolute
      rwa [← Except.ok.inj places]
    · cases resolves : (base.join (.ofText written)).resolved here with
      | error f => simp [resolves, Except.mapError] at places
      | ok found =>
        rw [resolves] at places
        obtain rfl := Except.ok.inj places
        exact resolved_isAbsolute _ resolves
  split at outputs
  · obtain rfl := Except.ok.inj outputs
    exact target_absolute
  · cases outputs

theorem configured_isAbsolute {path : Path} (loads : h.answer (Configuration.load path) = .ok c) :
    c.output.isAbsolute = true := by
  obtain ⟨text, v, -, -, made⟩ := Configuration.load_eq_ok loads
  obtain ⟨schema, output, -, sections, -⟩ := Configuration.ofValue_eq_ok made
  exact outputOf_isAbsolute sections.output

theorem override_isAbsolute (overrides : h.answer (override r) = .ok (some p)) :
    p.isAbsolute = true := by
  unfold override at overrides
  split at overrides
  · cases overrides
  · cases overrides
  · simp only [answer_bind] at overrides
    split at overrides
    · cases overrides
    · rename_i resolves
      obtain rfl := Option.some.inj (Except.ok.inj overrides)
      exact resolved_isAbsolute h.here resolves

/-- The path that a run writes to or removes is absolute. -/
theorem effectiveOutput_isAbsolute (hp : effectiveOutput h r = some p) : p.isAbsolute = true := by
  unfold effectiveOutput at hp
  split at hp
  · rename_i overrides
    obtain rfl := Option.some.inj hp
    exact override_isAbsolute overrides
  · rename_i loads
    obtain rfl := Option.some.inj hp
    exact configured_isAbsolute loads
  · cases hp

theorem effectiveOutput_of_loads {o : Option Path}
    (loads : h.answer (Configuration.load (.ofText r.config)) = .ok c)
    (overrides : h.answer (override r) = .ok o) : effectiveOutput h r = some (outputPath c o) := by
  cases o <;> simp [effectiveOutput, loads, overrides, outputPath]

theorem outputPath_of_effectiveOutput {o : Option Path} (hp : effectiveOutput h r = some p)
    (loads : h.answer (Configuration.load (.ofText r.config)) = .ok c)
    (overrides : h.answer (override r) = .ok o) : outputPath c o = p :=
  Option.some.inj ((effectiveOutput_of_loads loads overrides).symm.trans hp)

theorem override_of_effectiveOutput (output : effectiveOutput h r = some p)
    (loads : h.answer (Configuration.load (.ofText r.config)) = .ok c) :
    ∃ o, h.answer (override r) = .ok o ∧ outputPath c o = p := by
  cases overrides : h.answer (override r) with
  | error f => simp [effectiveOutput, overrides] at output
  | ok o => exact ⟨o, rfl, outputPath_of_effectiveOutput output loads overrides⟩

/-! ### Places -/

/-- How a run may change what is at a place: it makes directories on the way to its output path, it
replaces what is at that path if it is done, and removes it if it settles on a reason. -/
inductive Touch (p : Path) (done settled : Prop) (q : Place) : Option Node → Option Node → Prop
  | same (n : Option Node) : Touch p done settled q n n
  | made (passed : p.Passes q) : Touch p done settled q none (some .directory)
  | replaced {old : Option Node} {m : ValidatorModule} (ended : done)
      (target : q = Path.climb p.names) (noDirectory : old ≠ some .directory) :
      Touch p done settled q old (some (.file (Text.Utf8.encode m.text.toList)))
  | removed {content : List UInt8} (ended : settled) (target : q = Path.climb p.names) :
      Touch p done settled q (some (.file content)) none

inductive Leaves (p : Path) (done settled : Prop) (strays : List UInt8 → Prop) (h k : Host) : Prop
  | clean (places : ∀ q, Touch p done settled q (h.disk.get? q) (k.disk.get? q))
  | strayed {x : Place} {part : List UInt8} (why : strays part) (drafts : p.Drafts x)
      (free : h.disk.get? x = none) (held : k.disk.get? x = some (.file part))
      (places : ∀ q, q ≠ x → Touch p done settled q (h.disk.get? q) (k.disk.get? q))

variable {done settled done' settled' : Prop} {strays strays' : List UInt8 → Prop}

theorem Touch.imp {old new : Option Node} (t : Touch p done settled x old new)
    (hd : done → done') (hs : settled → settled') : Touch p done' settled' x old new := by
  cases t with
  | same => exact .same _
  | made passed => exact .made passed
  | replaced ended target noDirectory => exact .replaced (hd ended) target noDirectory
  | removed ended target => exact .removed (hs ended) target

theorem Leaves.imp (leaves : Leaves p done settled strays h k) (hd : done → done')
    (hs : settled → settled') (weaker : ∀ part, strays part → strays' part) :
    Leaves p done' settled' strays' h k := by
  cases leaves with
  | clean places => exact .clean fun q => (places q).imp hd hs
  | strayed why drafts free held places =>
    exact .strayed (weaker _ why) drafts free held fun q away => (places q away).imp hd hs

theorem touch_of_paved (paved : Paved p h k) (q : Place) :
    Touch p done settled q (h.disk.get? q) (k.disk.get? q) := by
  rcases paved q with same | ⟨free, made, passed⟩
  · rw [same]
    exact .same _
  · rw [free, made]
    exact .made passed

theorem leaves_of_drafted {t : Path} {part : List UInt8} (paved : Paved p h k)
    (drafts : p.Drafts x) (left : Drafted k l t x part) (why : strays part) :
    Leaves p done settled strays h l := by
  have free : h.disk.get? x = none := by
    cases held : h.disk.get? x with
    | none => rfl
    | some n =>
      have still := Disk.GrowsAt.within paved x n held
      rw [left.disk.free] at still
      cases still
  refine .strayed why drafts free (by rw [left.disk.nodes, if_pos rfl]) fun q away => ?_
  rw [left.disk.nodes, if_neg away]
  exact touch_of_paved paved q

/-- Why a draft is left behind: it could not be removed, or surrogates have kept the module from
being written to it. -/
def StraysAfter (liable : Request → Prop) :
    Except CompileStop CompileOutcome → List UInt8 → Prop
  | .ok _, _ => False
  | .error (.fault f), part => part = [] ∧ ∃ e, f = .unencodable e
  | .error _, _ => ∃ t, liable (.remove t)

theorem leaves_of_writing_error {text : String} {e : FileError}
    (w : Writing liable p text h k (.error (.error e))) :
    Leaves p done settled (fun _ => ∃ t, liable (.remove t)) h k := by
  cases w with
  | stopped paved => exact .clean (touch_of_paved paved)
  | kept unremoved paved drafts left => exact leaves_of_drafted paved drafts left ⟨_, unremoved⟩

theorem leaves_of_writing_fault {text : String} {f : Fault}
    (w : Writing liable p text h k (.error (.fault f))) :
    Leaves p done settled (StraysAfter liable (.error (.fault f))) h k := by
  cases w with
  | stopped paved => exact .clean (touch_of_paved paved)
  | unencodable surrogates paved drafts left =>
    exact leaves_of_drafted paved drafts left ⟨rfl, _, rfl⟩

theorem touch_of_written {m : ValidatorModule} (ended : done)
    (w : Writing liable p m.text h k (.ok ())) (q : Place) :
    Touch p done settled q (h.disk.get? q) (k.disk.get? q) := by
  obtain _ | _ | _ | ⟨paved, noDirectory, nodes⟩ := w
  rw [nodes]
  split
  · rename_i target
    exact .replaced ended target fun old => noDirectory (target ▸ Disk.GrowsAt.within paved q _ old)
  · exact touch_of_paved paved q

/-- A file that is taken away was there before the run. -/
theorem Touch.takenAway {q : Place}
    (touch : Touch p False False q (h.disk.get? q) (k.disk.get? q)) (ended : settled)
    (taken : TakesAway p k l) : Touch p done settled q (h.disk.get? q) (l.disk.get? q) := by
  obtain ⟨content, held, erased⟩ := taken
  rw [erased, Disk.get?_erase_inner (Disk.inner_of_file held)]
  split
  · rename_i target
    subst target
    rw [held] at touch
    generalize h.disk.get? (Path.climb p.names) = old at touch ⊢
    generalize file : some (Node.file content) = new at touch
    cases touch with
    | same =>
      rw [← file]
      exact .removed ended rfl
    | made | removed => cases file
    | replaced ended => exact ended.elim
  · exact touch.imp False.elim False.elim

theorem Leaves.takenAway (leaves : Leaves p False False strays h k) (ended : settled)
    (taken : TakesAway p k l) : Leaves p done settled strays h l := by
  cases leaves with
  | clean places => exact .clean fun q => (places q).takenAway ended taken
  | strayed why drafts free held places =>
    refine .strayed why drafts free ?_ fun q away => (places q away).takenAway ended taken
    obtain ⟨content, old, erased⟩ := taken
    rw [erased, Disk.get?_erase_inner (Disk.inner_of_file old), if_neg drafts.ne_target]
    exact held

theorem Leaves.of_disk (leaves : Leaves p done settled strays h k) (disk : l.disk = k.disk) :
    Leaves p done settled strays h l := by
  cases leaves with
  | clean places => exact .clean (disk ▸ places)
  | strayed why drafts free held places =>
    exact .strayed why drafts free (disk ▸ held) (disk ▸ places)

theorem Leaves.givenUp {e : CompilationError} {a : Except CompileStop CompileOutcome}
    (leaves : Leaves p False False (fun _ => ∃ t, liable (.remove t)) h k)
    (absolute : p.isAbsolute = true) (runs : Runs liable (giveUp p e) k a l) :
    Leaves p (∃ outcome, a = .ok outcome) (∃ e, a = .error (.compilation e))
      (StraysAfter liable a) h l := by
  rcases giveUp_cases absolute runs with ⟨rfl, disk | taken, -⟩ | ⟨⟨x, rfl⟩, disk⟩
  · exact (leaves.of_disk disk).imp False.elim False.elim fun _ left => left
  · exact (leaves.takenAway ⟨e, rfl⟩ taken).imp id id fun _ left => left
  · exact (leaves.of_disk disk).imp False.elim False.elim fun _ left => left

/-! ### The whole run -/

theorem SameFiles.writing {text : String} {reply : Reply Unit} (s : SameFiles h k)
    (w : Writing liable p text k l reply) : Writing liable p text h l reply := by
  cases w with
  | stopped paved => exact .stopped (s.paved.trans paved)
  | unencodable surrogates paved drafts left =>
    exact .unencodable surrogates (s.paved.trans paved) drafts left
  | kept unremoved paved drafts left => exact .kept unremoved (s.paved.trans paved) drafts left
  | written paved noDirectory nodes => exact .written (s.paved.trans paved) noDirectory nodes

/-- Up to the written module a run leaves what the write of it leaves. -/
theorem runs_produce {a : Except (Failure CompilationError) CompileOutcome}
    (absolute : p.isAbsolute = true) (runs : Runs liable (produce c p) h a k) :
    (∀ f, a = .error (.fault f) →
      Leaves p False False (StraysAfter liable (.error (.fault f))) h k) ∧
    (∀ e, a = .error (.error e) →
      Leaves p False False (fun _ => ∃ t, liable (.remove t)) h k) ∧
    ∀ outcome, a = .ok outcome → outcome.output = p ∧ ∃ m : ValidatorModule,
      Writing liable p m.text h k (.ok ()) ∧
        k.answer (.read p) = .ok (Text.Utf8.encode m.text.toList) := by
  obtain ⟨source, l, reads, rest⟩ := runs_bind.mp runs
  obtain rfl := reads.unmoved (sourceText_looks c.source)
  cases source with
  | error e =>
    cases rest
    have clean : ∀ strays, Leaves p False False strays h h :=
      fun _ => .clean (touch_of_paved (Paved.refl p h))
    exact ⟨fun _ _ => clean _, fun _ _ => clean _, nofun⟩
  | ok text =>
    obtain ⟨compiled, l, compiles, rest⟩ := runs_bind.mp rest
    have noted := compiles.sameFiles (compile_spares c text)
    cases compiled with
    | error e =>
      cases rest
      have clean : ∀ strays, Leaves p False False strays h k :=
        fun _ => .clean (touch_of_paved noted.paved)
      exact ⟨fun _ _ => clean _, fun _ _ => clean _, nofun⟩
    | ok result =>
      obtain ⟨reply, m, writes, rest⟩ := runs_bind.mp rest
      obtain ⟨writing, held⟩ := (secures_writeWhole absolute _ l).runs writes
      have writing := SameFiles.writing noted writing
      rcases reply with (e | f) | u
      · cases rest
        exact ⟨nofun, fun _ _ => leaves_of_writing_error writing, nofun⟩
      · cases rest
        refine ⟨?_, nofun, nofun⟩
        rintro _ ⟨⟩
        exact leaves_of_writing_fault writing
      · cases rest
        refine ⟨nofun, nofun, ?_⟩
        rintro _ ⟨⟩
        exact ⟨rfl, result.module, writing, held rfl⟩

structure Footprint (liable : Request → Prop) (p : Path) (h k : Host)
    (a : Except CompileStop CompileOutcome) : Prop where
  places : Leaves p (∃ outcome, a = .ok outcome) (∃ e, a = .error (.compilation e))
    (StraysAfter liable a) h k
  replaced : ∀ outcome, a = .ok outcome → outcome.output = p ∧
    ∃ m : ValidatorModule, k.answer (.read p) = .ok (Text.Utf8.encode m.text.toList)
  removed : ∀ e, a = .error (.compilation e) → ¬ k.HasFile p

theorem footprint_of_giveUp {e : CompilationError} {a : Except CompileStop CompileOutcome}
    (leaves : Leaves p False False (fun _ => ∃ t, liable (.remove t)) h k)
    (absolute : p.isAbsolute = true) (runs : Runs liable (giveUp p e) k a l) :
    Footprint liable p h l a := by
  refine ⟨leaves.givenUp absolute runs, ?_, ?_⟩
  · rcases giveUp_cases absolute runs with ⟨rfl, -⟩ | ⟨⟨x, rfl⟩, -⟩ <;> exact nofun
  · rcases giveUp_cases absolute runs with ⟨rfl, -, gone⟩ | ⟨⟨x, rfl⟩, -⟩
    · exact fun _ _ => gone
    · exact nofun

theorem footprint_of_withConfiguration {a : Except CompileStop CompileOutcome} {o : Option Path}
    (absolute : (outputPath c o).isAbsolute = true) (overrides : h.answer (override r) = .ok o)
    (runs : Runs liable (withConfiguration c r) h a k) :
    Footprint liable (outputPath c o) h k a := by
  obtain ⟨overridden, l, first, rest⟩ := runs_bind.mp runs
  obtain rfl := first.unmoved override_looks
  obtain rfl := runs_override first
  rw [overrides] at rest
  obtain ⟨produced, l, produces, rest⟩ := runs_bind.mp rest
  obtain ⟨faulty, failed, done⟩ := runs_produce absolute produces
  rcases produced with (e | f) | outcome
  · exact footprint_of_giveUp (failed e rfl) absolute rest
  · cases rest
    exact ⟨(faulty f rfl).imp False.elim False.elim fun _ left => left, nofun, nofun⟩
  · obtain ⟨output, m, writing, held⟩ := done outcome rfl
    obtain ⟨_, n, notes, rest⟩ := runs_bind.mp rest
    have noted := notes.sameFiles ((note_isNote _ _ _).imp fun _ => Request.IsNote.spares)
    cases rest
    refine ⟨.clean fun q => ?_, ?_, nofun⟩
    · rw [← noted.disk]
      exact touch_of_written ⟨outcome, rfl⟩ writing q
    · rintro _ ⟨⟩
      exact ⟨output, m, (noted.answer _).symm.trans held⟩

theorem Footprint.congr {h' k' : Host} {a : Except CompileStop CompileOutcome}
    (before : SameFiles h' h) (after : SameFiles k k') (left : Footprint liable p h k a) :
    Footprint liable p h' k' a where
  places := by
    have places := left.places.of_disk after.disk.symm
    cases places with
    | clean places => exact .clean (before.disk ▸ places)
    | strayed why drafts free held places =>
      exact .strayed why drafts (before.disk ▸ free) held (before.disk ▸ places)
  replaced := by
    intro outcome ended
    obtain ⟨output, m, held⟩ := left.replaced outcome ended
    exact ⟨output, m, (after.answer _).symm.trans held⟩
  removed := by
    rintro e told ⟨content, held⟩
    exact left.removed e told ⟨content, (after.answer _).trans held⟩

structure Unread (liable : Request → Prop) (h k : Host) (r : CompileRequest)
    (a : Except CompileStop CompileOutcome) : Prop where
  failed : liable (.kindOf (.ofText r.config)) ∨ liable (.read (.ofText r.config))
  told : ∃ e, a = .error (.compilation (.configuration (.file e)))
  disk : k.disk = h.disk

/-- A run that has an output path leaves its footprint, whichever operations fail, if it gets to
read its configuration. -/
theorem footprint_of_run {a : Except CompileStop CompileOutcome}
    (hp : effectiveOutput h r = some p) (runs : Runs liable (run r) h a k) :
    Footprint liable p h k a ∨ Unread liable h k r a := by
  have absolute := effectiveOutput_isAbsolute hp
  have clean : ∀ done settled strays, Leaves p done settled strays h h :=
    fun _ _ _ => .clean fun q => .same _
  obtain ⟨loaded, l, loads, rest⟩ := runs_bind.mp runs
  obtain rfl := loads.unmoved load_looks
  rcases loaded with (e | f) | c
  · obtain ⟨overridden, l, overrides, rest⟩ := runs_bind.mp rest
    obtain rfl := overrides.unmoved override_looks
    have given := runs_override overrides
    rcases overridden with f | _ | q
    · simp [effectiveOutput, ← given] at hp
    · cases rest
      rcases runs_load loads with same | ⟨failed, x, told⟩
      · simp [effectiveOutput, ← given, ← same] at hp
      · cases told
        exact .inr ⟨failed, ⟨x, rfl⟩, rfl⟩
    · obtain rfl : q = p := by simpa [effectiveOutput, ← given] using hp
      exact .inl (footprint_of_giveUp (clean _ _ _) absolute rest)
  · cases rest
    exact .inl ⟨clean _ _ _, by simp, by simp⟩
  · rcases runs_load loads with same | ⟨-, x, told⟩
    · obtain ⟨o, overrides, rfl⟩ := override_of_effectiveOutput hp same.symm
      exact .inl (footprint_of_withConfiguration absolute overrides rest)
    · cases told

/-- A run without an output path changes nothing. -/
theorem untouched_of_run {a : Except CompileStop CompileOutcome}
    (absent : effectiveOutput h r = none) (runs : Runs liable (run r) h a k) :
    k.disk = h.disk := by
  obtain ⟨loaded, l, loads, rest⟩ := runs_bind.mp runs
  obtain rfl := loads.unmoved load_looks
  rcases loaded with (e | f) | c
  · obtain ⟨overridden, l, overrides, rest⟩ := runs_bind.mp rest
    obtain rfl := overrides.unmoved override_looks
    have given := runs_override overrides
    rcases overridden with f | _ | q
    · cases rest
      rfl
    · cases rest
      rfl
    · simp [effectiveOutput, ← given] at absent
  · cases rest
    rfl
  · rcases runs_load loads with same | ⟨-, x, told⟩
    · obtain ⟨overridden, l, overrides, rest⟩ := runs_bind.mp rest
      obtain rfl := overrides.unmoved override_looks
      have given := runs_override overrides
      rcases overridden with f | _ | q
      · cases rest
        rfl
      · simp [effectiveOutput, ← given, ← same] at absent
      · simp [effectiveOutput, ← given] at absent
    · cases told

theorem run_untouched (absent : effectiveOutput h r = none) :
    (h.after (run r)).disk = h.disk :=
  untouched_of_run absent (runs_certainly _ h)

theorem writing_of_writeWhole (absolute : p.isAbsolute = true) (text : String) :
    Writing (fun _ => False) p text h (h.after (writeWhole p text))
      (h.answer (writeWhole p text)) :=
  ((secures_writeWhole absolute text h).runs (runs_certainly _ h)).1

end CompileRun

end SchemaChecks
