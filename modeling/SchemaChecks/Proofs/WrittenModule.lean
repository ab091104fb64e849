import SchemaChecks.Proofs.Encodable
import SchemaChecks.Proofs.Spelling

/-!
What a compile run writes. A run with an outcome leaves at its output path the module of the schemas
that its configuration named when it started, whatever stood there before; the path may even be that
of the configuration or of the schemas themselves.
-/

namespace SchemaChecks

namespace Source

variable {e : Extraction} {doc : Option String} {m : ValidatorModule}

/-- The text of a module reads back with a table of the schemas that have validators, in order. -/
theorem table_of_module {root : Tree} {path : Option String}
    (h : Extraction.ofTree root path = .ok e) (hm : ValidatorModule.ofExtraction e doc = .ok m) :
    ∃ script, read? m.text = some script ∧ script.table.map Prod.fst = e.names := by
  obtain ⟨c, -, hcompiles, rfl⟩ := Extraction.ofTree_eq_ok.mp h
  have hw := Extraction.wellFormed_of_definitions hcompiles
  obtain ⟨patterns, rendered⟩ := functions_rendered hw.nonempty hm
  refine ⟨.ofModule m, read?_of_rendered hw patterns rendered, ?_⟩
  rw [← (functions_names rendered).2, Script.ofModule, List.map_map]
  rfl

end Source

open Program Host

namespace CompileRun

variable {h : Host} {p : Path} {c : Configuration} {r : CompileRequest}

theorem discardTemporary_ne_ok (q : Path) (e : Failure FileError) :
    h.answer (discardTemporary q e) ≠ .ok () := by
  cases e with
  | fault f => simp [discardTemporary]
  | error e =>
    simp only [discardTemporary, answer_bind]
    split <;> simp

theorem hasBytes_of_fillAndMove {t : Path} {text : String}
    (written : h.answer (fillAndMove t p text) = .ok ()) : Text.HasBytes text.toList := by
  unfold fillAndMove at written
  rw [answer_bind] at written
  split at written
  · exact absurd written (discardTemporary_ne_ok _ _)
  · rename_i filled
    exact hasBytes_of_writeText filled

theorem read_after_fillAndMove {t : Path} {text : String} (accepted : p.isRefused = false)
    (written : h.answer (fillAndMove t p text) = .ok ()) :
    (h.after (fillAndMove t p text)).answer (.read p) = .ok (Text.Utf8.encode text.toList) := by
  unfold fillAndMove at written ⊢
  simp only [answer_bind, after_bind] at written ⊢
  split at written
  · exact absurd written (discardTemporary_ne_ok _ _)
  · rename_i filled
    have held := read_after_writeText filled
    simp only [answer_bind, after_bind] at written ⊢
    split at written
    · exact absurd written (discardTemporary_ne_ok _ _)
    · rename_i replaced
      exact read_after_replace accepted held replaced

/-- A text that has been written whole is what the target holds. -/
theorem read_after_writeWhole {text : String} (written : h.answer (writeWhole p text) = .ok ()) :
    (h.after (writeWhole p text)).answer (.read p) = .ok (Text.Utf8.encode text.toList) := by
  unfold writeWhole at written ⊢
  simp only [answer_bind, after_bind] at written ⊢
  generalize h.after (makeDirectories (p.parent.names.length + 1) p.parent) = k at *
  split at written
  · simp at written
  · simp only [answer_bind, after_bind] at written ⊢
    split at written
    · simp at written
    · rename_i temporary made
      exact read_after_fillAndMove (accepted_of_createTemporary made) written

theorem fillAndMove_of_hasBytes {text : String} (bytes : Text.HasBytes text.toList) (t : Path) :
    fillAndMove t p text = (do
      match ← write t (Text.Utf8.encode text.toList) with
      | .error e => discardTemporary t e
      | .ok () =>
        match ← replace t p with
        | .error e => discardTemporary t e
        | .ok () => pure (.ok ())) := by
  rcases writeText_cases t text with ⟨-, write⟩ | ⟨e, surrogates, -⟩
  · unfold fillAndMove
    exact congrArg (Bind.bind · _) write
  · rw [Text.Utf8.unencodable?_eq_none.mpr bytes] at surrogates
    cases surrogates

theorem fillAndMove_of_surrogates {text : String} (surrogates : ¬ Text.HasBytes text.toList) :
    ∃ e, ∀ t, fillAndMove t p text = pure (.error (.fault (.unencodable e))) := by
  cases found : Text.Utf8.unencodable? (fun _ => false) text.toList with
  | none => exact absurd (Text.Utf8.unencodable?_eq_none.mp found) surrogates
  | some e =>
    have refused : ∀ t, writeText t text = pure (.error (.fault (.unencodable e))) := by
      simp [writeText, found]
    exact ⟨e, fun t => by rw [fillAndMove, refused]; rfl⟩

theorem answer_compile_eq_ok {text : String} {result : Compiled}
    (compiles : h.answer (compile c text) = .ok result) :
    ∃ d, Document.load text (c.format.map Format.name) = .ok d ∧
      definitionsOf d.root c.collection = .ok result.definitions ∧
      Extraction.ofTree d.root c.collection = .ok result.extraction ∧
      ValidatorModule.ofExtraction result.extraction c.moduleDoc = .ok result.module := by
  unfold compile at compiles
  cases hd : Document.load text (c.format.map Format.name) with
  | error e => simp [hd] at compiles
  | ok d =>
    simp only [hd, answer_bind] at compiles
    cases hs : definitionsOf d.root c.collection with
    | error e => simp [hs] at compiles
    | ok definitions =>
      simp only [hs, answer_bind] at compiles
      cases he : Extraction.ofTree d.root c.collection with
      | error e => simp [he] at compiles
      | ok extraction =>
        cases hm : ValidatorModule.ofExtraction extraction c.moduleDoc with
        | error f => simp [he, hm] at compiles
        | ok m =>
          simp only [he, hm, answer_pure, Except.ok.injEq] at compiles
          subst compiles
          exact ⟨d, rfl, hs, he, hm⟩

theorem answer_compile_of_document {text : String} {d : Document} {result : Compiled}
    (document : Document.load text (c.format.map Format.name) = .ok d)
    (definitions : definitionsOf d.root c.collection = .ok result.definitions)
    (extraction : Extraction.ofTree d.root c.collection = .ok result.extraction)
    (module : ValidatorModule.ofExtraction result.extraction c.moduleDoc = .ok result.module) :
    h.answer (compile c text) = .ok result := by
  simp only [compile, document, answer_bind, definitions, extraction, module, answer_pure]

/-- The names that a document defines and those of its schemas with validators, if a module can be
made of it. -/
def namesOf? (c : Configuration) (d : Document) : Option (List String × List String) := do
  let definitions ← (definitionsOf d.root c.collection).toOption
  let extraction ← (Extraction.ofTree d.root c.collection).toOption
  let _ ← (ValidatorModule.ofExtraction extraction c.moduleDoc).toOption
  some (definitions.map Definition.name, extraction.names)

/-- The names that the characters of a YAML text define tell what a run builds from it. -/
theorem compile_of_names {text : String} {cs : List Char} {defined validated : List String}
    (spelled : String.ofList cs = text) (yaml : c.format = some .yaml)
    (full : cs.all Text.isBlank = false)
    (names : (Document.ofYaml cs).toOption.bind (namesOf? c) = some (defined, validated)) :
    ∃ result : Compiled, (∀ h : Host, h.answer (compile c text) = .ok result) ∧
      result.definitions.map Definition.name = defined ∧ result.extraction.names = validated := by
  simp only [namesOf?, Option.bind_eq_bind, Option.bind_eq_some_iff,
    toOption_eq_some_iff, Option.some.injEq, Prod.mk.injEq] at names
  obtain ⟨d, read, definitions, defines, extraction, extracts, m, module, rfl, rfl⟩ := names
  refine ⟨⟨definitions, extraction, m⟩, fun h => ?_, rfl, rfl⟩
  have document : Document.load text (c.format.map Format.name) = .ok d := by
    rw [yaml, ← spelled]
    exact (Document.load_yaml full).trans read
  exact answer_compile_of_document document defines extracts module

/-- The names also tell whether that can be written. -/
theorem hasBytes_of_names {text : String} {result : Compiled} {validated : List String}
    (compiles : h.answer (compile c text) = .ok result)
    (names : result.extraction.names = validated) :
    Text.HasBytes result.module.text.toList ↔
      Text.HasBytes (ValidatorModule.docOf c.moduleDoc).toList ∧
        ∀ name ∈ validated, Text.HasBytes name.toList := by
  obtain ⟨d, -, -, extraction, module⟩ := answer_compile_eq_ok compiles
  rw [← names]
  exact ValidatorModule.hasBytes_iff extraction module

/-- What a run that produces its outcome has read, built and written. -/
theorem produce_eq_ok {outcome : CompileOutcome} (produces : h.answer (produce c p) = .ok outcome) :
    ∃ text result, h.answer (sourceText c.source) = .ok text ∧
      h.answer (compile c text) = .ok result ∧
      outcome = ⟨p, result.extraction.names, result.definitions.length - result.extraction.length⟩ ∧
      (h.after (produce c p)).answer (.read p) =
        .ok (Text.Utf8.encode result.module.text.toList) := by
  unfold produce at produces ⊢
  simp only [answer_bind, after_bind, after_of_looks (sourceText_looks c.source)] at produces ⊢
  split at produces
  · simp at produces
  · rename_i text reads
    simp only [answer_bind, after_bind] at produces ⊢
    split at produces
    · simp at produces
    · rename_i result compiles
      simp only [answer_bind, after_bind] at produces ⊢
      split at produces
      · simp at produces
      · rename_i written
        refine ⟨text, result, reads, compiles, (Except.ok.inj produces).symm, ?_⟩
        simpa [reads, compiles, written] using read_after_writeWhole written

inductive SchemaText (h : Host) : SchemaSource → String → Prop
  | inline {text : String} : SchemaText h (.inline text) text
  | file {q : Path} {bytes : List UInt8} {text : String}
      (holds : h.answer (.read q) = .ok bytes) (spells : textOfBytes bytes = .ok text) :
      SchemaText h (.file q) text

theorem schemaText_of_answer {source : SchemaSource} {text : String}
    (reads : h.answer (sourceText source) = .ok text) : SchemaText h source text := by
  cases source with
  | inline written =>
    obtain rfl := Except.ok.inj reads
    exact .inline
  | file q =>
    simp only [sourceText, readText, answer_bind] at reads
    cases holds : h.answer (.read q) with
    | error e => simp [holds, Except.mapError] at reads
    | ok bytes =>
      cases spells : textOfBytes bytes with
      | error e => simp [holds, spells, Except.mapError] at reads
      | ok spelled =>
        simp only [holds, spells, Except.mapError, answer_pure, Except.ok.injEq] at reads
        subst reads
        exact .file holds spells

/-- Where a run writes: at the path that is asked for, seen from the working directory, or else
where the configuration says. -/
def requestedOutput (h : Host) (r : CompileRequest) (c : Configuration) : Path :=
  match r.output with
  | none | some "" => c.output
  | some written => (Path.ofText written).resolve h.here

theorem outputPath_eq_requestedOutput {o : Option Path}
    (overrides : h.answer (override r) = .ok o) :
    outputPath c o = requestedOutput h r c := by
  have resolves : ∀ written, h.answer (resolve (.ofText written)) =
      (Path.ofText written).resolved h.here := fun _ => rfl
  have accepted := accepted_of_override overrides
  unfold override at overrides
  split at overrides
  · rename_i absent
    obtain rfl := Except.ok.inj overrides
    simp [requestedOutput, absent, outputPath]
  · rename_i empty
    obtain rfl := Except.ok.inj overrides
    simp [requestedOutput, empty, outputPath]
  · rename_i written _ given
    simp only [answer_bind, resolves, Path.resolved, accepted written given, Bool.false_eq_true,
      if_false, answer_pure, Except.ok.injEq] at overrides
    subst overrides
    simp [requestedOutput, given, outputPath]

theorem giveUp_ne_ok (e : CompilationError) (outcome : CompileOutcome) :
    h.answer (giveUp p e) ≠ .ok outcome := by
  by_cases stuck : h.Unremovable p
  · obtain ⟨x, removal⟩ := @giveUp_of_unremovable h p CompileOutcome stuck e
    simp [removal]
  · simp [giveUp_of_removable stuck e]

/-- A run with an outcome has loaded its configuration and produced the outcome from it; what it
notes after that touches no file. -/
theorem run_eq_ok {outcome : CompileOutcome} (ended : h.answer (run r) = .ok outcome) :
    ∃ c o, h.answer (Configuration.load (.ofText r.config)) = .ok c ∧
      h.answer (override r) = .ok o ∧ h.answer (produce c (outputPath c o)) = .ok outcome ∧
      SameFiles (h.after (produce c (outputPath c o))) (h.after (run r)) := by
  have stages : ∃ c o, h.answer (Configuration.load (.ofText r.config)) = .ok c ∧
      h.answer (override r) = .ok o ∧ h.answer (produce c (outputPath c o)) = .ok outcome := by
    have course := course_of_run h r
    generalize h.after (run r) = k at course
    generalize h.answer (run r) = a at course ended
    cases course with
    | loadFault | overrideFault | unconfigured | faulty => cases ended
    | givenUpUnconfigured | givenUp => exact absurd ended (giveUp_ne_ok _ _)
    | done loads overrides produces =>
      obtain rfl := Except.ok.inj ended
      exact ⟨_, _, loads, overrides, produces⟩
  obtain ⟨c, o, loads, overrides, produces⟩ := stages
  refine ⟨c, o, loads, overrides, produces, ?_⟩
  have noted : ∃ text, h.after (run r) =
      (h.after (produce c (outputPath c o))).after (note logger Log.info text) := by
    simp only [run, withConfiguration, after_bind, after_of_looks load_looks, loads,
      after_of_looks override_looks, overrides, produces]
    exact ⟨_, rfl⟩
  obtain ⟨text, noted⟩ := noted
  rw [noted]
  exact ⟨rfl, rfl⟩

structure Writes (h : Host) (r : CompileRequest) (c : Configuration) (o : Option Path)
    (source : String) (result : Compiled) : Prop where
  loads : h.answer (Configuration.load (.ofText r.config)) = .ok c
  overrides : h.answer (override r) = .ok o
  reads : h.answer (sourceText c.source) = .ok source
  compiles : h.answer (compile c source) = .ok result

/-- A run that gets to writing its module ends as the write does. -/
theorem answer_run_of_writes {o : Option Path} {source : String} {result : Compiled}
    (w : Writes h r c o source result) : h.answer (run r) =
      match h.answer (writeWhole (outputPath c o) result.module.text) with
      | .error (.fault f) => .error (.fault f)
      | .error (.error e) =>
        (h.after (writeWhole (outputPath c o) result.module.text)).answer
          (giveUp (outputPath c o) (.file e))
      | .ok () => .ok ⟨outputPath c o, result.extraction.names,
          result.definitions.length - result.extraction.length⟩ := by
  have noted := sameFiles_of_spares (compile_spares c source) h
  obtain ⟨same, files⟩ := noted.run (writeWhole (outputPath c o) result.module.text)
  simp only [run, answer_bind, after_bind, after_of_looks load_looks, w.loads, withConfiguration,
    after_of_looks override_looks, w.overrides, produce,
    after_of_looks (sourceText_looks c.source), w.reads, w.compiles, same]
  generalize (h.after (compile c source)).answer (writeWhole (outputPath c o) result.module.text) =
    reply
  rcases reply with (e | f) | u
  · simp only [answer_pure, after_pure, Failure.map]
    exact (files.answer _).symm
  · rfl
  · rfl

/-- A run that writes its module ends with its outcome. -/
theorem run_of_writes {o : Option Path} {source : String} {result : Compiled}
    (w : Writes h r c o source result)
    (written : h.answer (writeWhole (outputPath c o) result.module.text) = .ok ()) :
    h.answer (run r) = .ok ⟨outputPath c o, result.extraction.names,
        result.definitions.length - result.extraction.length⟩ ∧
      SameFiles (h.after (writeWhole (outputPath c o) result.module.text)) (h.after (run r)) := by
  have noted := sameFiles_of_spares (compile_spares c source) h
  obtain ⟨same, files⟩ := noted.run (writeWhole (outputPath c o) result.module.text)
  rw [written] at same
  simp only [run, answer_bind, after_bind, after_of_looks load_looks, w.loads, withConfiguration,
    after_of_looks override_looks, w.overrides, produce,
    after_of_looks (sourceText_looks c.source), w.reads, w.compiles, ← same, answer_pure,
      after_pure,
    true_and]
  exact files.trans ⟨(after_note_disk ..).symm, (after_note_here ..).symm⟩

/-- A run whose write ends with a fault ends with it. -/
theorem run_of_fault {o : Option Path} {source : String} {result : Compiled} {f : Fault}
    (w : Writes h r c o source result)
    (fault : h.answer (writeWhole (outputPath c o) result.module.text) = .error (.fault f)) :
    h.answer (run r) = .error (.fault f) ∧
      SameFiles (h.after (writeWhole (outputPath c o) result.module.text)) (h.after (run r)) := by
  have noted := sameFiles_of_spares (compile_spares c source) h
  obtain ⟨same, files⟩ := noted.run (writeWhole (outputPath c o) result.module.text)
  rw [fault] at same
  simp only [run, answer_bind, after_bind, after_of_looks load_looks, w.loads, withConfiguration,
    after_of_looks override_looks, w.overrides, produce,
    after_of_looks (sourceText_looks c.source), w.reads, w.compiles, ← same, answer_pure,
    after_pure, Failure.map, true_and]
  exact files

theorem run_of_names {o : Option Path} {source : String} {result : Compiled}
    {defined validated : List String} (w : Writes h r c o source result)
    (written : h.answer (writeWhole (outputPath c o) result.module.text) = .ok ())
    (definitions : result.definitions.map Definition.name = defined)
    (extraction : result.extraction.names = validated) :
    h.answer (run r) = .ok ⟨outputPath c o, validated, defined.length - validated.length⟩ := by
  have size : result.extraction.names.length = result.extraction.length := List.length_map ..
  rw [(run_of_writes w written).1, ← definitions, ← extraction, List.length_map, size]

/-- What a run makes of its inputs as they stand before it, and what it leaves. -/
structure Delivery (h k : Host) (r : CompileRequest) (outcome : CompileOutcome)
    (c : Configuration) (text : String) (d : Document) (e : Extraction) (m : ValidatorModule) :
    Prop where
  configuration : h.answer (Configuration.load (.ofText r.config)) = .ok c
  source : SchemaText h c.source text
  document : Document.load text (c.format.map Format.name) = .ok d
  extraction : Extraction.ofTree d.root c.collection = .ok e
  module : ValidatorModule.ofExtraction e c.moduleDoc = .ok m
  output : outcome.output = requestedOutput h r c
  file : k.answer (.read outcome.output) = .ok (Text.Utf8.encode m.text.toList)
  validated : outcome.validated = e.names
  /-- The module's table lists the same schemas. -/
  table : ∃ script, Source.read? m.text = some script ∧ script.table.map Prod.fst = e.names

/-- A run with an outcome, in a state of the files without links, leaves exactly the rendering of
its inputs at its output path. -/
theorem delivery_of_outcome {outcome : CompileOutcome} (ended : h.answer (run r) = .ok outcome) :
    ∃ c text d e m, Delivery h (h.after (run r)) r outcome c text d e m := by
  obtain ⟨c, o, loads, overrides, produces, files⟩ := run_eq_ok ended
  obtain ⟨text, result, reads, compiles, rfl, held⟩ := produce_eq_ok produces
  obtain ⟨d, document, -, extraction, module⟩ := answer_compile_eq_ok compiles
  refine ⟨c, text, d, result.extraction, result.module, ?_⟩
  exact
    { configuration := loads
      source := schemaText_of_answer reads
      document := document
      extraction := extraction
      module := module
      output := outputPath_eq_requestedOutput overrides
      file := (files.answer _).symm.trans held
      validated := rfl
      table := Source.table_of_module extraction module }

namespace Sample

def fileOf (text : String) : Node := .file (Text.Utf8.encode text.toList)

def seatsText : String :=
  "$defs: \x7bSeat: \x7btype: object, properties: " ++
    "\x7bno: \x7btype: integer, minimum: 1\x7d\x7d\x7d\x7d\n"

def seats : Host where
  disk := ⟨[(["work"], .directory), (["work", "api.yaml"], fileOf seatsText),
    (["work", "run.yaml"], fileOf
      "schema: \x7bpath: api.yaml\x7d\noutput: \x7bpath: out.py\x7d\n")]⟩
  here := ["work"]
  log := .unset
  written := []

def schemas : Path := ⟨.root, ["work", "api.yaml"]⟩

def out : Path := ⟨.root, ["work", "out.py"]⟩

def configuration : Configuration :=
  ⟨.ofText "run.yaml", .file schemas, some .yaml, none, out, none⟩

theorem seats_loads : seats.answer (Configuration.load (.ofText "run.yaml")) =
    .ok ⟨.ofText "run.yaml", .file schemas, some .yaml, none, ⟨.root, ["work", "out.py"]⟩, none⟩ :=
  (Configuration.load_of_node rfl rfl rfl (by decide)).trans (by decide +kernel)

theorem seats_compiles : ∃ source, seats.answer (sourceText (.file schemas)) = .ok source ∧
    ∃ result : Compiled, (∀ h : Host, h.answer (compile configuration source) = .ok result) ∧
      result.definitions.map Definition.name = ["Seat"] ∧ result.extraction.names = ["Seat"] :=
  ⟨_, sourceText_of_node rfl rfl String.ofList_append (by decide),
    compile_of_names String.ofList_append rfl (by decide) (by decide +kernel)⟩

end Sample

/-- A run may write its module over the schemas that it has read. -/
theorem seats_delivered_onto_schemas :
    Sample.seats.answer (run ⟨"run.yaml", some "api.yaml"⟩) = .ok ⟨Sample.schemas, ["Seat"], 0⟩ ∧
      ∃ c text d e m, Delivery Sample.seats
        (Sample.seats.after (run ⟨"run.yaml", some "api.yaml"⟩)) ⟨"run.yaml", some "api.yaml"⟩
        ⟨Sample.schemas, ["Seat"], 0⟩ c text d e m ∧ c.source = .file Sample.schemas := by
  have ended : Sample.seats.answer (run ⟨"run.yaml", some "api.yaml"⟩) =
      .ok ⟨Sample.schemas, ["Seat"], 0⟩ := by
    obtain ⟨source, reads, result, compiles, defined, validated⟩ := Sample.seats_compiles
    have bytes := (hasBytes_of_names (compiles Sample.seats) validated).mpr (by decide +kernel)
    have writes : Writes Sample.seats ⟨"run.yaml", some "api.yaml"⟩ Sample.configuration
        (some Sample.schemas) source result := ⟨Sample.seats_loads, rfl, reads, compiles _⟩
    have written : Sample.seats.answer (writeWhole Sample.schemas result.module.text) = .ok () := by
      simp only [writeWhole, fillAndMove_of_hasBytes bytes]
      rfl
    exact run_of_names writes written defined validated
  obtain ⟨c, text, d, e, m, delivered⟩ := delivery_of_outcome ended
  refine ⟨ended, c, text, d, e, m, delivered, ?_⟩
  have same := delivered.configuration.symm.trans Sample.seats_loads
  rw [Except.ok.inj same]

end CompileRun

end SchemaChecks
