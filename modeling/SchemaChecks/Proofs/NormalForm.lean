import Mathlib.Data.List.TakeWhile
import SchemaChecks.Proofs.Repetition

/-!
What a configuration that loads is like. Its source is a text that says something or an absolute
path, its output is an absolute path of a module, its format is the one asked for or that of the
suffix, and its texts have no blanks at their ends. Runs rely on all of this: they never find an
inline text empty or a format unknown.
-/

namespace SchemaChecks

namespace Text

structure IsTrimmed (s : String) : Prop where
  nonempty : s ≠ ""
  first : ∀ c ∈ s.toList.head?, isBlank c = false
  last : ∀ c ∈ s.toList.getLast?, isBlank c = false

theorem head_dropBlank (cs : List Char) : ∀ c ∈ (dropBlank cs).head?, isBlank c = false := by
  intro c hc
  have stops := List.head?_dropWhile_not isBlank cs
  rw [dropBlank] at hc
  rw [hc] at stops
  simpa using stops

/-- Without the blanks at its end a text is a beginning of what it was. -/
theorem strip_prefix_dropBlank (cs : List Char) : strip cs <+: dropBlank cs := by
  rw [← List.reverse_suffix, strip, List.reverse_reverse]
  exact List.dropWhile_suffix isBlank

theorem isTrimmed_stripped {s : String} (nonempty : stripped s ≠ "") : IsTrimmed (stripped s) := by
  refine ⟨nonempty, fun c hc => ?_, fun c hc => ?_⟩
  · rw [stripped, String.toList_ofList] at hc
    obtain ⟨behind, whole⟩ := strip_prefix_dropBlank s.toList
    refine head_dropBlank s.toList c ?_
    rw [← whole, List.head?_append, hc]
    rfl
  · rw [stripped, String.toList_ofList, strip, List.getLast?_reverse] at hc
    exact head_dropBlank _ c hc

theorem stripped_eq_empty_iff {s : String} :
    stripped s = "" ↔ ∀ c ∈ s.toList, isBlank c = true := by
  have none_left : dropBlank s.toList = [] ↔ ∀ c ∈ s.toList, isBlank c = true :=
    List.dropWhile_eq_nil_iff
  rw [← none_left, stripped, String.ofList_eq_empty_iff, strip, List.reverse_eq_nil_iff]
  constructor
  · intro nothing
    have blank : ∀ c ∈ (dropBlank s.toList).reverse, isBlank c = true :=
      List.dropWhile_eq_nil_iff.mp nothing
    cases rest : dropBlank s.toList with
    | nil => rfl
    | cons c cs =>
      have first : isBlank c = false := head_dropBlank s.toList c (by rw [rest]; rfl)
      have same := blank c (by simp [rest])
      rw [first] at same
      cases same
  · intro none
    rw [none]
    rfl

theorem isBlankText_eq_false {s : String} :
    isBlankText s = false ↔ ∃ c ∈ s.toList, isBlank c = false := by
  simp [isBlankText, List.all_eq_false]

end Text

namespace Configuration

/-! ### The fields of a configuration -/

/-- How a section gives a text that it may lack: null and blank texts are none, any other counts
without the blanks at its ends. -/
inductive Gives : Value → Option String → Prop
  | null : Gives .null none
  | blank {s : String} (blank : ∀ c ∈ s.toList, Text.isBlank c = true) :
      Gives (.scalar (.text s)) none
  | text {s : String} (full : Text.IsTrimmed (Text.stripped s)) :
      Gives (.scalar (.text s)) (some (Text.stripped s))

theorem gives_of_optionalText {name : String} {v : Value} {o : Option String}
    (reads : optionalText name v = .ok o) : Gives v o := by
  unfold optionalText at reads
  split at reads
  next =>
    cases reads
    exact .null
  next s =>
    dsimp only at reads
    split at reads
    next empty =>
      cases reads
      exact .blank (Text.stripped_eq_empty_iff.mp (by simpa using empty))
    next full =>
      cases reads
      exact .text (Text.isTrimmed_stripped (by simpa using full))
  next => cases reads

theorem Gives.isTrimmed {v : Value} {s : String} (h : Gives v (some s)) : Text.IsTrimmed s := by
  cases h with
  | text full => exact full

theorem Gives.isBlank {s : String} (h : Gives (.scalar (.text s)) none) :
    ∀ c ∈ s.toList, Text.isBlank c = true := by
  cases h with
  | blank blank => exact blank

theorem Gives.eq_stripped {v : Value} {s : String} (h : Gives v (some s)) :
    ∃ written, v = .scalar (.text written) ∧ s = Text.stripped written := by
  cases h with
  | text full => exact ⟨_, rfl, rfl⟩

inductive Names (here : Place) (base : Path) (written : String) : Path → Prop
  | absolute (h : (Path.ofText written).isAbsolute = true) :
      Names here base written (.ofText written)
  | relative (h : (Path.ofText written).isAbsolute = false) :
      Names here base written ((base.join (.ofText written)).resolve here)

variable {here : Place} {base path p : Path} {written : String}

theorem names_of_resolved (places : resolved here base written = .ok p) :
    Names here base written p := by
  unfold resolved at places
  dsimp only at places
  split at places
  next absolute =>
    obtain rfl := Except.ok.inj places
    exact .absolute absolute
  next relative =>
    have found := eq_ok_of_mapError places
    unfold Path.resolved at found
    split at found
    · cases found
    · obtain rfl := Except.ok.inj found
      exact .relative (by simpa using relative)

theorem Names.isAbsolute (h : Names here base written p) : p.isAbsolute = true := by
  cases h with
  | absolute h => exact h
  | relative _ => rfl

/-- Of the two sources a section gives one, and it is a text. -/
theorem writtenSource_cases {schema : Section} {source : WrittenSource}
    (reads : writtenSource schema = .ok source) :
    (∃ text, source = .inline text ∧ field schema "inline" = .scalar (.text text) ∧
      Text.isBlankText text = false ∧ (field schema "path").isVoid = true) ∨
    ∃ text, source = .file text ∧ field schema "path" = .scalar (.text text) ∧
      (field schema "inline").isVoid = true := by
  unfold writtenSource at reads
  cases inlined : (field schema "inline").isVoid <;> cases pathed : (field schema "path").isVoid <;>
    simp only [inlined, pathed, Bool.not_true, Bool.not_false, Bool.and_true, Bool.and_false,
      Bool.false_eq_true, if_true, if_false] at reads
  case false.false => cases reads
  case true.true => cases reads
  case false.true =>
    split at reads
    next text holds =>
      split at reads
      next => cases reads
      next full =>
        obtain rfl := Except.ok.inj reads
        exact .inl ⟨text, rfl, holds, by simpa using full, rfl⟩
    next => cases reads
  case true.false =>
    split at reads
    next text holds =>
      obtain rfl := Except.ok.inj reads
      exact .inr ⟨text, rfl, holds, rfl⟩
    next => cases reads

inductive IsSource (here : Place) (base : Path) (schema : Section) : SchemaSource → Prop
  | inline {text : String} (written : field schema "inline" = .scalar (.text text))
      (full : ∃ c ∈ text.toList, Text.isBlank c = false)
      (alone : (field schema "path").isVoid = true) : IsSource here base schema (.inline text)
  | file {written : String} {p : Path} (writes : field schema "path" = .scalar (.text written))
      (names : Names here base written p) (alone : (field schema "inline").isVoid = true) :
      IsSource here base schema (.file p)

theorem isSource_of_sourceOf {schema : Section} {source : SchemaSource}
    (reads : sourceOf here base schema = .ok source) : IsSource here base schema source := by
  unfold sourceOf at reads
  split at reads
  next => cases reads
  next inline =>
    obtain rfl := Except.ok.inj reads
    obtain ⟨text, same, written, full, alone⟩ | ⟨_, other, -⟩ := writtenSource_cases inline
    · cases same
      exact .inline written (Text.isBlankText_eq_false.mp full) alone
    · cases other
  next written file =>
    obtain ⟨_, other, -⟩ | ⟨_, same, writes, alone⟩ := writtenSource_cases file
    · cases other
    · cases same
      cases places : resolved here base written with
      | error e => simp [places, Except.map] at reads
      | ok p =>
        obtain rfl : SchemaSource.file p = source := by simpa [places, Except.map] using reads
        exact .file writes (names_of_resolved places) alone

theorem IsSource.full {schema : Section} {text : String}
    (h : IsSource here base schema (.inline text)) : ∃ c ∈ text.toList, Text.isBlank c = false := by
  cases h with
  | inline _ full _ => exact full

theorem IsSource.isAbsolute {schema : Section} (h : IsSource here base schema (.file p)) :
    p.isAbsolute = true := by
  cases h with
  | file _ names _ => exact names.isAbsolute

inductive IsFormat (schema : Section) (source : SchemaSource) : Option Format → Prop
  | asked {written : String} {f : Format} (writes : field schema "format" = .scalar (.text written))
      (full : Text.IsTrimmed (Text.stripped written))
      (named : Text.lowercase (Text.stripped written) = f.name) : IsFormat schema source (some f)
  | ofSuffix {p : Path} (unset : Gives (field schema "format") none) (file : source = .file p) :
      IsFormat schema source (Format.ofPath? p)
  | unknown {text : String} (unset : Gives (field schema "format") none)
      (inline : source = .inline text) : IsFormat schema source none

theorem isFormat_of_formatOf {schema : Section} {asked : Option Format} (source : SchemaSource)
    (reads : formatOf schema = .ok asked) :
    IsFormat schema source (effectiveFormat asked source) := by
  unfold formatOf at reads
  obtain ⟨name?, given, reads⟩ := exists_of_bind_eq_ok reads
  have gives := gives_of_optionalText given
  cases name? with
  | none =>
    obtain rfl : none = asked := by simpa using reads
    cases source with
    | inline text => exact .unknown gives rfl
    | file p =>
      rw [effectiveFormat, Option.none_or]
      exact .ofSuffix gives rfl
  | some name =>
    obtain ⟨written, writes, rfl⟩ := gives.eq_stripped
    dsimp only at reads
    split at reads
    next f found =>
      obtain rfl : some f = asked := by simpa using reads
      have named : f.name = Text.lowercase (Text.stripped written) := by
        simpa using List.find?_some found
      have format : effectiveFormat (some f) source = some f := by cases source <;> rfl
      rw [format]
      exact .asked writes gives.isTrimmed named.symm
    next => cases reads

/-! ### Configurations that load -/

def HasSections (h : Host) (path : Path) (schema output : Section) : Prop :=
  ∃ text v root, h.answer (Program.readText path) = .ok text ∧ readValue text = .ok v ∧
    v.entries?.getD [] = root ∧ section? root "schema" = .ok schema ∧ section? root "output" =
      .ok output

/-- What a configuration takes from its sections, in the form in which runs use it. -/
structure IsNormal (here : Place) (path : Path) (schema output : Section) (c : Configuration) :
    Prop where
  origin : c.path = path
  source : IsSource here path.parent schema c.source
  source_absolute : ∀ p, c.source = .file p → p.isAbsolute = true
  format : IsFormat schema c.source c.format
  format_known : c.format.map Format.name ∈ [none, some "yaml", some "json"]
  collection : Gives (field schema "collection") c.collection
  collection_trimmed : ∀ s, c.collection = some s → Text.IsTrimmed s
  target : ∃ written, field output "path" = .scalar (.text written) ∧
    Text.IsTrimmed (Text.stripped written) ∧ Names here path.parent (Text.stripped written) c.output
  target_absolute : c.output.isAbsolute = true
  target_module : c.output.suffix = ".py"
  moduleDoc : Gives (field output "module_doc") c.moduleDoc
  moduleDoc_trimmed : ∀ s, c.moduleDoc = some s → Text.IsTrimmed s

theorem written_of_outputOf {output : Section} (reads : outputOf here base output = .ok p) :
    (∃ written, field output "path" = .scalar (.text written) ∧
      Text.IsTrimmed (Text.stripped written) ∧ Names here base (Text.stripped written) p) ∧
    p.suffix = ".py" := by
  unfold outputOf at reads
  obtain ⟨name, given, reads⟩ := exists_of_bind_eq_ok reads
  obtain ⟨q, places, reads⟩ := exists_of_bind_eq_ok reads
  have required := eq_ok_of_mapError given
  split at reads
  next suffix =>
    obtain rfl := Except.ok.inj reads
    refine ⟨?_, suffix⟩
    unfold requiredText at required
    split at required
    next written holds =>
      dsimp only at required
      split at required
      next => cases required
      next full =>
        obtain rfl := Except.ok.inj required
        exact ⟨written, holds, Text.isTrimmed_stripped (by simpa using full),
          names_of_resolved places⟩
    next => cases required
  next => cases reads

theorem name_known (f : Option Format) :
    f.map Format.name ∈ [none, some "yaml", some "json"] := by
  rcases f with _ | _ | _ <;> simp [Format.name]

theorem isNormal_of_load {h : Host} {c : Configuration} (loads : h.answer (load path) = .ok c) :
    ∃ schema output, HasSections h path schema output ∧ IsNormal h.here path schema output c := by
  obtain ⟨text, v, reads, reading, made⟩ := load_eq_ok loads
  obtain ⟨schema, output, schemas, fields, outputs, doc, same⟩ := ofValue_eq_ok made
  obtain ⟨asked, formats, format⟩ := fields.format
  obtain ⟨written, suffix⟩ := written_of_outputOf fields.output
  have source := isSource_of_sourceOf fields.source
  have collection := gives_of_optionalText fields.collection
  have moduleDoc := gives_of_optionalText doc
  refine ⟨schema, output, ⟨text, v, _, reads, reading, rfl, schemas, outputs⟩, ?_⟩
  exact
    { origin := same
      source := source
      source_absolute := fun p file => (file ▸ source).isAbsolute
      format := format ▸ isFormat_of_formatOf c.source formats
      format_known := name_known c.format
      collection := collection
      collection_trimmed := fun s held => (held ▸ collection).isTrimmed
      target := written
      target_absolute := written.elim fun _ names => names.2.2.isAbsolute
      target_module := suffix
      moduleDoc := moduleDoc
      moduleDoc_trimmed := fun s held => (held ▸ moduleDoc).isTrimmed }

end Configuration

/-! ### How reasons read -/

namespace Text

def Opens (words : List String) (text : String) : Prop := ∃ w ∈ words, w.toList <+: text.toList

variable {words more : List String} {a text : String}

theorem opens_append {w : String} (h : w ∈ words) (rest : String) : Opens words (w ++ rest) :=
  ⟨w, h, by rw [String.toList_append]; exact List.prefix_append _ _⟩

theorem Opens.mono (h : Opens words text) (sub : words ⊆ more) : Opens more text := by
  obtain ⟨w, hw, behind⟩ := h
  exact ⟨w, sub hw, behind⟩

/-- No text begins both with one of the words and with a text that parts from all of them. -/
theorem Opens.not_prefix (h : Opens words text)
    (parts : ∀ w ∈ words, ¬ w.toList <+: a.toList ∧ ¬ a.toList <+: w.toList) :
    ¬ a.toList <+: text.toList := by
  obtain ⟨w, hw, behind⟩ := h
  intro begins
  rcases List.prefix_or_prefix_of_prefix behind begins with shorter | longer
  · exact (parts w hw).1 shorter
  · exact (parts w hw).2 longer

end Text

theorem FileError.message_opens (e : FileError) : Text.Opens ["[Errno "] e.message := by
  dsimp only [message]
  simp only [String.append_assoc]
  exact Text.opens_append List.mem_cons_self _

def StructureError.openings : List String :=
  ["Schema document root must be a mapping.", "Schema collection '",
    "Schema document has no named schema collection (looked for ", "Invalid pattern for "]

theorem StructureError.message_opens (e : StructureError) : Text.Opens openings e.message := by
  cases e with
  | rootNotMapping => exact ⟨_, List.mem_cons_self, List.prefix_refl _⟩
  | collectionNotMapping | collectionNotFound | noCollection | invalidPattern =>
    dsimp only [message]
    simp only [toString, String.append_assoc]
    exact Text.opens_append (by simp [openings]) _

inductive LoadError.IsMalformed : LoadError → Prop
  | json {detail : String} : IsMalformed (.malformedJson detail)
  | yaml : IsMalformed .malformedYaml
  | deep {format : Format} : IsMalformed (.tooDeep format)

def LoadError.openings : List String :=
  ["Invalid json schema document: ", "Invalid yaml schema document: ", "Invalid "]

theorem LoadError.IsMalformed.message_opens {e : LoadError} (h : e.IsMalformed) :
    Text.Opens openings e.message := by
  cases h with
  | json => exact Text.opens_append (by simp [openings]) _
  | yaml => exact Text.opens_append (by simp [openings]) _
  | deep =>
    dsimp only [message]
    simp only [toString, String.append_assoc]
    exact Text.opens_append (by simp [openings]) _

namespace Document

/-- With a format or none a text is read in that format or in the one that it looks like. -/
theorem load_of_format (f : Option Format) (text : String) :
    load text (f.map Format.name) =
      if Text.isBlankText text then .error (.error .empty)
      else (readValue (f.getD (.ofText text)) text).bind (ofValue (f.getD (.ofText text))) := by
  have found : formatFor (f.map Format.name) text = .ok (f.getD (.ofText text)) := by
    cases f with
    | none => rfl
    | some f => cases f <;> rfl
  rw [load, found]

/-- What reading in a format finds wrong is the text. -/
theorem isMalformed_of_read {f : Format} {text : String} {e : LoadError}
    (reads : (readValue f text).bind (ofValue f) = .error (.error e)) : e.IsMalformed := by
  cases value : readValue f text with
  | error x =>
    obtain rfl : x = .error e := by simpa [value, Except.bind] using reads
    unfold readValue at value
    split at value <;> split at value <;> cases value
    · exact .json
    · exact .deep
    · exact .yaml
    · exact .deep
  | ok v =>
    rw [value] at reads
    change ofValue f v = _ at reads
    unfold ofValue at reads
    split at reads
    next =>
      cases reads
      exact .deep
    next => split at reads <;> cases reads

end Document

/-! ### Runs of configurations that load -/

namespace CompileRun

open Program Host

variable {h : Host} {c : Configuration} {r : CompileRequest} {e : CompilationError}

inductive Cause (h : Host) (c : Configuration) : CompilationError → Prop
  | file {x : FileError} : Cause h c (.file x)
  | notUtf8 {q : Path} {x : Text.Utf8.Malformed} (source : c.source = .file q) :
      Cause h c (.schemaNotUtf8 q.text x)
  | load {text : String} {x : LoadError} (reads : h.answer (sourceText c.source) = .ok text)
      (parses : Document.load text (c.format.map Format.name) = .error (.error x)) :
      Cause h c (.load x)
  | structural {x : StructureError} : Cause h c (.structural x)

theorem cause_of_sourceText (reads : h.answer (sourceText c.source) = .error (.error e)) :
    Cause h c e := by
  cases source : c.source with
  | inline text => simp [source, sourceText] at reads
  | file q =>
    simp only [source, sourceText, answer_bind, answer_pure] at reads
    cases answer : h.answer (readText q) with
    | ok text => simp [answer, Except.mapError] at reads
    | error x =>
      cases x with
      | fault f => simp [answer, Except.mapError, Failure.map] at reads
      | error x =>
        obtain rfl : _ = e := by simpa [answer, Except.mapError, Failure.map] using reads
        cases x with
        | file x => exact .file
        | notUtf8 x => exact .notUtf8 source

theorem cause_of_compile {text : String} (reads : h.answer (sourceText c.source) = .ok text)
    (compiles : h.answer (compile c text) = .error (.error e)) : Cause h c e := by
  unfold compile at compiles
  cases parses : Document.load text (c.format.map Format.name) with
  | error x =>
    cases x with
    | fault f => simp [parses, Failure.map] at compiles
    | error x =>
      obtain rfl : _ = e := by simpa [parses, Failure.map] using compiles
      exact .load reads parses
  | ok d =>
    simp only [parses, answer_bind] at compiles
    cases definitions : definitionsOf d.root c.collection with
    | error x =>
      obtain rfl : _ = e := by simpa [definitions] using compiles
      exact .structural
    | ok all =>
      simp only [definitions, answer_bind] at compiles
      cases extracts : Extraction.ofTree d.root c.collection with
      | error x =>
        cases x with
        | fault f => simp [extracts, Failure.map] at compiles
        | error x =>
          obtain rfl : _ = e := by simpa [extracts, Failure.map] using compiles
          exact .structural
      | ok extraction =>
        cases renders : ValidatorModule.ofExtraction extraction c.moduleDoc <;>
          simp [extracts, renders] at compiles

theorem cause_of_run (loads : h.answer (Configuration.load (.ofText r.config)) = .ok c)
    (ended : h.answer (run r) = .error (.compilation e)) : Cause h c e := by
  have course := course_of_run h r
  generalize h.after (run r) = k at course
  generalize h.answer (run r) = a at course ended
  cases course with
  | loadFault | overrideFault | faulty | done => cases ended
  | unconfigured fails => simp [loads] at fails
  | givenUpUnconfigured fails => simp [loads] at fails
  | givenUp loads' _ produces =>
    obtain rfl := Except.ok.inj (loads.symm.trans loads')
    obtain rfl := eq_of_giveUp ended
    rcases produce_error_cases produces with
      reads | ⟨text, reads, compiles | ⟨result, x, compiles, rfl⟩⟩
    · exact cause_of_sourceText reads
    · exact cause_of_compile reads compiles
    · exact .file

def openings : List String := "[Errno " :: (StructureError.openings ++ LoadError.openings)

theorem Cause.message_opens (cause : Cause h c e) :
    Text.Opens openings e.message ∨
      (∃ q x, c.source = .file q ∧ e = .schemaNotUtf8 q.text x) ∨
        ∃ text, h.answer (sourceText c.source) = .ok text ∧ Text.isBlankText text = true ∧
          e = .load .empty := by
  cases cause with
  | @file x => exact .inl (x.message_opens.mono (by simp [openings]))
  | @structural x => exact .inl (x.message_opens.mono (by simp [openings]))
  | notUtf8 source => exact .inr (.inl ⟨_, _, source, rfl⟩)
  | @load text x reads parses =>
    rw [Document.load_of_format] at parses
    split at parses
    next blank =>
      cases parses
      exact .inr (.inr ⟨text, reads, blank, rfl⟩)
    next =>
      have malformed := Document.isMalformed_of_read parses
      exact .inl (malformed.message_opens.mono (by simp [openings]))

/-- No run complains of the format of its schemas. -/
theorem Cause.not_unsupported (cause : Cause h c e) :
    ¬ "Unsupported schema document format".toList <+: e.message.toList := by
  rcases cause.message_opens with opens | ⟨q, x, -, rfl⟩ | ⟨text, -, -, rfl⟩
  · exact opens.not_prefix (by decide +kernel)
  · have opens : Text.Opens ["Schema document "] (schemaNotUtf8Text q.text x) := by
      dsimp only [schemaNotUtf8Text]
      simp only [toString, String.append_assoc]
      exact Text.opens_append List.mem_cons_self _
    exact opens.not_prefix (by decide +kernel)
  · decide +kernel

/-- A run calls its schemas empty only if they are blank. -/
theorem Cause.ne_empty {text : String} (cause : Cause h c e) (inline : c.source = .inline text)
    (full : Text.isBlankText text = false) : e.message ≠ "Schema document is empty." := by
  rcases cause.message_opens with opens | ⟨q, x, file, -⟩ | ⟨text', reads, blank, -⟩
  · intro reads
    exact opens.not_prefix (a := "Schema document is empty.") (by decide +kernel)
      (reads ▸ List.prefix_refl _)
  · simp [inline] at file
  · obtain rfl : text = text' := by simpa [inline, sourceText] using reads
    simp [full] at blank

end CompileRun

namespace Configuration

variable {h : Host} {path : Path} {schema output : Section} {c : Configuration}

/-- What runs rely on without a look of their own. -/
structure Serves (h : Host) (path : Path) (schema : Section) (c : Configuration) : Prop where
  /-- The format is open only if neither the section nor the suffix of the file tells it. -/
  undecided : c.format = none ↔
    Gives (field schema "format") none ∧ ∀ p, c.source = .file p → Format.ofPath? p = none
  /-- The text of the schemas is looked at for its format only if the format is open. -/
  reads : ∀ text, Document.load text (c.format.map Format.name) =
    if Text.isBlankText text then .error (.error .empty)
    else (Document.readValue (c.format.getD (.ofText text)) text).bind
      (Document.ofValue (c.format.getD (.ofText text)))
  supported : ∀ r e, Path.ofText r.config = path →
    h.answer (CompileRun.run r) = .error (.compilation e) →
      ¬ "Unsupported schema document format".toList <+: e.message.toList
  nonempty : ∀ r e text, Path.ofText r.config = path → c.source = .inline text →
    h.answer (CompileRun.run r) = .error (.compilation e) →
      e.message ≠ "Schema document is empty."

theorem IsFormat.eq_none_iff {source : SchemaSource} {f : Option Format}
    (h : IsFormat schema source f) :
    f = none ↔
      Gives (field schema "format") none ∧ ∀ p, source = .file p → Format.ofPath? p = none := by
  cases h with
  | @asked written f writes full =>
    refine ⟨nofun, ?_⟩
    rintro ⟨unset, -⟩
    rw [writes] at unset
    exact absurd (Text.stripped_eq_empty_iff.mpr unset.isBlank) full.nonempty
  | ofSuffix unset file => simp [unset, file]
  | unknown unset inline => simp [unset, inline]

/-- A configuration that loads, from files without links among them, holds what its sections say in
one form, and that form is all that runs need. -/
theorem loaded_is_normal (loads : h.answer (load path) = .ok c) :
    ∃ schema output, HasSections h path schema output ∧ IsNormal h.here path schema output c ∧
      Serves h path schema c := by
  obtain ⟨schema, output, sections, normal⟩ := isNormal_of_load loads
  refine ⟨schema, output, sections, normal, normal.format.eq_none_iff,
    Document.load_of_format c.format, ?_, ?_⟩
  · intro r e same ended
    exact (CompileRun.cause_of_run (same ▸ loads) ended).not_unsupported
  · intro r e text same inline ended
    have full := (inline ▸ normal.source).full
    have cause := CompileRun.cause_of_run (same ▸ loads) ended
    exact cause.ne_empty inline (Text.isBlankText_eq_false.mpr full)

namespace Sample

def text : String :=
  "schema: \x7binline: '[]', format: ' Json '\x7d\n" ++
    "output: \x7bpath: ' ../out.py ', module_doc: ' '\x7d\n"

def enclosed : Host where
  disk := ⟨[(["work"], .directory), (["work", "run.yaml"], .file (Text.Utf8.encode text.toList))]⟩
  here := ["work"]
  log := .unset
  written := []

def loaded : Configuration :=
  ⟨.ofText "run.yaml", .inline "[]", some .json, none, ⟨.root, ["out.py"]⟩, none⟩

end Sample

theorem enclosed_is_normal :
    Sample.enclosed.answer (load (.ofText "run.yaml")) = .ok Sample.loaded ∧
      ∃ schema output, HasSections Sample.enclosed (.ofText "run.yaml") schema output ∧
        IsNormal ["work"] (.ofText "run.yaml") schema output Sample.loaded ∧
        Serves Sample.enclosed (.ofText "run.yaml") schema Sample.loaded := by
  have loads : Sample.enclosed.answer (load (.ofText "run.yaml")) = .ok Sample.loaded :=
    (load_of_node rfl rfl String.ofList_append (by decide)).trans
      (by decide +kernel)
  exact ⟨loads, loaded_is_normal loads⟩

end Configuration

end SchemaChecks
