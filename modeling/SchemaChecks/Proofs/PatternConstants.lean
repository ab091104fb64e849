import Mathlib.Data.Finset.Card
import SchemaChecks.Proofs.Bindings

/-!
Constants for patterns. Every pattern of a module has one number, and the text of the module defines
one constant for it ahead of the functions. Each test of a pattern names the constant that is
defined from this very pattern, and no constant is there in vain.
-/

namespace SchemaChecks

namespace Extraction

/-! ### Numbers of patterns -/

/-- A list with each text of another one once, at the place of its number. -/
structure IsNumbering (texts numbered : List String) : Prop where
  distinct : numbered.Nodup
  covers : ∀ s, s ∈ numbered ↔ s ∈ texts
  /-- The number of a text is how many different ones stand before it first does. -/
  first : ∀ before s after, texts = before ++ s :: after → s ∉ before →
    numbered[before.toFinset.card]? = some s

section

variable {texts numbered : List String}

theorem IsNumbering.length (h : IsNumbering texts numbered) :
    numbered.length = texts.toFinset.card := by
  have same : numbered.toFinset = texts.toFinset := by
    ext s
    rw [List.mem_toFinset, List.mem_toFinset, h.covers]
  rw [← same, List.toFinset_card_of_nodup h.distinct]

/-- One more text keeps the numbers, and takes the next one if it is new. -/
theorem IsNumbering.addOnce (h : IsNumbering texts numbered) (s : String) :
    IsNumbering (texts ++ [s]) (addOnce numbered s) := by
  have kept : ∀ {before t after}, texts = before ++ t :: after → t ∉ before →
      (Extraction.addOnce numbered s)[before.toFinset.card]? = some t := by
    intro before t after split new
    have found := h.first before t after split new
    unfold Extraction.addOnce
    split
    · exact found
    · exact List.getElem?_append_left (List.getElem?_eq_some_iff.mp found).1 ▸ found
  have last : s ∉ texts → (Extraction.addOnce numbered s)[texts.toFinset.card]? = some s := by
    intro new
    rw [Extraction.addOnce, if_neg (mt (h.covers s).mp new), ← h.length,
      List.getElem?_concat_length]
  refine ⟨?_, ?_, ?_⟩
  · unfold Extraction.addOnce
    split
    next => exact h.distinct
    next new => exact List.Nodup.append h.distinct (List.nodup_singleton s) (by simpa using new)
  · intro t
    unfold Extraction.addOnce
    split
    next known =>
      rw [List.mem_append, List.mem_singleton, ← h.covers]
      exact ⟨.inl, fun ht => ht.elim id fun same => same ▸ known⟩
    next => simp [h.covers]
  · intro before t after split new
    rcases List.eq_nil_or_concat after with rfl | ⟨after, u, rfl⟩
    · obtain ⟨rfl, same⟩ := List.append_inj' split rfl
      obtain rfl := List.singleton_injective same
      exact last new
    · have shorter : texts = before ++ t :: after := by
        rw [List.concat_eq_append, ← List.cons_append, ← List.append_assoc] at split
        exact (List.append_inj' split rfl).1
      exact kept shorter new

theorem isNumbering_addAll (texts : List String) :
    IsNumbering texts (texts.foldl Extraction.addOnce []) := by
  induction texts using List.reverseRecOn with
  | nil => exact ⟨List.nodup_nil, fun _ => Iff.rfl, by simp⟩
  | append_singleton before s ih =>
    rw [List.foldl_append]
    exact ih.addOnce s

end

def matchesOf (fields : List FieldChecks) : List (String × String) :=
  fields.flatMap fun f => (f.checks.filterMap pattern?).map (f.name, ·)

def constants (e : Extraction) : List (String × String) :=
  e.patterns.zipIdx.map fun p => (patternName p.2, p.1)

theorem isNumbering_patterns (e : Extraction) : IsNumbering e.patternList e.patterns :=
  isNumbering_addAll e.patternList

/-- Every pattern has one constant, that of its number. -/
theorem mem_constants {e : Extraction} {constant regex : String} :
    (constant, regex) ∈ e.constants ↔
      regex ∈ e.patterns ∧ constant = patternName (e.patterns.idxOf regex) := by
  have distinct := (isNumbering_patterns e).distinct
  constructor
  · intro h
    obtain ⟨⟨s, i⟩, place, same⟩ := List.mem_map.mp h
    cases same
    have there : e.patterns[i]? = some s := List.mem_zipIdx_iff_getElem?.mp place
    obtain ⟨inside, rfl⟩ := List.getElem?_eq_some_iff.mp there
    rw [distinct.idxOf_getElem i inside]
    exact ⟨List.getElem_mem inside, rfl⟩
  · rintro ⟨known, rfl⟩
    refine List.mem_map.mpr ⟨(regex, e.patterns.idxOf regex), ?_, rfl⟩
    exact List.mem_zipIdx_iff_getElem?.mpr (List.getElem?_idxOf known)

theorem constants_names (e : Extraction) :
    e.constants.map Prod.fst = (List.range e.patterns.length).map patternName := by
  rw [constants, List.map_map, List.range_eq_range', ← List.zipIdx_map_snd, List.map_map]
  rfl

theorem mem_patternList {e : Extraction} {regex : String} :
    regex ∈ e.patternList ↔ ∃ schema ∈ e, ∃ field, (field, regex) ∈ matchesOf schema.2 := by
  simp only [patternList, matchesOf, List.mem_flatMap, List.mem_map, Prod.mk.injEq]
  constructor
  · rintro ⟨schema, hs, f, hf, hr⟩
    exact ⟨schema, hs, f.name, f, hf, regex, hr, rfl, rfl⟩
  · rintro ⟨schema, hs, -, f, hf, s, hr, -, rfl⟩
    exact ⟨schema, hs, f, hf, hr⟩

end Extraction

namespace Source

/-! ### Definitions of constants -/

/-- The constant that a line at the left margin defines from a pattern. -/
def definition? (line : List Char) (inner : Forest) : Option (String × String) :=
  match patternBinding? line inner with
  | some (name, .pattern regex) => some (name, regex)
  | _ => none

def Forest.definitions : Forest → List (String × String)
  | nil => []
  | cons line inner rest => (definition? line inner).toList ++ rest.definitions

theorem definition?_patternLine (i : Nat) (regex : String) :
    definition? (patternLine i regex).toList .nil = some (patternName i, regex) := by
  rw [definition?, patternBinding?_patternLine]

theorem definition?_of_noName {line : List Char} (h : newName? line = none) (inner : Forest) :
    definition? line inner = none := by
  rw [definition?, patternBinding?, h]
  rfl

theorem definition?_functionLine {f : ValidatorFunction} (named : FunctionName.IsName f.name)
    (inner : Forest) : definition? (functionLine f).toList inner = none := by
  obtain ⟨tail, text, -⟩ := named
  have letters : "def".toList.all isNameChar = true := by decide
  have keyword : IsNewName "def" :=
    ⟨List.all_eq_true.mp letters, ⟨'d', ['e', 'f'], by decide, by decide⟩, by decide⟩
  have list : (functionLine f).toList =
      "def".toList ++ ' ' :: (f.name.toList ++ "(instance):".toList) := functionLine_toList f
  have read := newName?_append keyword ⟨' ', f.name.toList ++ "(instance):".toList, rfl, by decide⟩
  have noSign : after " = re.compile(".toList (' ' :: (f.name.toList ++ "(instance):".toList)) =
      none := by
    rw [text]
    rfl
  have unbound : patternBinding? (functionLine f).toList inner = none := by
    simp only [patternBinding?, list, read, noSign, Option.bind_eq_bind, Option.bind_some,
      Option.bind_none]
  rw [definition?, unbound]

theorem definitions_patternsForest (i : Nat) (patterns : List String) (rest : Forest) :
    (patternsForest i patterns rest).definitions =
      (patterns.zipIdx i).map (fun p => (patternName p.2, p.1)) ++ rest.definitions := by
  induction patterns generalizing i with
  | nil => rfl
  | cons regex more ih =>
    rw [patternsForest, Forest.definitions, definition?_patternLine, ih, List.zipIdx_cons,
      List.map_cons]
    rfl

theorem definitions_functionsForest {fs : List ValidatorFunction}
    (named : ∀ f ∈ fs, FunctionName.IsName f.name) (rest : Forest) :
    (functionsForest fs rest).definitions = rest.definitions := by
  induction fs with
  | nil => rfl
  | cons f fs ih =>
    have more := ih fun f hf => named f (List.mem_cons_of_mem _ hf)
    simp only [functionsForest, List.foldr_cons] at more ⊢
    rw [Forest.definitions, definition?_functionLine (named f List.mem_cons_self), more]
    rfl

theorem definitions_moduleForest {m : ValidatorModule}
    (named : ∀ f ∈ m.functions, FunctionName.IsName f.name) :
    (moduleForest m).definitions = m.patterns.zipIdx.map fun p => (patternName p.2, p.1) := by
  have table : (tableForest m.functions).definitions = [] := by
    have opening : newName? tableOpening = none := by decide +kernel
    have closing : newName? "\x7d".toList = none := by decide +kernel
    rw [tableForest, tableClosing, Forest.definitions, definition?_of_noName opening,
      Forest.definitions, definition?_of_noName closing]
    rfl
  rw [moduleForest, definitions_patternsForest, definitions_functionsForest named, table,
    List.append_nil]

/-! ### References to constants -/

structure Reference where
  constant : String
  raised : Option (String × String)
  deriving DecidableEq, Repr

/-- The constant whose pattern a line tests. -/
def testedConstant? (line : List Char) : Option String :=
  match head? line with
  | some (.branch (.noMatch constant)) => some constant
  | _ => none

namespace Forest

def raised? : Forest → Option (String × String)
  | cons line nil nil =>
    match head? line with
    | some (.raise field text) => some (field, text)
    | _ => none
  | _ => none

def references : Forest → List Reference
  | nil => []
  | cons line inner rest =>
    ((testedConstant? line).map (⟨·, inner.raised?⟩)).toList ++
      (inner.references ++ rest.references)

end Forest

def reference? (field : String) (g : Guard) : Option Reference :=
  match g.condition with
  | .noMatch i => some ⟨patternName i, some (field, g.violation.message)⟩
  | _ => none

theorem testedConstant?_condition (c : Condition) :
    testedConstant? s!"if {c.text}:".toList =
      match c with
      | .noMatch i => some (patternName i)
      | _ => none := by
  by_cases complete : c.IsComplete
  · rw [testedConstant?, head?_branch complete]
    cases c with
    | wrongType t => cases t <;> rfl
    | _ => rfl
  -- A condition that cannot be read is one of three texts without a pattern.
  · cases c with
    | wrongType t =>
      cases t with
      | unsupported => decide +kernel
      | _ => exact absurd (by simp [Condition.IsComplete]) complete
    | above m most =>
      cases most with
      | none => cases m <;> decide +kernel
      | some n => exact absurd rfl complete
    | _ => exact absurd trivial complete

theorem raised?_raise (field : String) (v : Violation) :
    (Forest.cons (raiseText field v).toList .nil .nil).raised? = some (field, v.message) := by
  rw [Forest.raised?, head?_raise]

/-- A line that tests no pattern leaves the references to the others. -/
theorem references_of_noTest {line : List Char} (h : testedConstant? line = none)
    (inner rest : Forest) :
    (Forest.cons line inner rest).references = inner.references ++ rest.references := by
  rw [Forest.references, h]
  rfl

theorem references_raise (field : String) (v : Violation) (rest : Forest) :
    (Forest.cons (raiseText field v).toList .nil rest).references = rest.references := by
  have noTest : testedConstant? (raiseText field v).toList = none := by
    rw [testedConstant?, head?_raise]
  rw [references_of_noTest noTest]
  rfl

theorem references_guardsForest (field : String) (guards : List Guard) (rest : Forest) :
    (guardsForest field guards rest).references =
      guards.filterMap (reference? field) ++ rest.references := by
  induction guards with
  | nil => rfl
  | cons g guards ih =>
    simp only [guardsForest, List.foldr_cons] at ih ⊢
    rw [Forest.references, testedConstant?_condition, raised?_raise, references_raise, ih,
      List.filterMap_cons, reference?]
    cases g.condition <;> rfl

theorem references_fieldForest (b : FieldBlock) (rest : Forest) :
    (fieldForest b rest).references =
      b.guards.filterMap (reference? b.field) ++ rest.references := by
  have read : testedConstant? s!"value = _read(instance, {Text.quoted b.field})".toList = none := by
    rw [testedConstant?, head?_read]
  have absent : testedConstant? "if value is None:".toList = none := by decide +kernel
  have present : testedConstant? "if value is not None:".toList = none := by decide +kernel
  rw [fieldForest, references_of_noTest read]
  cases b.nullable with
  | true =>
    rw [if_pos rfl, references_of_noTest present, references_guardsForest]
    simp only [Forest.references, List.nil_append, List.append_nil]
  | false =>
    rw [if_neg Bool.false_ne_true, references_of_noTest absent, references_raise,
      references_guardsForest]
    rfl

theorem references_bodyForest (f : ValidatorFunction) :
    (bodyForest f).references =
      f.blocks.flatMap fun b => b.guards.filterMap (reference? b.field) := by
  have remark : testedConstant? (remarkText f.schema).toList = none := by
    rw [testedConstant?, head?, if_pos (isRemark_remarkText f.schema)]
  have last : (Forest.cons "return instance".toList .nil .nil).references = [] := by
    decide +kernel
  have blocks : ∀ blocks : List FieldBlock,
      (blocks.foldr fieldForest (.cons "return instance".toList .nil .nil)).references =
        blocks.flatMap fun b => b.guards.filterMap (reference? b.field) := by
    intro blocks
    induction blocks with
    | nil => exact last
    | cons b blocks ih => rw [List.foldr_cons, references_fieldForest, ih, List.flatMap_cons]
  rw [bodyForest, references_of_noTest remark, blocks]
  rfl

/-! ### References of rendered checks -/

section

variable {patterns : List String}

def referenceTo (patterns : List String) (wanted : String × String) : Reference :=
  ⟨patternName (patterns.idxOf wanted.2),
    some (wanted.1, (Violation.noMatch wanted.2).message)⟩

theorem reference?_guardOf {c : Check} {g : Guard} (field : String)
    (h : ValidatorModule.guardOf patterns c = .ok g) :
    reference? field g =
      (Extraction.pattern? c).map fun regex => referenceTo patterns (field, regex) := by
  have noMatch : ∀ (b : Bounds) (m : Measure) (v : Violation),
      reference? field ⟨b.condition m, v⟩ = none := by
    rintro ⟨least, most⟩ m v
    cases least <;> cases most <;> rfl
  unfold ValidatorModule.guardOf at h
  split at h
  · cases h
  · cases c with
    | unknown => cases h
    | length b => cases h; exact noMatch b .length _
    | pattern regex => cases h; rfl
    | range b => cases h; exact noMatch b .value _
    | minItems n => cases h; rfl

theorem references_guardsOf {cs : List Check} {gs : List Guard} (field : String)
    (h : ValidatorModule.guardsOf patterns cs = .ok gs) :
    gs.filterMap (reference? field) =
      (cs.filterMap Extraction.pattern?).map fun regex => referenceTo patterns (field, regex) := by
  replace h := ValidatorModule.guardsOf_eq_ok h
  induction h with
  | nil => rfl
  | @cons c _ _ _ hg _ ih =>
    rw [List.filterMap_cons, List.filterMap_cons, reference?_guardOf field hg, ih]
    cases Extraction.pattern? c <;> rfl

theorem references_blockOf {f : FieldChecks} {b : FieldBlock}
    (h : ValidatorModule.blockOf patterns f = .ok b) :
    b.guards.filterMap (reference? b.field) =
      ((f.checks.filterMap Extraction.pattern?).map (f.name, ·)).map (referenceTo patterns) := by
  obtain ⟨gs, hgs, rfl⟩ := exists_of_map_eq_ok h
  have type : (ValidatorModule.typeGuard f.type).filterMap (reference? f.name) = [] := by
    cases f.type <;> rfl
  rw [List.filterMap_append, type, references_guardsOf f.name hgs, List.nil_append, List.map_map]
  rfl

/-- A function tests its fields against their patterns by their constants, and against no others. -/
theorem references_of_renders {n : String × String × List FieldChecks} {f : ValidatorFunction}
    (h : Renders patterns n f) :
    (bodyForest f).references = (Extraction.matchesOf n.2.2).map (referenceTo patterns) := by
  have blocks : f.blocks.map (fun b => b.guards.filterMap (reference? b.field)) =
      n.2.2.map fun c => ((c.checks.filterMap Extraction.pattern?).map (c.name, ·)).map
        (referenceTo patterns) :=
    map_eq_of_forall₂ h.blocks fun _ _ rendered => references_blockOf rendered
  rw [references_bodyForest, List.flatMap_def, blocks, Extraction.matchesOf, List.map_flatMap,
    List.flatMap_def]

end

/-- A test is one of a field against a pattern: the constant that it names is defined from this
pattern, and what it raises tells the field and the pattern. -/
structure RefersTo (definitions : List (String × String)) (wanted : String × String)
    (r : Reference) : Prop where
  defined : (r.constant, wanted.2) ∈ definitions
  raised : r.raised = some (wanted.1, (Violation.noMatch wanted.2).message)

/-- A source has the constants of an extraction: it defines them, the function of each schema tests
the schema's patterns by them and none else, and each of them is tested somewhere. -/
structure HasConstants (e : Extraction) (outline : Forest) : Prop where
  definitions : outline.definitions = e.constants
  tests : List.Forall₂ (fun schema function =>
    List.Forall₂ (RefersTo outline.definitions) (Extraction.matchesOf schema.2)
      function.2.references) (e.filter fun schema => schema.2 ≠ []) outline.functions
  used : ∀ d ∈ outline.definitions,
    ∃ function ∈ outline.functions, ∃ r ∈ function.2.references, r.constant = d.1

section

variable {e : Extraction} {doc : Option String} {m : ValidatorModule}

theorem refersTo_referenceTo {wanted : String × String} (known : wanted.2 ∈ e.patterns) :
    RefersTo e.constants wanted (referenceTo e.patterns wanted) :=
  ⟨Extraction.mem_constants.mpr ⟨known, rfl⟩, rfl⟩

theorem known_of_matchesOf {schema : String × List FieldChecks} (hs : schema ∈ e) :
    ∀ wanted ∈ Extraction.matchesOf schema.2, wanted.2 ∈ e.patterns := by
  intro wanted hw
  exact ((Extraction.isNumbering_patterns e).covers _).mpr
    (Extraction.mem_patternList.mpr ⟨schema, hs, wanted.1, hw⟩)

/-- The functions of a module test the patterns of their own schemas. -/
theorem tests_of_module (hm : ValidatorModule.ofExtraction e doc = .ok m) :
    List.Forall₂ (fun schema (function : String × Forest) =>
        List.Forall₂ (RefersTo e.constants) (Extraction.matchesOf schema.2) function.2.references)
      (e.filter fun schema => schema.2 ≠ []) (m.functions.map fun f => (f.name, bodyForest f)) := by
  obtain ⟨-, rendered⟩ := renders_of_module hm
  have known : ∀ n ∈ namedSchemas e, n.2 ∈ e :=
    fun n hn => (List.of_mem_zip (List.mem_of_mem_filter hn)).2
  rw [← namedSchemas_schemas, List.forall₂_map_left_iff, List.forall₂_map_right_iff]
  refine ((List.forall₂_and_left _ _).mpr ⟨known, rendered⟩).imp ?_
  rintro n f ⟨hn, renders⟩
  rw [references_of_renders renders, List.forall₂_map_right_iff, List.forall₂_same]
  exact fun wanted hw => refersTo_referenceTo (known_of_matchesOf hn wanted hw)

/-- Where the functions test their patterns, every constant is tested. -/
theorem used_of_tests {functions : List (String × Forest)}
    (tests : List.Forall₂ (fun schema (function : String × Forest) =>
        List.Forall₂ (RefersTo e.constants) (Extraction.matchesOf schema.2) function.2.references)
      (e.filter fun schema => schema.2 ≠ []) functions) :
    ∀ d ∈ e.constants, ∃ function ∈ functions, ∃ r ∈ function.2.references, r.constant = d.1 := by
  rintro ⟨constant, regex⟩ hd
  obtain ⟨known, rfl⟩ := Extraction.mem_constants.mp hd
  have listed := ((Extraction.isNumbering_patterns e).covers regex).mp known
  obtain ⟨schema, hs, field, wanted⟩ := Extraction.mem_patternList.mp listed
  have nonempty : schema.2 ≠ [] := by
    intro none
    rw [none] at wanted
    cases wanted
  obtain ⟨function, hf, refer⟩ :=
    exists_of_forall₂ tests (List.mem_filter.mpr ⟨hs, by simpa using nonempty⟩)
  obtain ⟨r, hr, refers⟩ := exists_of_forall₂ refer wanted
  exact ⟨function, hf, r, hr, (Extraction.mem_constants.mp refers.defined).2⟩

theorem hasConstants_of_module (named : ∀ f ∈ m.functions, FunctionName.IsName f.name)
    (hm : ValidatorModule.ofExtraction e doc = .ok m) : HasConstants e (moduleForest m) := by
  obtain ⟨patterns, -⟩ := renders_of_module hm
  have definitions : (moduleForest m).definitions = e.constants := by
    rw [definitions_moduleForest named, patterns]
    rfl
  have tests := tests_of_module hm
  have used := used_of_tests tests
  rw [← functions_moduleForest named, ← definitions] at tests used
  exact ⟨definitions, tests, used⟩

end

end Source

open Source

/-- Constants for patterns are consistent. The number of a pattern is how many different ones stand
before its first use. A module is rendered unless a check cannot be written, so no pattern is ever
without a constant. The text of a module binds every name once: the constants in the order of their
numbers, each to its pattern, and behind them the functions. Each test of a pattern in these names
the constant of this pattern, and every constant is named by one. -/
theorem Extraction.constants_consistent (e : Extraction) (doc : Option String) :
    IsNumbering e.patternList e.patterns ∧
      ((∃ m, ValidatorModule.ofExtraction e doc = .ok m) ↔
        ∀ schema ∈ e, ∀ f ∈ schema.2, ∀ c ∈ f.checks, c.IsRenderable) ∧
      ∀ m, ValidatorModule.ofExtraction e doc = .ok m →
        ∃ outline, outline? m.text = some outline ∧ (topNames m.text).Nodup ∧
          topNames m.text = preambleNames ++ (outline.definitions.map Prod.fst ++
            (outline.functions.map Prod.fst ++ [tableName])) ∧
          HasConstants e outline := by
  refine ⟨isNumbering_patterns e, ofExtraction_renders, ?_⟩
  intro m hm
  obtain ⟨names, -⟩ := names_of_module hm
  obtain ⟨-, distinct, isName⟩ := FunctionName.assign_spec e.names
  have named : ∀ f ∈ m.functions, FunctionName.IsName f.name :=
    fun f hf => isName f.name (names.subset (List.mem_map_of_mem hf))
  have consistent := hasConstants_of_module named hm
  have bound := topNames_text named
  refine ⟨moduleForest m, outline?_text named, ?_, ?_, consistent⟩
  · rw [bound]
    refine bound_distinct ?_ (distinct.sublist names)
    exact fun name hn => isName name (names.subset hn)
  · have functions : (moduleForest m).functions.map Prod.fst =
        m.functions.map ValidatorFunction.name := by
      simp [functions_moduleForest named, Function.comp_def]
    rw [bound, functions, consistent.definitions, constants_names, (renders_of_module hm).1]

def Sample.codes : Extraction :=
  [("Zone", [⟨"id", .string, false, [.pattern "[a-z]+"]⟩]), ("Area", []),
    ("Site", [⟨"code", .string, true, [.length ⟨some 1, some 9⟩, .pattern "[0-9]+"]⟩,
      ⟨"zone", .string, false, [.pattern "[a-z]+"]⟩])]

/-- The pattern that is shared has one constant, which both functions name. -/
theorem Sample.codes_constants :
    (∀ schema ∈ Sample.codes, ∀ f ∈ schema.2, ∀ c ∈ f.checks, c.IsRenderable) ∧
      Sample.codes.constants = [("_PATTERN_0", "[a-z]+"), ("_PATTERN_1", "[0-9]+")] ∧
      ∃ m outline, ValidatorModule.ofExtraction Sample.codes none = .ok m ∧
        outline? m.text = some outline ∧ HasConstants Sample.codes outline := by
  have renderable : ∀ schema ∈ Sample.codes, ∀ f ∈ schema.2, ∀ c ∈ f.checks, c.IsRenderable := by
    decide +kernel
  have constants : Sample.codes.constants =
      [("_PATTERN_0", "[a-z]+"), ("_PATTERN_1", "[0-9]+")] := by
    decide +kernel
  obtain ⟨-, renders, modules⟩ := Extraction.constants_consistent Sample.codes none
  obtain ⟨m, hm⟩ := renders.mpr renderable
  obtain ⟨outline, read, -, -, consistent⟩ := modules m hm
  exact ⟨renderable, constants, m, outline, hm, read, consistent⟩

end SchemaChecks
