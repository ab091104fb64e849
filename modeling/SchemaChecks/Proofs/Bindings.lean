import SchemaChecks.Proofs.Agreement

/-!
What a module binds. The names that the lines of its text bind are all different, and under the name
that its table has for a schema stands the function rendered from the fields of that schema.
-/

namespace SchemaChecks.Source

/-! ### Names bound by lines -/

def nameList (cs : List Char) : List String :=
  (cs.splitOn ',').filterMap fun part => (name? (part.dropWhile (· = ' '))).map Prod.fst

def behindKeyword? (line : List Char) : Option (List Char) :=
  after "def ".toList line <|> after "class ".toList line <|> after "import ".toList line

def behindImport? (line : List Char) : Option (List Char) :=
  (after "from ".toList line).bind fun cs => after " import ".toList (cs.dropWhile (· ≠ ' '))

def assigned? (line : List Char) : Option String :=
  (name? line).bind fun p => (after " = ".toList p.2).map fun _ => p.1

def boundNames (line : List Char) : List String :=
  match behindKeyword? line with
  | some cs => ((name? cs).map Prod.fst).toList
  | none =>
    match behindImport? line with
    | some cs => nameList cs
    | none => (assigned? line).toList

def topNames (source : String) : List String :=
  (linesFrom .code source.toList).flatMap boundNames

def preambleNames : List String :=
  ["annotations", "re", "Mapping", "Sequence", "Set", "ValidationError", "_read"]

def tableName : String := "VALIDATORS"

theorem after_of_head {c d : Char} (h : d ≠ c) (ds cs : List Char) :
    after (d :: ds) (c :: cs) = none := by
  rw [after, if_neg h]

/-- A line that does not start like a keyword binds what it assigns. -/
theorem boundNames_of_head {c : Char} (h : c ∉ ['d', 'c', 'i', 'f']) (cs : List Char) :
    boundNames (c :: cs) = (assigned? (c :: cs)).toList := by
  have other : ∀ d ∈ ['d', 'c', 'i', 'f'], d ≠ c := by
    rintro d hd rfl
    exact h hd
  have noDef : after "def ".toList (c :: cs) = none :=
    after_of_head (other 'd' (by decide)) "ef ".toList cs
  have noClass : after "class ".toList (c :: cs) = none :=
    after_of_head (other 'c' (by decide)) "lass ".toList cs
  have noImport : after "import ".toList (c :: cs) = none :=
    after_of_head (other 'i' (by decide)) "mport ".toList cs
  have noFrom : after "from ".toList (c :: cs) = none :=
    after_of_head (other 'f' (by decide)) "rom ".toList cs
  have noKeyword : behindKeyword? (c :: cs) = none := by
    rw [behindKeyword?, noDef, noClass, noImport]
    rfl
  have noOrigin : behindImport? (c :: cs) = none := by
    rw [behindImport?, noFrom]
    rfl
  rw [boundNames, noKeyword, noOrigin]

/-- A line whose first character belongs to no name binds nothing. -/
theorem boundNames_of_mark {c : Char} (h : isNameChar c = false) (cs : List Char) :
    boundNames (c :: cs) = [] := by
  have noLetter : c ∉ ['d', 'c', 'i', 'f'] := by
    intro letter
    have letters : ['d', 'c', 'i', 'f'].all isNameChar = true := by decide
    rw [List.all_eq_true.mp letters c letter] at h
    cases h
  have noName : name? (c :: cs) = none := by
    rw [name?, List.takeWhile_cons, h]
    rfl
  rw [boundNames_of_head noLetter, assigned?, noName]
  rfl

theorem boundNames_nil : boundNames [] = [] := by decide

theorem boundNames_preamble :
    (ValidatorModule.preamble.map String.toList).flatMap boundNames = preambleNames := by
  have blank : ∀ cs, boundNames (' ' :: cs) = [] := boundNames_of_mark (by decide)
  unfold ValidatorModule.preamble
  simp only [List.map_cons, List.map_nil]
  repeat rw [String.toList_ofList]
  simp only [List.flatMap_cons, List.flatMap_nil, blank, boundNames_nil, List.nil_append,
    List.append_nil]
  decide +kernel

theorem boundNames_indented {n : Nat} (line : List Char) :
    boundNames (indented (n + 1, line)) = [] := by
  rw [indented, List.replicate_succ, List.cons_append]
  exact boundNames_of_mark (by decide) _

theorem boundNames_patternLine (i : Nat) (regex : String) :
    boundNames (patternLine i regex).toList = [patternName i] := by
  have named : name? (patternLine i regex).toList = some (patternName i,
      " = re.compile(".toList ++ ((Text.quoted regex).toList ++ ")".toList)) := by
    rw [patternLine_toList]
    exact name?_append (patternName_isNewName i) ⟨' ', _, rfl, by decide⟩
  have sign : " = re.compile(".toList = " = ".toList ++ "re.compile(".toList := by decide
  have assigns : assigned? (patternLine i regex).toList = some (patternName i) := by
    rw [assigned?, named, Option.bind_some, sign, List.append_assoc, after_append]
    rfl
  obtain ⟨cs, first⟩ := patternLine_head i regex
  rw [first] at assigns ⊢
  rw [boundNames_of_head (by decide), assigns]
  rfl

theorem boundNames_functionLine {f : ValidatorFunction} (named : FunctionName.IsName f.name) :
    boundNames (functionLine f).toList = [f.name] := by
  have name := @name?_append f.name "(instance):".toList (isNewName_of_isName named)
    ⟨'(', "instance):".toList, by decide, by decide⟩
  have starts : behindKeyword? (functionLine f).toList =
      some (f.name.toList ++ "(instance):".toList) := by
    rw [behindKeyword?, functionLine_toList, after_append]
    rfl
  rw [boundNames, starts]
  simp only [name, Option.map_some, Option.toList_some]

/-! ### Lines at the left margin -/

namespace Forest

def heads : Forest → List (List Char)
  | nil => []
  | cons line _ rest => line :: rest.heads

theorem boundNames_inner (f : Forest) (n : Nat) : (f.source (n + 1)).flatMap boundNames = [] := by
  induction f generalizing n with
  | nil => rfl
  | cons line inner rest ihInner ihRest =>
    have deeper : n + 1 + indentation = (n + indentation) + 1 := by omega
    rw [source_cons, List.flatMap_cons, List.flatMap_append, boundNames_indented, ihRest, deeper,
      ihInner]
    rfl

/-- Lines that belong to others bind nothing. -/
theorem boundNames_source (f : Forest) :
    (f.source 0).flatMap boundNames = f.heads.flatMap boundNames := by
  induction f with
  | nil => rfl
  | cons line inner rest _ ih =>
    rw [source_cons, List.flatMap_cons, List.flatMap_append, ih, indented_zero, heads,
      List.flatMap_cons]
    have none := boundNames_inner inner 3
    rw [Nat.zero_add, indentation, none, List.nil_append]

end Forest

theorem boundNames_kept (ls : List (List Char)) :
    (kept ls).flatMap boundNames = ls.flatMap boundNames := by
  induction ls with
  | nil => rfl
  | cons l ls ih =>
    rw [List.flatMap_cons, ← ih]
    cases hb : isBlankLine l with
    | false => simp [kept, hb]
    | true =>
      have nothing : boundNames l = [] := by
        cases l with
        | nil => exact boundNames_nil
        | cons c cs =>
          have blank : c = ' ' := by simpa using List.all_eq_true.mp hb c List.mem_cons_self
          rw [blank]
          exact boundNames_of_mark (by decide) cs
      simp [kept, hb, nothing]

theorem heads_patternsForest (i : Nat) (patterns : List String) (rest : Forest) :
    (patternsForest i patterns rest).heads.flatMap boundNames =
      (List.range' i patterns.length).map patternName ++ rest.heads.flatMap boundNames := by
  induction patterns generalizing i with
  | nil => rfl
  | cons regex more ih =>
    rw [patternsForest, Forest.heads, List.flatMap_cons, boundNames_patternLine, ih,
      List.length_cons, List.range'_succ, List.map_cons]
    rfl

theorem heads_functionsForest {fs : List ValidatorFunction}
    (named : ∀ f ∈ fs, FunctionName.IsName f.name) (rest : Forest) :
    (functionsForest fs rest).heads.flatMap boundNames =
      fs.map ValidatorFunction.name ++ rest.heads.flatMap boundNames := by
  induction fs with
  | nil => rfl
  | cons f fs ih =>
    have more := ih fun f hf => named f (List.mem_cons_of_mem _ hf)
    simp only [functionsForest, List.foldr_cons] at more ⊢
    rw [Forest.heads, List.flatMap_cons, boundNames_functionLine (named f List.mem_cons_self), more]
    rfl

/-- The names that the text of a module binds: those of its preamble, its patterns, its functions
and its table. -/
theorem topNames_text {m : ValidatorModule}
    (named : ∀ f ∈ m.functions, FunctionName.IsName f.name) :
    topNames m.text = preambleNames ++ ((List.range m.patterns.length).map patternName ++
      (m.functions.map ValidatorFunction.name ++ [tableName])) := by
  have remark : boundNames (ValidatorModule.docLine m.doc).toList = [] := by
    have text : (ValidatorModule.docLine m.doc).toList = '"' :: ("\"\"" ++ docText m.doc ++
        "\"\"\"").toList := by
      have whole : ValidatorModule.docLine m.doc = "\"\"\"" ++ docText m.doc ++ "\"\"\"" := rfl
      rw [whole, String.toList_append, String.toList_append, String.toList_append,
        String.toList_append]
      rfl
    rw [text]
    exact boundNames_of_mark (by decide) _
  have table : (tableForest m.functions).heads.flatMap boundNames = [tableName] := by
    have heads : (tableForest m.functions).heads = [tableOpening, "\x7d".toList] := rfl
    rw [heads]
    decide +kernel
  have flush := (all_moduleForest named).imp fun l hl => hl.flush
  have tail : ((tailLines m).map String.toList).flatMap boundNames =
      (moduleForest m).heads.flatMap boundNames := by
    rw [← boundNames_kept, kept_tailLines, Forest.kept_source flush, Forest.boundNames_source]
  unfold topNames
  rw [linesFrom_text named, lines_eq, List.map_cons, List.map_append, List.cons_append,
    List.flatMap_cons, remark, List.nil_append, List.flatMap_append, List.flatMap_append,
    boundNames_preamble, tail, moduleForest, heads_patternsForest, heads_functionsForest named,
    table, List.range_eq_range', List.append_assoc]
  simp only [List.append_assoc]
  rfl

/-! ### No two names are the same -/

/-- Texts differ if a prefix of one is none of the other. -/
theorem ne_of_after {start : List Char} {s t : String} (hs : ∃ tail, s.toList = start ++ tail)
    (ht : after start t.toList = none) : s ≠ t := by
  rintro rfl
  obtain ⟨tail, hs⟩ := hs
  rw [hs, after_append] at ht
  cases ht

theorem patternName_ne_fixed (i : Nat) :
    ∀ name ∈ preambleNames ++ [tableName], patternName i ≠ name := by
  intro name hn
  have other : ∀ fixed ∈ preambleNames ++ [tableName],
      after "_PATTERN_".toList fixed.toList = none := by decide +kernel
  exact ne_of_after ⟨_, patternName_toList i⟩ (other name hn)

theorem isName_ne_fixed {s : String} (h : FunctionName.IsName s) :
    ∀ name ∈ preambleNames ++ [tableName], s ≠ name := by
  intro name hn
  obtain ⟨tail, hs, -⟩ := h
  have other : ∀ fixed ∈ preambleNames ++ [tableName],
      after "validate_".toList fixed.toList = none := by decide +kernel
  exact ne_of_after ⟨tail, hs⟩ (other name hn)

/-- The names that a module binds are distinct if those of its functions are. -/
theorem bound_distinct {count : Nat} {names : List String}
    (named : ∀ name ∈ names, FunctionName.IsName name) (distinct : names.Nodup) :
    (preambleNames ++ ((List.range count).map patternName ++ (names ++ [tableName]))).Nodup := by
  have patterns : ((List.range count).map patternName).Nodup :=
    List.Nodup.map (fun _ _ h => patternName_injective h) List.nodup_range
  have withTable : (names ++ [tableName]).Nodup := by
    refine List.Nodup.append distinct (List.nodup_singleton _) ?_
    intro name hn ht
    obtain rfl := List.mem_singleton.mp ht
    exact isName_ne_fixed (named _ hn) tableName (by decide +kernel) rfl
  have withPatterns : ((List.range count).map patternName ++ (names ++ [tableName])).Nodup := by
    refine List.Nodup.append patterns withTable ?_
    intro name hp hn
    obtain ⟨i, -, rfl⟩ := List.mem_map.mp hp
    rcases List.mem_append.mp hn with hn | ht
    · exact patternName_ne_name (named _ hn) rfl
    · exact patternName_ne_fixed i _ (List.mem_append_right _ ht) rfl
  refine List.Nodup.append (by decide +kernel) withPatterns ?_
  intro name hf hn
  have fixed : name ∈ preambleNames ++ [tableName] := List.mem_append_left _ hf
  rcases List.mem_append.mp hn with hp | hn
  · obtain ⟨i, -, rfl⟩ := List.mem_map.mp hp
    exact patternName_ne_fixed i _ fixed rfl
  rcases List.mem_append.mp hn with hn | ht
  · exact isName_ne_fixed (named _ hn) _ fixed rfl
  · obtain rfl := List.mem_singleton.mp ht
    exact absurd hf (by decide +kernel)

/-! ### Functions and rows -/

def functionName? (line : List Char) : Option String :=
  ((after "def ".toList line).bind name?).bind fun p =>
    if p.2 = "(instance):".toList then some p.1 else none

theorem functionName?_functionLine {f : ValidatorFunction} (named : FunctionName.IsName f.name) :
    functionName? (functionLine f).toList = some f.name := by
  have name := @name?_append f.name "(instance):".toList (isNewName_of_isName named)
    ⟨'(', "instance):".toList, by decide, by decide⟩
  have whole : ∀ sign : List Char, (if sign = sign then some f.name else none) = some f.name :=
    fun _ => if_pos rfl
  rw [functionName?, functionLine_toList, after_append, Option.bind_some, name, Option.bind_some]
  exact whole _

namespace Forest

def functions : Forest → List (String × Forest)
  | nil => []
  | cons line inner rest =>
    match functionName? line with
    | some name => (name, inner) :: rest.functions
    | none => rest.functions

def table? : Forest → Option (List (String × String))
  | nil => none
  | cons line inner rest => if line = tableOpening then rows? inner else rest.table?

end Forest

theorem functions_patternsForest (i : Nat) (patterns : List String) (rest : Forest) :
    (patternsForest i patterns rest).functions = rest.functions := by
  induction patterns generalizing i with
  | nil => rfl
  | cons regex more ih =>
    obtain ⟨cs, first⟩ := patternLine_head i regex
    have other : functionName? (patternLine i regex).toList = none := by
      have noDef : after "def ".toList ('_' :: cs) = none :=
        after_of_head (by decide) "ef ".toList cs
      rw [functionName?, first, noDef]
      rfl
    rw [patternsForest, Forest.functions, other]
    exact ih (i + 1)

theorem functions_functionsForest {fs : List ValidatorFunction}
    (named : ∀ f ∈ fs, FunctionName.IsName f.name) (rest : Forest) :
    (functionsForest fs rest).functions =
      fs.map (fun f => (f.name, bodyForest f)) ++ rest.functions := by
  induction fs with
  | nil => rfl
  | cons f fs ih =>
    have more := ih fun f hf => named f (List.mem_cons_of_mem _ hf)
    simp only [functionsForest, List.foldr_cons] at more ⊢
    rw [Forest.functions, functionName?_functionLine (named f List.mem_cons_self), more]
    rfl

theorem functions_moduleForest {m : ValidatorModule}
    (named : ∀ f ∈ m.functions, FunctionName.IsName f.name) :
    (moduleForest m).functions = m.functions.map fun f => (f.name, bodyForest f) := by
  have table : (tableForest m.functions).functions = [] := by
    have opening : functionName? tableOpening = none := by decide +kernel
    have closing : functionName? "\x7d".toList = none := by decide +kernel
    rw [tableForest, tableClosing, Forest.functions, opening, Forest.functions, closing]
    rfl
  rw [moduleForest, functions_patternsForest, functions_functionsForest named, table,
    List.append_nil]

theorem table?_moduleForest {m : ValidatorModule}
    (named : ∀ f ∈ m.functions, FunctionName.IsName f.name) :
    (moduleForest m).table? = some (m.functions.map fun f => (f.schema, f.name)) := by
  have patterns : ∀ i ps rest, (patternsForest i ps rest).table? = rest.table? := by
    intro i ps rest
    induction ps generalizing i with
    | nil => rfl
    | cons regex more ih =>
      rw [patternsForest, Forest.table?, if_neg (patternLine_ne_opening i regex), ih]
  have functions : ∀ fs rest, (functionsForest fs rest).table? = rest.table? := by
    intro fs rest
    induction fs with
    | nil => rfl
    | cons f fs ih =>
      simp only [functionsForest, List.foldr_cons] at ih ⊢
      rw [Forest.table?, if_neg (functionLine_ne_opening f), ih]
  rw [moduleForest, patterns, functions, tableForest, Forest.table?, if_pos rfl]
  exact rows?_forest named

/-- The lines that belong to a function are all but the first that it is written in. -/
theorem source_bodyForest (f : ValidatorFunction) :
    (bodyForest f).source 4 = f.lines.tail.map String.toList := by
  have whole := source_function f .nil
  rw [Forest.source_cons, Forest.source_nil, List.append_nil, List.append_nil,
    Nat.zero_add] at whole
  have tails := congrArg List.tail whole
  rwa [List.tail_cons, ← List.map_tail] at tails

/-! ### What is rendered for each schema -/

section

variable {e : Extraction} {doc : Option String} {m : ValidatorModule}

/-- Schemas without fields have no function. -/
theorem functionsOf_filter (patterns : List String)
    (named : List (String × String × List FieldChecks)) :
    ValidatorModule.functionsOf patterns (named.filter fun n => n.2.2 ≠ []) =
      ValidatorModule.functionsOf patterns named := by
  induction named with
  | nil => rfl
  | cons n rest ih =>
    obtain ⟨name, schema, fields⟩ := n
    cases fields with
    | nil => simpa [ValidatorModule.functionsOf] using ih
    | cons f more =>
      have kept : ((name, schema, f :: more) :: rest).filter (fun n => n.2.2 ≠ []) =
          (name, schema, f :: more) :: rest.filter fun n => n.2.2 ≠ [] := by simp
      rw [kept, ValidatorModule.functionsOf, ValidatorModule.functionsOf, ih]
      all_goals
        intro h
        cases h

def namedSchemas (e : Extraction) : List (String × String × List FieldChecks) :=
  ((FunctionName.assign e.names).zip e).filter fun n => n.2.2 ≠ []

theorem namedSchemas_schemas (e : Extraction) :
    (namedSchemas e).map Prod.snd = e.filter fun schema => schema.2 ≠ [] := by
  conv_rhs => rw [← zip_schemas e, List.filter_map]
  rfl

/-- Every function of a module is rendered from the fields of its schema. -/
theorem renders_of_module (hm : ValidatorModule.ofExtraction e doc = .ok m) :
    m.patterns = e.patterns ∧ List.Forall₂ (Renders e.patterns) (namedSchemas e) m.functions := by
  obtain ⟨fs, hfs, rfl⟩ := exists_of_map_eq_ok hm
  rw [← functionsOf_filter] at hfs
  refine ⟨rfl, functionsOf_eq_ok ?_ hfs⟩
  intro n hn
  simpa using (List.mem_filter.mp hn).2

theorem names_of_module (hm : ValidatorModule.ofExtraction e doc = .ok m) :
    (m.functions.map ValidatorFunction.name).Sublist (FunctionName.assign e.names) ∧
      m.functions.map ValidatorFunction.schema =
        ((e.filter fun schema => schema.2 ≠ []).map Prod.fst) := by
  obtain ⟨-, rendered⟩ := renders_of_module hm
  constructor
  · have names : m.functions.map ValidatorFunction.name = (namedSchemas e).map Prod.fst :=
      map_eq_of_forall₂ rendered fun _ _ r => r.name
    rw [names, ← zip_names e]
    exact List.filter_sublist.map Prod.fst
  · have schemas : m.functions.map ValidatorFunction.schema =
        (namedSchemas e).map fun n => n.2.1 :=
      map_eq_of_forall₂ rendered fun _ _ r => r.schema
    rw [schemas, ← namedSchemas_schemas, List.map_map]
    rfl

theorem isBound_of_module (distinct : e.names.Nodup)
    (hm : ValidatorModule.ofExtraction e doc = .ok m) : IsBound m := by
  obtain ⟨names, schemas⟩ := names_of_module hm
  obtain ⟨-, distinctNames, isName⟩ := FunctionName.assign_spec e.names
  refine ⟨?_, distinctNames.sublist names, ?_⟩
  · intro f hf
    exact isName f.name (names.subset (List.mem_map_of_mem hf))
  · rw [schemas]
    exact distinct.sublist (List.filter_sublist.map Prod.fst)

theorem blocksOf_of_forall₂ {patterns : List String} {fields : List FieldChecks}
    {bs : List FieldBlock}
    (h : List.Forall₂ (fun c b => ValidatorModule.blockOf patterns c = .ok b) fields bs) :
    ValidatorModule.blocksOf patterns fields = .ok bs := by
  induction h with
  | nil => rfl
  | cons first _ ih =>
    rw [ValidatorModule.blocksOf, first]
    simp only [ih]
    rfl

/-- A source has a function for a schema: its table leads from the schema to a function, and in that
function stand the lines that are rendered from the fields. -/
structure HasFunctionFor (outline : Forest) (patterns : List String) (schema : String)
    (fields : List FieldChecks) (name : String) : Prop where
  row : ∃ table, outline.table? = some table ∧ table.lookup schema = some name
  body : ∃ blocks inner, ValidatorModule.blocksOf patterns fields = .ok blocks ∧
    outline.functions.lookup name = some inner ∧
    inner.source 4 = (ValidatorFunction.lines ⟨name, schema, blocks⟩).tail.map String.toList

theorem hasFunctionFor (distinct : e.names.Nodup)
    (hm : ValidatorModule.ofExtraction e doc = .ok m) {n : String × String × List FieldChecks}
    (hn : n ∈ (FunctionName.assign e.names).zip e) (fields : n.2.2 ≠ []) :
    HasFunctionFor (moduleForest m) e.patterns n.2.1 n.2.2 n.1 := by
  have bound := isBound_of_module distinct hm
  obtain ⟨-, rendered⟩ := renders_of_module hm
  have kept : n ∈ namedSchemas e := List.mem_filter.mpr ⟨hn, by simpa using fields⟩
  obtain ⟨f, hf, renders⟩ := exists_of_forall₂ rendered kept
  constructor
  · refine ⟨_, table?_moduleForest bound.named, ?_⟩
    rw [← renders.name, ← renders.schema]
    refine lookup_of_mem ?_ (List.mem_map.mpr ⟨f, hf, rfl⟩)
    simpa [Function.comp_def] using bound.schemas
  · refine ⟨f.blocks, bodyForest f, blocksOf_of_forall₂ renders.blocks, ?_, ?_⟩
    · rw [functions_moduleForest bound.named, ← renders.name]
      refine lookup_of_mem ?_ (List.mem_map.mpr ⟨f, hf, rfl⟩)
      simpa [Function.comp_def] using bound.names
    · rw [source_bodyForest, ← renders.name, ← renders.schema]

end

end Source

open Source

/-- Every schema has a function of its own. The search for its name ends, at the base if no schema
before it has that name and otherwise at the least number that makes it free; no two names are the
same. In the text of a module no two names are bound at the left margin that are the same, those of
the preamble, the patterns and the table included, and the row of a schema with fields leads to the
function in which its own fields are checked. -/
theorem Extraction.schemas_have_own_functions :
    (∀ before schema later, ∃ name rounds,
      FunctionName.assign (before ++ schema :: later) = FunctionName.assign before ++
        name :: FunctionName.assignAfter (name :: FunctionName.assign before) later ∧
      rounds ≤ before.length ∧
      FunctionName.Search.Ends (FunctionName.assign before) (FunctionName.ofSchema schema)
        (.start (FunctionName.ofSchema schema)) rounds name ∧
      FunctionName.IsLeastFree (FunctionName.assign before) (FunctionName.ofSchema schema) name) ∧
    (∀ schemas, (FunctionName.assign schemas).length = schemas.length ∧
      (FunctionName.assign schemas).Nodup) ∧
    ∀ (e : Extraction) (doc : Option String) (m : ValidatorModule), e.names.Nodup →
      ValidatorModule.ofExtraction e doc = .ok m →
      (topNames m.text).Nodup ∧
      topNames m.text = preambleNames ++ ((List.range m.patterns.length).map patternName ++
        (m.functions.map ValidatorFunction.name ++ [tableName])) ∧
      ∃ outline, outline? m.text = some outline ∧
        outline.functions.map Prod.fst = m.functions.map ValidatorFunction.name ∧
        (∃ table, outline.table? = some table ∧
          table.map Prod.fst = (e.filter fun schema => schema.2 ≠ []).map Prod.fst) ∧
        ∀ n ∈ (FunctionName.assign e.names).zip e, n.2.2 ≠ [] →
          HasFunctionFor outline e.patterns n.2.1 n.2.2 n.1 := by
  refine ⟨?_, ?_, ?_⟩
  · intro before schema later
    obtain ⟨rounds, few, ends⟩ :=
      FunctionName.search_ends (FunctionName.assign before) (FunctionName.ofSchema schema)
    refine ⟨_, rounds, FunctionName.assign_append before (schema :: later), ?_, ends,
      ends.isLeastFree⟩
    rwa [(FunctionName.assign_spec before).1] at few
  · intro schemas
    obtain ⟨length, distinct, -⟩ := FunctionName.assign_spec schemas
    exact ⟨length, distinct⟩
  · intro e doc m distinct hm
    have bound := isBound_of_module distinct hm
    have names := topNames_text bound.named
    refine ⟨?_, names, moduleForest m, outline?_text bound.named, ?_, ?_, ?_⟩
    · rw [names]
      refine bound_distinct ?_ bound.names
      intro name hn
      obtain ⟨f, hf, rfl⟩ := List.mem_map.mp hn
      exact bound.named f hf
    · simp [functions_moduleForest bound.named, Function.comp_def]
    · refine ⟨_, table?_moduleForest bound.named, ?_⟩
      rw [← (names_of_module hm).2, List.map_map]
      rfl
    · intro n hn fields
      exact hasFunctionFor distinct hm hn fields

/-- Schemas of which each takes the name that the next would have. -/
def Sample.foos : Extraction :=
  ["Foo", "foo", "foo_2", "foo_2_2"].map fun name => (name, [⟨"id", .string, false, []⟩])

/-- The names of the sample are made free one after the other, and each row leads to the function of
its schema. -/
theorem Sample.foos_have_own_functions :
    Sample.foos.names.Nodup ∧
      FunctionName.assign Sample.foos.names =
        ["validate_foo", "validate_foo_2", "validate_foo_2_2", "validate_foo_2_2_2"] ∧
      ∃ m outline, ValidatorModule.ofExtraction Sample.foos none = .ok m ∧
        (topNames m.text).Nodup ∧ outline? m.text = some outline ∧
        HasFunctionFor outline [] "foo_2" [⟨"id", .string, false, []⟩] "validate_foo_2_2" := by
  have distinct : Sample.foos.names.Nodup := by decide +kernel
  have names : FunctionName.assign Sample.foos.names =
      ["validate_foo", "validate_foo_2", "validate_foo_2_2", "validate_foo_2_2_2"] := by
    decide +kernel
  obtain ⟨-, -, modules⟩ := Extraction.schemas_have_own_functions
  obtain ⟨single, -, outline, read, -, -, own⟩ := modules Sample.foos none _ distinct rfl
  refine ⟨distinct, names, _, outline, rfl, single, read, ?_⟩
  refine own ("validate_foo_2_2", "foo_2", _) ?_ (by simp)
  rw [names]
  decide +kernel

end SchemaChecks
