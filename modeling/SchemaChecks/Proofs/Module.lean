import SchemaChecks.Proofs.Rendering

/-!
A rendered module reads back: its functions, its patterns, its table, and from its text the whole
script.
-/

namespace SchemaChecks.Source

def functionLine (f : ValidatorFunction) : String := s!"def {f.name}(instance):"

theorem functionLine_toList (f : ValidatorFunction) :
    (functionLine f).toList = "def ".toList ++ (f.name.toList ++ "(instance):".toList) := by
  have text : functionLine f = "def " ++ f.name ++ "(instance):" := rfl
  rw [text, String.toList_append, String.toList_append, List.append_assoc]

theorem functionBinding?_of {line cs : List Char} {inner : Forest} {name : String} {body : Block}
    (starts : after "def ".toList line = some cs)
    (named : newName? cs = some (name, "(instance):".toList)) (read : block? inner = some body) :
    functionBinding? line inner = some (name, .function body) := by
  rw [functionBinding?, starts, Option.bind_eq_bind, Option.bind_some, named, Option.bind_eq_bind,
    Option.bind_some, read]
  rfl

theorem binding?_function {f : ValidatorFunction} (named : FunctionName.IsName f.name)
    (complete : ∀ b ∈ f.blocks, IsComplete b) :
    binding? (functionLine f).toList (bodyForest f) = some (f.name, .function (bodyBlock f)) := by
  have name := @newName?_append f.name "(instance):".toList (isNewName_of_isName named)
    ⟨'(', "instance):".toList, by decide, by decide⟩
  have starts : after "def ".toList (functionLine f).toList =
      some (f.name.toList ++ "(instance):".toList) := by
    rw [functionLine_toList, after_append]
  rw [binding?, functionBinding?_of starts name (block?_body complete)]
  rfl

def patternLine (i : Nat) (regex : String) : String :=
  s!"{patternName i} = re.compile({Text.quoted regex})"

theorem patternLine_toList (i : Nat) (regex : String) :
    (patternLine i regex).toList = (patternName i).toList ++
      (" = re.compile(".toList ++ ((Text.quoted regex).toList ++ ")".toList)) := by
  have text : patternLine i regex =
      patternName i ++ " = re.compile(" ++ Text.quoted regex ++ ")" := rfl
  rw [text, String.toList_append, String.toList_append, String.toList_append, List.append_assoc,
    List.append_assoc]

theorem patternLine_head (i : Nat) (regex : String) :
    ∃ cs, (patternLine i regex).toList = '_' :: cs := by
  rw [patternLine_toList, patternName_toList]
  exact ⟨_, rfl⟩

theorem patternBinding?_of {line cs more : List Char} {name regex : String}
    (named : newName? line = some (name, cs)) (opens : after " = re.compile(".toList cs = some more)
    (literal : text? more = some (regex, ")".toList)) :
    patternBinding? line .nil = some (name, .pattern regex) := by
  simp only [patternBinding?, named, opens, literal, Option.bind_eq_bind, Option.bind_some]
  exact if_pos ⟨trivial, trivial⟩

theorem patternBinding?_patternLine (i : Nat) (regex : String) :
    patternBinding? (patternLine i regex).toList .nil = some (patternName i, .pattern regex) := by
  have named : newName? (patternLine i regex).toList = some (patternName i,
      " = re.compile(".toList ++ ((Text.quoted regex).toList ++ ")".toList)) := by
    rw [patternLine_toList]
    exact newName?_append (patternName_isNewName i) ⟨' ', _, rfl, by decide⟩
  exact patternBinding?_of named (after_append _ _) (text?_quoted _ _)

theorem binding?_pattern (i : Nat) (regex : String) :
    binding? (patternLine i regex).toList .nil = some (patternName i, .pattern regex) := by
  have noFunction : functionBinding? (patternLine i regex).toList .nil = none := by
    obtain ⟨cs, first⟩ := patternLine_head i regex
    rw [first]
    rfl
  rw [binding?, noFunction, patternBinding?_patternLine]
  rfl

def patternsForest : Nat → List String → Forest → Forest
  | _, [], rest => rest
  | i, regex :: more, rest =>
    .cons (patternLine i regex).toList .nil (patternsForest (i + 1) more rest)

def patternGlobals : Nat → List String → List (String × Global)
  | _, [] => []
  | i, regex :: more => (patternName i, .pattern regex) :: patternGlobals (i + 1) more

def functionsForest (fs : List ValidatorFunction) (rest : Forest) : Forest :=
  fs.foldr (fun f rest => .cons (functionLine f).toList (bodyForest f) rest) rest

def rowText (f : ValidatorFunction) : String := s!"{Text.quoted f.schema}: {f.name},"

def rowsForest (fs : List ValidatorFunction) : Forest :=
  fs.foldr (fun f rest => .cons (rowText f).toList .nil rest) .nil

def tableForest (fs : List ValidatorFunction) : Forest :=
  .cons tableOpening (rowsForest fs) tableClosing

def moduleForest (m : ValidatorModule) : Forest :=
  patternsForest 0 m.patterns (functionsForest m.functions (tableForest m.functions))

def functionGlobals (fs : List ValidatorFunction) : List (String × Global) :=
  fs.map fun f => (f.name, .function (bodyBlock f))

def Script.ofModule (m : ValidatorModule) : Script :=
  ⟨patternGlobals 0 m.patterns ++ functionGlobals m.functions,
    m.functions.map fun f => (f.schema, f.name)⟩

def AreComplete (fs : List ValidatorFunction) : Prop :=
  ∀ f ∈ fs, FunctionName.IsName f.name ∧ ∀ b ∈ f.blocks, IsComplete b

theorem rowText_toList (f : ValidatorFunction) :
    (rowText f).toList =
      (Text.quoted f.schema).toList ++ (": ".toList ++ (f.name.toList ++ ",".toList)) := by
  have text : rowText f = Text.quoted f.schema ++ ": " ++ f.name ++ "," := rfl
  rw [text, String.toList_append, String.toList_append, String.toList_append, List.append_assoc,
    List.append_assoc]

theorem row?_of {line cs more : List Char} {schema name : String}
    (literal : text? line = some (schema, cs)) (colon : after ": ".toList cs = some more)
    (named : name? more = some (name, ",".toList)) : row? line = some (schema, name) := by
  simp only [row?, literal, colon, named, Option.bind_eq_bind, Option.bind_some, if_true]

theorem row?_text {f : ValidatorFunction} (named : FunctionName.IsName f.name) :
    row? (rowText f).toList = some (f.schema, f.name) := by
  have name := @name?_append f.name ",".toList (isNewName_of_isName named)
    ⟨',', [], by decide, by decide⟩
  have literal : text? (rowText f).toList =
      some (f.schema, ": ".toList ++ (f.name.toList ++ ",".toList)) := by
    rw [rowText_toList, text?_quoted]
  exact row?_of literal (after_append _ _) name

theorem rows?_forest {fs : List ValidatorFunction}
    (named : ∀ f ∈ fs, FunctionName.IsName f.name) :
    rows? (rowsForest fs) = some (fs.map fun f => (f.schema, f.name)) := by
  induction fs with
  | nil => rfl
  | cons f fs ih =>
    have first := row?_text (named f List.mem_cons_self)
    have more := ih fun f hf => named f (List.mem_cons_of_mem _ hf)
    simp only [rowsForest, List.foldr_cons, List.map_cons] at more ⊢
    simp [rows?, first, more]

theorem functionLine_ne_opening (f : ValidatorFunction) :
    (functionLine f).toList ≠ tableOpening := by
  intro h
  have first := congrArg List.head? (functionLine_toList f ▸ h)
  cases first

theorem patternLine_ne_opening (i : Nat) (regex : String) :
    (patternLine i regex).toList ≠ tableOpening := by
  intro h
  obtain ⟨cs, first⟩ := patternLine_head i regex
  have head := congrArg List.head? (first ▸ h)
  cases head

theorem script?_functions {fs : List ValidatorFunction} (complete : AreComplete fs)
    {rest : Forest} {s : Script} (hr : script? rest = some s) :
    script? (functionsForest fs rest) =
      some { s with globals := functionGlobals fs ++ s.globals } := by
  induction fs with
  | nil => exact hr
  | cons f fs ih =>
    obtain ⟨named, blocks⟩ := complete f List.mem_cons_self
    have more := ih fun f hf => complete f (List.mem_cons_of_mem _ hf)
    simp only [functionsForest, List.foldr_cons] at more ⊢
    rw [script?, if_neg (functionLine_ne_opening f), binding?_function named blocks, more]
    rfl

theorem script?_patterns (i : Nat) (patterns : List String) {rest : Forest} {s : Script}
    (hr : script? rest = some s) :
    script? (patternsForest i patterns rest) =
      some { s with globals := patternGlobals i patterns ++ s.globals } := by
  induction patterns generalizing i with
  | nil => exact hr
  | cons regex more ih =>
    rw [patternsForest, script?, if_neg (patternLine_ne_opening i regex), binding?_pattern,
      ih (i + 1)]
    rfl

theorem script?_module {m : ValidatorModule} (complete : AreComplete m.functions) :
    script? (moduleForest m) = some (.ofModule m) := by
  have table : script? (tableForest m.functions) =
      some ⟨[], m.functions.map fun f => (f.schema, f.name)⟩ := by
    simp [tableForest, script?, rows?_forest fun f hf => (complete f hf).1]
  have functions := script?_functions complete table
  have whole := script?_patterns 0 m.patterns functions
  simpa [moduleForest, Script.ofModule] using whole

end SchemaChecks.Source
