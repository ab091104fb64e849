import SchemaChecks.Proofs.Module

/-!
The text of a module reads back. No line of it ends inside a text, and its lines stand as far in as
they nest.
-/

namespace SchemaChecks.Source

structure IsWhole (line : List Char) : Prop where
  flush : IsFlush line
  passes : passes .code line = some .code

theorem isFlush_quoted (s : String) : IsFlush (Text.quoted s).toList := by
  have hq := isQuote_quoteFor s.toList
  rw [Text.quoted, Text.Quoted.encode, String.toList_ofList]
  refine ⟨_, _, rfl, ?_⟩
  intro h
  rw [h] at hq
  exact absurd hq (by decide)

def isBare (c : Char) : Bool :=
  isNameChar c || [' ', '(', ')', ',', '.', '<', '=', '>', '-'].contains c

def IsBareText (cs : List Char) : Prop := ∀ c ∈ cs, isBare c = true

instance (cs : List Char) : Decidable (IsBareText cs) := List.decidableBAll _ cs

theorem isBareText_append {cs more : List Char} (h : IsBareText cs) (hm : IsBareText more) :
    IsBareText (cs ++ more) :=
  List.forall_mem_append.mpr ⟨h, hm⟩

theorem isPlainText_of_isBare {cs : List Char} (h : IsBareText cs) : IsPlainText cs :=
  fun c hc => isPlain_of_kind (h c hc) (by decide) (by decide) (by decide)

theorem isBareText_name {s : String} (h : IsNewName s) : IsBareText s.toList :=
  fun c hc => Bool.or_eq_true_iff.mpr (.inl (h.chars c hc))

theorem isBareText_digits (k : Nat) : IsBareText (Nat.toDigits 10 k) := by
  intro c hc
  have digit := isDigit_of_mem_digits hc
  simp [isBare, isNameChar, Char.isAlphanum, digit]

theorem isBareText_repr (n : Int) : IsBareText n.repr.toList := by
  rcases toList_repr_int n with ⟨k, -, text⟩ | ⟨k, -, text⟩
  · rw [text]
    exact isBareText_digits k
  · rw [text]
    exact @isBareText_append ['-'] _ (by decide) (isBareText_digits k)

theorem isBareText_measure (m : Measure) : IsBareText m.text.toList := by
  cases m <;> decide

theorem isBareText_condition (c : Condition) : IsBareText c.text.toList := by
  cases c with
  | wrongType t =>
    rw [Condition.text]
    cases t <;> (rw [Condition.typeText, String.toList_ofList]; decide +kernel)
  | outside m least most =>
    have text : (Condition.outside m least most).text =
        "not " ++ least.repr ++ " <= " ++ m.text ++ " <= " ++ most.repr := rfl
    have sign : IsBareText " <= ".toList := by decide
    have low := @isBareText_append "not ".toList _ (by decide) (isBareText_repr least)
    have middle := isBareText_append (isBareText_append low sign) (isBareText_measure m)
    have high := isBareText_append (isBareText_append middle sign) (isBareText_repr most)
    rw [text]
    simpa only [String.toList_append] using high
  | below m least =>
    have text : (Condition.below m least).text = m.text ++ " < " ++ least.repr := rfl
    rw [text]
    simp only [String.toList_append]
    exact isBareText_append (isBareText_append (isBareText_measure m) (by decide))
      (isBareText_repr least)
  | above m most =>
    have text : (Condition.above m most).text = m.text ++ " > " ++ Check.boundText most := rfl
    have bound : IsBareText (Check.boundText most).toList := by
      cases most with
      | none => decide
      | some n => exact isBareText_repr n
    rw [text]
    simp only [String.toList_append]
    exact isBareText_append (isBareText_append (isBareText_measure m) (by decide)) bound
  | noMatch i =>
    have text : (Condition.noMatch i).text = patternName i ++ ".fullmatch(value) is None" := rfl
    rw [text, String.toList_append]
    exact isBareText_append (isBareText_name (patternName_isNewName i)) (by decide)

theorem isPlainText_name {s : String} (h : IsNewName s) : IsPlainText s.toList :=
  isPlainText_of_isBare (isBareText_name h)

/-! ### Lines of statements -/

theorem isWhole_branch (c : Condition) : IsWhole (s!"if {c.text}:".toList) := by
  have text : s!"if {c.text}:" = "if " ++ c.text ++ ":" := rfl
  rw [text, String.toList_append, String.toList_append]
  refine ⟨isFlush_append (isFlush_append (by decide) _) _, passes_plainText ?_⟩
  have condition := isPlainText_of_isBare (isBareText_condition c)
  exact isPlainText_append (isPlainText_append (by decide) condition) (by decide)

theorem isWhole_raise (field : String) (v : Violation) : IsWhole (raiseText field v).toList := by
  have text : raiseText field v = "raise ValidationError(" ++ Text.quoted field ++ ", " ++
      Text.quoted v.message ++ ")" := rfl
  have comma : ", ".toList = [',', ' '] := by decide
  have close : ")".toList = [')'] := by decide
  have list : (raiseText field v).toList = "raise ValidationError(".toList ++
      ((Text.quoted field).toList ++ ',' :: ' ' :: ((Text.quoted v.message).toList ++ [')'])) := by
    rw [text, String.toList_append, String.toList_append, String.toList_append,
      String.toList_append, comma, close]
    simp only [List.append_assoc, List.cons_append, List.nil_append]
  rw [list]
  refine ⟨isFlush_append (by decide) _, ?_⟩
  have space : ∀ cs, passes .code (' ' :: cs) = passes .code cs :=
    fun cs => @passes_plain [' '] (by decide) cs
  rw [passes_plain (by decide), passes_quoted field (by decide), space]
  exact passes_quoted v.message (by decide)

theorem isWhole_read (field : String) :
    IsWhole s!"value = _read(instance, {Text.quoted field})".toList := by
  have text : s!"value = _read(instance, {Text.quoted field})" =
      "value = _read(instance, " ++ Text.quoted field ++ ")" := rfl
  rw [text, String.toList_append, String.toList_append, List.append_assoc]
  refine ⟨isFlush_append (by decide) _, ?_⟩
  rw [passes_plain (by decide)]
  exact passes_quoted field (by decide)

theorem all_guardsForest {field : String} {guards : List Guard} {rest : Forest}
    (hr : rest.All IsWhole) : (guardsForest field guards rest).All IsWhole := by
  induction guards with
  | nil => exact hr
  | cons g guards ih =>
    exact ⟨isWhole_branch g.condition, ⟨isWhole_raise field g.violation, trivial, trivial⟩, ih⟩

theorem all_fieldForest {b : FieldBlock} {rest : Forest} (hr : rest.All IsWhole) :
    (fieldForest b rest).All IsWhole := by
  refine ⟨isWhole_read b.field, trivial, ?_⟩
  have absent : IsWhole "if value is None:".toList := ⟨by decide, by decide +kernel⟩
  have present : IsWhole "if value is not None:".toList := ⟨by decide, by decide +kernel⟩
  split
  · exact ⟨present, all_guardsForest trivial, hr⟩
  · exact ⟨absent, ⟨isWhole_raise b.field .null, trivial, trivial⟩, all_guardsForest hr⟩

theorem all_bodyForest (f : ValidatorFunction) : (bodyForest f).All IsWhole := by
  have fields : ∀ blocks : List FieldBlock,
      (blocks.foldr fieldForest (.cons "return instance".toList .nil .nil)).All IsWhole := by
    intro blocks
    induction blocks with
    | nil => exact ⟨⟨by decide, by decide +kernel⟩, trivial, trivial⟩
    | cons b blocks ih => exact all_fieldForest ih
  have remark := isRemark_remarkText f.schema
  have start : IsFlush (remarkText f.schema).toList := by
    have text : remarkText f.schema = "\"\"\"Validate a " ++ docText f.schema ++
        " instance and return it unchanged.\"\"\"" := rfl
    rw [text, String.toList_append, String.toList_append]
    exact isFlush_append (isFlush_append (by decide) _) _
  exact ⟨⟨start, passes_of_isRemark remark⟩, trivial, fields f.blocks⟩

/-! ### Lines of modules -/

theorem isWhole_functionLine {f : ValidatorFunction} (named : FunctionName.IsName f.name) :
    IsWhole (functionLine f).toList := by
  rw [functionLine_toList]
  refine ⟨isFlush_append (by decide) _, passes_plainText (isPlainText_append (by decide) ?_)⟩
  exact isPlainText_append (isPlainText_name (isNewName_of_isName named)) (by decide)

theorem isWhole_patternLine (i : Nat) (regex : String) :
    IsWhole (patternLine i regex).toList := by
  obtain ⟨cs, first⟩ := patternLine_head i regex
  refine ⟨⟨'_', cs, first, by decide⟩, ?_⟩
  rw [patternLine_toList, passes_plain (isPlainText_name (patternName_isNewName i)),
    passes_plain (by decide)]
  exact passes_quoted regex (by decide)

theorem isWhole_rowText {f : ValidatorFunction} (named : FunctionName.IsName f.name) :
    IsWhole (rowText f).toList := by
  rw [rowText_toList]
  refine ⟨isFlush_append (isFlush_quoted f.schema) _, ?_⟩
  have plain : IsPlainText (" ".toList ++ (f.name.toList ++ ",".toList)) :=
    isPlainText_append (by decide)
      (isPlainText_append (isPlainText_name (isNewName_of_isName named)) (by decide))
  exact (passes_quoted f.schema (by decide)).trans (passes_plainText plain)

theorem all_patternsForest (i : Nat) (patterns : List String) {rest : Forest}
    (hr : rest.All IsWhole) : (patternsForest i patterns rest).All IsWhole := by
  induction patterns generalizing i with
  | nil => exact hr
  | cons regex more ih => exact ⟨isWhole_patternLine i regex, trivial, ih (i + 1)⟩

theorem all_functionsForest {fs : List ValidatorFunction}
    (named : ∀ f ∈ fs, FunctionName.IsName f.name) {rest : Forest} (hr : rest.All IsWhole) :
    (functionsForest fs rest).All IsWhole := by
  induction fs with
  | nil => exact hr
  | cons f fs ih =>
    exact ⟨isWhole_functionLine (named f List.mem_cons_self), all_bodyForest f,
      ih fun f hf => named f (List.mem_cons_of_mem _ hf)⟩

theorem all_rowsForest {fs : List ValidatorFunction}
    (named : ∀ f ∈ fs, FunctionName.IsName f.name) : (rowsForest fs).All IsWhole := by
  induction fs with
  | nil => trivial
  | cons f fs ih =>
    exact ⟨isWhole_rowText (named f List.mem_cons_self), trivial,
      ih fun f hf => named f (List.mem_cons_of_mem _ hf)⟩

/-- Every line of a module behind its preamble is whole. -/
theorem all_moduleForest {m : ValidatorModule}
    (named : ∀ f ∈ m.functions, FunctionName.IsName f.name) : (moduleForest m).All IsWhole := by
  have table : (tableForest m.functions).All IsWhole :=
    ⟨⟨by decide, by decide +kernel⟩, all_rowsForest named,
      ⟨by decide, by decide +kernel⟩, trivial, trivial⟩
  exact all_patternsForest 0 m.patterns (all_functionsForest named table)

/-! ### Indentation -/

theorem toList_indented (n : Nat) (line : String) :
    (FieldBlock.indented n line).toList = indented (n, line.toList) := by
  rw [FieldBlock.indented, String.toList_append, String.toList_ofList]
  rfl

theorem indented_indented (n k : Nat) (line : List Char) :
    indented (n, indented (k, line)) = indented (n + k, line) := by
  rw [indented, indented, ← List.append_assoc, List.replicate_append_replicate]
  rfl

theorem four_spaces (line : String) : "    " ++ line = FieldBlock.indented 4 line := by
  have spaces : "    " = String.ofList (List.replicate 4 ' ') := by decide
  rw [FieldBlock.indented, ← spaces]

@[simp] theorem indented_zero (line : List Char) : indented (0, line) = line := rfl

theorem source_guardsForest (field : String) (guards : List Guard) (rest : Forest) (n : Nat) :
    (guardsForest field guards rest).source n =
      (guards.flatMap (·.lines field)).map (fun l => indented (n, l.toList)) ++
        rest.source n := by
  induction guards with
  | nil => rfl
  | cons g guards ih =>
    simp only [guardsForest, List.foldr_cons] at ih ⊢
    rw [Forest.source_cons, Forest.source_cons, ih, List.flatMap_cons, List.map_append, Guard.lines,
      four_spaces]
    simp only [Forest.source_nil, List.map_cons, List.map_nil, toList_indented, indented_indented,
      Forest.indentation, List.append_nil, List.cons_append, List.nil_append]

theorem source_fieldForest (b : FieldBlock) (rest : Forest) :
    (fieldForest b rest).source 4 = b.lines.map String.toList ++ rest.source 4 := by
  unfold fieldForest FieldBlock.lines
  cases b.nullable <;>
    simp only [Bool.false_eq_true, if_true, if_false, Forest.source_cons, source_guardsForest,
      Forest.source_nil, List.map_cons, List.map_map, Function.comp_def, toList_indented,
      indented_indented, Forest.indentation, List.append_nil, List.cons_append, List.nil_append]

theorem function_lines (f : ValidatorFunction) :
    f.lines = functionLine f :: FieldBlock.indented 4 (remarkText f.schema) ::
      (f.blocks.flatMap FieldBlock.lines ++ ["    return instance"]) := by
  have remark : FieldBlock.indented 4 (remarkText f.schema) =
      s!"    \"\"\"Validate a {docText f.schema} instance and return it unchanged.\"\"\"" := by
    have text : remarkText f.schema = "\"\"\"Validate a " ++ docText f.schema ++
        " instance and return it unchanged.\"\"\"" := rfl
    rw [← four_spaces, text, ← String.append_assoc, ← String.append_assoc]
    rfl
  rw [remark, ValidatorFunction.lines, List.append_assoc]
  rfl

theorem source_function (f : ValidatorFunction) (rest : Forest) :
    (Forest.cons (functionLine f).toList (bodyForest f) rest).source 0 =
      f.lines.map String.toList ++ rest.source 0 := by
  have fields : ∀ blocks : List FieldBlock,
      (blocks.foldr fieldForest (.cons "return instance".toList .nil .nil)).source 4 =
        (blocks.flatMap FieldBlock.lines).map String.toList ++
          ["    return instance".toList] := by
    intro blocks
    induction blocks with
    | nil => rfl
    | cons b blocks ih =>
      rw [List.foldr_cons, source_fieldForest, ih, List.flatMap_cons, List.map_append,
        List.append_assoc]
  rw [Forest.source_cons, bodyForest, Forest.source_cons, indented_zero, Forest.indentation,
    Nat.zero_add, ← toList_indented, fields, function_lines]
  simp only [Forest.source_nil, List.map_append, List.map_cons, List.map_nil, List.cons_append,
    List.nil_append]

theorem source_patternsForest (i : Nat) (patterns : List String) (rest : Forest) :
    (patternsForest i patterns rest).source 0 =
      (ValidatorModule.patternLinesFrom i patterns).map String.toList ++ rest.source 0 := by
  induction patterns generalizing i with
  | nil => rfl
  | cons regex more ih =>
    rw [patternsForest, Forest.source_cons, ih, ValidatorModule.patternLinesFrom, List.map_cons,
      Forest.source_nil, indented_zero]
    rfl

theorem tableLine_eq (f : ValidatorFunction) :
    ValidatorModule.tableLine f = FieldBlock.indented 4 (rowText f) := by
  have text : ValidatorModule.tableLine f = "    " ++ Text.quoted f.schema ++ ": " ++ f.name ++
      "," := rfl
  have short : rowText f = Text.quoted f.schema ++ ": " ++ f.name ++ "," := rfl
  rw [text, ← four_spaces, short, ← String.append_assoc, ← String.append_assoc,
    ← String.append_assoc]

theorem source_tableForest (m : ValidatorModule) :
    (tableForest m.functions).source 0 = m.tableLines.map String.toList := by
  have rows : ∀ fs : List ValidatorFunction, (rowsForest fs).source 4 =
      (fs.map ValidatorModule.tableLine).map String.toList := by
    intro fs
    induction fs with
    | nil => rfl
    | cons f fs ih =>
      simp only [rowsForest, List.foldr_cons] at ih ⊢
      rw [Forest.source_cons, ih, Forest.source_nil, ← toList_indented, ← tableLine_eq]
      rfl
  rw [tableForest, Forest.source_cons, Forest.indentation, Nat.zero_add, rows,
    ValidatorModule.tableLines, List.map_append, List.map_append]
  rfl

def tailLines (m : ValidatorModule) : List String :=
  (if m.patterns.isEmpty then [] else "" :: m.patternLines) ++
    (m.functions.flatMap (fun f => ["", ""] ++ f.lines) ++ (["", ""] ++ m.tableLines))

theorem lines_eq (m : ValidatorModule) :
    m.lines = ValidatorModule.docLine m.doc :: (ValidatorModule.preamble ++ tailLines m) := by
  simp only [ValidatorModule.lines, tailLines, List.append_assoc, List.cons_append]

theorem kept_functions (fs : List ValidatorFunction) (rest : Forest) :
    kept ((functionsForest fs rest).source 0) =
      kept ((fs.flatMap fun f => ["", ""] ++ f.lines).map String.toList) ++
        kept (rest.source 0) := by
  induction fs with
  | nil => rfl
  | cons f fs ih =>
    simp only [functionsForest, List.foldr_cons] at ih ⊢
    rw [source_function, kept_append, ih, List.flatMap_cons, List.map_append, kept_append,
      List.append_assoc]
    rfl

/-- Blank lines apart, the lines behind the preamble are those of the module as it nests. -/
theorem kept_tailLines (m : ValidatorModule) :
    kept ((tailLines m).map String.toList) = kept ((moduleForest m).source 0) := by
  have patterns : kept ((if m.patterns.isEmpty then [] else "" :: m.patternLines).map
      String.toList) = kept (m.patternLines.map String.toList) := by
    cases hm : m.patterns with
    | nil => simp [ValidatorModule.patternLines, ValidatorModule.patternLinesFrom, hm]
    | cons regex more => rfl
  have table : kept ((["", ""] ++ m.tableLines).map String.toList) =
      kept (m.tableLines.map String.toList) := rfl
  rw [moduleForest, source_patternsForest, kept_append, kept_functions, source_tableForest,
    tailLines, List.map_append, List.map_append, kept_append, kept_append, patterns, table]
  rfl

/-! ### The whole text -/

theorem passes_of_kept {ls : List (List Char)}
    (h : ∀ l ∈ kept ls, passes .code l = some .code) :
    ∀ l ∈ ls, passes .code l = some .code := by
  intro l hl
  cases hb : isBlankLine l with
  | false => exact h l (List.mem_filter.mpr ⟨hl, by simp [hb]⟩)
  | true =>
    refine passes_plainText fun c hc => ?_
    obtain rfl : c = ' ' := by simpa using List.all_eq_true.mp hb c hc
    decide

theorem passes_indented {l : Line} (h : passes .code l.2 = some .code) :
    passes .code (indented l) = some .code := by
  have blanks : IsPlainText (List.replicate l.1 ' ') := by
    intro c hc
    obtain rfl := List.eq_of_mem_replicate hc
    decide
  rw [indented, passes_plain blanks, h]

/-- No line of a module ends inside a text. -/
theorem passes_lines {m : ValidatorModule}
    (named : ∀ f ∈ m.functions, FunctionName.IsName f.name) :
    ∀ l ∈ m.lines.map String.toList, passes .code l = some .code := by
  have preamble : ∀ l ∈ ValidatorModule.preamble.map String.toList,
      passes .code l = some .code := by
    unfold ValidatorModule.preamble
    simp only [List.map_cons, List.map_nil]
    repeat rw [String.toList_ofList]
    decide +kernel
  have tail : ∀ l ∈ (tailLines m).map String.toList, passes .code l = some .code := by
    refine passes_of_kept fun l hl => ?_
    rw [kept_tailLines] at hl
    obtain ⟨line, hline, rfl⟩ := List.mem_map.mp (List.mem_of_mem_filter hl)
    exact passes_indented ((all_moduleForest named).mem_lines 0 line hline).passes
  rw [lines_eq, List.map_cons, List.map_append]
  intro l hl
  rcases List.mem_cons.mp hl with rfl | hl
  · exact passes_of_isRemark (isRemark_docLine m.doc)
  rcases List.mem_append.mp hl with hl | hl
  · exact preamble l hl
  · exact tail l hl

theorem toList_text (m : ValidatorModule) :
    m.text.toList = (m.lines.map String.toList).flatMap fun l => l ++ ['\n'] := by
  rw [ValidatorModule.text]
  induction m.lines with
  | nil => rfl
  | cons line more ih =>
    rw [List.map_cons, String.join_cons, String.toList_append, ih, List.map_cons, List.flatMap_cons]
    rw [ValidatorModule.lineText, String.toList_append]
    rfl

/-- The lines of a module come out of its text as they are. -/
theorem linesFrom_text {m : ValidatorModule}
    (named : ∀ f ∈ m.functions, FunctionName.IsName f.name) :
    linesFrom .code m.text.toList = m.lines.map String.toList ++ [[]] := by
  rw [toList_text, linesFrom_lines (passes_lines named)]

/-- The lines behind the preamble of a module nest as they were laid out. -/
theorem outline?_text {m : ValidatorModule}
    (named : ∀ f ∈ m.functions, FunctionName.IsName f.name) :
    outline? m.text = some (moduleForest m) := by
  have lines : linesFrom .code m.text.toList = (ValidatorModule.docLine m.doc).toList ::
      (ValidatorModule.preamble.map String.toList ++
        ((tailLines m).map String.toList ++ [[]])) := by
    rw [linesFrom_text named, lines_eq, List.map_cons, List.map_append, List.cons_append,
      List.append_assoc]
  have same : kept ((tailLines m).map String.toList ++ [[]]) =
      kept ((moduleForest m).source 0) := by
    rw [kept_append, kept_tailLines]
    exact List.append_nil _
  have flush := (all_moduleForest named).imp fun l hl => hl.flush
  have nests := nesting?_of_kept flush same
  have remark := isRemark_docLine m.doc
  unfold outline?
  rw [lines]
  simp only [remark, if_true, after_append, Option.bind_eq_bind, Option.bind_some, nests]

/-- The text of a module reads back as its script. -/
theorem read?_text {m : ValidatorModule} (complete : AreComplete m.functions) :
    read? m.text = some (.ofModule m) := by
  rw [read?_eq_outline, outline?_text fun f hf => (complete f hf).1, Option.bind_some]
  exact script?_module complete

end SchemaChecks.Source
