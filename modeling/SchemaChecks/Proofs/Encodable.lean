import SchemaChecks.Proofs.Agreement

/-!
Modules that can be written. Of the texts of a document, only the documentation and the names of the
schemas stand in a module as they are. All others are quoted, and a quoted text spells out every
surrogate.
-/

namespace SchemaChecks

namespace Text

/-- What a search finds is a range that holds the number. -/
theorem RangeTable.mem_of_search {t : RangeTable} {n fuel lo hi : Nat} {r : Nat × Nat}
    (found : t.search n fuel lo hi = some r) : r ∈ t ∧ r.1 ≤ n ∧ n ≤ r.2 := by
  induction fuel generalizing lo hi with
  | zero => cases found
  | succ fuel ih =>
    unfold search at found
    split at found
    · cases found
    · dsimp only at found
      split at found
      · cases found
      · rename_i middle there
        split at found
        · exact ih found
        · split at found
          · exact ih found
          · obtain rfl := Option.some.inj found
            exact ⟨Array.mem_of_getElem? there, by omega, by omega⟩

theorem isPrintable_of_surrogate {c : Char} (surrogate : isSurrogate c = true) :
    isPrintable c = false := by
  have below : ∀ r ∈ printableTable.toList, r.2 < 0x10d800 := by decide +kernel
  simp only [isSurrogate, Bool.and_eq_true, decide_eq_true_eq] at surrogate
  have offset : standInOffset = 0x100000 := rfl
  have wide : ¬ c.toNat < 128 := by omega
  rw [isPrintable, if_neg wide, RangeTable.contains, Option.isSome_eq_false_iff,
    Option.isNone_iff_eq_none]
  cases found : printableTable.rangeOf? c.toNat with
  | none => rfl
  | some r =>
    obtain ⟨known, -, most⟩ := RangeTable.mem_of_search found
    have := below r (Array.mem_toList_iff.mpr known)
    omega

theorem hasBytes_hexDigits (width n : Nat) : HasBytes (Quoted.hexDigits width n) := by
  have digits : ∀ d < 16, isSurrogate (Quoted.hexDigit d) = false := by decide
  induction width generalizing n with
  | zero => exact hasBytes_nil
  | succ width ih => simp [Quoted.hexDigits, ih, digits _ (Nat.mod_lt n (by decide))]

theorem hasBytes_encodeChar {quote : Char} (plain : isSurrogate quote = false) (c : Char) :
    HasBytes (Quoted.encodeChar quote c) := by
  have marks : ∀ d ∈ ['\\', 't', 'n', 'r', 'x', 'u', 'U'], isSurrogate d = false :=
    (by decide : HasBytes ['\\', 't', 'n', 'r', 'x', 'u', 'U'])
  unfold Quoted.encodeChar
  split
  · rename_i escaped
    have : isSurrogate c = false := by
      rcases (by simpa using escaped : c = quote ∨ c = '\\') with rfl | rfl
      · exact plain
      · decide
    simp [this, marks]
  split
  · decide
  split
  · decide
  split
  · decide
  split
  · rename_i shown
    cases surrogate : isSurrogate c with
    | false => simp [surrogate]
    | true => simp [isPrintable_of_surrogate surrogate] at shown
  split
  · simp [marks, hasBytes_hexDigits]
  split <;> simp [marks, hasBytes_hexDigits]

/-- Every quoted text can be written. -/
theorem hasBytes_quoted (s : String) : HasBytes (quoted s).toList := by
  have plain : isSurrogate (Quoted.quoteFor s.toList) = false := by
    unfold Quoted.quoteFor
    split <;> decide
  rw [quoted, Quoted.encode, String.toList_ofList]
  simp [plain, hasBytes_flatMap, hasBytes_encodeChar plain]

theorem hasBytes_join {lines : List String} :
    HasBytes (String.join lines).toList ↔ ∀ line ∈ lines, HasBytes line.toList := by
  rw [String.toList_join, hasBytes_flatMap]

end Text

open Text

theorem hasBytes_docText (s : String) : HasBytes (docText s).toList ↔ HasBytes s.toList := by
  rw [docText, String.toList_ofList, hasBytes_flatMap]
  have backslash : isSurrogate '\\' = false := by decide
  refine forall₂_congr fun c _ => ?_
  split <;> simp [backslash]

namespace Source

theorem hasBytes_of_isBareText {cs : List Char} (bare : IsBareText cs) : HasBytes cs := by
  have signs : HasBytes ['_', ' ', '(', ')', ',', '.', '<', '=', '>', '-'] := by decide
  intro c hc
  have known := bare c hc
  rw [isBare, Bool.or_eq_true, isNameChar, Bool.or_eq_true, decide_eq_true_eq] at known
  rcases known with (letter | rfl) | sign
  · refine isSurrogate_of_lt ?_
    change ((('A'.val ≤ c.val ∧ c.val ≤ 'Z'.val) || ('a'.val ≤ c.val && c.val ≤ 'z'.val)) ||
      ('0'.val ≤ c.val && c.val ≤ '9'.val)) = true at letter
    simp only [Bool.or_eq_true, Bool.and_eq_true, decide_eq_true_eq, UInt32.le_iff_toNat_le]
      at letter
    change c.val.toNat < 0xd800
    rcases letter with (⟨-, bound⟩ | ⟨-, bound⟩) | ⟨-, bound⟩
    all_goals exact Nat.lt_of_le_of_lt bound (by decide)
  · decide
  · exact signs c (List.mem_cons_of_mem _ (by simpa using sign))

/-! ### Lines -/

def LinesHaveBytes (lines : List String) : Prop := ∀ line ∈ lines, HasBytes line.toList

variable {line : String} {lines more : List String}

@[simp] theorem linesHaveBytes_nil : LinesHaveBytes [] := List.forall_mem_nil _

@[simp] theorem linesHaveBytes_cons :
    LinesHaveBytes (line :: lines) ↔ HasBytes line.toList ∧ LinesHaveBytes lines :=
  List.forall_mem_cons

@[simp] theorem linesHaveBytes_append :
    LinesHaveBytes (lines ++ more) ↔ LinesHaveBytes lines ∧ LinesHaveBytes more :=
  List.forall_mem_append

theorem linesHaveBytes_flatMap {α : Type} {as : List α} {f : α → List String} :
    LinesHaveBytes (as.flatMap f) ↔ ∀ a ∈ as, LinesHaveBytes (f a) :=
  List.forall_mem_flatMap

@[simp] theorem hasBytes_indented (n : Nat) :
    HasBytes (FieldBlock.indented n line).toList ↔ HasBytes line.toList := by
  have blank : HasBytes (List.replicate n ' ') := by
    intro c hc
    rw [List.eq_of_mem_replicate hc]
    decide
  simp [FieldBlock.indented, blank]

@[simp] theorem linesHaveBytes_indented (n : Nat) :
    LinesHaveBytes (lines.map (FieldBlock.indented n)) ↔ LinesHaveBytes lines := by
  simp [LinesHaveBytes]

/-! ### Functions -/

theorem hasBytes_raise (field : String) (v : Violation) : HasBytes (raiseText field v).toList := by
  have text : raiseText field v = "raise ValidationError(" ++ quoted field ++ ", " ++
      quoted v.message ++ ")" := rfl
  simp [text, isSurrogate_of_lt, hasBytes_quoted]

theorem linesHaveBytes_guard (field : String) (g : Guard) : LinesHaveBytes (g.lines field) := by
  have text : s!"if {g.condition.text}:" = "if " ++ g.condition.text ++ ":" := rfl
  have condition := hasBytes_of_isBareText (isBareText_condition g.condition)
  rw [Guard.lines, text]
  simp [isSurrogate_of_lt, condition, hasBytes_raise]

theorem linesHaveBytes_block (b : FieldBlock) : LinesHaveBytes b.lines := by
  have text : s!"value = _read(instance, {quoted b.field})" =
      "value = _read(instance, " ++ quoted b.field ++ ")" := rfl
  have guards : LinesHaveBytes (b.guards.flatMap (·.lines b.field)) :=
    linesHaveBytes_flatMap.mpr fun g _ => linesHaveBytes_guard b.field g
  unfold FieldBlock.lines
  rw [text]
  cases b.nullable <;>
    simp [-List.map_map, isSurrogate_of_lt, hasBytes_quoted, hasBytes_raise, guards]

/-- In a function only the name of the schema stands as it is. -/
theorem linesHaveBytes_function {f : ValidatorFunction} (named : FunctionName.IsName f.name) :
    LinesHaveBytes f.lines ↔ HasBytes f.schema.toList := by
  have name := hasBytes_of_isBareText (isBareText_name (isNewName_of_isName named))
  have remark : remarkText f.schema = "\"\"\"Validate a " ++ docText f.schema ++
      " instance and return it unchanged.\"\"\"" := rfl
  have blocks : LinesHaveBytes (f.blocks.flatMap FieldBlock.lines) :=
    linesHaveBytes_flatMap.mpr fun b _ => linesHaveBytes_block b
  rw [function_lines]
  simp [functionLine_toList, remark, isSurrogate_of_lt, name, blocks, hasBytes_docText]

/-! ### Modules -/

theorem linesHaveBytes_patterns (n : Nat) (patterns : List String) :
    LinesHaveBytes (ValidatorModule.patternLinesFrom n patterns) := by
  induction patterns generalizing n with
  | nil => exact linesHaveBytes_nil
  | cons regex rest ih =>
    have text : s!"{patternName n} = re.compile({quoted regex})" =
        patternName n ++ " = re.compile(" ++ quoted regex ++ ")" := rfl
    have name := hasBytes_of_isBareText (isBareText_name (patternName_isNewName n))
    rw [ValidatorModule.patternLinesFrom, text]
    simp [isSurrogate_of_lt, name, hasBytes_quoted, ih]

theorem linesHaveBytes_table {m : ValidatorModule}
    (named : ∀ f ∈ m.functions, FunctionName.IsName f.name) : LinesHaveBytes m.tableLines := by
  have rows : LinesHaveBytes (m.functions.map ValidatorModule.tableLine) := by
    refine List.forall_mem_map.mpr fun f hf => ?_
    have name := hasBytes_of_isBareText (isBareText_name (isNewName_of_isName (named f hf)))
    simp [tableLine_eq, rowText_toList, isSurrogate_of_lt, name, hasBytes_quoted]
  simp [ValidatorModule.tableLines, isSurrogate_of_lt, rows]

/-- A module can be written exactly if its documentation and the names of its schemas can. -/
theorem hasBytes_text_iff {m : ValidatorModule}
    (named : ∀ f ∈ m.functions, FunctionName.IsName f.name) : HasBytes m.text.toList ↔
      HasBytes m.doc.toList ∧ ∀ f ∈ m.functions, HasBytes f.schema.toList := by
  have lines : HasBytes m.text.toList ↔ LinesHaveBytes m.lines := by
    rw [ValidatorModule.text, hasBytes_join]
    simp [LinesHaveBytes, ValidatorModule.lineText, isSurrogate_of_lt]
  have preamble : LinesHaveBytes ValidatorModule.preamble := by
    unfold ValidatorModule.preamble
    simp only [linesHaveBytes_cons, linesHaveBytes_nil]
    repeat rw [String.toList_ofList]
    decide +kernel
  have patterns : LinesHaveBytes (if m.patterns.isEmpty then [] else "" :: m.patternLines) := by
    split <;> simp [ValidatorModule.patternLines, linesHaveBytes_patterns]
  have functions : LinesHaveBytes (m.functions.flatMap fun f => ["", ""] ++ f.lines) ↔
      ∀ f ∈ m.functions, HasBytes f.schema.toList := by
    rw [linesHaveBytes_flatMap]
    refine forall₂_congr fun f hf => ?_
    simp [linesHaveBytes_function (named f hf)]
  have text : ValidatorModule.docLine m.doc = "\"\"\"" ++ docText m.doc ++ "\"\"\"" := rfl
  have docLine : HasBytes (ValidatorModule.docLine m.doc).toList ↔ HasBytes m.doc.toList := by
    simp [text, isSurrogate_of_lt, hasBytes_docText]
  have blanks : LinesHaveBytes ["", ""] := by simp
  simp only [lines, lines_eq, tailLines, linesHaveBytes_cons, linesHaveBytes_append, docLine,
    preamble, patterns, functions, blanks, linesHaveBytes_table named, true_and, and_true]

end Source

/-- What is made of an extraction can be written exactly if the documentation that is asked for and
the names of the schemas with validators can. -/
theorem ValidatorModule.hasBytes_iff {root : Tree} {path doc : Option String} {e : Extraction}
    {m : ValidatorModule} (extraction : Extraction.ofTree root path = .ok e)
    (module : ofExtraction e doc = .ok m) :
    HasBytes m.text.toList ↔
      HasBytes (docOf doc).toList ∧ ∀ name ∈ e.names, HasBytes name.toList := by
  obtain ⟨c, -, compiles, rfl⟩ := Extraction.ofTree_eq_ok.mp extraction
  have shape := Extraction.wellFormed_of_definitions compiles
  obtain ⟨-, rendered⟩ := Source.functions_rendered shape.nonempty module
  have bound := Source.isBound_of_rendered shape.distinct rendered
  have documented : m.doc = docOf doc := by
    obtain ⟨_, -, rfl⟩ := exists_of_map_eq_ok module
    rfl
  rw [Source.hasBytes_text_iff bound.named, documented, ← (Source.functions_names rendered).2,
    List.forall_mem_map]

end SchemaChecks
