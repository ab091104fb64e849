import SchemaChecks.Proofs.Bindings
import SchemaChecks.Proofs.Source.Tokens

/-!
Texts of a document cannot leave the literals that they are written in. The text of a module is made
of the same code whatever the texts say, and its literals are those texts in their order.
-/

namespace SchemaChecks

/-! ### Modules without texts -/

def Guard.hollow (g : Guard) : Guard := { g with violation := .null }

def FieldBlock.hollow (b : FieldBlock) : FieldBlock :=
  { b with field := "", guards := b.guards.map Guard.hollow }

def ValidatorFunction.hollow (f : ValidatorFunction) : ValidatorFunction :=
  { f with schema := "", blocks := f.blocks.map FieldBlock.hollow }

/-- A module whose texts are all replaced, with the names and conditions that it has. -/
def ValidatorModule.hollow (m : ValidatorModule) : ValidatorModule :=
  ⟨"", m.patterns.map fun _ => "", m.functions.map ValidatorFunction.hollow⟩

namespace Source

namespace Token

def isText : Token → Bool
  | code _ => false
  | _ => true

def blank : Token → Token
  | code c => code c
  | short _ => short ""
  | long _ => long ""
  | formatted _ => formatted ""

end Token

/-! ### Texts in their order -/

def raiseTexts (field : String) (v : Violation) : List Token := [.short field, .short v.message]

def blockTexts (b : FieldBlock) : List Token :=
  .short b.field :: ((if b.nullable then [] else raiseTexts b.field .null) ++
    b.guards.flatMap fun g => raiseTexts b.field g.violation)

def sentence (schema : String) : String :=
  s!"Validate a {schema} instance and return it unchanged."

def functionTexts (f : ValidatorFunction) : List Token :=
  .long (sentence f.schema) :: f.blocks.flatMap blockTexts

def errorRemark : String := "Raised for the first violated check of an instance."

def errorMessage : String := "\x7bfield\x7d: \x7bviolation\x7d"

theorem errorMessage_plainly : ∀ c ∈ errorMessage.toList, Text.Quoted.encodeChar '"' c = [c] := by
  have all : errorMessage.toList.all (fun c => Text.Quoted.encodeChar '"' c = [c]) = true := by
    unfold errorMessage
    rw [String.toList_ofList]
    decide +kernel
  intro c hc
  exact of_decide_eq_true (List.all_eq_true.mp all c hc)

def preambleTexts : List Token := [.long errorRemark, .formatted errorMessage]

def moduleTexts (m : ValidatorModule) : List Token :=
  .long m.doc :: (preambleTexts ++ (m.patterns.map .short ++
    (m.functions.flatMap functionTexts ++ m.functions.map fun f => .short f.schema)))

/-! ### Pieces of the same code -/

/-- A piece of a source is made of the same code as another, and of texts. -/
def Encloses (cs hollow : List Char) (texts : List Token) : Prop :=
  ∃ ts us, Lexes cs ts ∧ Lexes hollow us ∧ ts.filter Token.isText = texts ∧
    us.map Token.blank = ts.map Token.blank

namespace Encloses

theorem append {cs hs ds gs : List Char} {texts more : List Token} (first : Encloses cs hs texts)
    (second : Encloses ds gs more) : Encloses (cs ++ ds) (hs ++ gs) (texts ++ more) := by
  obtain ⟨ts, us, hts, hus, htexts, hcode⟩ := first
  obtain ⟨vs, ws, hvs, hws, hmore, hothers⟩ := second
  refine ⟨ts ++ vs, us ++ ws, hts.append hvs, hus.append hws, ?_, ?_⟩
  · rw [List.filter_append, htexts, hmore]
  · rw [List.map_append, List.map_append, hcode, hothers]

theorem filter_plain (cs : List Char) : (plain cs).filter Token.isText = [] := by
  refine List.filter_eq_nil_iff.mpr fun t ht => ?_
  obtain ⟨c, -, rfl⟩ := List.mem_map.mp ht
  exact Bool.false_ne_true

theorem plain {cs : List Char} (code : IsCodeText cs) : Encloses cs cs [] :=
  ⟨Source.plain cs, Source.plain cs, lexes_plain code, lexes_plain code, filter_plain cs, rfl⟩

theorem short (s s' : String) {c : Char} {cs : List Char} (code : IsCodeText (c :: cs)) :
    Encloses ((Text.quoted s).toList ++ c :: cs) ((Text.quoted s').toList ++ c :: cs)
      [.short s] := by
  refine ⟨_, _, lexes_short s code, lexes_short s' code, ?_, ?_⟩
  · exact congrArg (Token.short s :: ·) (filter_plain (c :: cs))
  · rfl

theorem long (s s' : String) :
    Encloses (tripleQuote ++ ((docText s).toList ++ tripleQuote))
      (tripleQuote ++ ((docText s').toList ++ tripleQuote)) [.long s] :=
  ⟨_, _, lexes_long s, lexes_long s', rfl, rfl⟩

theorem formatted {s : String} (plainly : ∀ d ∈ s.toList, Text.Quoted.encodeChar '"' d = [d])
    {c : Char} {cs : List Char} (code : IsCodeText (c :: cs)) :
    Encloses ('f' :: '"' :: (s.toList ++ '"' :: c :: cs))
      ('f' :: '"' :: (s.toList ++ '"' :: c :: cs)) [.formatted s] := by
  have pieces := lexes_formatted plainly code
  refine ⟨_, _, pieces, pieces, ?_, rfl⟩
  exact congrArg (Token.formatted s :: ·) (filter_plain (c :: cs))

end Encloses

inductive LinesEnclose : List String → List String → List Token → Prop
  | nil : LinesEnclose [] [] []
  | cons {l h : String} {ls hs : List String} {texts more : List Token}
    (line : Encloses (l.toList ++ ['\n']) (h.toList ++ ['\n']) texts)
    (rest : LinesEnclose ls hs more) : LinesEnclose (l :: ls) (h :: hs) (texts ++ more)

namespace LinesEnclose

variable {ls hs ms gs : List String} {texts more : List Token}

theorem line {l h : String} (line : Encloses (l.toList ++ ['\n']) (h.toList ++ ['\n']) texts) :
    LinesEnclose [l] [h] texts := by
  have one := cons line nil
  rwa [List.append_nil] at one

theorem append (first : LinesEnclose ls hs texts) (second : LinesEnclose ms gs more) :
    LinesEnclose (ls ++ ms) (hs ++ gs) (texts ++ more) := by
  induction first with
  | nil => exact second
  | cons line _ ih =>
    rw [List.append_assoc]
    exact cons line ih

theorem flatMap {α : Type} {f g : α → List String} {t : α → List Token} {l : List α}
    (each : ∀ a ∈ l, LinesEnclose (f a) (g a) (t a)) :
    LinesEnclose (l.flatMap f) (l.flatMap g) (l.flatMap t) := by
  induction l with
  | nil => exact nil
  | cons a l ih =>
    simp only [List.flatMap_cons]
    exact (each a List.mem_cons_self).append (ih fun b hb => each b (List.mem_cons_of_mem _ hb))

theorem plain (code : ∀ l ∈ ls, IsCodeText (l.toList ++ ['\n'])) : LinesEnclose ls ls [] := by
  induction ls with
  | nil => exact nil
  | cons l ls ih =>
    exact cons (.plain (code l List.mem_cons_self))
      (ih fun m hm => code m (List.mem_cons_of_mem _ hm))

theorem isCodeText_spaces (n : Nat) : IsCodeText (List.replicate n ' ') where
  code c hc := by
    rw [List.eq_of_mem_replicate hc]
    decide
  ends c hc := by
    rw [List.eq_of_mem_replicate (List.mem_of_getLast? hc)]
    decide

theorem indented (h : LinesEnclose ls hs texts) (n : Nat) :
    LinesEnclose (ls.map (FieldBlock.indented n)) (hs.map (FieldBlock.indented n)) texts := by
  induction h with
  | nil => exact nil
  | cons line _ ih =>
    refine cons ?_ ih
    have moved := (Encloses.plain (isCodeText_spaces n)).append line
    rw [List.nil_append, ← List.append_assoc, ← List.append_assoc] at moved
    rw [toList_indented, toList_indented]
    exact moved

theorem encloses (h : LinesEnclose ls hs texts) :
    Encloses ((ls.map String.toList).flatMap (· ++ ['\n']))
      ((hs.map String.toList).flatMap (· ++ ['\n'])) texts := by
  induction h with
  | nil => exact ⟨[], [], .nil, .nil, rfl, rfl⟩
  | cons line _ ih => exact line.append ih

end LinesEnclose

/-! ### Lines of a module -/

theorem isCode_of_isBare {cs : List Char} (h : IsBareText cs) : IsCode cs := by
  intro c hc
  rcases Bool.or_eq_true_iff.mp (h c hc) with name | sign
  · exact isCode_of_isNameChar name
  · have signs : [' ', '(', ')', ',', '.', '<', '=', '>', '-'].all isCode = true := by decide
    exact List.all_eq_true.mp signs c (List.contains_iff_mem.mp sign)

theorem isCode_name {s : String} (h : IsNewName s) : IsCode s.toList :=
  isCode_of_isBare (isBareText_name h)

theorem isCodeText_line {cs : List Char} (h : IsCode cs) : IsCodeText (cs ++ ['\n']) :=
  isCodeText_append h (by decide) (by decide)

theorem encloses_raise (field field' : String) (v v' : Violation) :
    LinesEnclose [raiseText field v] [raiseText field' v'] (raiseTexts field v) := by
  have written : ∀ (field : String) (v : Violation), (raiseText field v).toList ++ ['\n'] =
      "raise ValidationError(".toList ++ (((Text.quoted field).toList ++ ", ".toList) ++
        ((Text.quoted v.message).toList ++ ")\n".toList)) := by
    intro field v
    have text : raiseText field v = "raise ValidationError(" ++ Text.quoted field ++ ", " ++
        Text.quoted v.message ++ ")" := rfl
    have last : ")\n".toList = ")".toList ++ ['\n'] := by decide
    simp only [text, last, String.toList_append, List.append_assoc]
  have opening : Encloses "raise ValidationError(".toList _ [] := .plain (by decide +kernel)
  have names := Encloses.short field field' (show IsCodeText [',', ' '] by decide)
  have messages := Encloses.short v.message v'.message (show IsCodeText [')', '\n'] by decide)
  apply LinesEnclose.line
  rw [written, written]
  exact opening.append (names.append messages)

theorem encloses_code {l : String} (h : IsCode l.toList) : LinesEnclose [l] [l] [] :=
  .plain fun _ hm => List.mem_singleton.mp hm ▸ isCodeText_line h

theorem encloses_guard (field field' : String) (g : Guard) :
    LinesEnclose (g.lines field) (g.hollow.lines field') (raiseTexts field g.violation) := by
  have branch : IsCode s!"if {g.condition.text}:".toList := by
    have text : s!"if {g.condition.text}:" = "if " ++ g.condition.text ++ ":" := rfl
    have condition := isCode_of_isBare (isBareText_condition g.condition)
    rw [text, String.toList_append, String.toList_append]
    exact isCode_append (isCode_append (by decide) condition) (by decide)
  have message := (encloses_raise field field' g.violation .null).indented 4
  rw [Guard.lines, Guard.lines, four_spaces, four_spaces]
  exact (encloses_code branch).append message

def readLine (field : String) : String := s!"value = _read(instance, {Text.quoted field})"

theorem encloses_read (field field' : String) :
    LinesEnclose [readLine field] [readLine field'] [.short field] := by
  have written : ∀ field : String, (readLine field).toList ++ ['\n'] =
      "value = _read(instance, ".toList ++ ((Text.quoted field).toList ++ ")\n".toList) := by
    intro field
    have text : readLine field = "value = _read(instance, " ++ Text.quoted field ++ ")" := rfl
    have last : ")\n".toList = ")".toList ++ ['\n'] := by decide
    simp only [text, last, String.toList_append, List.append_assoc]
  have opening : Encloses "value = _read(instance, ".toList _ [] := .plain (by decide +kernel)
  have literal := Encloses.short field field' (show IsCodeText [')', '\n'] by decide)
  apply LinesEnclose.line
  rw [written, written]
  exact opening.append literal

theorem encloses_block (b : FieldBlock) :
    LinesEnclose b.lines b.hollow.lines (blockTexts b) := by
  have guards : LinesEnclose (b.guards.flatMap (·.lines b.field))
      (b.hollow.guards.flatMap (·.lines "")) (b.guards.flatMap fun g =>
        raiseTexts b.field g.violation) := by
    rw [FieldBlock.hollow, List.flatMap_map]
    exact .flatMap fun g _ => encloses_guard b.field "" g
  have present : LinesEnclose ["if value is not None:"] ["if value is not None:"] [] :=
    encloses_code (by decide +kernel)
  have absent : LinesEnclose ["if value is None:"] ["if value is None:"] [] :=
    encloses_code (by decide +kernel)
  have null := (encloses_raise b.field "" .null .null).indented 4
  refine LinesEnclose.indented ((encloses_read b.field "").append ?_) 4
  change LinesEnclose (if b.nullable then _ else _) (if b.nullable then _ else _) _
  cases b.nullable with
  | true => exact present.append (guards.indented 4)
  | false => exact (absent.append null).append guards

theorem docText_append (s t : String) : docText (s ++ t) = docText s ++ docText t := by
  rw [docText, String.toList_append, List.flatMap_append, String.ofList_append]
  rfl

theorem encloses_remark (schema schema' : String) :
    LinesEnclose [FieldBlock.indented 4 (remarkText schema)]
      [FieldBlock.indented 4 (remarkText schema')] [.long (sentence schema)] := by
  have written : ∀ schema : String, (remarkText schema).toList ++ ['\n'] =
      (tripleQuote ++ ((docText (sentence schema)).toList ++ tripleQuote)) ++ ['\n'] := by
    intro schema
    have text : remarkText schema = "\"\"\"Validate a " ++ docText schema ++
        " instance and return it unchanged.\"\"\"" := rfl
    have whole : sentence schema =
        "Validate a " ++ schema ++ " instance and return it unchanged." := rfl
    have first : docText "Validate a " = "Validate a " := by decide +kernel
    have last : docText " instance and return it unchanged." =
        " instance and return it unchanged." := by decide +kernel
    have opening : "\"\"\"Validate a ".toList = tripleQuote ++ "Validate a ".toList := by
      decide +kernel
    have closing : " instance and return it unchanged.\"\"\"".toList =
        " instance and return it unchanged.".toList ++ tripleQuote := by decide +kernel
    rw [text, whole, docText_append, docText_append, first, last]
    simp only [String.toList_append, opening, closing, List.append_assoc]
  have remark := (Encloses.long (sentence schema) (sentence schema')).append
    (.plain (show IsCodeText ['\n'] by decide))
  refine LinesEnclose.indented (.line ?_) 4
  rw [written, written]
  exact remark

theorem encloses_function {f : ValidatorFunction} (named : FunctionName.IsName f.name) :
    LinesEnclose f.lines f.hollow.lines (functionTexts f) := by
  have heading : IsCode (functionLine f).toList := by
    rw [functionLine_toList]
    exact isCode_append (by decide)
      (isCode_append (isCode_name (isNewName_of_isName named)) (by decide))
  have blocks : LinesEnclose (f.blocks.flatMap FieldBlock.lines)
      (f.hollow.blocks.flatMap FieldBlock.lines) (f.blocks.flatMap blockTexts) := by
    rw [ValidatorFunction.hollow, List.flatMap_map]
    exact .flatMap fun b _ => encloses_block b
  have last : LinesEnclose ["    return instance"] ["    return instance"] [] :=
    encloses_code (by decide +kernel)
  have body := (encloses_remark f.schema "").append (blocks.append last)
  rw [List.append_nil] at body
  rw [function_lines, function_lines]
  exact (encloses_code heading).append body

theorem encloses_patterns (i : Nat) (patterns : List String) :
    LinesEnclose (ValidatorModule.patternLinesFrom i patterns)
      (ValidatorModule.patternLinesFrom i (patterns.map fun _ => "")) (patterns.map .short) := by
  have written : ∀ (i : Nat) (regex : String), (patternLine i regex).toList ++ ['\n'] =
      ((patternName i).toList ++ " = re.compile(".toList) ++
        ((Text.quoted regex).toList ++ ")\n".toList) := by
    intro i regex
    have last : ")\n".toList = ")".toList ++ ['\n'] := by decide
    simp only [patternLine_toList, last, List.append_assoc]
  induction patterns generalizing i with
  | nil => exact .nil
  | cons regex more ih =>
    have named := isCode_name (patternName_isNewName i)
    have opening : Encloses ((patternName i).toList ++ " = re.compile(".toList) _ [] :=
      .plain (isCodeText_append named (by decide +kernel) (by decide))
    have literal := Encloses.short regex "" (show IsCodeText [')', '\n'] by decide)
    have line : Encloses ((patternLine i regex).toList ++ ['\n'])
        ((patternLine i "").toList ++ ['\n']) [.short regex] := by
      rw [written, written]
      exact opening.append literal
    exact .cons line (ih (i + 1))

theorem encloses_row {f : ValidatorFunction} (named : FunctionName.IsName f.name) :
    LinesEnclose [ValidatorModule.tableLine f] [ValidatorModule.tableLine f.hollow]
      [.short f.schema] := by
  have name := isCode_name (isNewName_of_isName named)
  have behind : IsCodeText (':' :: ' ' :: (f.name.toList ++ [',', '\n'])) :=
    isCodeText_append (isCode_append (show IsCode [':', ' '] by decide) name)
      (show IsCodeText [',', '\n'] by decide) (by decide)
  have written : ∀ g : ValidatorFunction, g.name = f.name → (rowText g).toList ++ ['\n'] =
      (Text.quoted g.schema).toList ++ ':' :: ' ' :: (f.name.toList ++ [',', '\n']) := by
    intro g same
    have colon : ": ".toList = [':', ' '] := by decide
    have comma : ",".toList = [','] := by decide
    simp only [rowText_toList, same, colon, comma, List.append_assoc, List.cons_append,
      List.nil_append]
  rw [tableLine_eq, tableLine_eq]
  refine LinesEnclose.indented (.line ?_) 4
  rw [written f rfl, written f.hollow rfl]
  exact .short f.schema "" behind

def preambleCode : List String :=
  ValidatorModule.preamble.take 7 ++ ((ValidatorModule.preamble.drop 8).take 2 ++
    ValidatorModule.preamble.drop 11)

theorem isCode_preamble : ∀ l ∈ preambleCode, IsCode l.toList := by
  have lines : ∀ cs ∈ preambleCode.map String.toList, IsCode cs := by
    unfold preambleCode ValidatorModule.preamble
    simp only [List.take_succ_cons, List.take_zero, List.drop_succ_cons, List.drop_zero,
      List.cons_append, List.nil_append, List.map_cons, List.map_nil]
    repeat rw [String.toList_ofList]
    decide +kernel
  intro l hl
  exact lines l.toList (List.mem_map_of_mem hl)

theorem encloses_preamble :
    LinesEnclose ValidatorModule.preamble ValidatorModule.preamble preambleTexts := by
  have code : ∀ ls, (∀ l ∈ ls, l ∈ preambleCode) → LinesEnclose ls ls [] := fun ls within =>
    .plain fun l hl => isCodeText_line (isCode_preamble l (within l hl))
  have first := code (ValidatorModule.preamble.take 7) fun l hl =>
    List.mem_append_left _ hl
  have second := code ((ValidatorModule.preamble.drop 8).take 2) fun l hl =>
    List.mem_append_right _ (List.mem_append_left _ hl)
  have third := code (ValidatorModule.preamble.drop 11) fun l hl =>
    List.mem_append_right _ (List.mem_append_right _ hl)
  have remark : LinesEnclose [ValidatorModule.preamble[7]] [ValidatorModule.preamble[7]]
      [.long errorRemark] := by
    have written : ValidatorModule.preamble[7].toList = List.replicate 4 ' ' ++
        (tripleQuote ++ ((docText errorRemark).toList ++ tripleQuote)) := by
      simp only [ValidatorModule.preamble, List.getElem_cons_succ, List.getElem_cons_zero, docText,
        errorRemark]
      repeat rw [String.toList_ofList]
      decide +kernel
    have spaces := Encloses.plain (LinesEnclose.isCodeText_spaces 4)
    have last := Encloses.plain (show IsCodeText ['\n'] by decide)
    apply LinesEnclose.line
    rw [written]
    exact (spaces.append (.long errorRemark errorRemark)).append last
  have message : LinesEnclose [ValidatorModule.preamble[10]] [ValidatorModule.preamble[10]]
      [.formatted errorMessage] := by
    have written : ValidatorModule.preamble[10].toList ++ ['\n'] =
        (List.replicate 8 ' ' ++ "super().__init__(".toList) ++
          ('f' :: '"' :: (errorMessage.toList ++ '"' :: ')' :: ['\n'])) := by
      simp only [ValidatorModule.preamble, List.getElem_cons_succ, List.getElem_cons_zero,
        errorMessage]
      repeat rw [String.toList_ofList]
      decide +kernel
    have opening : IsCodeText (List.replicate 8 ' ' ++ "super().__init__(".toList) :=
      isCodeText_append (LinesEnclose.isCodeText_spaces 8).code (by decide +kernel) (by decide)
    have closing : IsCodeText [')', '\n'] := by decide
    have literal := Encloses.formatted errorMessage_plainly closing
    apply LinesEnclose.line
    rw [written]
    exact (Encloses.plain opening).append literal
  exact first.append (remark.append (second.append (message.append third)))

theorem encloses_doc (doc doc' : String) :
    LinesEnclose [ValidatorModule.docLine doc] [ValidatorModule.docLine doc'] [.long doc] := by
  have written : ∀ doc : String, (ValidatorModule.docLine doc).toList ++ ['\n'] =
      (tripleQuote ++ ((docText doc).toList ++ tripleQuote)) ++ ['\n'] := by
    intro doc
    have text : ValidatorModule.docLine doc = "\"\"\"" ++ docText doc ++ "\"\"\"" := rfl
    have quotes : "\"\"\"".toList = tripleQuote := by decide
    simp only [text, quotes, String.toList_append, List.append_assoc]
  apply LinesEnclose.line
  rw [written, written]
  exact (Encloses.long doc doc').append (.plain (show IsCodeText ['\n'] by decide))

/-- The lines of a module are made of the code of the module without texts, and of its texts. -/
theorem encloses_lines {m : ValidatorModule}
    (named : ∀ f ∈ m.functions, FunctionName.IsName f.name) :
    LinesEnclose m.lines m.hollow.lines (moduleTexts m) := by
  have blank : LinesEnclose [""] [""] [] := encloses_code (by decide)
  have patterns : LinesEnclose (if m.patterns.isEmpty then [] else "" :: m.patternLines)
      (if m.hollow.patterns.isEmpty then [] else "" :: m.hollow.patternLines)
      (m.patterns.map .short) := by
    have lines := encloses_patterns 0 m.patterns
    unfold ValidatorModule.patternLines ValidatorModule.hollow
    cases hm : m.patterns with
    | nil => exact .nil
    | cons regex more =>
      rw [hm] at lines
      exact blank.append lines
  have functions : LinesEnclose (m.functions.flatMap fun f => ["", ""] ++ f.lines)
      (m.hollow.functions.flatMap fun f => ["", ""] ++ f.lines)
      (m.functions.flatMap functionTexts) := by
    rw [ValidatorModule.hollow, List.flatMap_map]
    exact .flatMap fun f hf => (blank.append blank).append (encloses_function (named f hf))
  have rows : LinesEnclose (m.functions.map ValidatorModule.tableLine)
      (m.hollow.functions.map ValidatorModule.tableLine)
      (m.functions.map fun f => .short f.schema) := by
    rw [ValidatorModule.hollow, List.map_map, List.map_eq_flatMap, List.map_eq_flatMap,
      List.map_eq_flatMap]
    exact .flatMap fun f hf => encloses_row (named f hf)
  have opening : LinesEnclose ["VALIDATORS = \x7b"] ["VALIDATORS = \x7b"] [] :=
    encloses_code (by decide +kernel)
  have closing : LinesEnclose ["\x7d"] ["\x7d"] [] := encloses_code (by decide)
  have table := (opening.append rows).append closing
  rw [List.nil_append, List.append_nil] at table
  have tail := patterns.append (functions.append ((blank.append blank).append table))
  rw [lines_eq, lines_eq]
  exact (encloses_doc m.doc "").append (encloses_preamble.append tail)

/-! ### Texts of a document -/

def violationOf? : Check → Option Violation
  | .length b => some (.length b)
  | .pattern regex => some (.noMatch regex)
  | .range b => some (.range b)
  | .minItems n => some (.tooFewItems n)
  | .unknown => none

def fieldViolations (f : FieldChecks) : List Violation :=
  (if f.nullable then [] else [.null]) ++
    ((if f.type = .unsupported then [] else [.wrongType f.type]) ++
      f.checks.filterMap violationOf?)

def fieldTexts (f : FieldChecks) : List Token :=
  .short f.name :: (fieldViolations f).flatMap (raiseTexts f.name)

def schemaTexts (schema : String × List FieldChecks) : List Token :=
  .long (sentence schema.1) :: schema.2.flatMap fieldTexts

end Source

def Extraction.checked (e : Extraction) : Extraction := e.filter fun schema => schema.2 ≠ []

/-- The texts of a module for an extraction: its documentation, what the preamble says, the
patterns, for each schema its name, its fields and what they can raise, and the names of the table.
-/
def Extraction.texts (e : Extraction) (doc : Option String) : List Source.Token :=
  .long (ValidatorModule.docOf doc) :: (Source.preambleTexts ++ (e.patterns.map .short ++
    (e.checked.flatMap Source.schemaTexts ++ e.checked.map fun schema => .short schema.1)))

namespace Source

variable {patterns : List String}

theorem violationOf?_guardOf {c : Check} {g : Guard}
    (h : ValidatorModule.guardOf patterns c = .ok g) : violationOf? c = some g.violation := by
  unfold ValidatorModule.guardOf at h
  split at h
  · cases h
  · cases c with
    | unknown => cases h
    | length b => cases h; rfl
    | pattern regex => cases h; rfl
    | range b => cases h; rfl
    | minItems n => cases h; rfl

theorem violations_guardsOf {cs : List Check} {gs : List Guard}
    (h : ValidatorModule.guardsOf patterns cs = .ok gs) :
    gs.map Guard.violation = cs.filterMap violationOf? := by
  replace h := ValidatorModule.guardsOf_eq_ok h
  induction h with
  | nil => rfl
  | cons hg _ ih => rw [List.map_cons, List.filterMap_cons, violationOf?_guardOf hg, ih]

theorem blockTexts_blockOf {f : FieldChecks} {b : FieldBlock}
    (h : ValidatorModule.blockOf patterns f = .ok b) : blockTexts b = fieldTexts f := by
  obtain ⟨gs, hgs, rfl⟩ := exists_of_map_eq_ok h
  have checks := violations_guardsOf hgs
  have type : (ValidatorModule.typeGuard f.type).map Guard.violation =
      if f.type = .unsupported then [] else [.wrongType f.type] := by
    cases f.type <;> rfl
  have null : (if f.nullable then [] else raiseTexts f.name .null) =
      (if f.nullable then [] else [Violation.null]).flatMap (raiseTexts f.name) := by
    cases f.nullable <;> rfl
  have guards : ∀ gs : List Guard, gs.flatMap (fun g => raiseTexts f.name g.violation) =
      (gs.map Guard.violation).flatMap (raiseTexts f.name) := by
    intro gs
    rw [List.flatMap_map]
  rw [blockTexts, guards, null, ← List.flatMap_append, List.map_append, type, checks]
  rfl

theorem functionTexts_of_renders {n : String × String × List FieldChecks} {f : ValidatorFunction}
    (h : Renders patterns n f) : functionTexts f = schemaTexts n.2 := by
  have blocks : f.blocks.map blockTexts = n.2.2.map fieldTexts :=
    map_eq_of_forall₂ h.blocks fun _ _ rendered => blockTexts_blockOf rendered
  rw [functionTexts, schemaTexts, h.schema, List.flatMap_def, List.flatMap_def, blocks]

theorem moduleTexts_of_extraction {e : Extraction} {doc : Option String} {m : ValidatorModule}
    (hm : ValidatorModule.ofExtraction e doc = .ok m) : moduleTexts m = e.texts doc := by
  obtain ⟨patterns, rendered⟩ := renders_of_module hm
  have document : m.doc = ValidatorModule.docOf doc := by
    obtain ⟨fs, -, rfl⟩ := exists_of_map_eq_ok hm
    rfl
  have schemas : (namedSchemas e).map Prod.snd = e.checked := namedSchemas_schemas e
  have functions : m.functions.map functionTexts = e.checked.map schemaTexts := by
    rw [← schemas, List.map_map]
    exact map_eq_of_forall₂ rendered fun _ _ r => functionTexts_of_renders r
  have rows : m.functions.map (fun f => Token.short f.schema) =
      e.checked.map fun schema => .short schema.1 := by
    rw [← schemas, List.map_map]
    exact map_eq_of_forall₂ rendered fun _ _ r => congrArg Token.short r.schema
  rw [moduleTexts, Extraction.texts, document, patterns, List.flatMap_def, List.flatMap_def,
    functions, rows]

end Source

open Source

/-- Texts cannot leave their literals. The text of a module is read as tokens that are written one
behind the other, its literals are the texts of the extraction and its documentation in their order,
each of them is read up to its own quotes whatever it says, and all else is as in the module without
texts. -/
theorem Extraction.texts_enclosed {e : Extraction} {doc : Option String} {m : ValidatorModule}
    (hm : ValidatorModule.ofExtraction e doc = .ok m) :
    ∃ tokens, tokens? m.text = some tokens ∧ tokens.flatMap Token.source = m.text.toList ∧
      tokens.filter Token.isText = e.texts doc ∧
      (tokens? m.hollow.text).map (List.map Token.blank) = some (tokens.map Token.blank) ∧
      ∀ before token behind, tokens = before ++ token :: behind →
        token.ReadsBack (behind.flatMap Token.source) := by
  have named : ∀ f ∈ m.functions, FunctionName.IsName f.name := by
    intro f hf
    obtain ⟨-, -, isName⟩ := FunctionName.assign_spec e.names
    exact isName f.name ((names_of_module hm).1.subset (List.mem_map_of_mem hf))
  obtain ⟨ts, us, here, hollow, texts, code⟩ := (encloses_lines named).encloses
  rw [← toList_text] at here hollow
  refine ⟨ts, here.tokens?, here.source, ?_, ?_, ?_⟩
  · rw [texts, moduleTexts_of_extraction hm]
  · rw [hollow.tokens?, Option.map_some, code]
  · rintro before token behind rfl
    exact here.closed token (by simp) _

def Sample.quotes : Extraction :=
  [("\\\"\"\"", [⟨"it\x27s \"\n", .string, true, [.pattern "\\"]⟩])]

/-- The texts of the sample are the literals of its module. -/
theorem Sample.quotes_enclosed :
    ∃ m tokens, ValidatorModule.ofExtraction Sample.quotes (some "ends in \"\\") = .ok m ∧
      tokens? m.text = some tokens ∧
      tokens.filter Token.isText =
        .long "ends in \"\\" :: (preambleTexts ++ [.short "\\",
          .long "Validate a \\\"\"\" instance and return it unchanged.",
          .short "it\x27s \"\n", .short "it\x27s \"\n", .short "must be a string",
          .short "it\x27s \"\n", .short "must match pattern \\", .short "\\\"\"\""]) := by
  obtain ⟨tokens, read, -, texts, -, -⟩ :=
    @Extraction.texts_enclosed Sample.quotes (some "ends in \"\\") _ rfl
  exact ⟨_, tokens, rfl, read, texts.trans (by decide +kernel)⟩

end SchemaChecks
