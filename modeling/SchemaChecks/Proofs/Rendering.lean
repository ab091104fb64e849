import SchemaChecks.Proofs.FunctionName
import SchemaChecks.Proofs.Source.Reader

/-!
Rendered statements read back: every condition, guard, block and body reads as what it was rendered
from.
-/

namespace SchemaChecks

/-- A condition on a type that is known, or with the bound that it needs. -/
def Condition.IsComplete : Condition → Prop
  | .wrongType t => t ≠ .unsupported
  | .above _ most => most.isSome
  | _ => True

namespace Source

/-! ### Names -/

structure IsNewName (s : String) : Prop where
  chars : ∀ c ∈ s.toList, isNameChar c = true
  start : ∃ c cs, s.toList = c :: cs ∧ c.isDigit = false
  fresh : s ∉ reserved

def EndsName (rest : List Char) : Prop := ∃ c cs, rest = c :: cs ∧ isNameChar c = false

theorem name?_append {s : String} {rest : List Char} (h : IsNewName s) (hr : EndsName rest) :
    name? (s.toList ++ rest) = some (s, rest) := by
  obtain ⟨d, ds, rfl, stop⟩ := hr
  obtain ⟨c, cs, hs, start⟩ := h.start
  have taken : (s.toList ++ d :: ds).takeWhile isNameChar = s.toList := by
    rw [List.takeWhile_append_of_pos h.chars]
    simp [stop]
  have left : (s.toList ++ d :: ds).dropWhile isNameChar = d :: ds := by
    rw [List.dropWhile_append_of_pos h.chars]
    simp [stop]
  unfold name?
  rw [taken, left, hs]
  simp only [start, Bool.false_eq_true, if_false]
  rw [← hs, String.ofList_toList]

theorem newName?_append {s : String} {rest : List Char} (h : IsNewName s) (hr : EndsName rest) :
    newName? (s.toList ++ rest) = some (s, rest) := by
  have fresh := h.fresh
  simp [newName?, name?_append h hr, fresh]

theorem isNewName_of_isName {s : String} (h : FunctionName.IsName s) : IsNewName s := by
  obtain ⟨tail, hs, htail⟩ := h
  have first := List.all_eq_true.mp (show "validate_".toList.all isNameChar = true by decide)
  refine ⟨?_, ⟨'v', "alidate_".toList ++ tail, hs, by decide⟩, ?_⟩
  · intro c hc
    rw [hs] at hc
    rcases List.mem_append.mp hc with hc | hc
    · exact first c hc
    · rcases htail c hc with lower | digit | rfl
      · have small : c.isLower = true := lower
        have letter : c.isAlpha = true := by
          change (c.isUpper || c.isLower) = true
          rw [small, Bool.or_true]
        simp [isNameChar, Char.isAlphanum, letter]
      · have : c.isDigit = true := by
          simpa [FunctionName.isDigit, Char.isDigit, Char.le_def] using digit
        simp [isNameChar, Char.isAlphanum, this]
      · decide
  · intro used
    have other : ∀ r ∈ reserved, after "validate_".toList r.toList = none := by decide
    have := other s used
    rw [hs, after_append] at this
    cases this

theorem patternName_toList (i : Nat) :
    (patternName i).toList = "_PATTERN_".toList ++ Nat.toDigits 10 i := by
  change ("_PATTERN_" ++ i.repr).toList = _
  rw [String.toList_append, Nat.toList_repr]

theorem patternName_isNewName (i : Nat) : IsNewName (patternName i) := by
  have first := List.all_eq_true.mp (show "_PATTERN_".toList.all isNameChar = true by decide)
  refine ⟨?_, ⟨'_', "PATTERN_".toList ++ Nat.toDigits 10 i, patternName_toList i, by decide⟩, ?_⟩
  · intro c hc
    rw [patternName_toList] at hc
    rcases List.mem_append.mp hc with hc | hc
    · exact first c hc
    · have : c.isDigit = true := Nat.isDigit_of_mem_toDigits (by decide) (by decide) hc
      simp [isNameChar, Char.isAlphanum, this]
  · intro used
    have other : ∀ r ∈ reserved, after "_PATTERN_".toList r.toList = none := by decide
    have := other _ used
    rw [patternName_toList, after_append] at this
    cases this

theorem patternName_injective {i j : Nat} (h : patternName i = patternName j) : i = j := by
  have hl := congrArg String.toList h
  rw [patternName_toList, patternName_toList] at hl
  exact FunctionName.toDigits_injective (List.append_cancel_left hl)

/-! ### Conditions -/

def Test.ofCondition : Condition → Test
  | .wrongType .string => .classes [⟨true, [.str]⟩]
  | .wrongType .integer => .classes [⟨true, [.int]⟩, ⟨false, [.bool]⟩]
  | .wrongType .array =>
    .classes [⟨true, [.sequence, .set]⟩, ⟨false, [.str, .bytes, .bytearray]⟩]
  | .wrongType .unsupported => .classes []
  | .outside m least most => .outside m least most
  | .below m least => .below m least
  | .above m most => .above m (most.getD 0)
  | .noMatch i => .noMatch (patternName i)

theorem classTests?_of_none {cs : List Char} (h : classTest? cs = none) (fuel : Nat) :
    classTests? fuel cs = none := by
  cases fuel with
  | zero => rfl
  | succ fuel => simp [classTests?, h]

theorem noDigit_cons {c : Char} {cs : List Char} (h : c.isDigit = false) : NoDigit (c :: cs) := by
  intro d hd
  obtain rfl : c = d := by simpa using hd
  exact h

theorem measure?_text (m : Measure) (rest : List Char) :
    measure? (m.text.toList ++ ' ' :: rest) = some (m, ' ' :: rest) := by
  cases m <;> simp [measure?, Measure.text, after]

theorem test?_of_noClass {cs : List Char} (noNull : nullTest? cs = none)
    (noClass : classTest? cs = none) :
    test? cs = (outsideTest? cs <|> boundTest? cs <|> matchTest? cs) := by
  simp [test?, noNull, classTests?_of_none noClass]

theorem test?_outside (m : Measure) (least most : Int) :
    test? ((Condition.outside m least most).text.toList ++ [':']) =
      some (.outside m least most, [':']) := by
  have text : (Condition.outside m least most).text =
      "not " ++ least.repr ++ " <= " ++ m.text ++ " <= " ++ most.repr := rfl
  have list : (Condition.outside m least most).text.toList ++ [':'] =
      'n' :: 'o' :: 't' :: ' ' :: (least.repr.toList ++ ' ' :: '<' :: '=' :: ' ' ::
        (m.text.toList ++ ' ' :: '<' :: '=' :: ' ' :: (most.repr.toList ++ [':']))) := by
    rw [text]
    simp
  have stop : ∀ cs, NoDigit (' ' :: cs) := fun cs => noDigit_cons (by decide)
  have read := fun cs => @integer?_repr (' ' :: cs) least (stop cs)
  have measured := fun cs => measure?_text m ('<' :: cs)
  have bound := @integer?_repr [':'] most (noDigit_cons (by decide))
  have noWord := fun cs =>
    @after_integer cs 'i' "sinstance(value, ".toList (by decide) (by decide) least
  simp only [String.reduceToList] at noWord
  rw [list, test?_of_noClass (by simp [nullTest?, after]) (by simp [classTest?, after, noWord])]
  simp [outsideTest?, after, read, measured, bound]

/-- A measure before a comparison starts no other test. -/
theorem test?_compared (m : Measure) {sign : Char} (comparison : sign ≠ 'i') (cs : List Char) :
    test? (m.text.toList ++ ' ' :: sign :: cs) =
      (boundTest? (m.text.toList ++ ' ' :: sign :: cs) <|>
        matchTest? (m.text.toList ++ ' ' :: sign :: cs)) := by
  have noNull : nullTest? (m.text.toList ++ ' ' :: sign :: cs) = none := by
    cases m <;> simp [nullTest?, Measure.text, after, comparison.symm]
  have noClass : classTest? (m.text.toList ++ ' ' :: sign :: cs) = none := by
    cases m <;> simp [classTest?, Measure.text, after]
  have noRange : outsideTest? (m.text.toList ++ ' ' :: sign :: cs) = none := by
    cases m <;> simp [outsideTest?, Measure.text, after]
  rw [test?_of_noClass noNull noClass, noRange]
  rfl

theorem test?_below (m : Measure) (least : Int) :
    test? ((Condition.below m least).text.toList ++ [':']) = some (.below m least, [':']) := by
  have text : (Condition.below m least).text = m.text ++ " < " ++ least.repr := rfl
  have list : (Condition.below m least).text.toList ++ [':'] =
      m.text.toList ++ ' ' :: '<' :: ' ' :: (least.repr.toList ++ [':']) := by
    rw [text]
    simp
  have bound := @integer?_repr [':'] least (noDigit_cons (by decide))
  rw [list, test?_compared m (by decide)]
  simp [boundTest?, measure?_text, after, bound]

theorem test?_above (m : Measure) (most : Int) :
    test? ((Condition.above m (some most)).text.toList ++ [':']) =
      some (.above m most, [':']) := by
  have text : (Condition.above m (some most)).text = m.text ++ " > " ++ most.repr := rfl
  have list : (Condition.above m (some most)).text.toList ++ [':'] =
      m.text.toList ++ ' ' :: '>' :: ' ' :: (most.repr.toList ++ [':']) := by
    rw [text]
    simp
  have bound := @integer?_repr [':'] most (noDigit_cons (by decide))
  rw [list, test?_compared m (by decide)]
  simp [boundTest?, measure?_text, after, bound]

theorem test?_noMatch (i : Nat) :
    test? ((Condition.noMatch i).text.toList ++ [':']) =
      some (.noMatch (patternName i), [':']) := by
  have text : (Condition.noMatch i).text = patternName i ++ ".fullmatch(value) is None" := rfl
  have list : (Condition.noMatch i).text.toList ++ [':'] =
      (patternName i).toList ++ (".fullmatch(value) is None".toList ++ [':']) := by
    rw [text, String.toList_append, List.append_assoc]
  have name := @name?_append (patternName i) (".fullmatch(value) is None".toList ++ [':'])
    (patternName_isNewName i) ⟨'.', "fullmatch(value) is None:".toList, by decide, by decide⟩
  have start : (patternName i).toList = '_' :: ("PATTERN_".toList ++ Nat.toDigits 10 i) :=
    patternName_toList i
  rw [list]
  have other : ∀ cs, test? ((patternName i).toList ++ cs) =
      matchTest? ((patternName i).toList ++ cs) := by
    intro cs
    rw [start, List.cons_append, test?_of_noClass (by simp [nullTest?, after])
      (by simp [classTest?, after])]
    simp [outsideTest?, boundTest?, measure?, after]
  rw [other, matchTest?, name]
  simp [after]

theorem test?_wrongType {t : BaseType} (known : t ≠ .unsupported) :
    test? ((Condition.wrongType t).text.toList ++ [':']) =
      some (.ofCondition (.wrongType t), [':']) := by
  cases t with
  | string | integer | array => decide +kernel
  | unsupported => exact absurd rfl known

/-- A condition reads back. -/
theorem test?_text {c : Condition} (complete : c.IsComplete) :
    test? (c.text.toList ++ [':']) = some (.ofCondition c, [':']) := by
  cases c with
  | wrongType t => exact test?_wrongType complete
  | outside m least most => exact test?_outside m least most
  | below m least => exact test?_below m least
  | above m most =>
    obtain ⟨most, rfl⟩ := Option.isSome_iff_exists.mp complete
    exact test?_above m most
  | noMatch i => exact test?_noMatch i

/-! ### Statements -/

theorem head?_read (field : String) :
    head? s!"value = _read(instance, {Text.quoted field})".toList = some (.read field) := by
  have text : s!"value = _read(instance, {Text.quoted field})" =
      "value = _read(instance, " ++ Text.quoted field ++ ")" := rfl
  have literal := text?_quoted field [')']
  rw [text]
  simp [head?, isRemark, tripleQuote, readHead?, after, literal]

theorem head?_raise (field : String) (v : Violation) :
    head? (raiseText field v).toList = some (.raise field v.message) := by
  have text : raiseText field v = "raise ValidationError(" ++ Text.quoted field ++ ", " ++
      Text.quoted v.message ++ ")" := rfl
  have first := fun cs => text?_quoted field (',' :: ' ' :: cs)
  have second := text?_quoted v.message [')']
  rw [text]
  simp [head?, isRemark, tripleQuote, readHead?, raiseHead?, after, first, second]

theorem head?_branch {c : Condition} (complete : c.IsComplete) :
    head? s!"if {c.text}:".toList = some (.branch (.ofCondition c)) := by
  have text : s!"if {c.text}:" = "if " ++ c.text ++ ":" := rfl
  have condition := test?_text complete
  rw [text]
  simp [head?, isRemark, tripleQuote, readHead?, raiseHead?, branchHead?, after, condition]

def guardsForest (field : String) (guards : List Guard) (rest : Forest) : Forest :=
  guards.foldr (fun g rest => .cons s!"if {g.condition.text}:".toList
    (.cons (raiseText field g.violation).toList .nil .nil) rest) rest

def guardsBlock (field : String) (guards : List Guard) (rest : Block) : Block :=
  guards.foldr (fun g rest => .branch (.ofCondition g.condition)
    (.raise field g.violation.message .done) rest) rest

theorem block?_branch {line : List Char} {inner rest : Forest} {t : Test} {b r : Block}
    (head : head? line = some (.branch t)) (hb : block? inner = some b) (nonempty : b ≠ .done)
    (hr : block? rest = some r) : block? (.cons line inner rest) = some (.branch t b r) := by
  rw [block?, head, hb, hr]
  simp [nonempty]

theorem block?_raise (field : String) (v : Violation) :
    block? (.cons (raiseText field v).toList .nil .nil) =
      some (.raise field v.message .done) := by
  simp [block?, head?_raise]

theorem block?_guards {field : String} {guards : List Guard} {rest : Forest} {b : Block}
    (complete : ∀ g ∈ guards, g.condition.IsComplete) (hr : block? rest = some b) :
    block? (guardsForest field guards rest) = some (guardsBlock field guards b) := by
  induction guards with
  | nil => exact hr
  | cons g guards ih =>
    have more := ih fun g hg => complete g (List.mem_cons_of_mem _ hg)
    have head := head?_branch (complete g List.mem_cons_self)
    exact block?_branch head (block?_raise field g.violation) (by simp) more

def fieldForest (b : FieldBlock) (rest : Forest) : Forest :=
  .cons s!"value = _read(instance, {Text.quoted b.field})".toList .nil
    (if b.nullable then
      .cons "if value is not None:".toList (guardsForest b.field b.guards .nil) rest
    else
      .cons "if value is None:".toList (.cons (raiseText b.field .null).toList .nil .nil)
        (guardsForest b.field b.guards rest))

def fieldBlock (b : FieldBlock) (rest : Block) : Block :=
  .read b.field
    (if b.nullable then .branch .isNotNull (guardsBlock b.field b.guards .done) rest
    else
      .branch .isNull (.raise b.field Violation.null.message .done)
        (guardsBlock b.field b.guards rest))

structure IsComplete (b : FieldBlock) : Prop where
  guards : ∀ g ∈ b.guards, g.condition.IsComplete
  nonempty : b.guards ≠ []

theorem block?_field {b : FieldBlock} {rest : Forest} {r : Block} (complete : IsComplete b)
    (hr : block? rest = some r) : block? (fieldForest b rest) = some (fieldBlock b r) := by
  have absent : head? "if value is None:".toList = some (.branch .isNull) := by decide +kernel
  have present : head? "if value is not None:".toList = some (.branch .isNotNull) := by
    decide +kernel
  have body : block? (if b.nullable then
        .cons "if value is not None:".toList (guardsForest b.field b.guards .nil) rest
      else
        .cons "if value is None:".toList (.cons (raiseText b.field .null).toList .nil .nil)
          (guardsForest b.field b.guards rest)) =
      some (if b.nullable then .branch .isNotNull (guardsBlock b.field b.guards .done) r
        else .branch .isNull (.raise b.field Violation.null.message .done)
          (guardsBlock b.field b.guards r)) := by
    split
    · refine block?_branch present (block?_guards complete.guards rfl) ?_ hr
      obtain ⟨g, gs, hg⟩ := List.exists_cons_of_ne_nil complete.nonempty
      simp [hg, guardsBlock]
    · exact block?_branch absent (block?_raise b.field .null) (by simp)
        (block?_guards complete.guards hr)
  unfold fieldForest fieldBlock
  rw [block?, head?_read, body]
  simp [block?]

/-! ### Bodies -/

def remarkText (schema : String) : String :=
  s!"\"\"\"Validate a {docText schema} instance and return it unchanged.\"\"\""

theorem isRemark_of_staysLong {body : List Char}
    (closes : staysLong (.long '"' 0) body = some .code) :
    isRemark (tripleQuote ++ body) = true := by
  simp [isRemark, closes]

theorem isRemark_remarkText (schema : String) : isRemark (remarkText schema).toList = true := by
  have text : remarkText schema = "\"\"\"Validate a " ++ docText schema ++
      " instance and return it unchanged.\"\"\"" := rfl
  have list : (remarkText schema).toList = tripleQuote ++ ("Validate a ".toList ++
      ((docText schema).toList ++
        (" instance and return it unchanged.".toList ++ tripleQuote))) := by
    rw [text]
    simp [tripleQuote]
  rw [list]
  refine isRemark_of_staysLong ?_
  rw [staysLong_ordinary (by decide), staysLong_docText, staysLong_ordinary (by decide)]
  exact staysLong_tripleQuote

theorem isRemark_docLine (doc : String) : isRemark (ValidatorModule.docLine doc).toList = true := by
  have text : ValidatorModule.docLine doc = "\"\"\"" ++ docText doc ++ "\"\"\"" := rfl
  have list : (ValidatorModule.docLine doc).toList =
      tripleQuote ++ ((docText doc).toList ++ tripleQuote) := by
    rw [text]
    simp [tripleQuote]
  rw [list]
  refine isRemark_of_staysLong ?_
  rw [staysLong_docText]
  exact staysLong_tripleQuote

def bodyForest (f : ValidatorFunction) : Forest :=
  .cons (remarkText f.schema).toList .nil
    (f.blocks.foldr fieldForest (.cons "return instance".toList .nil .nil))

def bodyBlock (f : ValidatorFunction) : Block :=
  .remark (f.blocks.foldr fieldBlock (.returnSubject .done))

theorem block?_fields {blocks : List FieldBlock} {rest : Forest} {r : Block}
    (complete : ∀ b ∈ blocks, IsComplete b) (hr : block? rest = some r) :
    block? (blocks.foldr fieldForest rest) = some (blocks.foldr fieldBlock r) := by
  induction blocks with
  | nil => exact hr
  | cons b blocks ih =>
    exact block?_field (complete b List.mem_cons_self)
      (ih fun b hb => complete b (List.mem_cons_of_mem _ hb))

/-- The body of a function reads back. -/
theorem block?_body {f : ValidatorFunction} (complete : ∀ b ∈ f.blocks, IsComplete b) :
    block? (bodyForest f) = some (bodyBlock f) := by
  have last : block? (.cons "return instance".toList .nil .nil) = some (.returnSubject .done) := by
    decide +kernel
  have head : head? (remarkText f.schema).toList = some .remark := by
    simp [head?, isRemark_remarkText]
  unfold bodyForest bodyBlock
  rw [block?, head, block?_fields complete last]
  simp [block?]

end Source

end SchemaChecks
