import SchemaChecks.Proofs.FunctionName
import SchemaChecks.Text.Identifier

/-!
The rule by which functions are named. The letters and digits of a schema's name stand in the name
of its function in order and in lower case, and an underscore stands where one word ends and the
next begins; a name of this form stays as it is.
-/

namespace SchemaChecks.FunctionName

/-! ### The rule -/

/-- Whether a letter or digit is the last of its word: something else follows it, or a capital after
a small letter or a digit, or a capital after a capital that a small letter follows. -/
def endsWord (a : Char) : List Char → Bool
  | [] => false
  | b :: rest =>
    !isWord b || ((isLower a || isDigit a) && isUpper b) ||
      (isUpper a && isUpper b && rest.head?.any isLower)

/-- The letters and digits of a name, with an underscore behind each that is the last of its word if
another one follows it. -/
def joined : List Char → List Char
  | [] => []
  | c :: rest =>
    if isWord c then
      c :: (if rest.any isWord && endsWord c rest then '_' :: joined rest else joined rest)
    else joined rest

def spelled (schema : String) : String :=
  if schema.toList.any isWord then String.ofList ((joined schema.toList).map Char.toLower)
  else "schema"

/-- Words of small letters and digits with one underscore between each two. -/
inductive IsSnake : List Char → Prop
  | last {c : Char} (h : isLower c || isDigit c) : IsSnake [c]
  | letter {c : Char} {rest : List Char} (h : isLower c || isDigit c) (hr : IsSnake rest) :
    IsSnake (c :: rest)
  | word {c : Char} {rest : List Char} (h : isLower c || isDigit c) (hr : IsSnake rest) :
    IsSnake (c :: '_' :: rest)

/-! ### Kinds of characters -/

theorem not_isWord_underscore : isWord '_' = false := by decide

theorem isWord_ne_underscore {c : Char} (h : isWord c = true) : c ≠ '_' := by
  rintro rfl
  rw [not_isWord_underscore] at h
  cases h

theorem isWord_of_isUpper {c : Char} (h : isUpper c = true) : isWord c = true := by
  simp [isWord, h]

theorem isWord_of_small {c : Char} (h : isLower c || isDigit c) : isWord c = true := by
  rcases (Bool.or_eq_true _ _).mp h with h | h
  · simp [isWord, h]
  · simp [isWord, h]

/-- No capital is a small letter or a digit, and both stay as they are in lower case. -/
theorem small_unchanged {c : Char} (h : isLower c || isDigit c) :
    isUpper c = false ∧ c.toLower = c := by
  have table : ∀ n < 128, (isLower (Char.ofNat n) || isDigit (Char.ofNat n)) = true →
      isUpper (Char.ofNat n) = false ∧ (Char.ofNat n).toLower = Char.ofNat n := by
    decide
  have row := table c.toNat (isWord_small (isWord_of_small h))
  rw [Char.ofNat_toNat] at row
  exact row h

/-- Words are marked apart only between letters and digits. -/
theorem isWord_of_isBoundary {a b : Char} {next : Option Char} (h : isBoundary a b next = true) :
    isWord a = true ∧ isWord b = true := by
  simp only [isBoundary, Bool.or_eq_true, Bool.and_eq_true] at h
  rcases h with ⟨small, upper⟩ | ⟨⟨first, upper⟩, -⟩
  · constructor
    · exact isWord_of_small ((Bool.or_eq_true _ _).mpr small)
    · exact isWord_of_isUpper upper
  · exact ⟨isWord_of_isUpper first, isWord_of_isUpper upper⟩

/-! ### What marking and squeezing give -/

def underscored : List Char → List Char
  | '_' :: more => '_' :: more
  | more => '_' :: more

theorem underscored_of_word {c : Char} {cs : List Char} (h : isWord c = true) :
    underscored (c :: cs) = '_' :: c :: cs := by
  have other := isWord_ne_underscore h
  unfold underscored
  split
  · rename_i same
    exact absurd (List.cons.inj same).1 other
  · rfl

theorem squeeze_word {c : Char} (h : isWord c = true) (cs : List Char) :
    squeeze (c :: cs) = c :: squeeze cs := by
  rw [squeeze, if_pos h]

theorem squeeze_other {c : Char} (h : isWord c = false) (cs : List Char) :
    squeeze (c :: cs) = underscored (squeeze cs) := by
  rw [squeeze, if_neg (by simp [h])]
  rfl

/-- Nothing is marked before a character that starts no word, or behind one that ends none. -/
theorem mark_apart {c : Char} {rest : List Char}
    (apart : ∀ b ∈ rest.head?, isWord c = true → isWord b = false) :
    mark (c :: rest) = c :: mark rest := by
  cases rest with
  | nil => rfl
  | cons b more =>
    have inside : ¬ isBoundary c b more.head? = true := by
      intro boundary
      obtain ⟨first, next⟩ := isWord_of_isBoundary boundary
      have other := apart b rfl first
      rw [next] at other
      cases other
    rw [mark, if_neg inside]

theorem mark_other {c : Char} (h : isWord c = false) (rest : List Char) :
    mark (c :: rest) = c :: mark rest := by
  apply mark_apart
  intro b _ word
  rw [h] at word
  cases word

theorem mark_last {c : Char} {rest : List Char} (h : rest.any isWord = false) :
    mark (c :: rest) = c :: mark rest := by
  apply mark_apart
  intro b hb _
  have member : b ∈ rest := List.mem_of_mem_head? hb
  exact Bool.eq_false_iff.mpr (List.any_eq_false.mp h b member)

/-- A name without letters and digits. -/
theorem squeeze_of_no_word {cs : List Char} (h : cs.any isWord = false) :
    squeeze (mark cs) = [] ∨ squeeze (mark cs) = ['_'] := by
  induction cs with
  | nil => exact .inl rfl
  | cons c rest ih =>
    rw [List.any_cons, Bool.or_eq_false_iff] at h
    rw [mark_other h.1, squeeze_other h.1]
    right
    rcases ih h.2 with none | one
    · rw [none]
      rfl
    · rw [one]
      rfl

/-- What stands before the first word: an underscore if the name does not start with it. -/
def lead : List Char → List Char
  | [] => []
  | c :: _ => if isWord c then [] else ['_']

theorem joined_word {c : Char} (h : isWord c = true) (rest : List Char) :
    joined (c :: rest) =
      c :: (if rest.any isWord && endsWord c rest then '_' :: joined rest else joined rest) := by
  rw [joined, if_pos h]

theorem joined_other {c : Char} (h : isWord c = false) (rest : List Char) :
    joined (c :: rest) = joined rest := by
  rw [joined, if_neg (by simp [h])]

theorem joined_of_no_word {cs : List Char} (h : cs.any isWord = false) : joined cs = [] := by
  induction cs with
  | nil => rfl
  | cons c rest ih =>
    rw [List.any_cons, Bool.or_eq_false_iff] at h
    rw [joined_other h.1, ih h.2]

/-- The joined words start with a letter or digit. -/
theorem joined_starts {cs : List Char} (h : cs.any isWord = true) :
    ∃ c more, joined cs = c :: more ∧ isWord c = true := by
  induction cs with
  | nil => cases h
  | cons c rest ih =>
    by_cases word : isWord c = true
    · exact ⟨c, _, joined_word word rest, word⟩
    · have other : isWord c = false := by simpa using word
      rw [joined_other other]
      apply ih
      simpa [other] using h

/-- A letter and what follows it, marked and squeezed, if another word follows. -/
theorem squeeze_letter {c : Char} {rest tail : List Char} (word : isWord c = true)
    (more : rest.any isWord = true)
    (following : squeeze (mark rest) = lead rest ++ (joined rest ++ tail)) :
    squeeze (mark (c :: rest)) = joined (c :: rest) ++ tail := by
  cases rest with
  | nil => cases more
  | cons b others =>
    rw [joined_word word, more, Bool.true_and]
    -- the next word starts right here, or behind something else that becomes an underscore
    by_cases next : isWord b = true
    · have starts : lead (b :: others) = [] := by simp [lead, next]
      have ends : endsWord c (b :: others) = isBoundary c b others.head? := by
        simp [endsWord, isBoundary, next]
      rw [starts, List.nil_append] at following
      by_cases boundary : isBoundary c b others.head? = true
      · rw [mark, if_pos boundary, squeeze_word word, squeeze_other not_isWord_underscore,
          following, ends, boundary, if_pos rfl, joined_word next]
        exact congrArg (c :: ·) (underscored_of_word next)
      · rw [mark, if_neg boundary, squeeze_word word, following, ends, if_neg boundary]
        rfl
    · have other : isWord b = false := by simpa using next
      have apart : mark (c :: b :: others) = c :: mark (b :: others) := by
        apply mark_apart
        intro d same _
        cases same
        exact other
      have ends : endsWord c (b :: others) = true := by simp [endsWord, other]
      have starts : lead (b :: others) = ['_'] := by simp [lead, other]
      rw [apart, squeeze_word word, following, starts, ends, if_pos rfl]
      rfl

/-- Marked and squeezed, a name is its joined words with at most one underscore at each end. -/
theorem squeeze_mark {cs : List Char} (h : cs.any isWord = true) :
    ∃ tail, (tail = [] ∨ tail = ['_']) ∧
      squeeze (mark cs) = lead cs ++ (joined cs ++ tail) := by
  induction cs with
  | nil => cases h
  | cons c rest ih =>
    by_cases word : isWord c = true
    · have starts : lead (c :: rest) = [] := by simp [lead, word]
      rw [starts]
      by_cases more : rest.any isWord = true
      · obtain ⟨tail, shape, following⟩ := ih more
        exact ⟨tail, shape, squeeze_letter word more following⟩
      · have none : rest.any isWord = false := by simpa using more
        refine ⟨squeeze (mark rest), squeeze_of_no_word none, ?_⟩
        rw [mark_last none, squeeze_word word, joined_word word, none, joined_of_no_word none]
        rfl
    · have other : isWord c = false := by simpa using word
      have more : rest.any isWord = true := by simpa [other] using h
      obtain ⟨tail, shape, following⟩ := ih more
      refine ⟨tail, shape, ?_⟩
      have starts : lead (c :: rest) = ['_'] := by simp [lead, other]
      rw [mark_other other, squeeze_other other, following, joined_other other, starts]
      obtain ⟨b, behind, first, next⟩ := joined_starts more
      cases rest with
      | nil => cases more
      | cons d others =>
        by_cases begins : isWord d = true
        · simp [lead, begins, first, underscored_of_word next]
        · simp [lead, begins, underscored]

/-! ### Taking the ends off -/

theorem joined_ends {cs : List Char} (h : cs.any isWord = true) :
    ∃ before c, joined cs = before ++ [c] ∧ isWord c = true := by
  induction cs with
  | nil => cases h
  | cons c rest ih =>
    by_cases word : isWord c = true
    · by_cases more : rest.any isWord = true
      · obtain ⟨before, d, last, ends⟩ := ih more
        rw [joined_word word, last]
        split
        · exact ⟨c :: '_' :: before, d, rfl, ends⟩
        · exact ⟨c :: before, d, rfl, ends⟩
      · have none : rest.any isWord = false := by simpa using more
        refine ⟨[], c, ?_, word⟩
        rw [joined_word word, none, joined_of_no_word none]
        rfl
    · have other : isWord c = false := by simpa using word
      rw [joined_other other]
      apply ih
      simpa [other] using h

theorem dropUnderscore_word {c : Char} (h : isWord c = true) (cs : List Char) :
    dropUnderscore (c :: cs) = c :: cs := by
  have other := isWord_ne_underscore h
  unfold dropUnderscore
  split
  · rename_i same
    exact absurd (List.cons.inj same).1 other
  · rfl

/-- The words of a name, joined and in lower case. -/
theorem snake_eq_joined {cs : List Char} (h : cs.any isWord = true) :
    snake cs = (joined cs).map Char.toLower := by
  obtain ⟨tail, shape, squeezed⟩ := squeeze_mark h
  obtain ⟨c, more, first, starts⟩ := joined_starts h
  obtain ⟨before, d, last, ends⟩ := joined_ends h
  have front : dropUnderscore (squeeze (mark cs)) = joined cs ++ tail := by
    rw [squeezed]
    cases cs with
    | nil => cases h
    | cons b rest =>
      by_cases begins : isWord b = true
      · simp [lead, begins, first, dropUnderscore_word starts]
      · simp [lead, begins, dropUnderscore]
  have back : dropUnderscore (joined cs ++ tail).reverse = (joined cs).reverse := by
    rw [last]
    rcases shape with rfl | rfl
    · simp [dropUnderscore_word ends]
    · simp [dropUnderscore]
  simp only [snake, front, back, List.reverse_reverse]

theorem snake_of_no_word {cs : List Char} (h : cs.any isWord = false) : snake cs = [] := by
  unfold snake
  rcases squeeze_of_no_word h with none | one
  · rw [none]
    rfl
  · rw [one]
    rfl

theorem ofSchema_eq_spelled (schema : String) :
    ofSchema schema = "validate_" ++ spelled schema := by
  unfold ofSchema spelled
  by_cases h : schema.toList.any isWord = true
  · obtain ⟨c, more, first, -⟩ := joined_starts h
    rw [snake_eq_joined h, if_pos h, first]
    rfl
  · rw [snake_of_no_word (by simpa using h), if_neg h]
    rfl

/-! ### Names of the form stay as they are -/

theorem IsSnake.starts {cs : List Char} (h : IsSnake cs) :
    ∃ c rest, cs = c :: rest ∧ (isLower c || isDigit c) := by
  cases h with
  | last h => exact ⟨_, _, rfl, h⟩
  | letter h _ => exact ⟨_, _, rfl, h⟩
  | word h _ => exact ⟨_, _, rfl, h⟩

theorem IsSnake.has_word {cs : List Char} (h : IsSnake cs) : cs.any isWord = true := by
  obtain ⟨c, rest, rfl, first⟩ := h.starts
  simp [isWord_of_small first]

theorem IsSnake.lower_joined {cs : List Char} (h : IsSnake cs) :
    (joined cs).map Char.toLower = cs := by
  induction h with
  | @last c h => simp [joined, isWord_of_small h, (small_unchanged h).2]
  | @letter c rest h hr ih =>
    obtain ⟨b, more, rfl, next⟩ := hr.starts
    have inside : endsWord c (b :: more) = false := by
      simp [endsWord, isWord_of_small next, (small_unchanged next).1]
    rw [joined_word (isWord_of_small h), inside, Bool.and_false, if_neg (by simp), List.map_cons,
      ih, (small_unchanged h).2]
  | @word c rest h hr ih =>
    have ends : endsWord c ('_' :: rest) = true := by simp [endsWord, not_isWord_underscore]
    have more : ('_' :: rest).any isWord = true := by simp [hr.has_word]
    rw [joined_word (isWord_of_small h), ends, more, joined_other not_isWord_underscore]
    simp only [Bool.and_self, if_true, List.map_cons, ih, (small_unchanged h).2]
    rfl

theorem lower_joined_isSnake {cs : List Char} (h : cs.any isWord = true) :
    IsSnake ((joined cs).map Char.toLower) := by
  induction cs with
  | nil => cases h
  | cons c rest ih =>
    by_cases word : isWord c = true
    · have small : isLower c.toLower || isDigit c.toLower :=
        (Bool.or_eq_true _ _).mpr (toLower_of_isWord word)
      rw [joined_word word, List.map_cons]
      by_cases more : rest.any isWord = true
      · split
        · exact .word small (ih more)
        · exact .letter small (ih more)
      · have none : rest.any isWord = false := by simpa using more
        rw [none, joined_of_no_word none]
        exact .last small
    · have other : isWord c = false := by simpa using word
      rw [joined_other other]
      apply ih
      simpa [other] using h

theorem isSnake_of_small {c : Char} {rest : List Char} (h : isLower c || isDigit c)
    (hr : ∀ d ∈ rest, isLower d || isDigit d) : IsSnake (c :: rest) := by
  induction rest generalizing c with
  | nil => exact .last h
  | cons d more ih =>
    apply IsSnake.letter h
    exact ih (hr d List.mem_cons_self) fun e he => hr e (List.mem_cons_of_mem _ he)

theorem spelled_isSnake (schema : String) : IsSnake (spelled schema).toList := by
  unfold spelled
  by_cases h : schema.toList.any isWord = true
  · rw [if_pos h, String.toList_ofList]
    exact lower_joined_isSnake h
  · rw [if_neg h]
    have letters : "schema".toList = 's' :: "chema".toList := by decide
    rw [letters]
    have small : "chema".toList.all (fun d => isLower d || isDigit d) = true := by decide
    exact isSnake_of_small (by decide) (List.all_eq_true.mp small)

theorem IsSnake.spelled_eq {s : String} (h : IsSnake s.toList) : spelled s = s := by
  unfold spelled
  rw [if_pos h.has_word, h.lower_joined, String.ofList_toList]

/-! ### Identifiers -/

theorem isIdentifierPart_small {c : Char} (h : isLower c || isDigit c) :
    Text.isIdentifierPart c = true := by
  have table : ∀ n < 128, (isLower (Char.ofNat n) || isDigit (Char.ofNat n)) = true →
      Text.isIdentifierPart (Char.ofNat n) = true := by
    decide +kernel
  have row := table c.toNat (isWord_small (isWord_of_small h))
  rw [Char.ofNat_toNat] at row
  exact row h

theorem IsSnake.parts {cs : List Char} (h : IsSnake cs) : cs.all Text.isIdentifierPart = true := by
  have underscore : Text.isIdentifierPart '_' = true := by decide +kernel
  induction h with
  | last h => simp [isIdentifierPart_small h]
  | letter h _ ih => simp [isIdentifierPart_small h, ih]
  | word h _ ih => simp [isIdentifierPart_small h, underscore, ih]

theorem isIdentifier_named {cs : List Char} (h : IsSnake cs) :
    Text.isIdentifier ("validate_".toList ++ cs) = true := by
  have first : Text.isIdentifier "validate_".toList = true := by decide +kernel
  have letters : "validate_".toList = 'v' :: "alidate_".toList := by decide
  rw [letters] at first ⊢
  simp only [List.cons_append, Text.isIdentifier, List.all_append, Bool.and_eq_true] at first ⊢
  exact ⟨first.1, first.2, h.parts⟩

/-- Functions are named by one rule. Behind the first word stand the letters and digits of the
schema's name in lower case, with an underscore wherever a word ends and another one follows, or
`schema` if it has none; so a name is an identifier, made of words of small letters and digits, and
the part behind its first word has the same name again. -/
theorem ofSchema_snake_case (schema : String) :
    ofSchema schema = "validate_" ++ spelled schema ∧ IsSnake (spelled schema).toList ∧
      Text.isIdentifier (ofSchema schema).toList = true ∧
      ofSchema (spelled schema) = ofSchema schema := by
  have named := ofSchema_eq_spelled schema
  have snake := spelled_isSnake schema
  refine ⟨named, snake, ?_, ?_⟩
  · rw [named, String.toList_append]
    exact isIdentifier_named snake
  · rw [ofSchema_eq_spelled (spelled schema), snake.spelled_eq, named]

example : ofSchema "HTTPServer2Config--éV3_x" = "validate_http_server2_config_v3_x" := by decide

end SchemaChecks.FunctionName
