import SchemaChecks.Proofs.Portable.Page
import SchemaChecks.Yaml.Lexeme

/-!
The spelling of single tokens as YAML reads it: gaps are skipped, strings stand for their
characters, and words are plain scalars.
-/

namespace SchemaChecks.Portable

open Yaml

/-! ### Places in a text -/

structure Along (c d : Cursor) (cs : List Char) : Prop where
  rest : c.rest = cs ++ d.rest
  index : d.index = c.index + cs.length
  line : d.line = c.line

variable {c d e : Cursor} {cs rest : List Char}

theorem Along.refl (c : Cursor) : Along c c [] := ⟨rfl, rfl, rfl⟩

theorem Along.trans {ds : List Char} (h : Along c d cs) (k : Along d e ds) :
    Along c e (cs ++ ds) where
  rest := by rw [h.rest, k.rest, List.append_assoc]
  index := by rw [k.index, h.index, List.length_append, Nat.add_assoc]
  line := k.line.trans h.line

theorem along_step {x : Char} (h : c.rest = x :: rest) (noBreak : isBreak x = false) :
    c.step.rest = rest ∧ Along c c.step [x] := by
  have stepped : c.step = if x = '\ufeff' then { c with rest := rest, index := c.index + 1 }
      else { c with rest := rest, index := c.index + 1, column := c.column + 1 } := by
    unfold Cursor.step
    rw [h]
    simp [noBreak]
  by_cases mark : x = '\ufeff'
  · rw [stepped, if_pos mark]
    exact ⟨rfl, h, rfl, rfl⟩
  · rw [stepped, if_neg mark]
    exact ⟨rfl, h, rfl, rfl⟩

theorem along_steps (h : c.rest = cs ++ rest) (noBreak : ∀ x ∈ cs, isBreak x = false) :
    (Cursor.steps cs.length c).rest = rest ∧ Along c (Cursor.steps cs.length c) cs := by
  induction cs generalizing c with
  | nil => exact ⟨h, .refl c⟩
  | cons x more ih =>
    have starts : c.rest = x :: (more ++ rest) := h
    obtain ⟨stepped, first⟩ := along_step starts (noBreak x List.mem_cons_self)
    obtain ⟨past, others⟩ := ih stepped fun y hy => noBreak y (List.mem_cons_of_mem _ hy)
    exact ⟨past, first.trans others⟩

theorem peek_of_rest {x : Char} (h : c.rest = x :: rest) : c.peek = x := by
  rw [Cursor.peek, h, List.headD_cons]

theorem step_line (h : c.rest = '\n' :: rest) : c.step.rest = rest := by
  unfold Cursor.step
  rw [h]
  rfl

theorem lineBreak_line (h : c.rest = '\n' :: rest) : c.lineBreak? = some ('\n', c.step) := by
  unfold Cursor.lineBreak?
  rw [h]
  rfl

theorem lineBreak_none {x : Char} (h : c.rest = x :: rest) (noBreak : isBreak x = false) :
    c.lineBreak? = none := by
  have noReturn : x ≠ '\r' := by rintro rfl; cases noBreak
  have noLine : x ≠ '\n' := by rintro rfl; cases noBreak
  have noNext : x.toNat ≠ 0x85 := by
    intro same
    simp [isBreak, same] at noBreak
  unfold Cursor.lineBreak?
  split
  · rename_i same
    rw [h] at same
    exact absurd (List.cons.inj same).1 noReturn
  · rename_i y more _ same
    rw [h] at same
    obtain rfl := (List.cons.inj same).1
    simp [noReturn, noLine, noNext, noBreak]
  · rfl

/-! ### Strings -/

theorem isPlain_not_gap {x : Char} (h : IsPlain x) (noSpace : x ≠ ' ') :
    isSpaceOrTab x = false := by
  have noTab : x ≠ '\t' := by
    rintro rfl
    exact absurd h.2.2.1 (by decide)
  simp [isSpaceOrTab, noSpace, noTab]

theorem quotedText_plain {x : Char} (h : IsPlain x) (noSpace : x ≠ ' ') (at_ : c.rest = x :: rest)
    (fuel : Nat) (acc : List Char) :
    quotedText true (fuel + 1) acc c = quotedText true fuel (x :: acc) c.step := by
  have noGap := isPlain_not_gap h noSpace
  obtain ⟨noQuote, noEscape, -, -, noBreak⟩ := h
  rw [quotedText, at_]
  simp [noGap, noBreak, noQuote, noEscape]

theorem noBreak_spaces (n : Nat) : ∀ x ∈ List.replicate n ' ', isBreak x = false := by
  intro x hx
  rw [List.eq_of_mem_replicate hx]
  rfl

/-- A run of spaces inside a line is kept. -/
theorem quotedText_spaces {n : Nat} {x : Char}
    (at_ : c.rest = List.replicate (n + 1) ' ' ++ x :: rest)
    (noGap : isSpaceOrTab x = false) (noBreak : isBreak x = false) (fuel : Nat) (acc : List Char) :
    quotedText true (fuel + 1) acc c =
      quotedText true fuel (List.replicate (n + 1) ' ' ++ acc) (Cursor.steps (n + 1) c) := by
  have stepped : (Cursor.steps (n + 1) c).rest = x :: rest := by
    have past := (along_steps at_ (noBreak_spaces _)).1
    rwa [List.length_replicate] at past
  have taken : c.rest.takeWhile isSpaceOrTab = List.replicate (n + 1) ' ' := by
    have spaces : ∀ y ∈ List.replicate (n + 1) ' ', isSpaceOrTab y = true := by
      intro y hy
      rw [List.eq_of_mem_replicate hy]
      rfl
    rw [at_, List.takeWhile_append_of_pos spaces, List.takeWhile_cons, if_neg (by simp [noGap]),
      List.append_nil]
  have run : c.span isSpaceOrTab = (List.replicate (n + 1) ' ', Cursor.steps (n + 1) c) := by
    rw [Cursor.span, taken, List.length_replicate]
  have spaces : quotedSpaces acc c =
      .ok (List.replicate (n + 1) ' ' ++ acc, Cursor.steps (n + 1) c) := by
    rw [quotedSpaces, run]
    simp [stepped, lineBreak_none stepped noBreak]
  rw [quotedText, at_, List.replicate_succ, List.cons_append]
  simp only [isSpaceOrTab, decide_true, Bool.true_or, if_pos]
  rw [spaces]
  rfl

theorem escaped_of_json {letter x : Char} (h : Json.escaped? letter = some x) :
    Yaml.escaped? letter = some x ∧ isBreak letter = false := by
  unfold Json.escaped? at h
  split at h
  case h_9 => cases h
  all_goals
    cases h
    exact ⟨rfl, rfl⟩

def digitStep (base : Nat) (acc : Option Nat) (c : Char) : Option Nat := do
  let n ← acc
  let d ← Number.digitValue? c
  if d < base then some (n * base + d) else none

theorem foldl_digitStep_none (base : Nat) (digits : List Char) :
    digits.foldl (digitStep base) none = none := by
  induction digits with
  | nil => rfl
  | cons _ _ ih => exact ih

theorem digits_of_foldl {base a n : Nat} {digits : List Char}
    (h : digits.foldl (digitStep base) (some a) = some n) :
    (∀ c ∈ digits, (Number.digitValue? c).any (· < base)) ∧
      n < (a + 1) * base ^ digits.length := by
  induction digits generalizing a with
  | nil =>
    cases h
    simp
  | cons c more ih =>
    rw [List.foldl_cons] at h
    have first : ∃ d, Number.digitValue? c = some d ∧ d < base := by
      have goes : digitStep base (some a) c ≠ none := fun stops => by
        rw [stops, foldl_digitStep_none] at h
        cases h
      cases value : Number.digitValue? c with
      | none => exact absurd (by simp [digitStep, value]) goes
      | some d =>
        refine ⟨d, rfl, Nat.lt_of_not_le fun big => goes ?_⟩
        simp [digitStep, value, big]
    obtain ⟨d, value, digit⟩ := first
    have read : digitStep base (some a) c = some (a * base + d) := by
      simp [digitStep, value, digit]
    rw [read] at h
    obtain ⟨all, bound⟩ := ih h
    refine ⟨fun x hx => ?_, ?_⟩
    · rcases List.mem_cons.mp hx with rfl | hx
      · simp [value, digit]
      · exact all x hx
    · calc n < (a * base + d + 1) * base ^ more.length := bound
        _ ≤ ((a + 1) * base) * base ^ more.length :=
          Nat.mul_le_mul_right _ (by rw [Nat.add_mul]; omega)
        _ = (a + 1) * base ^ (c :: more).length := by
          rw [List.length_cons, Nat.pow_succ, Nat.mul_assoc, Nat.mul_comm base]

theorem hexDigits_of_unit {w x y z : Char} {code : Nat} (h : Json.codeUnit? w x y z = some code) :
    [w, x, y, z].all isHexDigit ∧ code < 0x10000 := by
  have folded : [w, x, y, z].foldl (digitStep 16) (some 0) = some code := h
  obtain ⟨all, bound⟩ := digits_of_foldl folded
  exact ⟨List.all_eq_true.mpr all, by simpa using bound⟩

theorem isHexDigit_ascii {x : Char} (h : isHexDigit x) : 0x20 < x.toNat ∧ x.toNat < 0x7f := by
  simp only [isHexDigit, Number.digitValue?] at h
  split at h
  · rename_i range
    simp only [Bool.and_eq_true, decide_eq_true_eq] at range
    omega
  · split at h
    · rename_i range
      simp only [Bool.and_eq_true, decide_eq_true_eq] at range
      omega
    · split at h
      · rename_i range
        simp only [Bool.and_eq_true, decide_eq_true_eq] at range
        omega
      · cases h

theorem isBreak_ascii {x : Char} (h : 0x20 < x.toNat ∧ x.toNat < 0x7f) : isBreak x = false := by
  have noLine : x ≠ '\n' := by rintro rfl; exact absurd h.1 (by decide)
  have noReturn : x ≠ '\r' := by rintro rfl; exact absurd h.1 (by decide)
  simp only [isBreak, Bool.or_eq_false_iff, decide_eq_false_iff_not]
  refine ⟨⟨⟨⟨noLine, noReturn⟩, ?_⟩, ?_⟩, ?_⟩ <;> omega

theorem isAllowed_ascii {x : Char} (h : 0x20 < x.toNat ∧ x.toNat < 0x7f) : isAllowed x = true := by
  have printable : (0x20 ≤ x.toNat ∧ x.toNat ≤ 0x7e) := by omega
  have code : Text.codeOf x = x.toNat := Text.codeOf_of_lt (by omega)
  simp [isAllowed, code, printable]

/-- The piece that is read first stands for its character. -/
theorem quotedText_piece (p : Piece) (noSpace : p.chars ≠ [' ']) (at_ : c.rest = p.chars ++ rest)
    (fuel : Nat) (acc : List Char) :
    ∃ d, quotedText true (fuel + 1) acc c = quotedText true fuel (p.value :: acc) d ∧
      d.rest = rest ∧ Along c d p.chars := by
  cases p with
  | char x plain =>
    obtain ⟨stepped, along⟩ := along_step at_ plain.2.2.2.2
    have noSpace : x ≠ ' ' := fun same => noSpace (congrArg (fun y => [y]) same)
    exact ⟨c.step, quotedText_plain plain noSpace at_ fuel acc, stepped, along⟩
  | escape letter x stands =>
    obtain ⟨reads, noBreak⟩ := escaped_of_json stands
    have starts : c.rest = '\\' :: letter :: rest := at_
    obtain ⟨stepped, first⟩ := along_step starts rfl
    obtain ⟨past, second⟩ := along_step stepped noBreak
    refine ⟨c.step.step, ?_, past, first.trans second⟩
    have escape : quotedEscape acc c.step = .ok (x :: acc, c.step.step) := by
      rw [quotedEscape, peek_of_rest stepped, reads]
    rw [quotedText, starts]
    simp [isSpaceOrTab, isBreak, escape]
    rfl
  | unit w x y z code stands single =>
    obtain ⟨hex, small⟩ := hexDigits_of_unit stands
    have starts : c.rest = '\\' :: ('u' :: [w, x, y, z] ++ rest) := at_
    obtain ⟨stepped, first⟩ := along_step starts rfl
    have next : c.step.rest = 'u' :: ([w, x, y, z] ++ rest) := stepped
    obtain ⟨after, second⟩ := along_step next rfl
    obtain ⟨past, digits⟩ := along_steps after fun x hx =>
      isBreak_ascii (isHexDigit_ascii (List.all_eq_true.mp hex x hx))
    refine ⟨Cursor.steps 4 c.step.step, ?_, past, (first.trans second).trans digits⟩
    have character : charOfCode code = .ok (Char.ofNat code) := by
      rw [charOfCode, if_neg (by omega), Text.charOfCode_of_single single]
    have taken : c.step.step.rest.take 4 = [w, x, y, z] := by rw [after]; rfl
    have read : Number.ofDigits? 16 [w, x, y, z] = some code := stands
    have escape : quotedEscape acc c.step =
        .ok (Char.ofNat code :: acc, Cursor.steps 4 c.step.step) := by
      have peek : c.step.peek = 'u' := peek_of_rest stepped
      have letter : Yaml.escaped? 'u' = none := rfl
      have width : escapeWidth? 'u' = some 4 := rfl
      rw [quotedEscape, peek, letter]
      simp only [width, taken, read, Option.getD_some, character]
      simp only [hex]
      rfl
    rw [quotedText, starts]
    simp [isSpaceOrTab, isBreak, escape]
    rfl

theorem Piece.starts (p : Piece) (noSpace : p.chars ≠ [' ']) :
    ∃ x more, p.chars = x :: more ∧ isSpaceOrTab x = false ∧ isBreak x = false := by
  cases p with
  | char x plain =>
    have noSpace : x ≠ ' ' := fun same => noSpace (congrArg (fun y => [y]) same)
    exact ⟨x, [], rfl, isPlain_not_gap plain noSpace, plain.2.2.2.2⟩
  | escape letter x stands => exact ⟨'\\', _, rfl, rfl, rfl⟩
  | unit w x y z code stands single => exact ⟨'\\', _, rfl, rfl, rfl⟩

theorem Piece.value_of_space {p : Piece} (h : p.chars = [' ']) : p.value = ' ' := by
  cases p with
  | char x plain => exact (List.cons.inj h).1
  | escape letter x stands => cases h
  | unit w x y z code stands single => cases h

/-- Spaces that wait are taken before what comes next. -/
theorem quotedText_flush {n k fuel : Nat} {x : Char}
    (at_ : c.rest = List.replicate n ' ' ++ x :: rest) (noGap : isSpaceOrTab x = false)
    (noBreak : isBreak x = false) (enough : n + k < fuel) (acc : List Char) :
    ∃ fuel' d, k < fuel' ∧
      quotedText true fuel acc c = quotedText true fuel' (List.replicate n ' ' ++ acc) d ∧
      d.rest = x :: rest ∧ Along c d (List.replicate n ' ') := by
  cases n with
  | zero => exact ⟨fuel, c, by omega, rfl, at_, .refl c⟩
  | succ n =>
    obtain ⟨fuel, rfl⟩ : ∃ m, fuel = m + 1 := ⟨fuel - 1, by omega⟩
    obtain ⟨past, along⟩ := along_steps at_ (noBreak_spaces _)
    rw [List.length_replicate] at past along
    exact ⟨fuel, _, by omega, quotedText_spaces at_ noGap noBreak fuel acc, past, along⟩

theorem quotedText_body (q : Quoted) {n fuel : Nat} (enough : n + q.length < fuel)
    (at_ : c.rest = List.replicate n ' ' ++ (q.body ++ '"' :: rest)) (acc : List Char) :
    ∃ d, quotedText true fuel acc c =
        .ok ((q.map Piece.value).reverse ++ (List.replicate n ' ' ++ acc), d) ∧
      d.rest = rest ∧ Along c d (List.replicate n ' ' ++ (q.body ++ ['"'])) := by
  induction q generalizing n fuel c acc with
  | nil =>
    obtain ⟨fuel', d, more, same, past, along⟩ := quotedText_flush at_ rfl rfl enough acc
    obtain ⟨fuel', rfl⟩ : ∃ m, fuel' = m + 1 := ⟨fuel' - 1, by omega⟩
    obtain ⟨stepped, close⟩ := along_step past rfl
    refine ⟨d.step, ?_, stepped, along.trans close⟩
    rw [same, quotedText, past]
    rfl
  | cons p more ih =>
    have body : Quoted.body (p :: more) = p.chars ++ Quoted.body more := rfl
    rw [List.length_cons] at enough
    by_cases space : p.chars = [' ']
    · -- One more space waits.
      have shift : ∀ l : List Char, List.replicate n ' ' ++ ' ' :: l =
          List.replicate (n + 1) ' ' ++ l := fun l => by
        rw [List.replicate_succ', List.append_assoc]
        rfl
      have waits : c.rest = List.replicate (n + 1) ' ' ++ (Quoted.body more ++ '"' :: rest) := by
        rw [at_, body, space, List.append_assoc, ← shift]
        rfl
      have enough : n + 1 + more.length < fuel := by omega
      obtain ⟨d, read, past, along⟩ := ih enough waits acc
      refine ⟨d, ?_, past, ?_⟩
      · rw [read, List.map_cons, List.reverse_cons, Piece.value_of_space space, List.append_assoc,
          List.replicate_succ]
        rfl
      · rw [body, space, List.append_assoc]
        exact (shift _).symm ▸ along
    · obtain ⟨x, others, starts, noGap, noBreak⟩ := p.starts space
      have first : c.rest = List.replicate n ' ' ++
          x :: (others ++ (Quoted.body more ++ '"' :: rest)) := by
        rw [at_, body, starts, List.append_assoc, List.cons_append]
      obtain ⟨fuel', d, enough', same, past, along⟩ :=
        quotedText_flush (k := more.length + 1) first noGap noBreak enough acc
      obtain ⟨fuel', rfl⟩ : ∃ m, fuel' = m + 1 := ⟨fuel' - 1, by omega⟩
      have at_piece : d.rest = p.chars ++ (Quoted.body more ++ '"' :: rest) := by
        rw [past, starts, List.cons_append]
      obtain ⟨e, piece, next, across⟩ :=
        quotedText_piece p space at_piece fuel' (List.replicate n ' ' ++ acc)
      have left : 0 + more.length < fuel' := by omega
      obtain ⟨f, read, done, last⟩ :=
        ih (n := 0) left next (p.value :: (List.replicate n ' ' ++ acc))
      refine ⟨f, ?_, done, ?_⟩
      · rw [same, piece, read, List.map_cons, List.reverse_cons, List.append_assoc]
        rfl
      · rw [body, List.append_assoc]
        exact along.trans (across.trans last)

/-- A string is read as its text, up to its closing quote. -/
theorem quotedScalar_read (q : Quoted) (at_ : c.rest = q.chars ++ rest) :
    ∃ d, quotedScalar true c = .ok (.scalar q.text false, d) ∧ d.rest = rest ∧
      Along c d q.chars := by
  have starts : c.rest = '"' :: (q.body ++ '"' :: rest) := by
    rw [at_, Quoted.chars, List.cons_append, List.append_assoc]
    rfl
  obtain ⟨stepped, first⟩ := along_step starts rfl
  have enough : 0 + q.length < c.rest.length + 1 := by
    have short := Quoted.body_length q
    rw [starts, List.length_cons, List.length_append]
    omega
  obtain ⟨d, read, past, along⟩ := quotedText_body q (n := 0) enough stepped []
  refine ⟨d, ?_, past, first.trans along⟩
  rw [quotedScalar, read]
  simp [bind, Except.bind, Quoted.text]

/-! ### Words -/

def IsWordChar (x : Char) : Prop := x.isAlphanum ∨ x = '-' ∨ x = '+' ∨ x = '.'

instance (x : Char) : Decidable (IsWordChar x) :=
  inferInstanceAs (Decidable (_ ∨ _ ∨ _ ∨ _))

theorem isWordChar_digits {digits : List Char} (h : ∀ d ∈ digits, d.isDigit = true) :
    ∀ d ∈ digits, IsWordChar d := by
  intro d hd
  exact .inl (by simp [Char.isAlphanum, h d hd])

theorem Word.chars_word (w : Word) : ∀ x ∈ w.chars, IsWordChar x := by
  have sign : ∀ negative, ∀ x ∈ signChars negative, IsWordChar x := by
    intro negative x hx
    cases negative with
    | true => exact .inr (.inl (List.mem_singleton.mp hx))
    | false => cases hx
  have letters : ∀ cs : List Char, cs.all Char.isAlphanum = true → ∀ x ∈ cs, IsWordChar x :=
    fun cs all x hx => .inl (List.all_eq_true.mp all x hx)
  cases w with
  | null => exact letters _ rfl
  | truth b => cases b <;> exact letters _ rfl
  | whole negative digits proper short =>
    obtain ⟨c, more, rfl, all⟩ := proper.digits
    intro x hx
    rcases List.mem_append.mp hx with hx | hx
    · exact sign negative x hx
    · exact isWordChar_digits all x hx
  | fraction negative digits parts exponent proper written =>
    obtain ⟨c, more, rfl, all⟩ := proper.digits
    intro x hx
    rcases List.mem_append.mp hx with hx | hx
    · exact sign negative x hx
    rcases List.mem_append.mp hx with hx | hx
    · exact isWordChar_digits all x hx
    rcases List.mem_cons.mp hx with rfl | hx
    · exact .inr (.inr (.inr rfl))
    rcases List.mem_append.mp hx with hx | hx
    · exact isWordChar_digits (List.all_eq_true.mp written.2) x hx
    cases exponent with
    | none => cases hx
    | some e =>
      obtain ⟨capital, negative, digits, exponents⟩ := e
      rcases List.mem_cons.mp hx with rfl | hx
      · cases capital <;> exact .inl rfl
      rcases List.mem_cons.mp hx with rfl | hx
      · cases negative with
        | true => exact .inr (.inl rfl)
        | false => exact .inr (.inr (.inl rfl))
      · exact isWordChar_digits (List.all_eq_true.mp exponents.2) x hx

theorem IsWordChar.ne {x y : Char} (h : IsWordChar x) (other : ¬ IsWordChar y) : x ≠ y :=
  fun same => other (same ▸ h)

theorem IsWordChar.ascii {x : Char} (h : IsWordChar x) : 0x20 < x.toNat ∧ x.toNat < 0x7f := by
  rcases h with h | rfl | rfl | rfl
  · simp only [Char.isAlphanum, Char.isAlpha, Char.isUpper, Char.isLower, Char.isDigit,
      Bool.or_eq_true, Bool.and_eq_true, decide_eq_true_eq, ge_iff_le, UInt32.le_iff_toNat_le] at h
    change ((65 ≤ x.toNat ∧ x.toNat ≤ 90) ∨ (97 ≤ x.toNat ∧ x.toNat ≤ 122)) ∨
      (48 ≤ x.toNat ∧ x.toNat ≤ 57) at h
    omega
  all_goals decide

theorem IsWordChar.not_break {x : Char} (h : IsWordChar x) : isBreak x = false :=
  isBreak_ascii h.ascii

theorem IsWordChar.goes_on {x : Char} (h : IsWordChar x) (next : Char) :
    endsPlain true x next = false := by
  simp [endsPlain, isWideGap, isGap, isEndOrBreak, h.not_break, isFlowIndicator,
    h.ne (y := '\t') (by decide), h.ne (y := ' ') (by decide), h.ne (y := nul) (by decide),
    h.ne (y := ':') (by decide), h.ne (y := '?') (by decide), h.ne (y := ',') (by decide),
    h.ne (y := '[') (by decide), h.ne (y := ']') (by decide), h.ne (y := '\x7b') (by decide),
    h.ne (y := '\x7d') (by decide)]

theorem plainRun_word {word : List Char} (chars : ∀ x ∈ word, IsWordChar x) (follows : Follows rest)
    (acc : List Char) : plainRun true acc (word ++ rest) = word.reverse ++ acc := by
  induction word generalizing acc with
  | nil =>
    obtain ⟨c, more, rfl, rfl | rfl | rfl | rfl | rfl⟩ := follows <;> rfl
  | cons x more ih =>
    rw [List.cons_append, plainRun, if_neg (by simp [(chars x List.mem_cons_self).goes_on]),
      ih fun y hy => chars y (List.mem_cons_of_mem _ hy)]
    simp

theorem Delimits.stops (h : Delimits rest) :
    ∃ x more, rest = x :: more ∧ isBreak x = false ∧ x ≠ ' ' ∧ x ≠ '#' ∧ x ≠ '-' ∧ x ≠ '.' ∧
      plainRun true [] rest = [] := by
  obtain ⟨x, more, rfl, rfl | rfl | rfl⟩ := h <;>
    exact ⟨_, more, rfl, rfl, by decide, by decide, by decide, by decide, rfl⟩

theorem not_documentMark {x : Char} (h : c.rest = x :: rest) (noDash : x ≠ '-')
    (noPoint : x ≠ '.') :
    c.atDocumentMark = false := by
  unfold Cursor.atDocumentMark
  split
  · rename_i same
    rw [h] at same
    exact absurd (List.cons.inj same).1 noDash
  · rename_i same
    rw [h] at same
    exact absurd (List.cons.inj same).1 noPoint
  · rfl

theorem not_documentMark_gap (g : Gap) (delimits : Delimits rest) (h : c.rest = g.chars ++ rest) :
    c.atDocumentMark = false := by
  cases g with
  | nil =>
    obtain ⟨x, more, rfl, -, -, -, noDash, noPoint, -⟩ := delimits.stops
    exact not_documentMark h noDash noPoint
  | cons b g => cases b <;> exact not_documentMark h (by decide) (by decide)

theorem plainBreaks_gap (g : Gap) (delimits : Delimits rest) {fuel : Nat} (enough : g.length < fuel)
    (at_ : c.rest = g.chars ++ rest) (acc : List Char) :
    ∃ breaks d, plainBreaks fuel acc c = (some breaks, d) ∧ d.rest = rest := by
  induction g generalizing fuel c acc with
  | nil =>
    obtain ⟨fuel, rfl⟩ : ∃ m, fuel = m + 1 := ⟨fuel - 1, by omega⟩
    obtain ⟨x, more, shape, noBreak, noSpace, -⟩ := delimits.stops
    have next : c.rest = x :: more := at_.trans shape
    refine ⟨acc, c, ?_, at_⟩
    rw [plainBreaks, peek_of_rest next, if_neg noSpace, lineBreak_none next noBreak]
  | cons b g ih =>
    rw [List.length_cons] at enough
    obtain ⟨fuel, rfl⟩ : ∃ m, fuel = m + 1 := ⟨fuel - 1, by omega⟩
    cases b with
    | space =>
      have next : c.rest = ' ' :: (Gap.chars g ++ rest) := at_
      rw [plainBreaks, peek_of_rest next, if_pos rfl]
      exact ih (by omega) (along_step next rfl).1 acc
    | line =>
      have next : c.rest = '\n' :: (Gap.chars g ++ rest) := at_
      have past := step_line next
      rw [plainBreaks, peek_of_rest next, if_neg (by decide), lineBreak_line next]
      simp only [not_documentMark_gap g delimits past]
      exact ih (by omega) past _

/-- A gap is a run of spaces, and perhaps a line feed and a gap. -/
theorem Gap.split (g : Gap) : ∃ n, g.chars = List.replicate n ' ' ∨
    ∃ more : Gap, g.chars = List.replicate n ' ' ++ '\n' :: more.chars := by
  induction g with
  | nil => exact ⟨0, .inl rfl⟩
  | cons b g ih =>
    cases b with
    | line => exact ⟨0, .inr ⟨g, rfl⟩⟩
    | space =>
      obtain ⟨n, shape | ⟨more, shape⟩⟩ := ih
      · exact ⟨n + 1, .inl (congrArg (' ' :: ·) shape)⟩
      · exact ⟨n + 1, .inr ⟨more, congrArg (' ' :: ·) shape⟩⟩

theorem span_spaces {n : Nat} {x : Char} (at_ : c.rest = List.replicate n ' ' ++ x :: rest)
    (noSpace : x ≠ ' ') :
    ∃ d, c.span (· = ' ') = (List.replicate n ' ', d) ∧ d.rest = x :: rest := by
  have spaces : ∀ y ∈ List.replicate n ' ', decide (y = ' ') = true := by
    intro y hy
    simpa using List.eq_of_mem_replicate hy
  have taken : c.rest.takeWhile (fun y => decide (y = ' ')) = List.replicate n ' ' := by
    rw [at_, List.takeWhile_append_of_pos spaces, List.takeWhile_cons,
      if_neg (by simpa using noSpace), List.append_nil]
  have past := (along_steps at_ (noBreak_spaces n)).1
  rw [List.length_replicate] at past
  refine ⟨Cursor.steps n c, ?_, past⟩
  rw [Cursor.span, taken, List.length_replicate]

/-- The gap after a word is taken with it. -/
theorem plainSpaces_gap (g : Gap) (delimits : Delimits rest) (at_ : c.rest = g.chars ++ rest) :
    ∃ spaces ended d, plainSpaces c = (spaces, ended, d) ∧ d.rest = rest := by
  obtain ⟨x, tail, shape, noBreak, noSpace, -⟩ := delimits.stops
  obtain ⟨n, run | ⟨more, run⟩⟩ := g.split
  · have next : c.rest = List.replicate n ' ' ++ x :: tail := by rw [at_, run, shape]
    obtain ⟨d, span, past⟩ := span_spaces next noSpace
    refine ⟨List.replicate n ' ', false, d, ?_, past.trans shape.symm⟩
    rw [plainSpaces, span]
    simp only [lineBreak_none past noBreak]
  · have next : c.rest = List.replicate n ' ' ++ '\n' :: (more.chars ++ rest) := by
      rw [at_, run, List.append_assoc, List.cons_append]
    obtain ⟨d, span, past⟩ := span_spaces next (by decide)
    have after := step_line past
    have enough : more.length < d.step.rest.length + 1 := by
      rw [after, List.length_append, Gap.chars, List.length_map]
      omega
    obtain ⟨breaks, e, read, done⟩ := plainBreaks_gap more delimits enough after []
    refine ⟨breaks ++ (if breaks.isEmpty then [' '] else []), true, e, ?_, done⟩
    rw [plainSpaces, span]
    simp only [lineBreak_line past, not_documentMark_gap more delimits after, read]
    rfl

theorem plainText_word {word : List Char} (chars : ∀ x ∈ word, IsWordChar x) (some : word ≠ [])
    (g : Gap) (delimits : Delimits rest) (at_ : c.rest = word ++ (g.chars ++ rest)) (indent : Int)
    (fuel : Nat) :
    ∃ ended d, plainText true indent (fuel + 2) [] [] false c = (word.reverse, ended, d) ∧
      d.rest = rest := by
  obtain ⟨x, tail, shape, -, -, noRemark, -, -, stops⟩ := delimits.stops
  obtain ⟨past, -⟩ := along_steps at_ fun y hy => (chars y hy).not_break
  obtain ⟨spaces, ended, d, read, done⟩ := plainSpaces_gap g delimits past
  obtain ⟨y, others, rfl⟩ := List.exists_cons_of_ne_nil some
  have noMark : c.peek ≠ '#' := by
    rw [peek_of_rest at_]
    exact (chars y List.mem_cons_self).ne (by decide)
  have run : plainRun true [] c.rest = (y :: others).reverse := by
    rw [at_, plainRun_word chars (delimits.follows g), List.append_nil]
  have follows : d.peek ≠ '#' := by
    rw [peek_of_rest (done.trans shape)]
    exact noRemark
  have last : plainText true indent (fuel + 1) (y :: others).reverse spaces ended d =
      ((y :: others).reverse, ended, d) := by
    rw [plainText, if_neg follows, done, stops]
    rfl
  refine ⟨ended, d, ?_, done⟩
  rw [plainText, if_neg noMark, run]
  simp only [List.length_reverse, read]
  rw [if_neg (by simp), List.append_nil, List.append_nil]
  split
  · rfl
  · exact last

theorem Word.chars_ne_nil (w : Word) : w.chars ≠ [] := by
  obtain ⟨c, rest, chars, -⟩ := w.chars_start
  simp [chars]

/-- A word is read as a plain scalar, together with the gap after it. -/
theorem plainScalar_read (w : Word) (g : Gap) (delimits : Delimits rest)
    (at_ : c.rest = w.chars ++ (g.chars ++ rest)) (indent : Int) :
    ∃ ended d, plainScalar true indent c = (.scalar (String.ofList w.chars) true, ended, d) ∧
      d.rest = rest := by
  obtain ⟨fuel, enough⟩ : ∃ fuel, c.rest.length + 1 = fuel + 2 := by
    have some := List.length_pos_iff.mpr w.chars_ne_nil
    rw [at_, List.length_append]
    exact ⟨w.chars.length + (g.chars ++ rest).length - 1, by omega⟩
  obtain ⟨ended, d, read, done⟩ :=
    plainText_word w.chars_word w.chars_ne_nil g delimits at_ (indent + 1) fuel
  refine ⟨ended, d, ?_, done⟩
  rw [plainScalar, enough, read]
  simp

/-! ### Characters that may occur -/

theorem Gap.chars_allowed (g : Gap) : g.chars.all isAllowed = true := by
  induction g with
  | nil => rfl
  | cons b g ih => cases b <;> exact ih

theorem Word.chars_allowed (w : Word) : w.chars.all isAllowed = true :=
  List.all_eq_true.mpr fun x hx => isAllowed_ascii (w.chars_word x hx).ascii

theorem Piece.chars_allowed (p : Piece) : p.chars.all isAllowed = true := by
  cases p with
  | char x plain => simp [chars, plain.2.2.2.1]
  | escape letter x stands =>
    unfold Json.escaped? at stands
    split at stands
    case h_9 => cases stands
    all_goals rfl
  | unit w x y z code stands single =>
    have digits := List.all_eq_true.mp (hexDigits_of_unit stands).1
    refine List.all_eq_true.mpr fun c hc => ?_
    rcases List.mem_cons.mp hc with rfl | hc
    · rfl
    · rcases List.mem_cons.mp hc with rfl | hc
      · rfl
      · exact isAllowed_ascii (isHexDigit_ascii (digits c hc))

theorem Quoted.chars_allowed (q : Quoted) : q.chars.all isAllowed = true := by
  have body : q.body.all isAllowed = true := by
    rw [body, List.all_flatMap]
    exact List.all_eq_true.mpr fun p _ => p.chars_allowed
  simp [chars, body, isAllowed]

theorem commaChars_allowed (first : Bool) : (commaChars first).all isAllowed = true := by
  cases first <;> rfl

mutual

theorem Form.chars_allowed (f : Form) : f.chars.all isAllowed = true :=
  match f with
  | .word w => w.chars_allowed
  | .text q => q.chars_allowed
  | .list gap items => by
    have bracket : isAllowed '[' = true := by decide
    simp [Form.chars, bracket, gap.chars_allowed, items.chars_allowed]
  | .dict gap entries => by
    have bracket : isAllowed '\x7b' = true := by decide
    simp [Form.chars, bracket, gap.chars_allowed, entries.chars_allowed]

theorem Items.chars_allowed (items : Items) (first : Bool) :
    (items.chars first).all isAllowed = true :=
  match items with
  | .nil => rfl
  | .cons before form after more => by
    simp [Items.chars, commaChars_allowed, before.chars_allowed, form.chars_allowed,
      after.chars_allowed, more.chars_allowed]

theorem Entries.chars_allowed (entries : Entries) (first : Bool) :
    (entries.chars first).all isAllowed = true :=
  match entries with
  | .nil => rfl
  | .cons before key spaces _ colon form after more => by
    have space : isAllowed ' ' = true := by decide
    have indicator : isAllowed ':' = true := by decide
    simp [Entries.chars, space, indicator, commaChars_allowed, before.chars_allowed,
      key.chars_allowed, colon.chars_allowed, form.chars_allowed, after.chars_allowed,
      more.chars_allowed]

end

theorem Page.chars_allowed (p : Page) : p.chars.all isAllowed = true := by
  simp [Page.chars, p.before.chars_allowed, p.form.chars_allowed, p.after.chars_allowed]

end SchemaChecks.Portable
