import SchemaChecks.Proofs.Binary64
import SchemaChecks.Proofs.Portable.Json
import SchemaChecks.Proofs.Portable.Lexeme
import SchemaChecks.Yaml.Leaf

/-!
The words of such a document as YAML scalars: their spelling has the tag of their kind, and is read
as their atom.
-/

namespace SchemaChecks.Portable

open Yaml

/-! ### Characters -/

theorem forall_ascii {P : Char → Prop} (h : ∀ n < 128, P (Char.ofNat n)) {c : Char}
    (small : c.toNat < 128) : P c := by
  have row := h c.toNat small
  rwa [Char.ofNat_toNat] at row

theorem IsWordChar.small {c : Char} (h : IsWordChar c) : c.toNat < 128 := by
  have ascii := h.ascii
  omega

theorem IsWordChar.not_blank {c : Char} (h : IsWordChar c) : Text.isBlank c = false := by
  have table : ∀ n < 128, IsWordChar (Char.ofNat n) →
      Text.isBlank (Char.ofNat n) = false := by decide
  exact forall_ascii (P := fun c => IsWordChar c → Text.isBlank c = false) table h.small h

/-- An ASCII character is no digit of another script. -/
theorem asciiDigit_small {c : Char} (small : c.toNat < 128) :
    (match Text.decimalDigit? c with
      | some d => Char.ofNat (0x30 + d)
      | none => c) = c := by
  have table : ∀ n < 128, (match Text.decimalDigit? (Char.ofNat n) with
      | some d => Char.ofNat (0x30 + d)
      | none => Char.ofNat n) = Char.ofNat n := by decide
  exact forall_ascii (P := fun c => (match Text.decimalDigit? c with
      | some d => Char.ofNat (0x30 + d)
      | none => c) = c) table small

theorem isDigit_range {c : Char} (h : c.isDigit) : 0x30 ≤ c.toNat ∧ c.toNat ≤ 0x39 := by
  simp only [Char.isDigit, Bool.and_eq_true, decide_eq_true_eq, ge_iff_le,
    UInt32.le_iff_toNat_le] at h
  exact h

theorem isDigit_not_alpha {c : Char} (h : c.isDigit) : c.isAlpha = false := by
  have table : ∀ n < 128, (Char.ofNat n).isDigit = true →
      (Char.ofNat n).isAlpha = false := by decide
  have range := isDigit_range h
  exact forall_ascii (P := fun c => c.isDigit = true → c.isAlpha = false) table (by omega) h

/-- The lower case of ASCII texts. -/
theorem lowercase_small {cs : List Char} (small : ∀ c ∈ cs, c.toNat < 128) :
    Text.lowercase (String.ofList cs) = String.ofList (cs.map Char.toLower) := by
  have table : ∀ n < 128, (if (Char.ofNat n).toNat = 0x130 then ['i', Char.ofNat 0x307]
      else [Char.ofNat (Text.lowerCode (Char.ofNat n).toNat)]) =
        [(Char.ofNat n).toLower] := by decide
  rw [Text.lowercase, String.toList_ofList]
  congr 1
  induction cs with
  | nil => rfl
  | cons c more ih =>
    rw [List.flatMap_cons, ih fun d hd => small d (List.mem_cons_of_mem _ hd), List.map_cons]
    have first := forall_ascii (P := fun c => (if c.toNat = 0x130 then ['i', Char.ofNat 0x307]
      else [Char.ofNat (Text.lowerCode c.toNat)]) = [c.toLower]) table (small c List.mem_cons_self)
    rw [first]
    rfl

theorem isDigit_toLower {c : Char} (h : c.isDigit) : c.toLower = c := by
  have table : ∀ n < 128, (Char.ofNat n).isDigit = true →
      (Char.ofNat n).toLower = Char.ofNat n := by
    decide
  have range := isDigit_range h
  exact forall_ascii (P := fun c => c.isDigit = true → c.toLower = c) table (by omega) h

theorem digits_toLower {digits : List Char} (all : ∀ d ∈ digits, d.isDigit) :
    digits.map Char.toLower = digits :=
  (List.map_congr_left fun d hd => isDigit_toLower (all d hd)).trans (List.map_id digits)

/-! ### Texts of word characters -/

section

variable {cs : List Char} (word : ∀ c ∈ cs, IsWordChar c)
include word

theorem dropPadding_word : cs.dropWhile Number.isPadding = cs := by
  cases cs with
  | nil => rfl
  | cons c more =>
    have first := (word c List.mem_cons_self).not_blank
    rw [List.dropWhile_cons, if_neg (by simp [Number.isPadding, first])]

theorem trimmed_word : Number.trimmed cs = cs := by
  have backwards : ∀ c ∈ cs.reverse, IsWordChar c := fun c hc => word c (List.mem_reverse.mp hc)
  rw [Number.trimmed, dropPadding_word word, dropPadding_word backwards, List.reverse_reverse]

theorem asciiDigits_word : Number.asciiDigits cs = cs :=
  (List.map_congr_left fun c hc => asciiDigit_small (word c hc).small).trans (List.map_id cs)

theorem dropUnderscores_word : Number.dropUnderscores? cs = some cs := by
  induction cs with
  | nil => rfl
  | cons c more ih =>
    have other : c ≠ '_' := (word c List.mem_cons_self).ne (by decide)
    rw [Number.dropUnderscores?, ih fun d hd => word d (List.mem_cons_of_mem _ hd)]
    · rfl
    · intro same _
      exact other same
    · intro _ same _
      exact other same
    · intro _ _ same _
      exact other same

theorem withoutUnderscores_word : withoutUnderscores cs = cs := by
  rw [withoutUnderscores, List.filter_eq_self]
  intro c hc
  simpa using (word c hc).ne (by decide)

theorem withoutFinalBreak_word : withoutFinalBreak cs = cs := by
  rw [withoutFinalBreak, if_neg]
  intro last
  exact (word _ (List.mem_of_getLast? last)).ne (by decide) rfl

theorem no_colon_word : cs.contains ':' = false := by
  rw [Bool.eq_false_iff]
  intro colon
  exact (word _ (List.contains_iff_mem.mp colon)).ne (by decide) rfl

end

/-! ### Digits -/

theorem ofDigits_decimal {digits : List Char} (all : ∀ d ∈ digits, d.isDigit)
    (some_ : digits ≠ []) :
    Number.ofDigits? 10 digits = some (Number.ofDecimalDigits digits) := by
  have folds : ∀ n, digits.foldl (digitStep 10) (some n) =
      some (digits.foldl (fun n c => n * 10 + (c.toNat - 0x30)) n) := by
    clear some_
    induction digits with
    | nil => exact fun n => rfl
    | cons c more ih =>
      intro n
      obtain ⟨low, high⟩ := isDigit_range (all c List.mem_cons_self)
      have value : Number.digitValue? c = some (c.toNat - 0x30) := by
        simp [Number.digitValue?, low, high]
      have step : digitStep 10 (some n) c = some (n * 10 + (c.toNat - 0x30)) := by
        have digit : c.toNat - 0x30 < 10 := by omega
        simp [digitStep, value, digit]
      rw [List.foldl_cons, step, ih fun d hd => all d (List.mem_cons_of_mem _ hd), List.foldl_cons]
  rw [Number.ofDigits?, if_neg (by simpa using some_)]
  exact folds 0

theorem isDigitOr_digits {digits rest : List Char} (all : ∀ d ∈ digits, d.isDigit)
    (stop : ∀ c ∈ rest.head?, isDigitOr_ c = false) :
    (digits ++ rest).dropWhile isDigitOr_ = rest := by
  rw [List.dropWhile_append_of_pos fun d hd => by simp [isDigitOr_, all d hd]]
  cases rest with
  | nil => rfl
  | cons c more => rw [List.dropWhile_cons, if_neg (by simp [stop c rfl])]

/-! ### Numbers -/

structure StartsNumber (negative : Bool) (c : Char) (cs more : List Char) : Prop where
  digit : c.isDigit
  chars : cs = signChars negative ++ c :: more

section

variable {negative : Bool} {c : Char} {cs more : List Char}
    (starts : StartsNumber negative c cs more)
include starts

theorem dropSign_number : dropSign cs = c :: more := by
  obtain ⟨digit, rfl⟩ := starts
  cases negative with
  | true => rfl
  | false =>
    have minus : c ≠ '-' := by rintro rfl; cases digit
    have plus : c ≠ '+' := by rintro rfl; cases digit
    simp [signChars, dropSign, minus, plus]

theorem splitSign_number : Number.splitSign cs = (negative, c :: more) := by
  obtain ⟨digit, rfl⟩ := starts
  cases negative with
  | true => rfl
  | false =>
    have minus : c ≠ '-' := by rintro rfl; cases digit
    have plus : c ≠ '+' := by rintro rfl; cases digit
    simp [signChars, Number.splitSign, minus, plus]

theorem head_number : ∀ d ∈ cs.head?, d = '-' ∨ d.isDigit := by
  obtain ⟨digit, rfl⟩ := starts
  cases negative with
  | true =>
    rintro d ⟨⟩
    exact .inl rfl
  | false =>
    rintro d ⟨⟩
    exact .inr digit

theorem spellsBool_number : spellsBool cs = false := by
  have letters : ∀ w ∈ truthWords, ∀ s ∈ spellings w.1, s.head?.any Char.isAlpha = true := by decide
  rw [spellsBool, List.any_eq_false]
  intro w hw found
  obtain ⟨d, hd, letter⟩ :=
    (Option.any_eq_true _ _).mp (letters w hw cs (List.contains_iff_mem.mp found))
  rcases head_number starts d hd with rfl | digit
  · exact absurd letter (by decide)
  · exact absurd letter (by simp [isDigit_not_alpha digit])

theorem spellsInfinity_number : spellsInfinity (dropSign cs) = false := by
  have noPoint : c ≠ '.' := by rintro rfl; exact absurd starts.digit (by decide)
  rw [dropSign_number starts]
  simp [spellsInfinity, noPoint]

theorem spellsNaN_number : spellsNaN cs = false := by
  have noPoint : ∀ more, cs ≠ '.' :: more := by
    rintro more rfl
    rcases head_number starts '.' rfl with same | digit
    · exact absurd same (by decide)
    · exact absurd digit (by decide)
  simp [spellsNaN, noPoint]

theorem not_spellsFloat_whole (all : more.dropWhile isDigitOr_ = []) : spellsFloat cs = false := by
  have noPoint : c ≠ '.' := by rintro rfl; exact absurd starts.digit (by decide)
  rw [spellsFloat, spellsInfinity_number starts, spellsNaN_number starts, dropSign_number starts]
  simp [noPoint, starts.digit, all]

theorem spellsFloat_point {after : List Char} (point : more.dropWhile isDigitOr_ = '.' :: after) :
    spellsFloat cs = spellsFraction after := by
  have noPoint : c ≠ '.' := by rintro rfl; exact absurd starts.digit (by decide)
  rw [spellsFloat, spellsInfinity_number starts, spellsNaN_number starts, dropSign_number starts]
  simp [noPoint, starts.digit, point]

/-- The tag of a number by its spelling. -/
theorem ofSpelling_number (word : ∀ c ∈ cs, IsWordChar c) :
    Tag.ofSpelling (String.ofList cs) =
      if spellsFloat cs then .float else if spellsInt cs then .int
      else if cs = ['<', '<'] then .merge else if spellsNull cs then .null
      else if spellsTimestamp cs then .timestamp else if cs = ['='] then .default else .str := by
  have some : cs ≠ [] := by
    rw [starts.chars]
    cases negative <;> exact nofun
  rw [Tag.ofSpelling, if_neg, String.toList_ofList, withoutFinalBreak_word word]
  · simp only [List.isEmpty_iff, some, if_false, spellsBool_number starts, Bool.false_eq_true]
  · simp [some]

end

/-- Digits without a needless zero are a zero or start otherwise. -/
theorem IsWhole.zero_or {digits : List Char} (h : IsWhole digits) :
    digits = ['0'] ∨ ∃ c more, digits = c :: more ∧ c ≠ '0' ∧ ∀ d ∈ c :: more, d.isDigit := by
  obtain ⟨c, more, rfl, all⟩ := h.digits
  by_cases zero : c = '0'
  · subst zero
    have single : some (['0'], more) = some ('0' :: more, []) := h
    cases single
    exact .inl rfl
  · exact .inr ⟨c, more, rfl, zero, all⟩

theorem IsWhole.starts {digits : List Char} (h : IsWhole digits) (negative : Bool) :
    ∃ c more, digits = c :: more ∧ StartsNumber negative c (signChars negative ++ digits) more ∧
      more.dropWhile isDigitOr_ = [] := by
  obtain ⟨c, more, rfl, all⟩ := h.digits
  have run : (more ++ []).dropWhile isDigitOr_ = [] :=
    isDigitOr_digits (fun d hd => all d (List.mem_cons_of_mem _ hd)) nofun
  rw [List.append_nil] at run
  exact ⟨c, more, rfl, ⟨all c List.mem_cons_self, rfl⟩, run⟩

theorem spellsInt_whole (negative : Bool) {digits : List Char} (proper : IsWhole digits) :
    spellsInt (signChars negative ++ digits) = true := by
  obtain ⟨c, more, rfl, starts, run⟩ := proper.starts negative
  rw [spellsInt, dropSign_number starts]
  rcases proper.zero_or with zero | ⟨c', more', same, nonzero, all⟩
  · rw [zero]
    rfl
  · cases same
    split
    case h_1 => rfl
    case h_2 | h_3 | h_4 =>
      rename_i same
      exact absurd (List.cons.inj same).1 nonzero
    case h_5 =>
      rename_i same
      cases same
      simp [starts.digit, run]
    case h_6 =>
      rename_i same
      cases same

theorem readInt_digits {digits : List Char} (proper : IsWhole digits)
    (short : digits.length ≤ Number.digitLimit) :
    Yaml.readInt 10 digits = .ok (Number.ofDecimalDigits digits) := by
  obtain ⟨c, more, rfl, all⟩ := proper.digits
  have word := isWordChar_digits all
  have noMark : ∀ cs, Number.dropBaseMark 10 cs = cs := by
    intro cs
    unfold Number.dropBaseMark
    split
    · exact if_neg (by simp [Number.baseLetter])
    · rfl
  have starts : StartsNumber false c (c :: more) more := ⟨all c List.mem_cons_self, rfl⟩
  have other : c ≠ '_' := (word c List.mem_cons_self).ne (by decide)
  have read : Number.readInt 10 (c :: more) = .ok (Number.ofDecimalDigits (c :: more)) := by
    rw [Number.readInt, trimmed_word word, asciiDigits_word word, splitSign_number starts]
    simp only [noMark, Nat.lt_irrefl, if_false, List.head?_cons]
    split
    · rename_i same
      exact absurd (Option.some.inj same) other
    · simp only [dropUnderscores_word word, ofDigits_decimal all (List.cons_ne_nil c more)]
      rw [if_neg (by simpa using short)]
      rfl
  rw [Yaml.readInt, read]

theorem intOf_whole (negative : Bool) {digits : List Char} (proper : IsWhole digits)
    (short : digits.length ≤ Number.digitLimit)
    (word : ∀ c ∈ signChars negative ++ digits, IsWordChar c) :
    intOf (signChars negative ++ digits) =
      .ok (if negative then -(Number.ofDecimalDigits digits : Int)
        else Number.ofDecimalDigits digits) := by
  obtain ⟨c, more, rfl, starts, -⟩ := proper.starts negative
  have digits : ∀ d ∈ c :: more, IsWordChar d := fun d hd => word d (List.mem_append_right _ hd)
  have read := readInt_digits proper short
  rw [intOf, withoutUnderscores_word word]
  simp only [splitSign_number starts]
  rcases proper.zero_or with zero | ⟨c', more', same, nonzero, -⟩
  · rw [zero]
    cases negative <;> rfl
  · cases same
    split
    case h_1 same => cases same
    case h_2 | h_3 | h_4 | h_5 =>
      rename_i same
      exact absurd (List.cons.inj same).1 nonzero
    case h_6 =>
      rw [if_neg (Bool.eq_false_iff.mp (no_colon_word digits)), read]
      rfl

/-! ### Fractions -/

def exponentChars (exponent : Option Exponent) : List Char := (exponent.map Exponent.chars).getD []

def exponentValue (exponent : Option Exponent) : Int := (exponent.map Exponent.value).getD 0

def fractionChars (digits parts : List Char) (exponent : Option Exponent) : List Char :=
  digits ++ '.' :: (parts ++ exponentChars exponent)

theorem exponentChars_start (exponent : Option Exponent) :
    ∀ c ∈ (exponentChars exponent).head?, c = 'e' ∨ c = 'E' := by
  cases exponent with
  | none => nofun
  | some e =>
    obtain ⟨capital, negative, digits, written⟩ := e
    cases capital <;> rintro c ⟨⟩ <;> simp

theorem spellsExponent_chars (exponent : Option Exponent) :
    spellsExponent (exponentChars exponent) = true := by
  cases exponent with
  | none => rfl
  | some e =>
    obtain ⟨capital, negative, digits, some, all⟩ := e
    have some : digits.isEmpty = false := by simpa using some
    cases capital <;> cases negative <;>
      simp [exponentChars, Exponent.chars, spellsExponent, some, all]

theorem spellsFraction_chars {parts : List Char} (written : IsDigits parts)
    (exponent : Option Exponent) :
    spellsFraction (parts ++ exponentChars exponent) = true := by
  rw [spellsFraction, isDigitOr_digits (List.all_eq_true.mp written.2), spellsExponent_chars]
  intro c hc
  rcases exponentChars_start exponent c hc with rfl | rfl <;> decide

theorem readExponent_chars (exponent : Option Exponent) :
    Number.readExponent? (exponentChars exponent) = some (exponentValue exponent) := by
  cases exponent with
  | none => rfl
  | some e =>
    obtain ⟨capital, negative, digits, written, all⟩ := e
    have read := ofDigits_decimal (List.all_eq_true.mp all) written
    cases capital <;> cases negative <;>
      simp [exponentChars, exponentValue, Exponent.chars, Exponent.value, Number.readExponent?,
        Number.splitSign, read]

theorem readUnsignedReal_chars {digits parts : List Char} (proper : IsWhole digits)
    (written : IsDigits parts) (exponent : Option Exponent) :
    Number.readUnsignedReal? false (fractionChars digits parts exponent) =
      some (.ofDecimal false (Number.ofDecimalDigits (digits ++ parts))
        (exponentValue exponent - parts.length)) := by
  obtain ⟨c, more, rfl, all⟩ := proper.digits
  have point : ∀ d ∈ ('.' :: (parts ++ exponentChars exponent)).head?, d.isDigit = false := by simp
  have mark : ∀ d ∈ (exponentChars exponent).head?, d.isDigit = false := fun d hd => by
    rcases exponentChars_start exponent d hd with rfl | rfl <;> decide
  have whole := takeWhile_digits all point
  have fraction := takeWhile_digits (List.all_eq_true.mp written.2) mark
  rw [Number.readUnsignedReal?, fractionChars, whole.1, whole.2]
  simp only [fraction.1, fraction.2, readExponent_chars]
  rfl

def Exponent.lower (e : Exponent) : Exponent := { e with capital := false }

theorem exponentChars_toLower (exponent : Option Exponent) :
    (exponentChars exponent).map Char.toLower = exponentChars (exponent.map Exponent.lower) := by
  cases exponent with
  | none => rfl
  | some e =>
    obtain ⟨capital, negative, digits, written, all⟩ := e
    have same := digits_toLower (List.all_eq_true.mp all)
    cases capital <;> cases negative <;>
      simp [exponentChars, Exponent.chars, Exponent.lower, same]

theorem exponentValue_lower (exponent : Option Exponent) :
    exponentValue (exponent.map Exponent.lower) = exponentValue exponent := by
  cases exponent <;> rfl

theorem fractionChars_starts {digits : List Char} (proper : IsWhole digits) (parts : List Char)
    (exponent : Option Exponent) (negative : Bool) :
    ∃ c more, digits = c :: more ∧ StartsNumber negative c
      (signChars negative ++ fractionChars digits parts exponent)
      (more ++ '.' :: (parts ++ exponentChars exponent)) := by
  obtain ⟨c, more, rfl, all⟩ := proper.digits
  exact ⟨c, more, rfl, all c List.mem_cons_self, rfl⟩

section

variable (negative : Bool) {digits parts : List Char} (proper : IsWhole digits)
  (written : IsDigits parts) (exponent : Option Exponent)
include proper written

theorem fractionChars_toLower :
    (fractionChars digits parts exponent).map Char.toLower =
      fractionChars digits parts (exponent.map Exponent.lower) := by
  obtain ⟨c, more, shape, all⟩ := proper.digits
  have point : Char.toLower '.' = '.' := by decide
  rw [fractionChars, List.map_append, List.map_cons, List.map_append, digits_toLower (shape ▸ all),
    point, digits_toLower (List.all_eq_true.mp written.2), exponentChars_toLower, fractionChars]

theorem fractionChars_word (negative : Bool) :
    ∀ c ∈ signChars negative ++ fractionChars digits parts exponent, IsWordChar c := fun c hc =>
  (Word.fraction negative digits parts exponent proper written).chars_word c hc

theorem spellsFloat_fraction :
    spellsFloat (signChars negative ++ fractionChars digits parts exponent) = true := by
  obtain ⟨c, more, rfl, starts⟩ := fractionChars_starts proper parts exponent negative
  obtain ⟨c', more', same, all⟩ := proper.digits
  cases same
  have point : (more ++ '.' :: (parts ++ exponentChars exponent)).dropWhile isDigitOr_ =
      '.' :: (parts ++ exponentChars exponent) :=
    isDigitOr_digits (fun d hd => all d (List.mem_cons_of_mem _ hd)) (by simp; decide)
  rw [spellsFloat_point starts point, spellsFraction_chars written]

theorem readReal_fraction :
    Yaml.readReal (fractionChars digits parts exponent) =
      .ok (.ofDecimal false (Number.ofDecimalDigits (digits ++ parts))
        (exponentValue exponent - parts.length)) := by
  have word : ∀ c ∈ fractionChars digits parts exponent, IsWordChar c :=
    fractionChars_word proper written exponent false
  obtain ⟨c, more, shape, starts⟩ := fractionChars_starts proper parts exponent false
  have sign : Number.splitSign (fractionChars digits parts exponent) =
      (false, fractionChars digits parts exponent) := by
    subst shape
    exact splitSign_number starts
  have digit : ∀ d ∈ ((fractionChars digits parts exponent).map Char.toLower).head?, d.isDigit := by
    rw [fractionChars_toLower proper written]
    subst shape
    rintro d ⟨⟩
    exact starts.digit
  have read : Number.readReal? (fractionChars digits parts exponent) =
      some (.ofDecimal false (Number.ofDecimalDigits (digits ++ parts))
        (exponentValue exponent - parts.length)) := by
    rw [Number.readReal?, trimmed_word word, asciiDigits_word word, dropUnderscores_word word]
    simp only [sign]
    split
    case h_1 same | h_2 same | h_3 same =>
      have chars := congrArg String.toList same
      rw [String.toList_ofList] at chars
      rw [chars] at digit
      exact absurd (digit _ rfl) (by decide)
    case h_4 => exact readUnsignedReal_chars proper written exponent
  rw [Yaml.readReal, read]

theorem realOf_fraction :
    realOf (signChars negative ++ fractionChars digits parts exponent) =
      .ok (.ofDecimal negative (Number.ofDecimalDigits (digits ++ parts))
        (exponentValue exponent - parts.length)) := by
  have word := fractionChars_word proper written exponent negative
  have word' := fractionChars_word proper written (exponent.map Exponent.lower) negative
  obtain ⟨c, more, shape, starts⟩ :=
    fractionChars_starts proper parts (exponent.map Exponent.lower) negative
  have sign : (signChars negative).map Char.toLower = signChars negative := by
    cases negative <;> decide
  have lower : Text.lowercase
      (String.ofList (signChars negative ++ fractionChars digits parts exponent)) =
      String.ofList
        (signChars negative ++ fractionChars digits parts (exponent.map Exponent.lower)) := by
    rw [lowercase_small fun c hc => (word c hc).small, List.map_append, sign,
      fractionChars_toLower proper written]
  have body : fractionChars digits parts (exponent.map Exponent.lower) =
      c :: (more ++ '.' :: (parts ++ exponentChars (exponent.map Exponent.lower))) := by
    rw [fractionChars, shape, List.cons_append]
  have noPoint : c ≠ '.' := by rintro rfl; exact absurd starts.digit (by decide)
  have noColon := no_colon_word fun d hd => word' d (List.mem_append_right _ hd)
  have read := readReal_fraction proper written (exponent.map Exponent.lower)
  rw [exponentValue_lower] at read
  rw [realOf, withoutUnderscores_word word, lower, String.toList_ofList]
  have some : (signChars negative ++
      fractionChars digits parts (exponent.map Exponent.lower)).isEmpty = false := by
    rw [starts.chars]
    cases negative <;> rfl
  have noWord : ∀ rest, fractionChars digits parts (exponent.map Exponent.lower) ≠ '.' :: rest := by
    intro rest same
    rw [body] at same
    exact noPoint (List.cons.inj same).1
  simp only [splitSign_number starts, ← body, noColon, read, some, noWord, if_false,
    Bool.false_eq_true, Except.map]
  cases negative with
  | true => simp [Binary64.neg_ofDecimal]
  | false => simp

end

/-! ### Words -/

def Word.tag : Word → Tag
  | null => .null
  | truth _ => .bool
  | whole .. => .int
  | fraction .. => .float

/-- A word is spelled as its kind. -/
theorem Word.spelling (w : Word) : Tag.ofSpelling (String.ofList w.chars) = w.tag := by
  have word := w.chars_word
  cases w with
  | null => decide
  | truth b => cases b <;> decide
  | whole negative digits proper short =>
    obtain ⟨c, more, rfl, starts, run⟩ := proper.starts negative
    have read := spellsInt_whole negative proper
    rw [chars, ofSpelling_number starts word, not_spellsFloat_whole starts run, read]
    rfl
  | fraction negative digits parts exponent proper written =>
    obtain ⟨c, more, rfl, starts⟩ := fractionChars_starts proper parts exponent negative
    have read := spellsFloat_fraction negative proper written exponent
    have same : (Word.fraction negative (c :: more) parts exponent proper written).chars =
        signChars negative ++ fractionChars (c :: more) parts exponent := rfl
    rw [same, ofSpelling_number starts (same ▸ word), read]
    rfl

/-- A word is read as its atom. -/
theorem Word.reads (w : Word) : atomOf w.tag (String.ofList w.chars) = .ok w.atom := by
  have word := w.chars_word
  cases w with
  | null => rfl
  | truth b => cases b <;> rfl
  | whole negative digits proper short =>
    have read := intOf_whole negative proper short word
    simp only [tag, atomOf, String.toList_ofList, chars, read]
    rfl
  | fraction negative digits parts exponent proper written =>
    have read := realOf_fraction negative proper written exponent
    have same : (Word.fraction negative digits parts exponent proper written).chars =
        signChars negative ++ fractionChars digits parts exponent := rfl
    simp only [tag, atomOf, String.toList_ofList, same, read]
    rfl

end SchemaChecks.Portable
