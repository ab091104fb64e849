import Mathlib.Tactic.Ring
import SchemaChecks.Proofs.Surrogate
import SchemaChecks.Text.Quoted

/-!
Literals of the generated source: texts between quotes and decimal integers. Each reader takes what
it reads from the front of a text and gives the rest. It reads back what was written.
-/

namespace SchemaChecks.Source

def after {α : Type} [DecidableEq α] : List α → List α → Option (List α)
  | [], cs => some cs
  | _ :: _, [] => none
  | w :: ws, c :: cs => if w = c then after ws cs else none

theorem after_eq_some {α : Type} [DecidableEq α] {ws cs rest : List α} :
    after ws cs = some rest ↔ cs = ws ++ rest := by
  induction ws generalizing cs with
  | nil => simp [after]
  | cons w ws ih =>
    cases cs with
    | nil => simp [after]
    | cons c cs =>
      by_cases h : w = c
      · simp [after, h, ih]
      · simp [after, h, Ne.symm h]

@[simp] theorem after_append {α : Type} [DecidableEq α] (ws cs : List α) :
    after ws (ws ++ cs) = some cs :=
  after_eq_some.mpr rfl

section hexadecimal

open Text.Quoted

def hexValue? (c : Char) : Option Nat :=
  if '0' ≤ c && c ≤ '9' then some (c.toNat - 0x30)
  else if 'a' ≤ c && c ≤ 'f' then some (c.toNat - 0x57)
  else if 'A' ≤ c && c ≤ 'F' then some (c.toNat - 0x37)
  else none

theorem hexValue?_hexDigit (d : Nat) (hd : d < 16) : hexValue? (hexDigit d) = some d := by
  revert d
  decide

/-- The digits from the highest on. -/
theorem hexDigits_succ (w n : Nat) :
    hexDigits (w + 1) n = hexDigit (n / 16 ^ w % 16) :: hexDigits w n := by
  induction w generalizing n with
  | zero => simp [hexDigits]
  | succ w ih =>
    rw [hexDigits, ih (n / 16), List.cons_append, Nat.div_div_eq_div_mul]
    rw [show 16 * 16 ^ w = 16 ^ (w + 1) by ring, hexDigits]

end hexadecimal

/-- What stands at a place inside a text literal: a character as it is, what follows a backslash, or
digits that are still to come, with the number so far. -/
inductive Pending where
  | none
  | escape
  | digits (left value : Nat)

def escapeWidth? : Char → Option Nat
  | 'x' => some 2
  | 'u' => some 4
  | 'U' => some 8
  | _ => none

def escapedChar? : Char → Option Char
  | 'n' => some '\n'
  | 'r' => some '\r'
  | 't' => some '\t'
  | '\\' => some '\\'
  | '\'' => some '\''
  | '"' => some '"'
  | _ => none

def keep (c : Char) : Option (List Char × List Char) → Option (List Char × List Char) :=
  Option.map fun p => (c :: p.1, p.2)

def quotedBody? (quote : Char) : Pending → List Char → Option (List Char × List Char)
  | _, [] => Option.none
  | .none, c :: rest =>
    if c = quote then some ([], rest)
    else if c = '\\' then quotedBody? quote .escape rest
    else if c = '\n' then Option.none
    else keep c (quotedBody? quote .none rest)
  | .escape, c :: rest =>
    match escapeWidth? c with
    | some width => quotedBody? quote (.digits width 0) rest
    | Option.none =>
      match escapedChar? c with
      | some d => keep d (quotedBody? quote .none rest)
      | Option.none => Option.none
  | .digits left value, c :: rest =>
    match hexValue? c with
    | Option.none => Option.none
    | some d =>
      if left ≤ 1 then keep (Text.charOfCode (16 * value + d)) (quotedBody? quote .none rest)
      else quotedBody? quote (.digits (left - 1) (16 * value + d)) rest

def isQuote (c : Char) : Bool := c = '\'' || c = '"'

def text? : List Char → Option (String × List Char)
  | [] => none
  | c :: rest =>
    if isQuote c then
      (quotedBody? c .none rest).map fun p => (String.ofList p.1, p.2)
    else none

section texts

open Text.Quoted

variable {quote c : Char} {rest : List Char}

theorem quotedBody?_digits (w value n : Nat) :
    quotedBody? quote (.digits (w + 1) value) (hexDigits (w + 1) n ++ rest) =
      keep (Text.charOfCode (16 ^ (w + 1) * value + n % 16 ^ (w + 1)))
        (quotedBody? quote .none rest) := by
  induction w generalizing value with
  | zero =>
    have digit := hexValue?_hexDigit (n % 16) (Nat.mod_lt n (by decide))
    simp [hexDigits, quotedBody?, digit]
  | succ w ih =>
    have digit := hexValue?_hexDigit (n / 16 ^ (w + 1) % 16) (Nat.mod_lt _ (by decide))
    rw [hexDigits_succ, List.cons_append, quotedBody?, digit]
    have more : ¬ w + 1 + 1 ≤ 1 := by omega
    simp only [more, if_false, Nat.add_sub_cancel]
    have split : n % 16 ^ (w + 1 + 1) =
        n % 16 ^ (w + 1) + 16 ^ (w + 1) * (n / 16 ^ (w + 1) % 16) := Nat.mod_pow_succ
    rw [ih, split]
    congr 2
    ring

/-- A character after an escape with `w` digits, if its number fits. -/
theorem quotedBody?_number {letter : Char} {w : Nat}
    (takes : escapeWidth? letter = some (w + 1)) (fits : Text.codeOf c < 16 ^ (w + 1))
    (open_ : ('\\' : Char) ≠ quote) :
    quotedBody? quote .none ('\\' :: letter :: hexDigits (w + 1) (Text.codeOf c) ++ rest) =
      keep c (quotedBody? quote .none rest) := by
  simp only [List.cons_append, quotedBody?, open_, if_false, if_true, takes]
  rw [quotedBody?_digits, Nat.mod_eq_of_lt fits, Nat.mul_zero, Nat.zero_add,
    Text.charOfCode_codeOf]

theorem quotedBody?_encodeChar (hq : isQuote quote = true) :
    quotedBody? quote .none (encodeChar quote c ++ rest) =
      keep c (quotedBody? quote .none rest) := by
  have open_ : ('\\' : Char) ≠ quote := by
    rintro rfl
    exact absurd hq (by decide)
  unfold encodeChar
  split
  · rename_i special
    have escaped : escapeWidth? c = none ∧ escapedChar? c = some c := by
      have : c = quote ∨ c = '\\' := by simpa using special
      rcases this with rfl | rfl
      · have : c = '\'' ∨ c = '"' := by simpa [isQuote] using hq
        rcases this with rfl | rfl <;> decide
      · decide
    simp [quotedBody?, open_, escaped]
  · rename_i ordinary
    have ordinary : c ≠ quote ∧ c ≠ '\\' := by simpa using ordinary
    split
    · rename_i tab
      subst tab
      simp [quotedBody?, open_, show escapeWidth? 't' = none by decide,
        show escapedChar? 't' = some '\t' by decide]
    split
    · rename_i newline
      subst newline
      simp [quotedBody?, open_, show escapeWidth? 'n' = none by decide,
        show escapedChar? 'n' = some '\n' by decide]
    split
    · rename_i return_
      subst return_
      simp [quotedBody?, open_, show escapeWidth? 'r' = none by decide,
        show escapedChar? 'r' = some '\r' by decide]
    rename_i notTab notNewline notReturn
    split
    · simp [quotedBody?, ordinary, notNewline]
    split
    · rename_i small
      exact quotedBody?_number rfl (by omega) open_
    split
    · rename_i medium
      exact quotedBody?_number rfl (by omega) open_
    · have bound : Text.codeOf c < 0x110000 := by
        have below := Text.codeOf_le c
        have valid := c.valid
        simp only [UInt32.isValidChar, Nat.isValidChar] at valid
        simp only [Char.toNat] at below
        omega
      exact quotedBody?_number rfl (by omega) open_

theorem quotedBody?_flatMap (hq : isQuote quote = true) (cs : List Char) :
    quotedBody? quote .none (cs.flatMap (encodeChar quote) ++ quote :: rest) =
      some (cs, rest) := by
  induction cs with
  | nil => simp [quotedBody?]
  | cons c cs ih =>
    rw [List.flatMap_cons, List.append_assoc, quotedBody?_encodeChar hq, ih]
    rfl

theorem isQuote_quoteFor (cs : List Char) : isQuote (quoteFor cs) = true := by
  unfold quoteFor
  split <;> decide

/-- A quoted text reads back as the text, whatever follows it. -/
theorem text?_quoted (s : String) (rest : List Char) :
    text? ((Text.quoted s).toList ++ rest) = some (s, rest) := by
  have hq := isQuote_quoteFor s.toList
  simp only [Text.quoted, encode, String.toList_ofList, List.cons_append, List.append_assoc,
    text?, hq, if_true]
  rw [List.nil_append, quotedBody?_flatMap hq, Option.map_some, String.ofList_toList]

end texts

def natural? (cs : List Char) : Option (Nat × List Char) :=
  match cs.takeWhile Char.isDigit with
  | [] => none
  | ds => some (Nat.ofDigitChars 10 ds 0, cs.dropWhile Char.isDigit)

def integer? : List Char → Option (Int × List Char)
  | [] => none
  | c :: rest =>
    if c = '-' then (natural? rest).map fun p => (-(p.1 : Int), p.2)
    else (natural? (c :: rest)).map fun p => ((p.1 : Int), p.2)

section integers

variable {rest : List Char}

def NoDigit (rest : List Char) : Prop := ∀ c ∈ rest.head?, c.isDigit = false

theorem isDigit_of_mem_digits {n : Nat} {c : Char} (h : c ∈ Nat.toDigits 10 n) :
    c.isDigit = true :=
  Nat.isDigit_of_mem_toDigits (by decide) (by decide) h

theorem digits_cons (n : Nat) : ∃ c cs, Nat.toDigits 10 n = c :: cs ∧ c.isDigit = true := by
  cases hn : Nat.toDigits 10 n with
  | nil => exact absurd hn Nat.toDigits_ne_nil
  | cons c cs => exact ⟨c, cs, rfl, isDigit_of_mem_digits (hn ▸ List.mem_cons_self)⟩

/-- An integer's text is that of a natural number, or the same after a sign. -/
theorem toList_repr_int (n : Int) :
    (∃ k : Nat, n = k ∧ n.repr.toList = Nat.toDigits 10 k) ∨
      ∃ k : Nat, n = -(k : Int) ∧ n.repr.toList = '-' :: Nat.toDigits 10 k := by
  cases n with
  | ofNat k => exact .inl ⟨k, rfl, Nat.toList_repr⟩
  | negSucc k =>
    refine .inr ⟨k + 1, rfl, ?_⟩
    change ("-" ++ (k + 1).repr).toList = _
    rw [String.toList_append, Nat.toList_repr]
    rfl

theorem natural?_digits (n : Nat) (hr : NoDigit rest) :
    natural? (Nat.toDigits 10 n ++ rest) = some (n, rest) := by
  have digits : ∀ c ∈ Nat.toDigits 10 n, c.isDigit = true := fun c hc => isDigit_of_mem_digits hc
  have taken : (Nat.toDigits 10 n ++ rest).takeWhile Char.isDigit = Nat.toDigits 10 n := by
    rw [List.takeWhile_append_of_pos digits]
    cases rest with
    | nil => simp
    | cons c rest => simp [hr c rfl]
  have left : (Nat.toDigits 10 n ++ rest).dropWhile Char.isDigit = rest := by
    rw [List.dropWhile_append_of_pos digits]
    cases rest with
    | nil => simp
    | cons c rest => simp [hr c rfl]
  unfold natural?
  rw [taken, left]
  split
  · rename_i none_there
    exact absurd none_there Nat.toDigits_ne_nil
  · rw [Nat.ofDigitChars_ten_toDigits]

/-- An integer reads back as itself if no digit follows it. -/
theorem integer?_repr (n : Int) (hr : NoDigit rest) :
    integer? (n.repr.toList ++ rest) = some (n, rest) := by
  rcases toList_repr_int n with ⟨k, rfl, text⟩ | ⟨k, rfl, text⟩
  · have read := natural?_digits k hr
    obtain ⟨c, ds, hk, digit⟩ := digits_cons k
    have unsigned : c ≠ '-' := by
      rintro rfl
      exact absurd digit (by decide)
    rw [hk, List.cons_append] at read
    rw [text, hk, List.cons_append, integer?, if_neg unsigned, read]
    rfl
  · rw [text, List.cons_append, integer?, if_pos rfl, natural?_digits k hr]
    rfl

/-- No word that starts with a letter starts an integer's text. -/
theorem after_integer {w : Char} {ws : List Char} (sign : w ≠ '-') (noDigit : w.isDigit = false)
    (n : Int) : after (w :: ws) (n.repr.toList ++ rest) = none := by
  rcases toList_repr_int n with ⟨k, rfl, text⟩ | ⟨k, rfl, text⟩
  · obtain ⟨c, cs, hk, digit⟩ := digits_cons k
    have differs : w ≠ c := by
      rintro rfl
      rw [noDigit] at digit
      cases digit
    rw [text, hk, List.cons_append, after, if_neg differs]
  · rw [text, List.cons_append, after, if_neg sign]

end integers

end SchemaChecks.Source
