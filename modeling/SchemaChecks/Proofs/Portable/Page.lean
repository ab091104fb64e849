import Mathlib
import SchemaChecks.Proofs.JsonReading
import SchemaChecks.Proofs.Surrogate
import SchemaChecks.Yaml.Cursor

/-!
JSON objects in a form that YAML reads in the same way: tokens are set apart by spaces and line
feeds, a number with an exponent has a point and a sign for the exponent, strings hold printable
characters and escapes of whole characters, and a key has its colon on the same line and not far
away.
-/

namespace SchemaChecks.Portable

/-! ### Layout -/

inductive Blank where
  | space
  | line
  deriving DecidableEq, Repr

def Blank.char : Blank → Char
  | .space => ' '
  | .line => '\n'

abbrev Gap := List Blank

def Gap.chars (g : Gap) : List Char := g.map Blank.char

/-! ### Words and numbers -/

def IsWhole (digits : List Char) : Prop := Json.wholePart? digits = some (digits, [])

def IsDigits (digits : List Char) : Prop := digits ≠ [] ∧ digits.all Char.isDigit

instance (digits : List Char) : Decidable (IsDigits digits) := inferInstanceAs (Decidable (_ ∧ _))

structure Exponent where
  capital : Bool
  negative : Bool
  digits : List Char
  written : IsDigits digits

def signChars (negative : Bool) : List Char := if negative then ['-'] else []

def Exponent.chars (e : Exponent) : List Char :=
  (if e.capital then 'E' else 'e') :: (if e.negative then '-' else '+') :: e.digits

def Exponent.value (e : Exponent) : Int :=
  let n : Int := Number.ofDecimalDigits e.digits
  if e.negative then -n else n

inductive Word where
  | null
  | truth (b : Bool)
  | whole (negative : Bool) (digits : List Char) (proper : IsWhole digits)
      (short : digits.length ≤ Number.digitLimit)
  | fraction (negative : Bool) (digits parts : List Char) (exponent : Option Exponent)
      (proper : IsWhole digits) (written : IsDigits parts)

namespace Word

def chars : Word → List Char
  | null => ['n', 'u', 'l', 'l']
  | truth true => ['t', 'r', 'u', 'e']
  | truth false => ['f', 'a', 'l', 's', 'e']
  | whole negative digits _ _ => signChars negative ++ digits
  | fraction negative digits parts exponent _ _ =>
    signChars negative ++ (digits ++ '.' :: (parts ++ (exponent.map Exponent.chars).getD []))

def atom : Word → Atom
  | null => .null
  | truth b => .bool b
  | whole negative digits _ _ =>
    let n : Int := Number.ofDecimalDigits digits
    .int (if negative then -n else n)
  | fraction negative digits parts exponent _ _ =>
    .real (.ofDecimal negative (Number.ofDecimalDigits (digits ++ parts))
      ((exponent.map Exponent.value).getD 0 - parts.length))

end Word

/-! ### Strings -/

def IsPlain (c : Char) : Prop :=
  c ≠ '"' ∧ c ≠ '\\' ∧ 0x1f < c.toNat ∧ Yaml.isAllowed c ∧ Yaml.isBreak c = false

instance (c : Char) : Decidable (IsPlain c) := inferInstanceAs (Decidable (_ ∧ _))

inductive Piece where
  | char (c : Char) (plain : IsPlain c)
  | escape (letter c : Char) (stands : Json.escaped? letter = some c)
  /-- Four hexadecimal digits for a character that is no half of a pair. -/
  | unit (w x y z : Char) (code : Nat) (stands : Json.codeUnit? w x y z = some code)
      (single : code < 0xd800 ∨ 0xe000 ≤ code)

namespace Piece

def chars : Piece → List Char
  | char c _ => [c]
  | escape letter _ _ => ['\\', letter]
  | unit w x y z _ _ _ => ['\\', 'u', w, x, y, z]

def value : Piece → Char
  | char c _ => c
  | escape _ c _ => c
  | unit _ _ _ _ code _ _ => Char.ofNat code

end Piece

abbrev Quoted := List Piece

namespace Quoted

def body (q : Quoted) : List Char := q.flatMap Piece.chars

def chars (q : Quoted) : List Char := '"' :: (q.body ++ ['"'])

def text (q : Quoted) : String := String.ofList (q.map Piece.value)

end Quoted

/-! ### Values -/

mutual

inductive Form where
  | word (w : Word)
  | text (q : Quoted)
  | list (gap : Gap) (items : Items)
  | dict (gap : Gap) (entries : Entries)

inductive Items where
  | nil
  | cons (before : Gap) (form : Form) (after : Gap) (rest : Items)

inductive Entries where
  | nil
  | cons (before : Gap) (key : Quoted) (spaces : Nat) (near : key.chars.length + spaces ≤ 1024)
      (colon : Gap) (form : Form) (after : Gap) (rest : Entries)

end

def commaChars (first : Bool) : List Char := if first then [] else [',']

mutual

def Form.chars : Form → List Char
  | .word w => w.chars
  | .text q => q.chars
  | .list gap items => '[' :: (gap.chars ++ items.chars true)
  | .dict gap entries => '\x7b' :: (gap.chars ++ entries.chars true)

def Items.chars (first : Bool) : Items → List Char
  | .nil => [']']
  | .cons before form after rest =>
    commaChars first ++ (before.chars ++ (form.chars ++ (after.chars ++ rest.chars false)))

def Entries.chars (first : Bool) : Entries → List Char
  | .nil => ['\x7d']
  | .cons before key spaces _ colon form after rest =>
    commaChars first ++ (before.chars ++ (key.chars ++ (List.replicate spaces ' ' ++
      ':' :: (colon.chars ++ (form.chars ++ (after.chars ++ rest.chars false))))))

end

mutual

def Form.value : Form → Value
  | .word w => .scalar (.atom w.atom)
  | .text q => .scalar (.text q.text)
  | .list _ items => .list items.values
  | .dict _ entries => Value.dictOf entries.values

def Items.values : Items → List Value
  | .nil => []
  | .cons _ form _ rest => form.value :: rest.values

def Entries.values : Entries → List (Atom × Value)
  | .nil => []
  | .cons _ key _ _ _ form _ rest => (.text key.text, form.value) :: rest.values

end

mutual

def Form.depth : Form → Nat
  | .word _ => 0
  | .text _ => 0
  | .list _ items => items.depth + 1
  | .dict _ entries => entries.depth + 1

def Items.depth : Items → Nat
  | .nil => 0
  | .cons _ form _ rest => max form.depth rest.depth

def Entries.depth : Entries → Nat
  | .nil => 0
  | .cons _ _ _ _ _ form _ rest => max form.depth rest.depth

end

structure Page where
  before : Gap
  gap : Gap
  entries : Entries
  after : Gap

namespace Page

def form (p : Page) : Form := .dict p.gap p.entries

def chars (p : Page) : List Char := p.before.chars ++ (p.form.chars ++ p.after.chars)

def text (p : Page) : String := String.ofList p.chars

def value (p : Page) : Value := p.form.value

end Page

example :
    let key : Quoted := [.char 'a' (by decide), .escape 'n' '\n' rfl]
    let number : Word :=
      .fraction true ['1'] ['5'] (some ⟨false, false, ['3'], by decide⟩) rfl (by decide)
    let page : Page :=
      ⟨[], [.line], .cons [.space] key 0 (by decide) [.space] (.word number) [] .nil, [.line]⟩
    page.text = "\x7b\n \"a\\n\": -1.5e+3\x7d\n" := by
  decide

/-! ### First characters -/

def Delimits (rest : List Char) : Prop :=
  ∃ c more, rest = c :: more ∧ (c = ',' ∨ c = ']' ∨ c = '\x7d')

def Follows (rest : List Char) : Prop :=
  ∃ c more, rest = c :: more ∧ (c = ' ' ∨ c = '\n' ∨ c = ',' ∨ c = ']' ∨ c = '\x7d')

def IsWordStart (c : Char) : Prop := c = '-' ∨ c = 'n' ∨ c = 't' ∨ c = 'f' ∨ c.isDigit

def IsStart (c : Char) : Prop := c = '"' ∨ c = '[' ∨ c = '\x7b' ∨ IsWordStart c

theorem IsWordStart.ne {c : Char} (h : IsWordStart c) {d : Char} (other : d.isDigit = false)
    (minus : d ≠ '-') (n : d ≠ 'n') (t : d ≠ 't') (f : d ≠ 'f') : c ≠ d := by
  rintro rfl
  rcases h with h | h | h | h | h
  · exact minus h
  · exact n h
  · exact t h
  · exact f h
  · exact absurd h (by simp [other])

theorem IsWhole.digits {digits : List Char} (h : IsWhole digits) :
    ∃ c rest, digits = c :: rest ∧ ∀ d ∈ c :: rest, d.isDigit := by
  cases digits with
  | nil => cases h
  | cons c rest => exact ⟨c, rest, rfl, (Json.wholePart_spec h).2⟩

theorem Word.chars_start (w : Word) : ∃ c rest, w.chars = c :: rest ∧ IsWordStart c := by
  cases w with
  | null => exact ⟨'n', _, rfl, by simp [IsWordStart]⟩
  | truth b =>
    cases b with
    | true => exact ⟨'t', _, rfl, by simp [IsWordStart]⟩
    | false => exact ⟨'f', _, rfl, by simp [IsWordStart]⟩
  | whole negative digits proper short =>
    obtain ⟨c, rest, rfl, digits⟩ := proper.digits
    cases negative with
    | true => exact ⟨'-', _, rfl, by simp [IsWordStart]⟩
    | false => exact ⟨c, _, rfl, by simp [IsWordStart, digits c List.mem_cons_self]⟩
  | fraction negative digits parts exponent proper written =>
    obtain ⟨c, rest, rfl, digits⟩ := proper.digits
    cases negative with
    | true => exact ⟨'-', _, rfl, by simp [IsWordStart]⟩
    | false => exact ⟨c, _, rfl, by simp [IsWordStart, digits c List.mem_cons_self]⟩

theorem Form.chars_start (f : Form) : ∃ c rest, f.chars = c :: rest ∧ IsStart c := by
  cases f with
  | word w =>
    obtain ⟨c, rest, chars, start⟩ := w.chars_start
    exact ⟨c, rest, chars, .inr (.inr (.inr start))⟩
  | text q => exact ⟨'"', _, rfl, .inl rfl⟩
  | list gap items => exact ⟨'[', _, rfl, .inr (.inl rfl)⟩
  | dict gap entries => exact ⟨'\x7b', _, rfl, .inr (.inr (.inl rfl))⟩

theorem Delimits.follows {rest : List Char} (h : Delimits rest) (g : Gap) :
    Follows (g.chars ++ rest) := by
  cases g with
  | nil =>
    obtain ⟨c, more, rfl, h⟩ := h
    exact ⟨c, more, rfl, .inr (.inr h)⟩
  | cons b g => cases b <;> exact ⟨_, _, rfl, by simp [Blank.char]⟩

theorem Items.delimits (items : Items) (rest : List Char) :
    Delimits (items.chars false ++ rest) := by
  cases items with
  | nil => exact ⟨']', rest, rfl, by simp⟩
  | cons before form after more => exact ⟨',', _, rfl, by simp⟩

theorem Entries.delimits (entries : Entries) (rest : List Char) :
    Delimits (entries.chars false ++ rest) := by
  cases entries with
  | nil => exact ⟨'\x7d', rest, rfl, by simp⟩
  | cons before key spaces near colon form after more => exact ⟨',', _, rfl, by simp⟩

/-! ### Lengths -/

theorem Quoted.body_length (q : Quoted) : q.length ≤ q.body.length := by
  induction q with
  | nil => simp
  | cons p more ih =>
    have split : Quoted.body (p :: more) = p.chars ++ Quoted.body more := rfl
    have some : 1 ≤ p.chars.length := by cases p <;> simp [Piece.chars]
    rw [split, List.length_append, List.length_cons]
    omega

theorem Form.chars_length (f : Form) : 1 ≤ f.chars.length := by
  obtain ⟨c, rest, chars, -⟩ := f.chars_start
  simp [chars]

theorem Items.chars_false {items : Items} (some : items ≠ .nil) :
    items.chars false = ',' :: items.chars true := by
  cases items with
  | nil => exact absurd rfl some
  | cons before form after rest => rfl

theorem Entries.chars_false {entries : Entries} (some : entries ≠ .nil) :
    entries.chars false = ',' :: entries.chars true := by
  cases entries with
  | nil => exact absurd rfl some
  | cons before key spaces near colon form after rest => rfl

theorem Items.chars_length (items : Items) (first : Bool) : 1 ≤ (items.chars first).length := by
  cases items with
  | nil => exact Nat.le_refl 1
  | cons before form after rest =>
    have least := form.chars_length
    simp only [chars, List.length_append]
    omega

theorem Entries.chars_length (entries : Entries) (first : Bool) :
    1 ≤ (entries.chars first).length := by
  cases entries with
  | nil => exact Nat.le_refl 1
  | cons before key spaces near colon form after rest =>
    have least := form.chars_length
    simp only [chars, List.length_append, List.length_cons]
    omega

end SchemaChecks.Portable
