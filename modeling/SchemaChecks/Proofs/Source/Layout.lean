import SchemaChecks.Module.Statement
import SchemaChecks.Proofs.Source.Literal

/-!
Lines of the generated source and how they nest. A line may hold line ends inside a documentation
string, and a line that stands four places further in than the one above belongs to it.
-/

namespace SchemaChecks.Source

/-- Where a scanner stands in the source: in code, at the first quotes of a text, in a text on one
line or in a long one between three quotes, or behind a backslash in either. -/
inductive Mode where
  | code
  | opened (quote : Char)
  | openedTwice (quote : Char)
  | short (quote : Char)
  | shortEscape (quote : Char)
  | long (quote : Char) (closing : Nat)
  | longEscape (quote : Char)
  deriving DecidableEq, Repr

namespace Mode

def endsLine : Mode → Bool
  | .long _ _ | .longEscape _ => false
  | _ => true

def step : Mode → Char → Mode
  | .code, c => if isQuote c then .opened c else .code
  | .opened q, c =>
    if c = q then .openedTwice q else if c = '\\' then .shortEscape q else .short q
  | .openedTwice q, c => if c = q then .long q 0 else if isQuote c then .opened c else .code
  | .short q, c => if c = q then .code else if c = '\\' then .shortEscape q else .short q
  | .shortEscape q, _ => .short q
  | .long q closing, c =>
    if c = q then (if closing = 2 then .code else .long q (closing + 1))
    else if c = '\\' then .longEscape q
    else .long q 0
  | .longEscape q, _ => .long q 0

end Mode

def linesFrom : Mode → List Char → List (List Char)
  | _, [] => [[]]
  | m, c :: rest =>
    if c = '\n' && m.endsLine then [] :: linesFrom .code rest
    else
      match linesFrom (m.step c) rest with
      | [] => [[c]]
      | line :: more => (c :: line) :: more

/-- The mode behind a text that does not end the line. -/
def passes : Mode → List Char → Option Mode
  | m, [] => some m
  | m, c :: rest => if c = '\n' && m.endsLine then none else passes (m.step c) rest

theorem linesFrom_ne_nil (m : Mode) (cs : List Char) : linesFrom m cs ≠ [] := by
  cases cs with
  | nil => simp [linesFrom]
  | cons c rest =>
    unfold linesFrom
    split
    · simp
    · split <;> simp

theorem linesFrom_append {m m' : Mode} {cs rest : List Char} (hp : passes m cs = some m') :
    linesFrom m (cs ++ rest) = match linesFrom m' rest with
      | [] => [cs]
      | line :: more => (cs ++ line) :: more := by
  induction cs generalizing m with
  | nil =>
    obtain rfl := Option.some.inj hp
    cases hl : linesFrom m rest with
    | nil => exact absurd hl (linesFrom_ne_nil m rest)
    | cons line more => simpa using hl
  | cons c cs ih =>
    unfold passes at hp
    split at hp
    · cases hp
    · rename_i inside
      rw [List.cons_append, linesFrom, if_neg inside, ih hp]
      cases linesFrom m' rest <;> simp

/-- Whole lines come out as they are. -/
theorem linesFrom_lines {ls : List (List Char)} (whole : ∀ l ∈ ls, passes .code l = some .code) :
    linesFrom .code (ls.flatMap fun l => l ++ ['\n']) = ls ++ [[]] := by
  induction ls with
  | nil => rfl
  | cons l ls ih =>
    have hl := whole l List.mem_cons_self
    have more := ih fun l hl => whole l (List.mem_cons_of_mem _ hl)
    rw [List.flatMap_cons, List.append_assoc, linesFrom_append hl, List.singleton_append, linesFrom]
    simp [Mode.endsLine, more]

theorem passes_append (m : Mode) (cs rest : List Char) :
    passes m (cs ++ rest) = (passes m cs).bind fun m' => passes m' rest := by
  induction cs generalizing m with
  | nil => rfl
  | cons c cs ih =>
    simp only [List.cons_append, passes]
    split
    · rfl
    · exact ih _

def IsPlain (c : Char) : Prop := c ≠ '\n' ∧ isQuote c = false

instance (c : Char) : Decidable (IsPlain c) := inferInstanceAs (Decidable (_ ∧ _))

def IsPlainText (cs : List Char) : Prop := ∀ c ∈ cs, IsPlain c

instance (cs : List Char) : Decidable (IsPlainText cs) := List.decidableBAll _ cs

theorem passes_plain {cs : List Char} (plain : IsPlainText cs) (rest : List Char) :
    passes .code (cs ++ rest) = passes .code rest := by
  induction cs with
  | nil => rfl
  | cons c cs ih =>
    obtain ⟨sameLine, noQuote⟩ := plain c List.mem_cons_self
    simp only [List.cons_append, passes, sameLine, Mode.step, noQuote]
    simpa using ih fun c hc => plain c (List.mem_cons_of_mem _ hc)

theorem isPlainText_append {cs more : List Char} (h : IsPlainText cs) (hm : IsPlainText more) :
    IsPlainText (cs ++ more) := by
  intro c hc
  rcases List.mem_append.mp hc with hc | hc
  · exact h c hc
  · exact hm c hc

theorem passes_plainText {cs : List Char} (plain : IsPlainText cs) :
    passes .code cs = some .code := by
  have := passes_plain plain []
  rwa [List.append_nil] at this

/-- Characters of a kind that has no line end and no quote in it. -/
theorem isPlain_of_kind {kind : Char → Bool} {c : Char} (h : kind c = true)
    (line : kind '\n' = false) (single : kind '\'' = false) (double : kind '"' = false) :
    IsPlain c := by
  constructor
  · rintro rfl
    rw [line] at h
    cases h
  · refine Bool.eq_false_iff.mpr fun hq => ?_
    have : c = '\'' ∨ c = '"' := by simpa [isQuote] using hq
    rcases this with rfl | rfl
    · rw [single] at h
      cases h
    · rw [double] at h
      cases h

section quotedTexts

open Text.Quoted

variable {q c : Char} {rest : List Char}

theorem passes_hexDigits (hq : isQuote q = true) (w n : Nat) :
    passes (.short q) (hexDigits w n ++ rest) = passes (.short q) rest := by
  induction w with
  | zero => rfl
  | succ w ih =>
    have digit : ∀ d < 16,
        hexDigit d ≠ '\n' ∧ hexDigit d ≠ '\\' ∧ isQuote (hexDigit d) = false := by
      decide
    obtain ⟨sameLine, noEscape, noQuote⟩ := digit (n / 16 ^ w % 16) (Nat.mod_lt _ (by decide))
    have inside : hexDigit (n / 16 ^ w % 16) ≠ q := by
      intro h
      rw [h, hq] at noQuote
      cases noQuote
    rw [hexDigits_succ, List.cons_append, passes]
    simpa [sameLine, Mode.step, inside, noEscape] using ih

/-- One character of a quoted text keeps the scanner in it, at its start as later on. -/
theorem passes_encodeChar (hq : isQuote q = true) {m : Mode} (hm : m = .opened q ∨ m = .short q) :
    passes m (encodeChar q c ++ rest) = passes (.short q) rest := by
  have slash : ('\\' : Char) ≠ q := by
    rintro rfl
    exact absurd hq (by decide)
  have behindSlash : ∀ (x : Char) (xs : List Char), x ≠ '\n' →
      passes m ('\\' :: x :: xs) = passes (.short q) xs := by
    intro x xs hx
    rcases hm with rfl | rfl <;> simp [passes, Mode.step, Mode.endsLine, slash, hx]
  unfold encodeChar
  split
  · rename_i special
    have sameLine : c ≠ '\n' := by
      rintro rfl
      have : '\n' = q := by simpa using special
      subst this
      exact absurd hq (by decide)
    exact behindSlash c rest sameLine
  · rename_i ordinary
    have ordinary : c ≠ q ∧ c ≠ '\\' := by simpa using ordinary
    split
    · exact behindSlash 't' rest (by decide)
    split
    · exact behindSlash 'n' rest (by decide)
    split
    · exact behindSlash 'r' rest (by decide)
    rename_i notTab notNewline notReturn
    split
    · rcases hm with rfl | rfl <;> simp [passes, Mode.step, ordinary, notNewline]
    split
    · rw [List.cons_append, List.cons_append, behindSlash 'x' _ (by decide), passes_hexDigits hq]
    split
    · rw [List.cons_append, List.cons_append, behindSlash 'u' _ (by decide), passes_hexDigits hq]
    · rw [List.cons_append, List.cons_append, behindSlash 'U' _ (by decide), passes_hexDigits hq]

theorem passes_encodeChars (hq : isQuote q = true) (cs : List Char) :
    passes (.short q) (cs.flatMap (encodeChar q) ++ rest) = passes (.short q) rest := by
  induction cs with
  | nil => rfl
  | cons c cs ih => rw [List.flatMap_cons, List.append_assoc, passes_encodeChar hq (.inr rfl), ih]

/-- A quoted text before a plain character ends where its closing quote stands. -/
theorem passes_quoted (s : String) (plain : IsPlain c) :
    passes .code ((Text.quoted s).toList ++ c :: rest) = passes .code rest := by
  obtain ⟨sameLine, noQuote⟩ := plain
  have hq := isQuote_quoteFor s.toList
  simp only [Text.quoted, encode, String.toList_ofList]
  generalize quoteFor s.toList = q at hq
  have opens : q ≠ '\n' := by
    rintro rfl
    exact absurd hq (by decide)
  have other : c ≠ q := by
    rintro rfl
    rw [hq] at noQuote
    cases noQuote
  simp only [List.cons_append, List.append_assoc, List.nil_append, passes]
  cases s.toList with
  | nil => simp [passes, Mode.step, hq, opens, other, sameLine, noQuote]
  | cons d ds =>
    have body := @passes_encodeChars q (q :: c :: rest) hq ds
    simp only [opens, decide_false, Bool.false_and, Bool.false_eq_true, if_false, Mode.step, hq,
      if_true]
    rw [List.flatMap_cons, List.append_assoc, passes_encodeChar hq (.inl rfl)]
    simpa [passes, Mode.step, opens, sameLine, noQuote] using body

end quotedTexts

def staysLong : Mode → List Char → Option Mode
  | m, [] => some m
  | m, c :: rest => if m.endsLine then none else staysLong (m.step c) rest

theorem passes_of_staysLong {m m' : Mode} {cs : List Char} (h : staysLong m cs = some m') :
    passes m cs = some m' := by
  induction cs generalizing m with
  | nil => exact h
  | cons c cs ih =>
    unfold staysLong at h
    split at h
    · cases h
    · rename_i inside
      simpa [passes, inside] using ih h

section documentation

variable {rest : List Char}

def isOrdinary (c : Char) : Bool := c ≠ '"' && c ≠ '\\'

theorem staysLong_ordinary {cs : List Char} (inside : cs.all isOrdinary = true) :
    staysLong (.long '"' 0) (cs ++ rest) = staysLong (.long '"' 0) rest := by
  induction cs with
  | nil => rfl
  | cons c cs ih =>
    rw [List.all_cons, Bool.and_eq_true] at inside
    obtain ⟨noQuote, noEscape⟩ : c ≠ '"' ∧ c ≠ '\\' := by simpa [isOrdinary] using inside.1
    simp only [List.cons_append, staysLong, Mode.endsLine, Bool.false_eq_true, if_false, Mode.step,
      noQuote, noEscape]
    exact ih inside.2

theorem staysLong_docText (s : String) :
    staysLong (.long '"' 0) ((docText s).toList ++ rest) = staysLong (.long '"' 0) rest := by
  rw [docText, String.toList_ofList]
  induction s.toList with
  | nil => rfl
  | cons c cs ih =>
    rw [List.flatMap_cons, List.append_assoc]
    split
    · rename_i special
      simpa [staysLong, Mode.endsLine, Mode.step] using ih
    · rename_i ordinary
      have inside : c ≠ '\\' ∧ c ≠ '"' := by simpa using ordinary
      simpa [staysLong, Mode.endsLine, Mode.step, inside] using ih

def tripleQuote : List Char := ['"', '"', '"']

theorem staysLong_tripleQuote : staysLong (.long '"' 0) tripleQuote = some .code := by
  decide

def isRemark (line : List Char) : Bool :=
  (after tripleQuote line).any fun body => staysLong (.long '"' 0) body = some .code

theorem passes_of_isRemark {line : List Char} (h : isRemark line = true) :
    passes .code line = some .code := by
  simp only [isRemark, Option.any_eq_true, decide_eq_true_eq] at h
  obtain ⟨body, starts, closes⟩ := h
  have opens : passes .code tripleQuote = some (.long '"' 0) := by decide
  rw [after_eq_some.mp starts, passes_append, opens, Option.bind_some]
  exact passes_of_staysLong closes

end documentation

inductive Forest where
  | nil
  | cons (line : List Char) (inner rest : Forest)
  deriving DecidableEq, Repr

abbrev Line := Nat × List Char

abbrev Root := Nat × List Char × Forest

namespace Forest

def indentation : Nat := 4

def lines (n : Nat) : Forest → List Line
  | nil => []
  | cons line inner rest => (n, line) :: inner.lines (n + indentation) ++ rest.lines n

def roots (n : Nat) : Forest → List Root
  | nil => []
  | cons line inner rest => (n, line, inner) :: rest.roots n

def ofRoots : List Root → Forest
  | [] => nil
  | (_, line, inner) :: rest => cons line inner (ofRoots rest)

def All (P : List Char → Prop) : Forest → Prop
  | nil => True
  | cons line inner rest => P line ∧ inner.All P ∧ rest.All P

theorem All.mem_lines {P : List Char → Prop} {f : Forest} (h : f.All P) (n : Nat) :
    ∀ l ∈ f.lines n, P l.2 := by
  induction f generalizing n with
  | nil => simp [lines]
  | cons line inner rest ihInner ihRest =>
    obtain ⟨first, below, behind⟩ := h
    intro l hl
    rw [lines, List.cons_append] at hl
    rcases List.mem_cons.mp hl with rfl | hl
    · exact first
    rcases List.mem_append.mp hl with hl | hl
    · exact ihInner below _ l hl
    · exact ihRest behind _ l hl

theorem All.imp {P Q : List Char → Prop} (hpq : ∀ l, P l → Q l) {f : Forest}
    (h : f.All P) : f.All Q := by
  induction f with
  | nil => trivial
  | cons line inner rest ihInner ihRest => exact ⟨hpq _ h.1, ihInner h.2.1, ihRest h.2.2⟩

@[simp] theorem ofRoots_roots (f : Forest) (n : Nat) : ofRoots (f.roots n) = f := by
  induction f with
  | nil => rfl
  | cons line inner rest _ ih => simp [roots, ofRoots, ih]

theorem roots_indentation (f : Forest) (n : Nat) : ∀ r ∈ f.roots n, r.1 = n := by
  induction f with
  | nil => simp [roots]
  | cons line inner rest _ ih => simpa [roots] using ih

end Forest

/-- A line takes the lines below it that stand further in. -/
def gather (l : Line) (below : List Root) : Option (List Root) :=
  let inner := below.takeWhile fun r => l.1 < r.1
  if inner.all fun r => r.1 = l.1 + Forest.indentation then
    some ((l.1, l.2, Forest.ofRoots inner) :: below.dropWhile fun r => l.1 < r.1)
  else none

def gatherAll (ls : List Line) (below : List Root) : Option (List Root) :=
  ls.foldr (fun l acc => acc.bind (gather l)) (some below)

def nesting? (ls : List Line) : Option Forest :=
  (gatherAll ls []).bind fun roots =>
    if roots.all fun r => r.1 = 0 then some (Forest.ofRoots roots) else none

theorem gatherAll_append (ls more : List Line) (below : List Root) :
    gatherAll (ls ++ more) below = (gatherAll more below).bind (gatherAll ls) := by
  unfold gatherAll
  rw [List.foldr_append]
  cases more.foldr (fun l acc => acc.bind (gather l)) (some below) with
  | none =>
    induction ls with
    | nil => rfl
    | cons l ls ih => rw [List.foldr_cons, ih]; rfl
  | some roots => rfl

theorem gatherAll_lines (f : Forest) (n : Nat) {below : List Root}
    (outer : ∀ r ∈ below.head?, r.1 ≤ n) :
    gatherAll (f.lines n) below = some (f.roots n ++ below) := by
  induction f generalizing n below with
  | nil => rfl
  | cons line inner rest ihInner ihRest =>
    have further : ∀ r ∈ inner.roots (n + Forest.indentation), decide (n < r.1) = true := by
      intro r hr
      rw [Forest.roots_indentation inner _ r hr]
      simp [Forest.indentation]
    have stops : ∀ r ∈ (rest.roots n ++ below).head?, r.1 ≤ n := by
      cases rest with
      | nil => exact outer
      | cons line inner rest => simp [Forest.roots]
    have taken : (inner.roots (n + Forest.indentation) ++ (rest.roots n ++ below)).takeWhile
        (fun r => decide (n < r.1)) = inner.roots (n + Forest.indentation) := by
      rw [List.takeWhile_append_of_pos further]
      cases hb : rest.roots n ++ below with
      | nil => simp
      | cons r more =>
        have : ¬ n < r.1 := Nat.not_lt.mpr (stops r (by simp [hb]))
        simp [this]
    have left : (inner.roots (n + Forest.indentation) ++ (rest.roots n ++ below)).dropWhile
        (fun r => decide (n < r.1)) = rest.roots n ++ below := by
      rw [List.dropWhile_append_of_pos further]
      cases hb : rest.roots n ++ below with
      | nil => simp
      | cons r more =>
        have : ¬ n < r.1 := Nat.not_lt.mpr (stops r (by simp [hb]))
        simp [this]
    have innerStops : ∀ r ∈ (rest.roots n ++ below).head?, r.1 ≤ n + Forest.indentation :=
      fun r hr => Nat.le_add_right_of_le (stops r hr)
    have level : (inner.roots (n + Forest.indentation)).all
        (fun r => r.1 = n + Forest.indentation) = true := by
      simpa using Forest.roots_indentation inner (n + Forest.indentation)
    rw [Forest.lines, List.cons_append]
    change (gatherAll (inner.lines (n + Forest.indentation) ++ rest.lines n) below).bind
      (gather (n, line)) = _
    rw [gatherAll_append, ihRest n outer, Option.bind_some, ihInner _ innerStops, Option.bind_some]
    unfold gather
    simp only [taken, left, level, if_true, Forest.ofRoots_roots]
    rfl

/-- Lines that were laid out read back as they nest. -/
theorem nesting?_lines (f : Forest) : nesting? (f.lines 0) = some f := by
  unfold nesting?
  rw [gatherAll_lines f 0 (by simp)]
  have level : (f.roots 0).all (fun r => r.1 = 0) = true := by
    simpa using Forest.roots_indentation f 0
  simp [level]

def isBlankLine (cs : List Char) : Bool := cs.all (· = ' ')

def measured (cs : List Char) : Line :=
  ((cs.takeWhile (· = ' ')).length, cs.dropWhile (· = ' '))

def indented (l : Line) : List Char := List.replicate l.1 ' ' ++ l.2

def IsFlush (cs : List Char) : Prop := ∃ c rest, cs = c :: rest ∧ c ≠ ' '

instance (line : List Char) : Decidable (IsFlush line) :=
  match line with
  | [] => isFalse fun ⟨_, _, h, _⟩ => by cases h
  | c :: rest =>
    if h : c ≠ ' ' then isTrue ⟨c, rest, rfl, h⟩
    else isFalse fun ⟨d, _, he, hd⟩ => by cases he; exact h hd

theorem isFlush_append {cs : List Char} (h : IsFlush cs) (more : List Char) :
    IsFlush (cs ++ more) := by
  obtain ⟨c, rest, rfl, hc⟩ := h
  exact ⟨c, rest ++ more, rfl, hc⟩

theorem measured_indented {l : Line} (flush : IsFlush l.2) : measured (indented l) = l := by
  obtain ⟨n, line⟩ := l
  obtain ⟨c, rest, rfl, hc⟩ := flush
  have blanks : ∀ x ∈ List.replicate n ' ', decide (x = ' ') = true := by
    intro x hx
    simpa using List.eq_of_mem_replicate hx
  simp only [measured, indented, List.takeWhile_append_of_pos blanks,
    List.dropWhile_append_of_pos blanks]
  simp [hc]

theorem not_isBlankLine_indented {l : Line} (flush : IsFlush l.2) :
    isBlankLine (indented l) = false := by
  obtain ⟨c, rest, hl, hc⟩ := flush
  simp [isBlankLine, indented, hl, hc]

def kept (ls : List (List Char)) : List (List Char) := ls.filter fun l => !isBlankLine l

theorem kept_append (ls more : List (List Char)) : kept (ls ++ more) = kept ls ++ kept more :=
  List.filter_append ls more

namespace Forest

def source (n : Nat) (f : Forest) : List (List Char) := (f.lines n).map indented

@[simp] theorem source_nil (n : Nat) : source n nil = [] := rfl

@[simp] theorem source_cons (n : Nat) (line : List Char) (inner rest : Forest) :
    source n (cons line inner rest) =
      indented (n, line) :: (inner.source (n + indentation) ++ rest.source n) := by
  simp [source, lines]

theorem kept_source {f : Forest} (flush : f.All IsFlush) (n : Nat) :
    kept (f.source n) = f.source n := by
  refine List.filter_eq_self.mpr ?_
  intro cs hcs
  obtain ⟨l, hl, rfl⟩ := List.mem_map.mp hcs
  rw [not_isBlankLine_indented (flush.mem_lines n l hl)]
  rfl

theorem measured_source {f : Forest} (flush : f.All IsFlush) (n : Nat) :
    (f.source n).map measured = f.lines n := by
  rw [source, List.map_map]
  refine (List.map_congr_left fun l hl => ?_).trans (List.map_id _)
  exact measured_indented (flush.mem_lines n l hl)

end Forest

/-- Written lines read back as they nest, whatever blank lines stand between them. -/
theorem nesting?_of_kept {ls : List (List Char)} {f : Forest} (flush : f.All IsFlush)
    (same : kept ls = kept (f.source 0)) : nesting? ((kept ls).map measured) = some f := by
  rw [same, f.kept_source flush, f.measured_source flush]
  exact nesting?_lines f

end SchemaChecks.Source
