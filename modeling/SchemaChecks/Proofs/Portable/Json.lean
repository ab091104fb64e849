import SchemaChecks.Proofs.Portable.Page

/-!
The reader of JSON gives the value of every such document.
-/

namespace SchemaChecks.Portable

/-! ### Gaps and words -/

theorem skipSpace_gap (g : Gap) (rest : List Char) :
    Json.skipSpace (g.chars ++ rest) = Json.skipSpace rest := by
  induction g with
  | nil => rfl
  | cons b g ih =>
    have blank : Json.isSpace b.char = true := by cases b <;> rfl
    change List.dropWhile Json.isSpace (b.char :: (Gap.chars g ++ rest)) = _
    rw [List.dropWhile_cons, if_pos blank]
    exact ih

theorem skipSpace_of_not {c : Char} (h : Json.isSpace c = false) (rest : List Char) :
    Json.skipSpace (c :: rest) = c :: rest := by
  rw [Json.skipSpace, List.dropWhile_cons, if_neg (by simp [h])]

theorem IsStart.not_space {c : Char} (h : IsStart c) : Json.isSpace c = false := by
  rcases h with rfl | rfl | rfl | word
  iterate 3 rfl
  have ne := fun d => word.ne (d := d)
  simp only [Json.isSpace, Bool.or_eq_false_iff, decide_eq_false_iff_not]
  refine ⟨⟨⟨ne ' ' ?_ ?_ ?_ ?_ ?_, ne '\t' ?_ ?_ ?_ ?_ ?_⟩, ne '\n' ?_ ?_ ?_ ?_ ?_⟩,
    ne '\r' ?_ ?_ ?_ ?_ ?_⟩ <;> decide

theorem skipSpace_form (f : Form) (rest : List Char) :
    Json.skipSpace (f.chars ++ rest) = f.chars ++ rest := by
  obtain ⟨c, more, chars, start⟩ := f.chars_start
  rw [chars, List.cons_append, skipSpace_of_not start.not_space]

/-- No digits go on, nor a number in another way. -/
theorem Follows.no_number {rest : List Char} (h : Follows rest) :
    ∃ c more, rest = c :: more ∧ c.isDigit = false ∧ c ≠ '.' ∧ c ≠ 'e' ∧ c ≠ 'E' := by
  obtain ⟨c, more, rfl, rfl | rfl | rfl | rfl | rfl⟩ := h <;>
    exact ⟨_, more, rfl, by decide, by decide, by decide, by decide⟩

theorem takeWhile_digits {digits rest : List Char} (h : ∀ d ∈ digits, d.isDigit = true)
    (stops : ∀ c ∈ rest.head?, c.isDigit = false) :
    (digits ++ rest).takeWhile Char.isDigit = digits ∧
      (digits ++ rest).dropWhile Char.isDigit = rest := by
  rw [List.takeWhile_append_of_pos h, List.dropWhile_append_of_pos h]
  cases rest with
  | nil => simp
  | cons c more =>
    have stop := stops c rfl
    simp [stop]

theorem IsWhole.read {digits rest : List Char} (h : IsWhole digits)
    (stops : ∀ c ∈ rest.head?, c.isDigit = false) :
    Json.wholePart? (digits ++ rest) = some (digits, rest) := by
  obtain ⟨c, more, rfl, all⟩ := h.digits
  by_cases zero : c = '0'
  · subst zero
    have single : some (['0'], more) = some ('0' :: more, []) := h
    cases single
    rfl
  · have run := takeWhile_digits (fun d hd => all d (List.mem_cons_of_mem _ hd)) stops
    rw [List.cons_append, Json.wholePart?]
    · rw [if_pos (all c List.mem_cons_self), run.1, run.2]
    · exact zero

theorem Exponent.read (e : Exponent) {rest : List Char}
    (stops : ∀ c ∈ rest.head?, c.isDigit = false) :
    Json.exponentPart (e.chars ++ rest) = (some e.value, rest) := by
  obtain ⟨capital, negative, digits, nonempty, all⟩ := e
  have run := takeWhile_digits (List.all_eq_true.mp all) stops
  have mark : ((if capital then 'E' else 'e') = 'e' ∨ (if capital then 'E' else 'e') = 'E') := by
    cases capital <;> simp
  have sign : Number.splitSign ((if negative then '-' else '+') :: (digits ++ rest)) =
      (negative, digits ++ rest) := by
    cases negative <;> rfl
  simp only [Exponent.chars, List.cons_append, Json.exponentPart, sign, run.1, run.2]
  simp only [Bool.or_eq_true, decide_eq_true_eq]
  rw [if_pos mark, if_neg (by simpa using nonempty)]
  rfl

theorem IsWhole.split_sign {digits : List Char} (h : IsWhole digits) (negative : Bool)
    (rest : List Char) :
    (match signChars negative ++ (digits ++ rest) with
      | '-' :: rest => (true, rest)
      | rest => (false, rest)) = (negative, digits ++ rest) := by
  cases negative with
  | true => rfl
  | false =>
    obtain ⟨c, more, rfl, all⟩ := h.digits
    have digit := all c List.mem_cons_self
    change (match c :: (more ++ rest) with
      | '-' :: rest => (true, rest)
      | rest => (false, rest)) = _
    split
    · rename_i same
      rw [(List.cons.inj same).1] at digit
      exact absurd digit (by decide)
    · rfl

theorem number_whole (negative : Bool) {digits rest : List Char} (proper : IsWhole digits)
    (short : digits.length ≤ Number.digitLimit) (follows : Follows rest) :
    Json.number (signChars negative ++ (digits ++ rest)) =
      .ok ((Word.whole negative digits proper short).atom, rest) := by
  obtain ⟨c, more, rfl, noDigit, noPoint, noMark, noCapital⟩ := follows.no_number
  have stop : ∀ x ∈ (c :: more).head?, x.isDigit = false := by simpa using noDigit
  have whole := proper.read stop
  have fraction : Json.fractionPart (c :: more) = ([], c :: more) := by
    unfold Json.fractionPart
    split
    · rename_i h
      exact absurd (List.cons.inj h).1 noPoint
    · rfl
  have exponent : Json.exponentPart (c :: more) = (none, c :: more) := by
    simp [Json.exponentPart, noMark, noCapital]
  have bare : (([] : List Char).isEmpty && (none : Option Int).isNone) = true := rfl
  unfold Json.number
  split
  rename_i sign body parts
  cases parts.symm.trans (proper.split_sign negative (c :: more))
  rw [whole]
  dsimp only
  rw [fraction]
  dsimp only
  rw [exponent]
  dsimp only
  rw [if_pos bare, if_neg (Nat.not_lt.mpr short)]
  rfl

theorem exponentPart_optional (exponent : Option Exponent) {rest : List Char}
    (follows : Follows rest) :
    Json.exponentPart ((exponent.map Exponent.chars).getD [] ++ rest) =
      (exponent.map Exponent.value, rest) := by
  obtain ⟨c, more, rfl, noDigit, noPoint, noMark, noCapital⟩ := follows.no_number
  cases exponent with
  | none => simp [Json.exponentPart, noMark, noCapital]
  | some e => exact e.read (by simpa using noDigit)

theorem exponentChars_stop (exponent : Option Exponent) {rest : List Char}
    (follows : Follows rest) :
    ∀ c ∈ ((exponent.map Exponent.chars).getD [] ++ rest).head?, c.isDigit = false := by
  obtain ⟨c, more, rfl, noDigit, -⟩ := follows.no_number
  cases exponent with
  | none => simpa using noDigit
  | some e =>
    obtain ⟨capital, negative, digits, written⟩ := e
    cases capital <;> simp [Exponent.chars]

theorem number_fraction (negative : Bool) {digits parts rest : List Char}
    (exponent : Option Exponent) (proper : IsWhole digits) (written : IsDigits parts)
    (follows : Follows rest) :
    Json.number (signChars negative ++
        (digits ++ '.' :: (parts ++ ((exponent.map Exponent.chars).getD [] ++ rest)))) =
      .ok ((Word.fraction negative digits parts exponent proper written).atom, rest) := by
  have stop : ∀ c ∈ ('.' :: (parts ++ ((exponent.map Exponent.chars).getD [] ++ rest))).head?,
      c.isDigit = false := by simp
  have whole := proper.read stop
  have fraction :
      Json.fractionPart ('.' :: (parts ++ ((exponent.map Exponent.chars).getD [] ++ rest))) =
        (parts, (exponent.map Exponent.chars).getD [] ++ rest) := by
    cases parts with
    | nil => exact absurd rfl written.1
    | cons p ps =>
      have all := List.all_eq_true.mp written.2
      have run := takeWhile_digits (fun d hd => all d (List.mem_cons_of_mem _ hd))
        (exponentChars_stop exponent follows)
      rw [List.cons_append, Json.fractionPart, if_pos (all p List.mem_cons_self), run.1, run.2]
  have present : ¬ (parts.isEmpty && (exponent.map Exponent.value).isNone) = true := by
    simp [written.1]
  unfold Json.number
  split
  rename_i sign body split
  cases split.symm.trans (proper.split_sign negative _)
  rw [whole]
  dsimp only
  rw [fraction]
  dsimp only
  rw [exponentPart_optional exponent follows]
  dsimp only
  rw [if_neg present]
  rfl

theorem afterWord_of_head {word : String} {c d : Char} {cs rest : List Char}
    (starts : word.toList = c :: cs) (differs : d ≠ c) :
    Json.afterWord? word (d :: rest) = none := by
  simp [Json.afterWord?, starts, differs.symm]

/-- A digit, with or without a sign in front, starts no word. -/
theorem no_word_of_digit (negative : Bool) {c : Char} (digit : c.isDigit = true)
    (rest : List Char) :
    Json.words.findSome? (fun (w, a) =>
      (Json.afterWord? w (signChars negative ++ c :: rest)).map fun rest => (a, rest)) = none := by
  rw [List.findSome?_eq_none_iff]
  intro word known
  have differs : ∀ d, d.isDigit = false → c ≠ d := fun d letter same => by
    rw [same, letter] at digit
    cases digit
  have absent : Json.afterWord? word.1 (signChars negative ++ c :: rest) = none := by
    cases negative with
    | true =>
      simp only [Json.words, List.mem_cons, List.not_mem_nil, or_false] at known
      rcases known with rfl | rfl | rfl | rfl | rfl | rfl
      iterate 5 exact afterWord_of_head rfl (by decide)
      have letter := differs 'I' (by decide)
      simp [Json.afterWord?, signChars, letter.symm]
    | false =>
      simp only [Json.words, List.mem_cons, List.not_mem_nil, or_false] at known
      rcases known with rfl | rfl | rfl | rfl | rfl | rfl <;>
        exact afterWord_of_head rfl (differs _ (by decide))
  exact congrArg (Option.map fun rest => (word.2, rest)) absent

theorem atom_number (negative : Bool) {digits : List Char} (proper : IsWhole digits)
    (rest : List Char) :
    Json.atom (signChars negative ++ (digits ++ rest)) =
      Json.number (signChars negative ++ (digits ++ rest)) := by
  obtain ⟨c, more, rfl, all⟩ := proper.digits
  unfold Json.atom
  rw [List.cons_append, no_word_of_digit negative (all c List.mem_cons_self)]

theorem Word.read (w : Word) {rest : List Char} (follows : Follows rest) :
    Json.atom (w.chars ++ rest) = .ok (w.atom, rest) := by
  cases w with
  | null => rfl
  | truth b => cases b <;> rfl
  | whole negative digits proper short =>
    rw [chars, List.append_assoc, atom_number negative proper]
    exact number_whole negative proper short follows
  | fraction negative digits parts exponent proper written =>
    simp only [chars, List.append_assoc, List.cons_append]
    rw [atom_number negative proper]
    exact number_fraction negative exponent proper written follows

/-! ### Strings -/

theorem Piece.read (p : Piece) (opened fuel : Nat) (acc rest : List Char) (h : rest ≠ []) :
    Json.stringBody opened (fuel + 1) acc (p.chars ++ rest) =
      Json.stringBody opened fuel (p.value :: acc) rest := by
  cases p with
  | char c plain =>
    obtain ⟨noQuote, noEscape, printable, -, -⟩ := plain
    change Json.stringBody opened (fuel + 1) acc (c :: rest) = _
    rw [Json.stringBody]
    · rw [if_neg (Nat.not_le.mpr printable)]
      rfl
    · exact fun same => absurd same noQuote
    · exact fun same _ => absurd same noEscape
    · exact fun _ same _ => absurd same noEscape
    · exact fun _ _ same _ => absurd same noEscape
  | escape letter c stands =>
    change Json.stringBody opened (fuel + 1) acc ('\\' :: letter :: rest) = _
    rw [Json.stringBody]
    · rw [stands]
      rfl
    · rintro rfl
      cases stands
  | unit w x y z code stands single =>
    obtain ⟨e, more, rfl⟩ := List.exists_cons_of_ne_nil h
    change Json.stringBody opened (fuel + 1) acc ('\\' :: 'u' :: w :: x :: y :: z :: e :: more) = _
    have high : Json.isHighSurrogate code = false := by
      simp only [Json.isHighSurrogate, Bool.and_eq_false_iff, decide_eq_false_iff_not]
      omega
    have alone : Text.charOfCode code = Char.ofNat code := Text.charOfCode_of_single single
    rw [Json.stringBody]
    simp [Json.unicodeEscape, stands, high, alone, value]

theorem Quoted.read (q : Quoted) (opened fuel : Nat) (acc rest : List Char) :
    Json.stringBody opened (fuel + q.length + 1) acc (q.body ++ '"' :: rest) =
      .ok (String.ofList (acc.reverse ++ q.map Piece.value), rest) := by
  induction q generalizing fuel acc with
  | nil => simp [body, Json.stringBody]
  | cons p more ih =>
    have split : Quoted.body (p :: more) ++ '"' :: rest =
        p.chars ++ (Quoted.body more ++ '"' :: rest) := List.append_assoc ..
    rw [split, List.length_cons, ← Nat.add_assoc, p.read _ _ _ _ (by simp), ih]
    simp

theorem Quoted.string (q : Quoted) (rest : List Char) :
    Json.string (q.body ++ '"' :: rest) = .ok (q.text, rest) := by
  obtain ⟨spare, fuel⟩ : ∃ spare, (q.body ++ '"' :: rest).length + 1 = spare + q.length + 1 := by
    have short := q.body_length
    refine ⟨(q.body ++ '"' :: rest).length - q.length, ?_⟩
    rw [List.length_append]
    omega
  rw [Json.string, fuel, q.read]
  rfl

/-! ### Values -/

theorem skipSpace_to {c : Char} (h : Json.isSpace c = false) (g : Gap) (rest : List Char) :
    Json.skipSpace (g.chars ++ c :: rest) = c :: rest := by
  rw [skipSpace_gap, skipSpace_of_not h]

theorem replicate_space (n : Nat) : List.replicate n ' ' = Gap.chars (List.replicate n .space) :=
  (List.map_replicate (f := Blank.char) (a := .space)).symm

theorem skipSpace_to_form (g : Gap) (f : Form) (rest : List Char) :
    Json.skipSpace (g.chars ++ (f.chars ++ rest)) = f.chars ++ rest := by
  rw [skipSpace_gap, skipSpace_form]

theorem Form.starts_with (f : Form) {c : Char} {rest more : List Char}
    (h : f.chars ++ rest = c :: more) : c ≠ ']' := by
  obtain ⟨d, others, chars, start⟩ := f.chars_start
  rw [chars] at h
  cases h
  rcases start with rfl | rfl | rfl | word
  iterate 3 decide
  exact word.ne (by decide) (by decide) (by decide) (by decide) (by decide)

mutual

theorem Form.read (f : Form) {fuel depth : Nat} {rest : List Char} (enough : f.chars.length ≤ fuel)
    (fits : f.depth ≤ depth) (follows : ∀ w, f = .word w → Follows rest) :
    Json.value fuel depth (f.chars ++ rest) = .ok (f.value, rest) := by
  obtain ⟨fuel, rfl⟩ : ∃ n, fuel = n + 1 := ⟨fuel - 1, by have := f.chars_length; omega⟩
  cases f with
  | word w =>
    obtain ⟨c, more, chars, start⟩ := w.chars_start
    have ne := fun d => start.ne (d := d)
    have read := w.read (follows w rfl)
    change Json.value (fuel + 1) depth (w.chars ++ rest) = _
    rw [chars, List.cons_append] at read ⊢
    rw [Json.value]
    · rw [read]
      rfl
    · intro same
      cases same
    all_goals
      intro _ same
      refine ne _ ?_ ?_ ?_ ?_ ?_ (List.cons.inj same).1 <;> decide
  | text q =>
    have shape : Form.chars (.text q) ++ rest = '"' :: (q.body ++ '"' :: rest) := by
      simp [Form.chars, Quoted.chars]
    rw [shape, Json.value, q.string]
    rfl
  | list gap items =>
    obtain ⟨depth, rfl⟩ : ∃ n, depth = n + 1 :=
      ⟨depth - 1, by simp only [Form.depth] at fits; omega⟩
    have inner : items.depth ≤ depth := by simpa [Form.depth] using fits
    have shape : Form.chars (.list gap items) ++ rest =
        '[' :: (gap.chars ++ (items.chars true ++ rest)) := by
      simp [Form.chars]
    have short : (items.chars true).length ≤ fuel := by
      simp only [Form.chars, List.length_cons, List.length_append] at enough
      omega
    rw [shape, Json.value]
    simp only [skipSpace_gap]
    cases items with
    | nil => rfl
    | cons before form after more =>
      split
      · rename_i closes
        rw [Items.chars, commaChars, if_pos rfl, List.nil_append, List.append_assoc,
          List.append_assoc, skipSpace_to_form] at closes
        exact absurd rfl (form.starts_with closes)
      · rw [Items.read (.cons before form after more) nofun short inner]
        rfl
  | dict gap entries =>
    obtain ⟨depth, rfl⟩ : ∃ n, depth = n + 1 :=
      ⟨depth - 1, by simp only [Form.depth] at fits; omega⟩
    have inner : entries.depth ≤ depth := by simpa [Form.depth] using fits
    have shape : Form.chars (.dict gap entries) ++ rest =
        '\x7b' :: (gap.chars ++ (entries.chars true ++ rest)) := by
      simp [Form.chars]
    have short : (entries.chars true).length ≤ fuel := by
      simp only [Form.chars, List.length_cons, List.length_append] at enough
      omega
    rw [shape, Json.value]
    simp only [skipSpace_gap]
    cases entries with
    | nil => rfl
    | cons before key spaces near colon form after more =>
      split
      · rename_i closes
        rw [Entries.chars, commaChars, if_pos rfl, List.nil_append, List.append_assoc,
          skipSpace_gap] at closes
        cases closes
      · rw [Entries.read (.cons before key spaces near colon form after more) nofun short inner]
        rfl

theorem Items.read (items : Items) {fuel depth : Nat} {rest : List Char} (some : items ≠ .nil)
    (enough : (items.chars true).length ≤ fuel) (fits : items.depth ≤ depth) :
    Json.elements fuel depth (Json.skipSpace (items.chars true ++ rest)) =
      .ok (items.values, rest) := by
  cases items with
  | nil => exact absurd rfl some
  | cons before form after more =>
    have size : (Items.chars true (.cons before form after more)).length =
        before.chars.length + (form.chars.length +
          (after.chars.length + (more.chars false).length)) := by
      simp [Items.chars, commaChars]
    have shape : Items.chars true (.cons before form after more) ++ rest =
        before.chars ++ (form.chars ++ (after.chars ++ (more.chars false ++ rest))) := by
      simp [Items.chars, commaChars]
    have least := form.chars_length
    have others := more.chars_length false
    obtain ⟨fuel, rfl⟩ : ∃ n, fuel = n + 1 := ⟨fuel - 1, by omega⟩
    have deep : form.depth ≤ depth ∧ more.depth ≤ depth := by
      simpa only [Items.depth, Nat.max_le] using fits
    have short : form.chars.length ≤ fuel := by omega
    have read := Form.read form short deep.1
      (fun _ _ => (more.delimits rest).follows after)
    rw [shape, skipSpace_to_form, Json.elements, read]
    simp only [skipSpace_gap]
    cases more with
    | nil => rfl
    | cons before' form' after' more' =>
      have comma : Items.chars false (.cons before' form' after' more') =
          ',' :: Items.chars true (.cons before' form' after' more') := Items.chars_false nofun
      have left : (Items.chars true (.cons before' form' after' more')).length ≤ fuel := by
        rw [comma, List.length_cons] at size
        omega
      have next : Json.elements fuel depth (Json.skipSpace
          (Items.chars true (.cons before' form' after' more') ++ rest)) = .ok (_, rest) :=
        Items.read _ nofun left deep.2
      rw [comma, List.cons_append, skipSpace_of_not rfl]
      simp only [next]
      rfl

theorem Entries.read (entries : Entries) {fuel depth : Nat} {rest : List Char}
    (some : entries ≠ .nil) (enough : (entries.chars true).length ≤ fuel)
    (fits : entries.depth ≤ depth) :
    Json.members fuel depth (Json.skipSpace (entries.chars true ++ rest)) =
      .ok (entries.values, rest) := by
  cases entries with
  | nil => exact absurd rfl some
  | cons before key spaces near colon form after more =>
    have size : (Entries.chars true (.cons before key spaces near colon form after more)).length =
        before.chars.length + (key.chars.length + (spaces + (colon.chars.length +
          (form.chars.length + (after.chars.length + (more.chars false).length)) + 1))) := by
      simp [Entries.chars, commaChars]
    have shape : Entries.chars true (.cons before key spaces near colon form after more) ++ rest =
        before.chars ++ '"' :: (key.body ++ '"' :: (List.replicate spaces ' ' ++ ':' ::
          (colon.chars ++ (form.chars ++ (after.chars ++ (more.chars false ++ rest)))))) := by
      simp [Entries.chars, commaChars, Quoted.chars]
    have least := form.chars_length
    have others := more.chars_length false
    obtain ⟨fuel, rfl⟩ : ∃ n, fuel = n + 1 := ⟨fuel - 1, by omega⟩
    have deep : form.depth ≤ depth ∧ more.depth ≤ depth := by
      simpa only [Entries.depth, Nat.max_le] using fits
    have short : form.chars.length ≤ fuel := by omega
    have read := Form.read form short deep.1
      (fun _ _ => (more.delimits rest).follows after)
    rw [shape, skipSpace_to rfl, Json.members, Quoted.string]
    simp only [replicate_space, skipSpace_to (c := ':') rfl, skipSpace_gap, skipSpace_form, read]
    cases more with
    | nil => rfl
    | cons before' key' spaces' near' colon' form' after' more' =>
      have comma :
          Entries.chars false (.cons before' key' spaces' near' colon' form' after' more') =
            ',' :: Entries.chars true
              (.cons before' key' spaces' near' colon' form' after' more') :=
        Entries.chars_false nofun
      have left : (Entries.chars true
          (.cons before' key' spaces' near' colon' form' after' more')).length ≤ fuel := by
        rw [comma, List.length_cons] at size
        omega
      have next : Json.members fuel depth (Json.skipSpace
          (Entries.chars true
            (.cons before' key' spaces' near' colon' form' after' more') ++ rest)) =
            .ok (_, rest) :=
        Entries.read _ nofun left deep.2
      rw [comma, List.cons_append, skipSpace_of_not rfl]
      simp only [next]
      rfl

end

theorem Page.chars_start (p : Page) : ∃ c rest, p.chars = c :: rest ∧ c ≠ '\ufeff' := by
  obtain ⟨before, gap, entries, after⟩ := p
  cases before with
  | nil => exact ⟨'\x7b', _, rfl, by decide⟩
  | cons b more => cases b <;> exact ⟨_, _, rfl, by decide⟩

end SchemaChecks.Portable
