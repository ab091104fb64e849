import SchemaChecks.Proofs.Portable.Scanner

/-!
The tokens of such a document. The scanner puts a key indicator in front of a string when it comes
to the colon after it.
-/

namespace SchemaChecks.Portable

open Yaml

variable {given : List Token} {s t : Scanner} {level : Nat} {rest more : List Char}
  {tokens : List Token}

/-! ### Steps over tokens -/

theorem At.emit (h : At given s level rest tokens) (tok : Token) :
    At given (s.emit tok) level rest (tokens ++ [tok]) :=
  { h with tokens := by rw [← h.tokens, List.append_assoc]; rfl }

theorem At.moved (h : At given s level rest tokens) {c : Cursor} {g : Gap}
    (past : c.rest = g.chars ++ more) (allow : Bool) (inside : Nat) :
    At given { s with cursor := c, allowKey := allow, flowLevel := inside } inside more tokens :=
  { h with rest := ⟨g, past⟩, level := rfl }

def Passes (given : List Token) (s : Scanner) (level : Nat) (rest : List Char) (tokens : List Token)
    (allow : Bool) : Prop :=
  ∃ given' t, Leads given s given' t ∧ At given' t level rest tokens ∧
    (allow = true → t.allowKey = true)

theorem Passes.andThen {level' : Nat} {rest' : List Char} {tokens' : List Token}
    {allow allow' : Bool}
    (h : Passes given s level rest tokens allow)
    (next : ∀ given' t, At given' t level rest tokens → (allow = true → t.allowKey = true) →
      Passes given' t level' rest' tokens' allow') :
    Passes given s level' rest' tokens' allow' := by
  obtain ⟨given', t, leads, stands, allowed⟩ := h
  obtain ⟨given'', u, further, there, last⟩ := next given' t stands allowed
  exact ⟨given'', u, leads.trans further, there, last⟩

theorem At.pass_open {x : Char} {tok : Token} (h : At given s level (x :: rest) tokens)
    (bracket : x = '[' ∧ tok = .flowSequenceStart ∨ x = '\x7b' ∧ tok = .flowMappingStart) :
    Passes given s (level + 1) rest (tokens ++ [tok]) true := by
  have stops : Stops (x :: rest) := by
    rcases bracket with ⟨rfl, -⟩ | ⟨rfl, -⟩ <;> simp [Stops, isBreak]
  obtain ⟨given', s', ready⟩ := exists_ready h stops
  obtain ⟨ks, notes, range, -⟩ := ready.stands.noteCandidate
  have dispatch : s'.fetchAtToken = s'.fetchFlowStart tok := by
    have peek := peek_of_rest ready.cursor
    rcases bracket with ⟨rfl, rfl⟩ | ⟨rfl, rfl⟩ <;> simp [Scanner.fetchAtToken, peek, nul]
  obtain ⟨past, -⟩ := along_step ready.cursor (stops x rfl).2.2.2
  let t := Scanner.emit tok { s' with
    candidates := ks, flowLevel := s'.flowLevel + 1, allowKey := true, cursor := s'.cursor.step }
  have fetches : s'.fetchAtToken = .ok t := by
    rw [dispatch, Scanner.fetchFlowStart, notes]
    rfl
  have stands : At given' t (level + 1) rest (tokens ++ [tok]) := by
    have moved := (ready.stands.with_candidates range).moved (g := []) past true (level + 1)
    rw [← ready.stands.level] at moved ⊢
    exact moved.emit tok
  refine ⟨given', t, ready.leads fetches ?_ ?_ h, stands, fun _ => rfl⟩
  · simp [t, Scanner.emit, past]
  · simp [t, Scanner.emit]

theorem At.pass_close {x : Char} {tok : Token} (h : At given s (level + 1) (x :: rest) tokens)
    (bracket : x = ']' ∧ tok = .flowSequenceEnd ∨ x = '\x7d' ∧ tok = .flowMappingEnd) :
    Passes given s level rest (tokens ++ [tok]) false := by
  have stops : Stops (x :: rest) := by
    rcases bracket with ⟨rfl, -⟩ | ⟨rfl, -⟩ <;> simp [Stops, isBreak]
  obtain ⟨given', s', ready⟩ := exists_ready h stops
  obtain ⟨ks, drops, range, -⟩ := ready.stands.dropCandidate
  have dispatch : s'.fetchAtToken = s'.fetchFlowEnd tok := by
    have peek := peek_of_rest ready.cursor
    rcases bracket with ⟨rfl, rfl⟩ | ⟨rfl, rfl⟩ <;> simp [Scanner.fetchAtToken, peek, nul]
  obtain ⟨past, -⟩ := along_step ready.cursor (stops x rfl).2.2.2
  let t := Scanner.emit tok { s' with
    candidates := ks, flowLevel := s'.flowLevel - 1, allowKey := false, cursor := s'.cursor.step }
  have fetches : s'.fetchAtToken = .ok t := by
    rw [dispatch, Scanner.fetchFlowEnd, drops]
    rfl
  have stands : At given' t level rest (tokens ++ [tok]) := by
    have moved := (ready.stands.with_candidates range).moved (g := []) past false level
    have outside : s'.flowLevel - 1 = level := by
      rw [ready.stands.level]
      omega
    simp only [t, outside]
    exact moved.emit tok
  refine ⟨given', t, ready.leads fetches ?_ ?_ h, stands, by simp⟩
  · simp [t, Scanner.emit, past]
  · simp [t, Scanner.emit]

theorem At.pass_comma (h : At given s level (',' :: rest) tokens) :
    Passes given s level rest (tokens ++ [.flowEntry]) true := by
  have stops : Stops (',' :: rest) := by simp [Stops, isBreak]
  obtain ⟨given', s', ready⟩ := exists_ready h stops
  obtain ⟨ks, drops, range, -⟩ := ready.stands.dropCandidate
  have dispatch : s'.fetchAtToken = s'.fetchFlowEntry := by
    simp [Scanner.fetchAtToken, peek_of_rest ready.cursor, nul]
  obtain ⟨past, -⟩ := along_step ready.cursor rfl
  let t := Scanner.emit .flowEntry { s' with
    candidates := ks, allowKey := true, cursor := s'.cursor.step }
  have fetches : s'.fetchAtToken = .ok t := by
    rw [dispatch, Scanner.fetchFlowEntry, drops]
    rfl
  have stands : At given' t level rest (tokens ++ [.flowEntry]) := by
    have moved := (ready.stands.with_candidates range).moved (g := []) past true s'.flowLevel
    rw [ready.stands.level] at moved
    exact { moved.emit .flowEntry with level := ready.stands.level }
  refine ⟨given', t, ready.leads fetches ?_ ?_ h, stands, fun _ => rfl⟩
  · simp [t, Scanner.emit, past]
  · simp [t, Scanner.emit]

theorem Word.second_digit (w : Word) {cs : List Char} (h : w.chars = '-' :: cs) :
    ∃ d more, cs = d :: more ∧ d.isDigit := by
  cases w with
  | null => cases h
  | truth b => cases b <;> cases h
  | whole negative digits proper short =>
    obtain ⟨c, more, rfl, all⟩ := proper.digits
    cases negative with
    | true =>
      cases h
      exact ⟨c, more, rfl, all c List.mem_cons_self⟩
    | false =>
      cases h
      exact absurd (all '-' List.mem_cons_self) (by decide)
  | fraction negative digits parts exponent proper written =>
    obtain ⟨c, more, rfl, all⟩ := proper.digits
    cases negative with
    | true =>
      cases h
      exact ⟨c, _, rfl, all c List.mem_cons_self⟩
    | false =>
      cases h
      exact absurd (all '-' List.mem_cons_self) (by decide)

theorem IsWordStart.not_indicator {c : Char} (h : IsWordStart c) (minus : c ≠ '-') :
    Scanner.isIndicator c = false := by
  rcases h with rfl | rfl | rfl | rfl | digit
  · exact absurd rfl minus
  · decide
  · decide
  · decide
  · have word : IsWordChar c := .inl (by simp [Char.isAlphanum, digit])
    have noTick : c.toNat ≠ 0x60 := by
      intro tick
      have same : c = Char.ofNat 0x60 := by rw [← tick, Char.ofNat_toNat]
      rw [same] at digit
      exact absurd digit (by decide)
    have listed : "-?:,[]\x7b\x7d#&*!|>'\"%@".toList.all (!Char.isDigit ·) = true := by decide
    have noMember : ("-?:,[]\x7b\x7d#&*!|>'\"%@".toList.contains c) = false := by
      rw [Bool.eq_false_iff]
      intro member
      have other := List.all_eq_true.mp listed c (List.contains_iff_mem.mp member)
      rw [digit] at other
      cases other
    have noGap : isWideGap c = false := by
      simp [isWideGap, isGap, isEndOrBreak, word.not_break, word.ne (y := '\t') (by decide),
        word.ne (y := ' ') (by decide), word.ne (y := nul) (by decide)]
    simp only [Scanner.isIndicator, noGap, noMember, noTick, decide_false, Bool.or_false]

theorem dispatch_word (w : Word) (at_ : s.cursor.rest = w.chars ++ rest) :
    s.fetchAtToken = s.fetchPlain := by
  obtain ⟨c, more, chars, start⟩ := w.chars_start
  have word : IsWordChar c := w.chars_word c (by rw [chars]; exact List.mem_cons_self)
  have at_ : s.cursor.rest = c :: (more ++ rest) := by rw [at_, chars, List.cons_append]
  have peek : s.cursor.peek = c := peek_of_rest at_
  by_cases minus : c = '-'
  · subst minus
    obtain ⟨d, others, rfl, digit⟩ := w.second_digit chars
    have next : IsWordChar d := .inl (by simp [Char.isAlphanum, digit])
    have peekAt : s.cursor.peekAt 1 = d := by rw [Cursor.peekAt, at_]; rfl
    have noGap : isWideGap d = false := by
      simp [isWideGap, isGap, isEndOrBreak, next.not_break, next.ne (y := '\t') (by decide),
        next.ne (y := ' ') (by decide), next.ne (y := nul) (by decide)]
    have noMark : s.cursor.atDocumentMark = false := by
      have noDash : d ≠ '-' := by rintro rfl; exact absurd digit (by decide)
      unfold Cursor.atDocumentMark
      rw [at_]
      split
      · rename_i same
        exact absurd (List.cons.inj (List.cons.inj same).2).1 noDash
      · rename_i same
        cases (List.cons.inj same).1
      · rfl
    simp [Scanner.fetchAtToken, Scanner.startsPlain, peek, peekAt, noGap, noMark, nul]
  · have noPoint : c ≠ '.' := start.ne (by decide) (by decide) (by decide) (by decide) (by decide)
    have plain : Scanner.isIndicator c = false := start.not_indicator minus
    simp [Scanner.fetchAtToken, Scanner.startsPlain, peek, plain, minus, noPoint,
      word.ne (y := nul) (by decide), word.ne (y := '%') (by decide),
      word.ne (y := '[') (by decide), word.ne (y := ']') (by decide),
      word.ne (y := '\x7b') (by decide), word.ne (y := '\x7d') (by decide),
      word.ne (y := ',') (by decide), word.ne (y := '?') (by decide),
      word.ne (y := ':') (by decide), word.ne (y := '*') (by decide),
      word.ne (y := '&') (by decide), word.ne (y := '!') (by decide),
      word.ne (y := '|') (by decide), word.ne (y := '>') (by decide),
      word.ne (y := '\'') (by decide), word.ne (y := '"') (by decide)]

theorem At.pass_word (w : Word) {g : Gap}
    (h : At given s (level + 1) (w.chars ++ (g.chars ++ rest)) tokens)
    (delimits : Delimits rest) :
    Passes given s (level + 1) rest (tokens ++ [.scalar (String.ofList w.chars) true]) false := by
  have stops : Stops (w.chars ++ (g.chars ++ rest)) := by
    obtain ⟨c, more, chars, -⟩ := w.chars_start
    have word : IsWordChar c := w.chars_word c (by rw [chars]; exact List.mem_cons_self)
    rw [chars]
    rintro x ⟨⟩
    exact ⟨word.ne (by decide), word.ne (by decide), word.ne (by decide), word.not_break⟩
  obtain ⟨given', s', ready⟩ := exists_ready h stops
  obtain ⟨ks, notes, range, -⟩ := ready.stands.noteCandidate
  have inside : decide (s'.flowLevel ≠ 0) = true := by simp [ready.stands.level]
  obtain ⟨ended, c, read, past⟩ := plainScalar_read w g delimits ready.cursor s'.indent
  let t := Scanner.emit (.scalar (String.ofList w.chars) true) { s' with
    candidates := ks, cursor := c, allowKey := ended }
  have fetches : s'.fetchAtToken = .ok t := by
    rw [dispatch_word w ready.cursor, Scanner.fetchPlain, notes]
    simp only [bind, Except.bind, inside, read]
    rfl
  have stands : At given' t (level + 1) rest
      (tokens ++ [.scalar (String.ofList w.chars) true]) := by
    have moved := (ready.stands.with_candidates range).moved (g := []) past ended s'.flowLevel
    rw [ready.stands.level] at moved
    exact { moved.emit (.scalar (String.ofList w.chars) true) with level := ready.stands.level }
  refine ⟨given', t, ready.leads fetches ?_ ?_ h, stands, nofun⟩
  · have some := List.length_pos_iff.mpr w.chars_ne_nil
    simp only [t, Scanner.emit, past, List.length_append]
    omega
  · simp [t, Scanner.emit]

structure Quotes (given : List Token) (s : Scanner) (level : Nat) (rest : List Char)
    (tokens : List Token) (q : Quoted) (given' : List Token) (t : Scanner) : Prop where
  leads : Leads given s given' t
  stands : At given' t level rest (tokens ++ [.scalar q.text false])
  cursor : t.cursor.rest = rest
  candidate : s.allowKey = true → ∃ k, t.candidate? = some k ∧ k.number = tokens.length ∧
    k.line = t.cursor.line ∧ t.cursor.index = k.index + q.chars.length

theorem exists_quotes (q : Quoted) (h : At given s level (q.chars ++ rest) tokens) :
    ∃ given' t, Quotes given s level rest tokens q given' t := by
  have stops : Stops (q.chars ++ rest) := by
    rintro x ⟨⟩
    decide
  obtain ⟨given', s', ready⟩ := exists_ready h stops
  obtain ⟨ks, notes, range, noted⟩ := ready.stands.noteCandidate
  obtain ⟨c, read, past, along⟩ := quotedScalar_read q ready.cursor
  let t := Scanner.emit (.scalar q.text false) { s' with
    candidates := ks, cursor := c, allowKey := false }
  have peek : s'.cursor.peek = '"' := peek_of_rest ready.cursor
  have fetches : s'.fetchAtToken = .ok t := by
    have dispatch : s'.fetchAtToken = s'.fetchWith (quotedScalar true) := by
      simp [Scanner.fetchAtToken, peek, nul]
    rw [dispatch, Scanner.fetchWith, notes]
    simp only [bind, Except.bind, read]
    rfl
  have stands : At given' t level rest (tokens ++ [.scalar q.text false]) := by
    have moved := (ready.stands.with_candidates range).moved (g := []) past false s'.flowLevel
    rw [ready.stands.level] at moved
    exact { moved.emit (.scalar q.text false) with level := ready.stands.level }
  have shorter : t.cursor.rest.length < (q.chars ++ rest).length := by
    simp only [t, Scanner.emit, past, Quoted.chars, List.length_append, List.length_cons]
    omega
  refine ⟨given', t, ready.leads fetches shorter ?_ h, stands, past, fun allowed => ?_⟩
  · simp [t, Scanner.emit]
  · refine ⟨candidateHere s', ?_, ?_, along.line.symm, along.index⟩
    · exact congrArg (Option.map Prod.snd) (noted (ready.allowKey allowed))
    · rw [← ready.stands.tokens, List.length_append, List.length_reverse, ← ready.stands.taken]
      rfl

theorem At.pass_text (q : Quoted) (h : At given s level (q.chars ++ rest) tokens) :
    Passes given s level rest (tokens ++ [.scalar q.text false]) false := by
  obtain ⟨given', t, quotes⟩ := exists_quotes q h
  exact ⟨given', t, quotes.leads, quotes.stands, nofun⟩

/-- A token goes between what has been given out and what waits, at its place among all tokens. -/
theorem insert_between {α : Type} {xs ys before after : List α} (h : xs ++ ys = before ++ after)
    (later : xs.length ≤ before.length) (x : α) :
    xs ++ (ys.take (before.length - xs.length) ++ x :: ys.drop (before.length - xs.length)) =
      before ++ x :: after := by
  obtain ⟨more, rfl, rfl⟩ | ⟨more, rfl, rfl⟩ := List.append_eq_append_iff.mp h
  · simp
  · have none : more = [] := List.eq_nil_of_length_eq_zero (by
      rw [List.length_append] at later
      omega)
    simp [none]

theorem confirmKey_inside {k : KeyCandidate} (inside : s.flowLevel ≠ 0) :
    s.confirmKey k = Scanner.insertAt k.number .key
      { s with candidates := s.candidates.filter (·.1 ≠ s.flowLevel), allowKey := false } :=
  if_pos inside

/-- A colon makes a key of the candidate that waits. -/
theorem At.pass_colon {before after : List Token} {n : Nat} {k : KeyCandidate}
    (h : At given s (level + 1) (List.replicate n ' ' ++ ':' :: rest) (before ++ after))
    (at_ : s.cursor.rest = List.replicate n ' ' ++ ':' :: rest)
    (waits : s.candidate? = some k) (number : k.number = before.length)
    (line : k.line = s.cursor.line) (near : s.cursor.index + n ≤ k.index + 1024) :
    Passes given s (level + 1) rest (before ++ .key :: (after ++ [.value])) false := by
  have spaces : List.replicate n ' ' = Gap.chars (List.replicate n .space) := by
    simp [Gap.chars, Blank.char]
  have stops : Stops (':' :: rest) := by
    rintro x ⟨⟩
    decide
  rw [spaces] at h
  obtain ⟨given', s', ready⟩ := exists_ready h.absorb stops
  have along := ready.along n at_
  have fresh : s.isStale k = false := by
    simp only [Scanner.isStale, line, ne_eq, not_true_eq_false, decide_false, Bool.false_or,
      decide_eq_false_iff_not]
    omega
  have still : s'.isStale k = false := by
    simp only [Scanner.isStale, line, along.line, along.index, List.length_replicate, ne_eq,
      not_true_eq_false, decide_false, Bool.false_or, decide_eq_false_iff_not]
    omega
  have noted := ready.candidate k waits fresh still
  have dispatch : s'.fetchAtToken = s'.fetchValue := by
    simp [Scanner.fetchAtToken, peek_of_rest ready.cursor, nul, ready.stands.level]
  obtain ⟨past, -⟩ := along_step ready.cursor (by decide)
  let t := Scanner.emit .value { s' with
    cursor := s'.cursor.step
    candidates := s'.candidates.filter (·.1 ≠ s'.flowLevel)
    allowKey := false
    pending :=
      s'.pending.take (k.number - s'.taken) ++ .key :: s'.pending.drop (k.number - s'.taken) }
  have inside : s'.flowLevel ≠ 0 := by simp [ready.stands.level]
  have fetches : s'.fetchAtToken = .ok t := by
    rw [dispatch, Scanner.fetchValue, noted]
    simp only [confirmKey_inside inside]
    rfl
  have stands : At given' t (level + 1) rest (before ++ .key :: (after ++ [.value])) := by
    have kept := ready.stands.filtered (·.1 ≠ s'.flowLevel)
    refine { kept with rest := ⟨[], past⟩, tokens := ?_ }
    have least : given'.reverse.length ≤ before.length := by
      rw [List.length_reverse, ← ready.stands.taken, ← number]
      exact ready.stands.taken_le noted
    have inserted := insert_between ready.stands.tokens least .key
    rw [List.length_reverse] at inserted
    simp only [t, Scanner.emit, number, ready.stands.taken]
    rw [← List.append_assoc, inserted, List.append_assoc, List.cons_append]
  refine ⟨given', t, ready.leads fetches ?_ ?_ h.absorb, stands, by simp⟩
  · simp [t, Scanner.emit, past]
  · simp [t, Scanner.emit]
    omega

/-- The key of an entry, up to its colon. -/
theorem At.pass_key (q : Quoted) {n : Nat} (near : q.chars.length + n ≤ 1024)
    (allowed : s.allowKey = true)
    (h : At given s (level + 1) (q.chars ++ (List.replicate n ' ' ++ ':' :: rest)) tokens) :
    Passes given s (level + 1) rest (tokens ++ [.key, .scalar q.text false, .value]) false := by
  obtain ⟨given', t, quotes⟩ := exists_quotes q h
  obtain ⟨k, waits, number, line, index⟩ := quotes.candidate allowed
  have close : t.cursor.index + n ≤ k.index + 1024 := by omega
  obtain ⟨given'', u, leads, stands, -⟩ :=
    quotes.stands.pass_colon quotes.cursor waits number line close
  exact ⟨given'', u, quotes.leads.trans leads, stands, nofun⟩

/-! ### Values -/

def commaTokens (first : Bool) : List Token := if first then [] else [.flowEntry]

mutual

def Form.tokens : Form → List Token
  | .word w => [.scalar (String.ofList w.chars) true]
  | .text q => [.scalar q.text false]
  | .list _ items => .flowSequenceStart :: items.tokens true
  | .dict _ entries => .flowMappingStart :: entries.tokens true

def Items.tokens (first : Bool) : Items → List Token
  | .nil => [.flowSequenceEnd]
  | .cons _ form _ rest => commaTokens first ++ (form.tokens ++ rest.tokens false)

def Entries.tokens (first : Bool) : Entries → List Token
  | .nil => [.flowMappingEnd]
  | .cons _ key _ _ _ form _ rest =>
    commaTokens first ++
      (.key :: .scalar key.text false :: .value :: (form.tokens ++ rest.tokens false))

end

theorem At.pass_first {first : Bool} (h : At given s level (commaChars first ++ rest) tokens)
    (allowed : first = true → s.allowKey = true) :
    Passes given s level rest (tokens ++ commaTokens first) true := by
  cases first with
  | true => exact ⟨given, s, .refl _ _, by simpa [commaChars, commaTokens] using h,
      fun _ => allowed rfl⟩
  | false => exact h.pass_comma

mutual

theorem Form.scan {given : List Token} {s : Scanner} {level : Nat} {rest : List Char}
    {tokens : List Token} (f : Form) {after : Gap}
    (h : At given s (level + 1) (f.chars ++ (after.chars ++ rest)) tokens)
    (delimits : Delimits rest) :
    Passes given s (level + 1) rest (tokens ++ f.tokens) false :=
  match f with
  | .word w => h.pass_word w delimits
  | .text q => (h.pass_text q).andThen fun _ _ there _ => ⟨_, _, .refl _ _, there.absorb, nofun⟩
  | .list gap items => by
    have shape : (Form.list gap items).chars ++ (after.chars ++ rest) =
        '[' :: (gap.chars ++ (items.chars true ++ (after.chars ++ rest))) := by
      simp [Form.chars]
    rw [shape] at h
    refine (h.pass_open (.inl ⟨rfl, rfl⟩)).andThen fun given' t there allowed => ?_
    refine (items.scan there.absorb fun _ => allowed rfl).andThen fun _ _ there _ => ?_
    rw [List.append_assoc] at there
    exact ⟨_, _, .refl _ _, there.absorb, nofun⟩
  | .dict gap entries => by
    have shape : (Form.dict gap entries).chars ++ (after.chars ++ rest) =
        '\x7b' :: (gap.chars ++ (entries.chars true ++ (after.chars ++ rest))) := by
      simp [Form.chars]
    rw [shape] at h
    refine (h.pass_open (.inr ⟨rfl, rfl⟩)).andThen fun given' t there allowed => ?_
    refine (entries.scan there.absorb fun _ => allowed rfl).andThen fun _ _ there _ => ?_
    rw [List.append_assoc] at there
    exact ⟨_, _, .refl _ _, there.absorb, nofun⟩

theorem Items.scan {given : List Token} {s : Scanner} {level : Nat} {rest : List Char}
    {tokens : List Token} (items : Items) {first : Bool}
    (h : At given s (level + 1) (items.chars first ++ rest) tokens)
    (allowed : first = true → s.allowKey = true) :
    Passes given s level rest (tokens ++ items.tokens first) false :=
  match items with
  | .nil => h.pass_close (.inl ⟨rfl, rfl⟩)
  | .cons before form after more => by
    have shape : (Items.cons before form after more).chars first ++ rest =
        commaChars first ++ (before.chars ++ (form.chars ++ (after.chars ++
          (more.chars false ++ rest)))) := by
      simp [Items.chars]
    rw [shape] at h
    refine (h.pass_first allowed).andThen fun _ _ there _ => ?_
    refine (form.scan there.absorb (more.delimits rest)).andThen fun _ _ there _ => ?_
    refine (more.scan there nofun).andThen fun _ _ there _ => ?_
    refine ⟨_, _, .refl _ _, ?_, nofun⟩
    simpa [Items.tokens] using there

theorem Entries.scan {given : List Token} {s : Scanner} {level : Nat} {rest : List Char}
    {tokens : List Token} (entries : Entries) {first : Bool}
    (h : At given s (level + 1) (entries.chars first ++ rest) tokens)
    (allowed : first = true → s.allowKey = true) :
    Passes given s level rest (tokens ++ entries.tokens first) false :=
  match entries with
  | .nil => h.pass_close (.inr ⟨rfl, rfl⟩)
  | .cons before key spaces near colon form after more => by
    have shape : (Entries.cons before key spaces near colon form after more).chars first ++ rest =
        commaChars first ++ (before.chars ++ (key.chars ++ (List.replicate spaces ' ' ++
          ':' :: (colon.chars ++
            (form.chars ++ (after.chars ++ (more.chars false ++ rest))))))) := by
      simp [Entries.chars]
    rw [shape] at h
    refine (h.pass_first allowed).andThen fun _ _ there allowed => ?_
    refine (there.absorb.pass_key key near (allowed rfl)).andThen fun _ _ there _ => ?_
    refine (form.scan there.absorb (more.delimits rest)).andThen fun _ _ there _ => ?_
    refine (more.scan there nofun).andThen fun _ _ there _ => ?_
    refine ⟨_, _, .refl _ _, ?_, nofun⟩
    simpa [Entries.tokens] using there

end

/-! ### The whole text -/

theorem at_start (text : List Char) : At [] (Scanner.start text) 0 text [] where
  rest := ⟨[], rfl⟩
  level := rfl
  indent := rfl
  outer := rfl
  finished := rfl
  taken := rfl
  tokens := rfl
  candidates := nofun

theorem run_finished (h : s.finished = true) (fuel : Nat) :
    Scanner.run (fuel + 1) given s = ⟨given.reverse ++ s.pending, none⟩ :=
  if_pos h

/-- At the end of the text a run ends with all tokens. -/
theorem At.finish (h : At given s 0 [] tokens) {fuel : Nat} (enough : s.pending.length + 1 < fuel) :
    Scanner.run fuel given s = ⟨tokens ++ [.streamEnd], none⟩ := by
  obtain ⟨given', s', ready⟩ := exists_ready h nofun
  obtain ⟨k, short, runs⟩ := ready.run
  obtain ⟨ks, drops, -, -⟩ := ready.stands.dropCandidate
  have peek : s'.cursor.peek = nul := by
    rw [Cursor.peek, ready.cursor]
    rfl
  obtain ⟨fuel, rfl⟩ : ∃ m, fuel = m + 1 + (k + 1) := ⟨fuel - (k + 2), by omega⟩
  have fetches : s'.fetchAtToken = .ok (Scanner.emit .streamEnd
      { s' with allowKey := false, candidates := [], finished := true }) := by
    rw [Scanner.fetchAtToken]
    simp only [peek, if_true, Scanner.fetchStreamEnd, ready.stands.closeBlocks, drops]
    rfl
  rw [runs, fetches, goOn, run_finished (by exact rfl), Scanner.emit, ← List.append_assoc,
    ready.stands.tokens]

/-- The tokens of a page. -/
theorem Page.tokenStream (p : Page) :
    TokenStream.ofText p.chars = ⟨p.form.tokens ++ [.streamEnd], none⟩ := by
  have start : At [] (Scanner.start p.chars) 0
      ('\x7b' :: (p.gap.chars ++ (p.entries.chars true ++ (p.after.chars ++ [])))) [] := by
    have shape : p.chars = p.before.chars ++
        '\x7b' :: (p.gap.chars ++ (p.entries.chars true ++ (p.after.chars ++ []))) := by
      simp [chars, form, Form.chars]
    have start := at_start p.chars
    exact { start with rest := ⟨p.before, shape⟩ }
  obtain ⟨given, s, leads, stands, -⟩ :=
    (start.pass_open (.inr ⟨rfl, rfl⟩)).andThen fun _ _ there allowed =>
      p.entries.scan there.absorb fun _ => allowed rfl
  obtain ⟨k, light, runs⟩ := leads
  have whole : weight (Scanner.start p.chars) = 3 * p.chars.length := rfl
  obtain ⟨fuel, split⟩ : ∃ fuel, 8 * p.chars.length + 16 = fuel + k :=
    ⟨8 * p.chars.length + 16 - k, by omega⟩
  have enough : s.pending.length + 1 < fuel := by
    simp only [weight] at light whole
    omega
  rw [TokenStream.ofText, p.chars_allowed, split, runs, stands.absorb.finish enough]
  rfl

end SchemaChecks.Portable
