import SchemaChecks.Proofs.Portable.Lexeme
import SchemaChecks.Yaml.TokenStream

/-!
How the scanner goes from token to token of such a document. It gives tokens out while it reads;
what counts is the list of all tokens so far, given out or pending.
-/

namespace SchemaChecks.Portable

open Yaml

/-! ### States between tokens -/

/-- The scanner stands before `rest`, perhaps with a gap in between, inside `level` brackets and no
block, and has read `tokens`, of which it has given out `given`, back to front. -/
structure At (given : List Token) (s : Scanner) (level : Nat) (rest : List Char)
    (tokens : List Token) : Prop where
  rest : ∃ g : Gap, s.cursor.rest = g.chars ++ rest
  level : s.flowLevel = level
  indent : s.indent = -1
  outer : s.outer = []
  finished : s.finished = false
  taken : s.taken = given.length
  tokens : given.reverse ++ s.pending = tokens
  candidates : ∀ k ∈ s.candidates, k.2.required = false ∧ s.taken ≤ k.2.number

variable {given : List Token} {s t : Scanner} {level : Nat} {rest more : List Char}
  {tokens : List Token}

theorem At.absorb {g : Gap} (h : At given s level (g.chars ++ rest) tokens) :
    At given s level rest tokens := by
  obtain ⟨before, at_⟩ := h.rest
  have joined : s.cursor.rest = Gap.chars (before ++ g) ++ rest := by
    rw [at_, Gap.chars, Gap.chars, Gap.chars, List.map_append, List.append_assoc]
  exact { h with rest := ⟨before ++ g, joined⟩ }

theorem At.with_candidates (h : At given s level rest tokens) {ks : List (Nat × KeyCandidate)}
    (sub : ∀ k ∈ ks, k.2.required = false ∧ s.taken ≤ k.2.number) :
    At given { s with candidates := ks } level rest tokens :=
  { h with candidates := sub }

/-- Work that is left: characters to read, each for up to three steps, and tokens to give out. -/
def weight (s : Scanner) : Nat := 3 * s.cursor.rest.length + s.pending.length

/-- A run goes on as one from a later state, within the fuel that its weight allows. -/
def Leads (given : List Token) (s : Scanner) (given' : List Token) (s' : Scanner) : Prop :=
  ∃ k, k + weight s' ≤ weight s ∧
    ∀ fuel, Scanner.run (fuel + k) given s = Scanner.run fuel given' s'

theorem Leads.refl (given : List Token) (s : Scanner) : Leads given s given s :=
  ⟨0, by omega, fun _ => rfl⟩

theorem Leads.trans {given' given'' : List Token} {s' s'' : Scanner} (h : Leads given s given' s')
    (k : Leads given' s' given'' s'') : Leads given s given'' s'' := by
  obtain ⟨m, light, first⟩ := h
  obtain ⟨n, lighter, second⟩ := k
  refine ⟨n + m, by omega, fun fuel => ?_⟩
  rw [← Nat.add_assoc, first, second]

/-! ### Giving out and skipping -/

theorem At.dropStale (h : At given s level rest tokens) :
    s.dropStale = .ok { s with candidates := s.candidates.filter fun c => !s.isStale c.2 } := by
  have none : s.candidates.any (fun c => s.isStale c.2 && c.2.required) = false := by
    rw [List.any_eq_false]
    intro k hk
    simp [(h.candidates k hk).1]
  rw [Scanner.dropStale, none]
  rfl

theorem At.filtered (h : At given s level rest tokens) (p : Nat × KeyCandidate → Bool) :
    At given { s with candidates := s.candidates.filter p } level rest tokens :=
  h.with_candidates fun k hk => h.candidates k (List.mem_filter.mp hk).1

/-- A candidate for a key that is not stale stays when stale ones are given up. -/
theorem candidate_filtered {k : KeyCandidate} (noted : s.candidate? = some k)
    (p : Nat × KeyCandidate → Bool) (keeps : ∀ c, c.2 = k → p c = true) :
    Scanner.candidate? { s with candidates := s.candidates.filter p } = some k := by
  unfold Scanner.candidate? at noted ⊢
  obtain ⟨c, found, rfl⟩ := Option.map_eq_some_iff.mp noted
  have kept : (s.candidates.filter p).find? (fun c => c.1 = s.flowLevel) = some c := by
    rw [List.find?_filter]
    rw [List.find?_eq_some_iff_append] at found ⊢
    obtain ⟨here, before, after, split, others⟩ := found
    refine ⟨by simp [keeps c rfl, of_decide_eq_true here], before, after, split, fun a ha => ?_⟩
    have other := others a ha
    simp only [Bool.not_eq_true', decide_eq_false_iff_not] at other
    simp [other]
  rw [kept]
  rfl

def goOn (fuel : Nat) (given : List Token) : Scanner.Step → TokenStream
  | .error e => ⟨given.reverse, some e⟩
  | .ok s => Scanner.run fuel given s

structure Drains (given : List Token) (s : Scanner) (given' : List Token) (s' : Scanner) :
    Prop where
  cursor : s'.cursor = s.cursor
  allowKey : s'.allowKey = s.allowKey
  candidate : ∀ k, s.candidate? = some k → s.isStale k = false → s'.candidate? = some k

/-- A run gives out tokens until the first that waits may be a key, and then fetches one more. -/
theorem exists_drained (h : At given s level rest tokens) :
    ∃ given' s' k, At given' s' level rest tokens ∧ Drains given s given' s' ∧
      k + s'.pending.length ≤ s.pending.length ∧
      ∀ fuel, Scanner.run (fuel + (k + 1)) given s = goOn fuel given' s'.fetch := by
  generalize size : s.pending.length = n
  induction n generalizing given s with
  | zero =>
    refine ⟨given, s, 0, h, ⟨rfl, rfl, fun k noted _ => noted⟩, by omega, fun fuel => ?_⟩
    rw [Scanner.run, if_neg (by simp [h.finished]), List.eq_nil_of_length_eq_zero size]
    cases s.fetch <;> rfl
  | succ n ih =>
    obtain ⟨t, waiting, pending⟩ := List.exists_cons_of_length_eq_add_one size
    let kept : Scanner := { s with candidates := s.candidates.filter fun c => !s.isStale c.2 }
    have stands : At given kept level rest tokens := h.filtered _
    have noted : ∀ k, s.candidate? = some k → s.isStale k = false → kept.candidate? = some k :=
      fun k found fresh => candidate_filtered found _ fun c same => by simp [same, fresh]
    by_cases waits : kept.headIsOpen = true
    · refine ⟨given, kept, 0, stands, ⟨rfl, rfl, noted⟩, by simp [kept, size], fun fuel => ?_⟩
      rw [Scanner.run, if_neg (by simp [h.finished]), pending, h.dropStale]
      change (if kept.headIsOpen then _ else _) = _
      rw [if_pos waits]
      cases kept.fetch <;> rfl
    · let next : Scanner := { kept with pending := waiting, taken := s.taken + 1 }
      have later : At (t :: given) next level rest tokens := by
        refine { stands with taken := ?_, tokens := ?_, candidates := ?_ }
        · simp [next, h.taken]
        · rw [List.reverse_cons, List.append_assoc]
          have all := h.tokens
          rwa [pending] at all
        · intro k hk
          obtain ⟨optional, least⟩ := stands.candidates k hk
          refine ⟨optional, Nat.lt_of_le_of_ne least fun same => waits ?_⟩
          exact List.any_eq_true.mpr ⟨k, hk, decide_eq_true same.symm⟩
      have left : waiting.length = n := by
        rw [pending, List.length_cons] at size
        omega
      obtain ⟨given', s', k, stands', drains, short, runs⟩ := ih later left
      refine ⟨given', s', k + 1, stands', ?_, ?_, fun fuel => ?_⟩
      · exact ⟨drains.cursor, drains.allowKey, fun k found fresh =>
          drains.candidate k (noted k found fresh) fresh⟩
      · omega
      · rw [← runs fuel, ← Nat.add_assoc, Scanner.run, if_neg (by simp [h.finished]), pending,
          h.dropStale]
        change (if kept.headIsOpen then _ else _) = _
        rw [if_neg waits]

def Stops (rest : List Char) : Prop :=
  ∀ x ∈ rest.head?, x ≠ ' ' ∧ x ≠ '#' ∧ x ≠ '\ufeff' ∧ isBreak x = false

theorem peek_of_stops {c : Cursor} (stops : Stops rest) (at_ : c.rest = rest) :
    c.peek ≠ ' ' ∧ c.peek ≠ '#' ∧ c.lineBreak? = none := by
  cases rest with
  | nil =>
    have peek : c.peek = nul := by rw [Cursor.peek, at_]; rfl
    refine ⟨by rw [peek]; decide, by rw [peek]; decide, ?_⟩
    rw [Cursor.lineBreak?, at_]
  | cons x more =>
    obtain ⟨noSpace, noRemark, -, noBreak⟩ := stops x rfl
    rw [peek_of_rest at_]
    exact ⟨noSpace, noRemark, lineBreak_none at_ noBreak⟩

theorem skipSpaces_space {c : Cursor} (at_ : c.rest = ' ' :: rest) :
    skipSpaces c = skipSpaces c.step := by
  obtain ⟨stepped, -⟩ := along_step at_ (by decide)
  have taken : c.rest.takeWhile (fun y => decide (y = ' ')) =
      ' ' :: c.step.rest.takeWhile (fun y => decide (y = ' ')) := by
    rw [at_, stepped, List.takeWhile_cons, if_pos (by decide)]
  rw [skipSpaces, skipSpaces, Cursor.skip, Cursor.skip, Cursor.span, Cursor.span, taken]
  rfl

theorem skipSpaces_stops {c : Cursor} (noSpace : ∀ x ∈ c.rest.head?, x ≠ ' ') :
    skipSpaces c = c := by
  have taken : c.rest.takeWhile (fun y => decide (y = ' ')) = [] := by
    cases at_ : c.rest with
    | nil => rfl
    | cons x more =>
      have other := noSpace x (by rw [at_]; rfl)
      rw [List.takeWhile_cons, if_neg (by simpa using other)]
  rw [skipSpaces, Cursor.skip, Cursor.span, taken]
  rfl

/-- Skipping leads over a gap, and allows keys at most. -/
theorem skipToToken_gap (g : Gap) (stops : Stops rest) {fuel : Nat} (enough : g.length < fuel)
    (at_ : s.cursor.rest = g.chars ++ rest) :
    ∃ c allow, Scanner.skipToToken fuel s =
      { s with cursor := c, allowKey := s.allowKey || allow } ∧
      c.rest = rest ∧ ∀ n, g.chars = List.replicate n ' ' →
        Along s.cursor c (List.replicate n ' ') := by
  induction g generalizing fuel s with
  | nil =>
    obtain ⟨fuel, rfl⟩ : ∃ m, fuel = m + 1 := ⟨fuel - 1, by omega⟩
    have next : s.cursor.rest = rest := at_
    obtain ⟨noSpace, noRemark, noBreak⟩ := peek_of_stops stops next
    refine ⟨s.cursor, false, ?_, next, ?_⟩
    · have stays : skipSpaces s.cursor = s.cursor :=
        skipSpaces_stops fun x hx => (stops x (next ▸ hx)).1
      rw [Scanner.skipToToken, stays]
      simp only [noRemark, if_false, noBreak, Bool.or_false]
    · intro n none
      cases n with
      | zero => exact .refl _
      | succ n => cases none
  | cons b g ih =>
    rw [List.length_cons] at enough
    cases b with
    | space =>
      have next : s.cursor.rest = ' ' :: (Gap.chars g ++ rest) := at_
      obtain ⟨stepped, first⟩ := along_step next (by decide)
      have left : g.length < fuel := by omega
      obtain ⟨c, allow, skips, past, along⟩ :=
        ih (s := { s with cursor := s.cursor.step }) left stepped
      refine ⟨c, allow, ?_, past, ?_⟩
      · rw [← skips]
        obtain ⟨fuel, rfl⟩ : ∃ m, fuel = m + 1 := ⟨fuel - 1, by omega⟩
        rw [Scanner.skipToToken, Scanner.skipToToken, skipSpaces_space next]
      · intro n run
        cases n with
        | zero => cases run
        | succ n =>
          have tail : Gap.chars g = List.replicate n ' ' := (List.cons.inj run).2
          exact first.trans (along n tail)
    | line =>
      have next : s.cursor.rest = '\n' :: (Gap.chars g ++ rest) := at_
      obtain ⟨fuel, rfl⟩ : ∃ m, fuel = m + 1 := ⟨fuel - 1, by omega⟩
      have left : g.length < fuel := by omega
      obtain ⟨c, allow, skips, past, -⟩ :=
        ih (s := { s with cursor := s.cursor.step, allowKey := s.allowKey || s.flowLevel = 0 }) left
          (step_line next)
      refine ⟨c, decide (s.flowLevel = 0) || allow, ?_, past, ?_⟩
      · have stays : skipSpaces s.cursor = s.cursor := skipSpaces_stops (by simp [next])
        rw [Scanner.skipToToken, stays, peek_of_rest next, if_neg (by decide), lineBreak_line next]
        simp only [skips, Bool.or_assoc]
      · intro n run
        cases n with
        | zero => cases run
        | succ n => cases (List.cons.inj run).1

theorem At.skipMark (h : At given s level rest tokens) (stops : Stops rest) : s.skipMark = s := by
  obtain ⟨g, at_⟩ := h.rest
  have noMark : s.cursor.peek ≠ '\ufeff' := by
    cases g with
    | nil =>
      cases rest with
      | nil => rw [Cursor.peek, at_]; decide
      | cons x more =>
        rw [peek_of_rest at_]
        exact (stops x rfl).2.2.1
    | cons b g => cases b <;> exact peek_of_rest at_ ▸ by decide
  simp [Scanner.skipMark, noMark]

theorem At.closeBlocks (h : At given s level rest tokens) (column : Int) :
    s.closeBlocks column = s := by
  rw [Scanner.closeBlocks]
  split
  · rfl
  · rw [h.outer]
    rfl

structure Approaches (s s' : Scanner) (rest : List Char) : Prop where
  cursor : s'.cursor.rest = rest
  pending : s'.pending = s.pending
  allowKey : s.allowKey = true → s'.allowKey = true
  along : ∀ n, s.cursor.rest = List.replicate n ' ' ++ rest →
    Along s.cursor s'.cursor (List.replicate n ' ')
  candidate : ∀ k, s.candidate? = some k → s'.isStale k = false → s'.candidate? = some k

theorem exists_approached (h : At given s level rest tokens) (stops : Stops rest) :
    ∃ s', s.fetch = s'.fetchAtToken ∧ At given s' level rest tokens ∧ Approaches s s' rest := by
  obtain ⟨g, at_⟩ := h.rest
  have enough : g.length < s.cursor.rest.length + 1 := by
    rw [at_, List.length_append, Gap.chars, List.length_map]
    omega
  obtain ⟨c, allow, skips, past, along⟩ := skipToToken_gap g stops enough at_
  let there : Scanner := { s with cursor := c, allowKey := s.allowKey || allow }
  have stands : At given there level rest tokens := { h with rest := ⟨[], past⟩ }
  let s' : Scanner :=
    { there with candidates := there.candidates.filter fun k => !there.isStale k.2 }
  have stands' : At given s' level rest tokens := stands.filtered _
  refine ⟨s', ?_, stands', ?_⟩
  · rw [Scanner.fetch, h.skipMark stops, skips]
    change (there.dropStale >>= fun s => (s.closeBlocks s.cursor.column).fetchAtToken) = _
    rw [stands.dropStale]
    change (s'.closeBlocks s'.cursor.column).fetchAtToken = _
    rw [stands'.closeBlocks]
  · refine ⟨past, rfl, fun allowed => ?_, fun n run => ?_, fun k noted fresh => ?_⟩
    · change (s.allowKey || allow) = true
      rw [allowed, Bool.true_or]
    · exact along n (List.append_cancel_right (at_.symm.trans run))
    · have there_noted : there.candidate? = some k := noted
      exact candidate_filtered there_noted _ fun c same => by
        have fresh : there.isStale k = false := fresh
        simp [same, fresh]

structure Ready (given : List Token) (s : Scanner) (level : Nat) (rest : List Char)
    (tokens : List Token) (given' : List Token) (s' : Scanner) : Prop where
  stands : At given' s' level rest tokens
  cursor : s'.cursor.rest = rest
  allowKey : s.allowKey = true → s'.allowKey = true
  along : ∀ n, s.cursor.rest = List.replicate n ' ' ++ rest →
    Along s.cursor s'.cursor (List.replicate n ' ')
  candidate : ∀ k, s.candidate? = some k → s.isStale k = false → s'.isStale k = false →
    s'.candidate? = some k
  run : ∃ k, k + s'.pending.length ≤ s.pending.length ∧
    ∀ fuel, Scanner.run (fuel + (k + 1)) given s = goOn fuel given' s'.fetchAtToken

theorem exists_ready (h : At given s level rest tokens) (stops : Stops rest) :
    ∃ given' s', Ready given s level rest tokens given' s' := by
  obtain ⟨given', t, k, drained, drains, short, runs⟩ := exists_drained h
  obtain ⟨s', fetches, stands, approaches⟩ := exists_approached drained stops
  refine ⟨given', s', ?_⟩
  refine ⟨stands, approaches.cursor, ?_, ?_, ?_, k, ?_, ?_⟩
  · intro allowed
    exact approaches.allowKey (drains.allowKey.trans allowed)
  · intro n run
    have along := approaches.along n (drains.cursor.symm ▸ run)
    rwa [drains.cursor] at along
  · intro k noted fresh still
    exact approaches.candidate k (drains.candidate k noted fresh) still
  · rw [approaches.pending]
    exact short
  · intro fuel
    rw [runs, fetches]

/-- A token that takes a character at least and adds at most two tokens lets the run go on. -/
theorem Ready.leads {given' : List Token} {s' t : Scanner}
    (h : Ready given s level rest tokens given' s') (fetches : s'.fetchAtToken = .ok t)
    (shorter : t.cursor.rest.length < rest.length)
    (few : t.pending.length ≤ s'.pending.length + 2) (at_ : At given s level rest tokens) :
    Leads given s given' t := by
  obtain ⟨k, short, runs⟩ := h.run
  obtain ⟨g, before⟩ := at_.rest
  refine ⟨k + 1, ?_, fun fuel => ?_⟩
  · have least : rest.length ≤ s.cursor.rest.length := by
      rw [before, List.length_append]
      omega
    simp only [weight]
    omega
  · rw [runs, fetches]
    rfl

/-! ### Candidates -/

def candidateHere (s : Scanner) : KeyCandidate :=
  ⟨s.taken + s.pending.length, false, s.cursor.index, s.cursor.line, s.cursor.column⟩

theorem At.dropCandidate (h : At given s level rest tokens) :
    ∃ ks, s.dropCandidate = .ok { s with candidates := ks } ∧
      (∀ k ∈ ks, k.2.required = false ∧ s.taken ≤ k.2.number) ∧
      ∀ k ∈ ks, k.1 ≠ s.flowLevel := by
  cases found : s.candidates.find? (fun c => c.1 = s.flowLevel) with
  | none =>
    refine ⟨s.candidates, ?_, h.candidates, fun k hk => ?_⟩
    · simp only [Scanner.dropCandidate, Scanner.candidate?, found, Option.map_none]
    · simpa using List.find?_eq_none.mp found k hk
  | some c =>
    have optional := (h.candidates c (List.mem_of_find?_eq_some found)).1
    refine ⟨s.candidates.filter (·.1 ≠ s.flowLevel), ?_, fun k hk => ?_, fun k hk => ?_⟩
    · simp only [Scanner.dropCandidate, Scanner.candidate?, found, Option.map_some, optional]
      rfl
    · exact h.candidates k (List.mem_filter.mp hk).1
    · simpa using (List.mem_filter.mp hk).2

theorem At.taken_le (h : At given s level rest tokens) {k : KeyCandidate}
    (noted : s.candidate? = some k) : s.taken ≤ k.number := by
  obtain ⟨c, found, rfl⟩ := Option.map_eq_some_iff.mp noted
  exact (h.candidates c (List.mem_of_find?_eq_some found)).2

theorem At.noteCandidate (h : At given s level rest tokens) :
    ∃ ks, s.noteCandidate = .ok { s with candidates := ks } ∧
      (∀ k ∈ ks, k.2.required = false ∧ s.taken ≤ k.2.number) ∧
      (s.allowKey = true →
        ks.find? (fun c => c.1 = s.flowLevel) = some (s.flowLevel, candidateHere s)) := by
  by_cases allowed : s.allowKey = true
  · obtain ⟨ks, drops, range, others⟩ := h.dropCandidate
    refine ⟨ks ++ [(s.flowLevel, candidateHere s)], ?_, fun k hk => ?_, fun _ => ?_⟩
    · have optional : (decide (s.flowLevel = 0) && decide (s.indent = s.cursor.column)) =
          false := by
        have outside : s.indent ≠ s.cursor.column := by
          rw [h.indent]
          omega
        simp [outside]
      rw [Scanner.noteCandidate, if_neg (by simp [allowed]), drops]
      simp only [bind, Except.bind, optional, candidateHere]
    · rcases List.mem_append.mp hk with hk | hk
      · exact range k hk
      · rw [List.mem_singleton.mp hk]
        exact ⟨rfl, Nat.le_add_right _ _⟩
    · rw [List.find?_append, List.find?_eq_none.mpr fun k hk => by simpa using others k hk]
      simp
  · refine ⟨s.candidates, ?_, h.candidates, fun other => absurd other allowed⟩
    rw [Scanner.noteCandidate, if_pos (by simpa using allowed)]

end SchemaChecks.Portable
