import SchemaChecks.Proofs.Dictionaries

/-!
What the reading of a JSON text can break off with, and what it gives. Every reader leaves an end of
the text that it was given, and breaks off only at a whole number with too many digits. The keys of
what is read are texts, each of them once in its dictionary.
-/

namespace SchemaChecks.Json

def HasRun (n : Nat) (cs : List Char) : Prop :=
  ∃ before run after, cs = before ++ run ++ after ∧ (∀ c ∈ run, c.isDigit) ∧ run.length = n

theorem HasRun.of_suffix {n : Nat} {cs rest : List Char} (h : HasRun n rest) (part : rest <:+ cs) :
    HasRun n cs := by
  obtain ⟨before, run, after, rfl, digits, length⟩ := h
  obtain ⟨front, rfl⟩ := part
  exact ⟨front ++ before, run, after, by simp, digits, length⟩

/-- A reader takes a beginning of the text and gives something of a kind; if it breaks off, then at
a run of digits that is too long. -/
def Reads {α : Type} (Q : α → Prop) (cs : List Char) : Reading α → Prop
  | .ok (a, rest) => rest <:+ cs ∧ Q a
  | .error (.tooManyDigits n) => Number.digitLimit < n ∧ HasRun n cs
  | .error _ => True

section Reads

variable {α β : Type} {Q : α → Prop} {R : β → Prop} {cs rest : List Char}

theorem Reads.of_suffix {r : Reading α} (h : Reads Q rest r) (part : rest <:+ cs) :
    Reads Q cs r := by
  unfold Reads at *
  split at h
  · exact ⟨h.1.trans part, h.2⟩
  · exact ⟨h.1, h.2.of_suffix part⟩
  · trivial

theorem Reads.map {r : Reading α} {f : α × List Char → β × List Char} (h : Reads Q cs r)
    (keeps : ∀ p, (f p).2 = p.2) (hf : ∀ p, Q p.1 → R (f p).1) : Reads R cs (r.map f) := by
  cases r with
  | ok p => exact ⟨keeps p ▸ h.1, hf p h.2⟩
  | error e => cases e <;> exact h

/-- What a reader breaks off with does not depend on what it gives. -/
theorem Reads.error {e : Fault} (h : Reads Q cs (.error e)) : Reads R cs (.error e) := by
  cases e <;> exact h

theorem fail_reads (cause : Cause) (left : List Char) : Reads Q cs (fail cause left) := trivial

theorem skipSpace_suffix : skipSpace cs <:+ cs := List.dropWhile_suffix _

/-- What is left after the blanks is an end of what was left before them. -/
theorem suffix_of_skipSpace {c : Char} (h : skipSpace rest = c :: cs) : cs <:+ rest :=
  (List.suffix_cons c cs).trans (h ▸ skipSpace_suffix)

end Reads

/-! ### Strings and numbers -/

theorem unicodeEscape_reads (cs : List Char) : Reads (fun _ => True) cs (unicodeEscape cs) := by
  unfold unicodeEscape
  split
  next a b c d e rest =>
    have after : e :: rest <:+ a :: b :: c :: d :: e :: rest := ⟨[a, b, c, d], rfl⟩
    cases codeUnit? a b c d with
    | none => trivial
    | some unit =>
      dsimp only
      split
      · split
        next w x y z more low =>
          have pair : more <:+ e :: rest := low ▸ ⟨['\\', 'u', w, x, y, z], rfl⟩
          cases codeUnit? w x y z with
          | none => trivial
          | some n =>
            dsimp only
            split
            · exact ⟨pair.trans after, trivial⟩
            · exact ⟨after, trivial⟩
        next => exact ⟨after, trivial⟩
      · exact ⟨after, trivial⟩
  next => trivial

theorem stringBody_reads (opened fuel : Nat) (acc cs : List Char) :
    Reads (fun _ => True) cs (stringBody opened fuel acc cs) := by
  induction fuel generalizing acc cs with
  | zero => trivial
  | succ fuel ih =>
    unfold stringBody
    split
    next => trivial
    next rest => exact ⟨⟨['"'], rfl⟩, trivial⟩
    next => trivial
    next rest =>
      have escape := unicodeEscape_reads rest
      split
      next e fails =>
        rw [fails] at escape
        exact escape.error.of_suffix ⟨['\\', 'u'], rfl⟩
      next c more read =>
        rw [read] at escape
        exact (ih _ _).of_suffix (escape.1.trans ⟨['\\', 'u'], rfl⟩)
    next c rest _ =>
      split
      · trivial
      · exact (ih _ _).of_suffix ⟨['\\', c], rfl⟩
    next c rest _ _ _ _ =>
      split
      · exact fail_reads _ _
      · exact (ih _ _).of_suffix ⟨[c], rfl⟩

theorem string_reads (cs : List Char) : Reads (fun _ => True) cs (string cs) := stringBody_reads ..

/-- A whole part is a run of digits at the front. -/
theorem wholePart_spec {cs whole rest : List Char} (h : wholePart? cs = some (whole, rest)) :
    cs = whole ++ rest ∧ ∀ c ∈ whole, c.isDigit := by
  unfold wholePart? at h
  split at h
  next =>
    cases h
    refine ⟨rfl, fun d hd => ?_⟩
    rw [List.mem_singleton.mp hd]
    rfl
  next c more _ =>
    split at h
    next digit =>
      cases h
      refine ⟨by simp, fun d hd => ?_⟩
      rcases List.mem_cons.mp hd with rfl | hd
      · exact digit
      · exact List.all_eq_true.mp List.all_takeWhile d hd
    next => cases h
  next => cases h

theorem fractionPart_suffix (cs : List Char) : (fractionPart cs).2 <:+ cs := by
  unfold fractionPart
  split
  next c rest =>
    split
    · exact (List.dropWhile_suffix _).trans ⟨['.', c], rfl⟩
    · exact List.suffix_rfl
  next => exact List.suffix_rfl

theorem splitSign_suffix (cs : List Char) : (Number.splitSign cs).2 <:+ cs := by
  unfold Number.splitSign
  split
  · exact List.suffix_cons _ _
  · exact List.suffix_cons _ _
  · exact List.suffix_rfl

theorem exponentPart_suffix (cs : List Char) : (exponentPart cs).2 <:+ cs := by
  unfold exponentPart
  split
  next c rest =>
    split
    · dsimp only
      split
      · exact List.suffix_rfl
      · exact (List.dropWhile_suffix _).trans ((splitSign_suffix rest).trans (List.suffix_cons _ _))
    · exact List.suffix_rfl
  next => exact List.suffix_rfl

theorem number_reads (cs : List Char) : Reads (fun _ => True) cs (number cs) := by
  unfold number
  split
  next negative body signed =>
  have unsigned : body <:+ cs := by
    split at signed
    · cases signed
      exact List.suffix_cons _ _
    · cases signed
      exact List.suffix_rfl
  cases hw : wholePart? body with
  | none => exact fail_reads _ _
  | some parts =>
    obtain ⟨whole, rest⟩ := parts
    obtain ⟨rfl, digits⟩ := wholePart_spec hw
    have left : rest <:+ cs := (List.suffix_append _ _).trans unsigned
    have tail := (exponentPart_suffix _).trans ((fractionPart_suffix rest).trans left)
    dsimp only
    split
    · split
      next long =>
        refine ⟨long, HasRun.of_suffix ⟨[], whole, rest, by simp, digits, rfl⟩ unsigned⟩
      next => exact ⟨tail, trivial⟩
    · exact ⟨tail, trivial⟩

theorem afterWord_suffix {word : String} {cs rest : List Char}
    (h : afterWord? word cs = some rest) :
    rest <:+ cs := by
  unfold afterWord? at h
  split at h
  · cases h
    exact List.drop_suffix _ _
  · cases h

theorem atom_reads (cs : List Char) : Reads (fun _ => True) cs (atom cs) := by
  unfold atom
  split
  next found h =>
    obtain ⟨⟨w, a⟩, -, here⟩ := List.exists_of_findSome?_eq_some h
    obtain ⟨rest, after, rfl⟩ := Option.map_eq_some_iff.mp here
    exact ⟨afterWord_suffix after, trivial⟩
  next => exact number_reads cs

/-! ### Values -/

def IsSpelled (v : Value) : Prop :=
  v.EachDict fun keys => Atom.Apart keys ∧ ∀ k ∈ keys, ∃ s, k = .text s

theorem isSpelled_dictOf {entries : List (Atom × Value)}
    (h : ∀ e ∈ entries, (∃ s, e.1 = .text s) ∧ IsSpelled e.2) :
    IsSpelled (Value.dictOf entries) := by
  refine Value.eachDict_dictOf ⟨List.Pairwise.nil, fun k hk => nomatch hk⟩ ?_ fun e he => (h e he).2
  rintro e he keys ⟨apart, texts⟩
  refine ⟨apart.addKey e.1, fun k hk => ?_⟩
  rcases Atom.mem_addKey hk with rfl | known
  · exact (h e he).1
  · exact texts k known

structure ValuesRead (fuel : Nat) : Prop where
  value (depth : Nat) (cs : List Char) : Reads IsSpelled cs (value fuel depth cs)
  elements (depth : Nat) (cs : List Char) :
    Reads (fun vs => ∀ v ∈ vs, IsSpelled v) cs (elements fuel depth cs)
  members (depth : Nat) (cs : List Char) :
    Reads (fun es => ∀ e ∈ es, (∃ s, e.1 = .text s) ∧ IsSpelled e.2) cs (members fuel depth cs)

section step

variable {fuel : Nat} (readers : ValuesRead fuel) (depth : Nat) (cs : List Char)
include readers

theorem value_step : Reads IsSpelled cs (value (fuel + 1) depth cs) := by
  unfold value
  split
  next => exact fail_reads _ _
  next rest =>
    refine ((string_reads rest).of_suffix (List.suffix_cons _ _)).map (fun _ => rfl) fun _ _ => ?_
    exact Value.eachDict_scalar _
  next rest =>
    cases depth with
    | zero => trivial
    | succ depth =>
      dsimp only
      split
      next more closed =>
        refine ⟨(suffix_of_skipSpace closed).trans (List.suffix_cons _ _), ?_⟩
        exact @isSpelled_dictOf [] fun e he => nomatch he
      next =>
        refine ((readers.members _ _).of_suffix ?_).map (fun _ => rfl) fun _ h => ?_
        · exact skipSpace_suffix.trans (List.suffix_cons _ _)
        · exact isSpelled_dictOf h
  next rest =>
    cases depth with
    | zero => trivial
    | succ depth =>
      dsimp only
      split
      next more closed =>
        refine ⟨(suffix_of_skipSpace closed).trans (List.suffix_cons _ _), ?_⟩
        exact Value.eachDict_list fun v hv => nomatch hv
      next =>
        refine ((readers.elements _ _).of_suffix ?_).map (fun _ => rfl) fun _ h => ?_
        · exact skipSpace_suffix.trans (List.suffix_cons _ _)
        · exact Value.eachDict_list h
  next => exact (atom_reads cs).map (fun _ => rfl) fun _ _ => Value.eachDict_scalar _

theorem elements_step :
    Reads (fun vs => ∀ v ∈ vs, IsSpelled v) cs (elements (fuel + 1) depth cs) := by
  have first := readers.value depth cs
  unfold elements
  split
  next e fails =>
    rw [fails] at first
    exact first.error
  next v rest read =>
    rw [read] at first
    obtain ⟨left, spelled⟩ := first
    split
    next more closed =>
      refine ⟨(suffix_of_skipSpace closed).trans left, ?_⟩
      exact List.forall_mem_singleton.mpr spelled
    next more comma =>
      have after : skipSpace more <:+ cs :=
        skipSpace_suffix.trans ((suffix_of_skipSpace comma).trans left)
      refine ((readers.elements depth _).of_suffix after).map (fun _ => rfl) fun _ h => ?_
      exact List.forall_mem_cons.mpr ⟨spelled, h⟩
    next => exact fail_reads _ _

theorem members_step :
    Reads (fun es => ∀ e ∈ es, (∃ s, e.1 = .text s) ∧ IsSpelled e.2) cs
      (members (fuel + 1) depth cs) := by
  unfold members
  split
  next rest =>
    have key := string_reads rest
    split
    next e fails =>
      rw [fails] at key
      exact key.error.of_suffix (List.suffix_cons _ _)
    next name afterKey read =>
      rw [read] at key
      have named : afterKey <:+ '"' :: rest := key.1.trans (List.suffix_cons _ _)
      split
      next more colon =>
        have valued : skipSpace more <:+ '"' :: rest :=
          skipSpace_suffix.trans ((suffix_of_skipSpace colon).trans named)
        have value := (readers.value depth (skipSpace more)).of_suffix valued
        split
        next e fails =>
          rw [fails] at value
          exact value.error
        next v afterValue read =>
          rw [read] at value
          obtain ⟨left, spelled⟩ := value
          split
          next more closed =>
            refine ⟨(suffix_of_skipSpace closed).trans left, ?_⟩
            exact List.forall_mem_singleton.mpr ⟨⟨name, rfl⟩, spelled⟩
          next more comma =>
            have after : skipSpace more <:+ '"' :: rest :=
              skipSpace_suffix.trans ((suffix_of_skipSpace comma).trans left)
            refine ((readers.members depth _).of_suffix after).map (fun _ => rfl) fun _ h => ?_
            exact List.forall_mem_cons.mpr ⟨⟨⟨name, rfl⟩, spelled⟩, h⟩
          next => exact fail_reads _ _
      next => exact fail_reads _ _
  next => exact fail_reads _ _

end step

theorem valuesRead (fuel : Nat) : ValuesRead fuel := by
  induction fuel with
  | zero => exact ⟨fun _ _ => trivial, fun _ _ => trivial, fun _ _ => trivial⟩
  | succ fuel ih => exact ⟨value_step ih, elements_step ih, members_step ih⟩

/-- The reading of a JSON text breaks off only at a whole number with too many digits. -/
theorem read_tooManyDigits {text : String} {n : Nat} (h : read text = .error (.tooManyDigits n)) :
    Number.digitLimit < n ∧ HasRun n text.toList := by
  have first := (valuesRead (2 * text.toList.length + 2)).value depthLimit (skipSpace text.toList)
  unfold read readChars at h
  split at h
  next => cases h
  next =>
    split at h
    next e fails =>
      cases h
      rw [fails] at first
      exact ⟨first.1, first.2.of_suffix skipSpace_suffix⟩
    next => split at h <;> cases h

end SchemaChecks.Json
