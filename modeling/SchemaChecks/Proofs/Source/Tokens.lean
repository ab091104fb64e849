import Mathlib.Data.List.Basic
import SchemaChecks.Proofs.Source.Reader

/-!
What a source is made of: characters of code, and texts between quotes. A written text is read as
one text, which ends at the quotes that were written behind it, whatever it says.
-/

namespace SchemaChecks.Source

inductive Token where
  | code (c : Char)
  /-- A text on one line. -/
  | short (s : String)
  /-- A text between three quotes on either side. -/
  | long (s : String)
  /-- A text on one line into which values are put. -/
  | formatted (s : String)
  deriving DecidableEq, Repr

/-- What stands before a place in code: a word, the letter before a text into which values are put,
or neither. A text behind any other letter would be read in another way. -/
inductive Before where
  | mark
  | letter
  | word
  deriving DecidableEq, Repr

def Before.next (b : Before) (c : Char) : Before :=
  if isNameChar c then (if b = .mark && c = 'f' then .letter else .word) else .mark

def isCode (c : Char) : Bool :=
  (c = '\n' || (0x20 ≤ c.toNat && c.toNat < 0x7f)) && !isQuote c && c ≠ '#' && c ≠ '\\'

theorem isNameChar_small {c : Char} (h : isNameChar c = true) : c.toNat < 128 := by
  have below : ∀ most : Char, c.val ≤ most.val → most.toNat < 128 → c.toNat < 128 :=
    fun most le small => Nat.lt_of_le_of_lt (UInt32.le_iff_toNat_le.mp le) small
  rcases Bool.or_eq_true_iff.mp h with h | h
  · rcases Bool.or_eq_true_iff.mp h with h | digit
    · rcases Bool.or_eq_true_iff.mp h with upper | lower
      · have range : 'A'.val ≤ c.val ∧ c.val ≤ 'Z'.val := of_decide_eq_true upper
        exact below 'Z' range.2 (by decide)
      · exact below 'z' (of_decide_eq_true (Bool.and_eq_true_iff.mp lower).2) (by decide)
    · exact below '9' (of_decide_eq_true (Bool.and_eq_true_iff.mp digit).2) (by decide)
  · obtain rfl : c = '_' := by simpa using h
    decide

/-- All characters of names are characters of code. -/
theorem isCode_of_isNameChar {c : Char} (h : isNameChar c = true) : isCode c = true := by
  have table : ∀ n < 128, isNameChar (Char.ofNat n) = true → isCode (Char.ofNat n) = true := by
    decide
  have row := table c.toNat (isNameChar_small h)
  rw [Char.ofNat_toNat] at row
  exact row h

/-- The characters up to three quotes in a row, and what follows those. A backslash gives the
character behind it, whatever it is. -/
def longBody? (q : Char) : Bool → List Char → Option (List Char × List Char)
  | _, [] => none
  | true, c :: rest => keep c (longBody? q false rest)
  | false, c :: rest =>
    if c = '\\' then longBody? q true rest
    else
      match after [q, q, q] (c :: rest) with
      | some more => some ([], more)
      | none => keep c (longBody? q false rest)

def textToken? (b : Before) (q : Char) (rest : List Char) : Option (Token × List Char) :=
  match b, after [q, q] rest with
  | .mark, some body => (longBody? q false body).map fun p => (.long (String.ofList p.1), p.2)
  | .mark, none => (quotedBody? q .none rest).map fun p => (.short (String.ofList p.1), p.2)
  | .letter, none => (quotedBody? q .none rest).map fun p => (.formatted (String.ofList p.1), p.2)
  | _, _ => none

theorem keep_shorter {c : Char} {body rest : List Char} {p : Option (List Char × List Char)}
    {n : Nat} (shorter : ∀ body, p = some (body, rest) → rest.length < n)
    (h : keep c p = some (body, rest)) : rest.length < n + 1 := by
  obtain ⟨⟨more, behind⟩, hp, same⟩ := Option.map_eq_some_iff.mp h
  cases same
  exact Nat.lt_succ_of_lt (shorter more hp)

theorem longBody?_shorter {q : Char} {escaped : Bool} {cs body rest : List Char}
    (h : longBody? q escaped cs = some (body, rest)) : rest.length < cs.length := by
  fun_induction longBody? q escaped cs generalizing body with
  | case1 => cases h
  | case2 c cs ih => exact keep_shorter (fun _ => ih) h
  | case3 cs ih => exact Nat.lt_succ_of_lt (ih h)
  | case4 c cs _ more closes =>
    cases h
    have length := congrArg List.length (after_eq_some.mp closes)
    simp only [List.length_append, List.length_cons, List.length_nil] at length ⊢
    omega
  | case5 c cs _ _ ih => exact keep_shorter (fun _ => ih) h

theorem quotedBody?_shorter {q : Char} {p : Pending} {cs body rest : List Char}
    (h : quotedBody? q p cs = some (body, rest)) : rest.length < cs.length := by
  fun_induction quotedBody? q p cs generalizing body with
  | case1 => cases h
  | case2 cs =>
    cases h
    exact Nat.lt_succ_self _
  | case3 cs _ ih => exact Nat.lt_succ_of_lt (ih h)
  | case4 => cases h
  | case5 c cs _ _ _ ih => exact keep_shorter (fun _ => ih) h
  | case6 c cs _ _ ih => exact Nat.lt_succ_of_lt (ih h)
  | case7 c cs _ d _ ih => exact keep_shorter (fun _ => ih) h
  | case8 => cases h
  | case9 => cases h
  | case10 _ _ c cs _ _ _ ih => exact keep_shorter (fun _ => ih) h
  | case11 _ _ c cs _ _ _ ih => exact Nat.lt_succ_of_lt (ih h)

theorem textToken?_shorter {b : Before} {q : Char} {cs rest : List Char} {t : Token}
    (h : textToken? b q cs = some (t, rest)) : rest.length < cs.length + 1 := by
  have long : ∀ body p, after [q, q] cs = some body → longBody? q false body = some p →
      p.2.length < cs.length + 1 := by
    intro body p opens read
    have length := congrArg List.length (after_eq_some.mp opens)
    have shorter := longBody?_shorter read
    rw [List.length_append] at length
    omega
  have short : ∀ p, quotedBody? q .none cs = some p → p.2.length < cs.length + 1 := fun p read =>
    Nat.lt_succ_of_lt (quotedBody?_shorter read)
  unfold textToken? at h
  split at h
  · rename_i body opens
    obtain ⟨p, read, same⟩ := Option.map_eq_some_iff.mp h
    cases same
    exact long body p opens read
  · obtain ⟨p, read, same⟩ := Option.map_eq_some_iff.mp h
    cases same
    exact short p read
  · obtain ⟨p, read, same⟩ := Option.map_eq_some_iff.mp h
    cases same
    exact short p read
  · cases h

def tokensFrom? (b : Before) : List Char → Option (List Token)
  | [] => some []
  | c :: rest =>
    if isQuote c then
      match _read : textToken? b c rest with
      | some (t, behind) => (tokensFrom? .mark behind).map (t :: ·)
      | none => none
    else if isCode c then (tokensFrom? (b.next c) rest).map (.code c :: ·)
    else none
termination_by cs => cs.length
decreasing_by
  · exact textToken?_shorter _read
  · exact Nat.lt_succ_self _

def tokens? (source : String) : Option (List Token) := tokensFrom? .mark source.toList

theorem tokensFrom?_text {b : Before} {q : Char} {cs behind : List Char} {t : Token}
    (quote : isQuote q = true) (h : textToken? b q cs = some (t, behind)) :
    tokensFrom? b (q :: cs) = (tokensFrom? .mark behind).map (t :: ·) := by
  rw [tokensFrom?, if_pos quote]
  split
  · rename_i read
    cases h.symm.trans read
    rfl
  · rename_i none_
    cases h.symm.trans none_

theorem tokensFrom?_code {b : Before} {c : Char} (code : isCode c = true) (cs : List Char) :
    tokensFrom? b (c :: cs) = (tokensFrom? (b.next c) cs).map (.code c :: ·) := by
  have noQuote : ¬ isQuote c = true := by
    intro quote
    simp [isCode, quote] at code
  rw [tokensFrom?, if_neg noQuote, if_pos code]

/-! ### Writing and reading -/

namespace Token

def source : Token → List Char
  | code c => [c]
  | short s => (Text.quoted s).toList
  | long s => tripleQuote ++ ((docText s).toList ++ tripleQuote)
  | formatted s => '"' :: (s.toList ++ ['"'])

/-- A token is read as what it is, and up to its last character, if something follows it. -/
def ReadsBack (rest : List Char) : Token → Prop
  | code c => isCode c = true
  | short s => text? ((Text.quoted s).toList ++ rest) = some (s, rest) ∧
      ∀ c ∈ (Text.quoted s).toList, Text.isPrintable c = true
  | long s => longBody? '"' false ((docText s).toList ++ (tripleQuote ++ rest)) =
      some (s.toList, rest)
  | formatted s => quotedBody? '"' .none (s.toList ++ '"' :: rest) = some (s.toList, rest)

end Token

theorem longBody?_docText (s : String) (rest : List Char) :
    longBody? '"' false ((docText s).toList ++ (tripleQuote ++ rest)) = some (s.toList, rest) := by
  rw [docText, String.toList_ofList]
  induction s.toList with
  | nil => rfl
  | cons c cs ih =>
    rw [List.flatMap_cons, List.append_assoc]
    split
    · rw [List.cons_append, List.cons_append, List.nil_append, longBody?, if_pos rfl, longBody?, ih]
      rfl
    · rename_i ordinary
      have ordinary : c ≠ '\\' ∧ c ≠ '"' := by simpa using ordinary
      rw [List.cons_append, List.nil_append, longBody?, if_neg ordinary.1, after,
        if_neg (Ne.symm ordinary.2), ih]
      rfl

theorem isPrintable_hexDigits (w n : Nat) :
    ∀ c ∈ Text.Quoted.hexDigits w n, Text.isPrintable c = true := by
  have digit : ∀ d < 16, Text.isPrintable (Text.Quoted.hexDigit d) = true := by decide
  induction w generalizing n with
  | zero => simp [Text.Quoted.hexDigits]
  | succ w ih =>
    intro c hc
    rcases List.mem_append.mp hc with hc | hc
    · exact ih _ c hc
    · rw [List.mem_singleton.mp hc]
      exact digit _ (Nat.mod_lt _ (by decide))

theorem isPrintable_isQuote {q : Char} (hq : isQuote q = true) : Text.isPrintable q = true := by
  have known : q = '\'' ∨ q = '"' := by simpa [isQuote] using hq
  rcases known with rfl | rfl <;> decide

theorem isPrintable_encodeChar {q : Char} (hq : isQuote q = true) (c : Char) :
    ∀ d ∈ Text.Quoted.encodeChar q c, Text.isPrintable d = true := by
  have pair : ∀ x y : Char, Text.isPrintable x = true → Text.isPrintable y = true →
      ∀ d ∈ [x, y], Text.isPrintable d = true := by
    intro x y hx hy d hd
    rcases List.mem_cons.mp hd with rfl | hd
    · exact hx
    · rwa [List.mem_singleton.mp hd]
  have digits : ∀ x w, Text.isPrintable x = true →
      ∀ d ∈ '\\' :: x :: Text.Quoted.hexDigits w (Text.codeOf c), Text.isPrintable d = true := by
    intro x w hx d hd
    rcases List.mem_append.mp (show d ∈ ['\\', x] ++ _ from hd) with hd | hd
    · exact pair '\\' x (by decide) hx d hd
    · exact isPrintable_hexDigits w (Text.codeOf c) d hd
  unfold Text.Quoted.encodeChar
  split
  · rename_i special
    have known : c = q ∨ c = '\\' := by simpa using special
    refine pair '\\' c (by decide) ?_
    rcases known with rfl | rfl
    · exact isPrintable_isQuote hq
    · decide
  split
  · exact pair '\\' 't' (by decide) (by decide)
  split
  · exact pair '\\' 'n' (by decide) (by decide)
  split
  · exact pair '\\' 'r' (by decide) (by decide)
  split
  · rename_i printable
    intro d hd
    rwa [List.mem_singleton.mp hd]
  split
  · exact digits 'x' 2 (by decide)
  split
  · exact digits 'u' 4 (by decide)
  · exact digits 'U' 8 (by decide)

/-- All characters of a quoted text are printable, so it stands on one line. -/
theorem isPrintable_quoted (s : String) :
    ∀ c ∈ (Text.quoted s).toList, Text.isPrintable c = true := by
  have hq := isQuote_quoteFor s.toList
  have quote := isPrintable_isQuote hq
  rw [Text.quoted, Text.Quoted.encode, String.toList_ofList]
  intro c hc
  rcases List.mem_append.mp hc with hc | hc
  · rcases List.mem_cons.mp hc with rfl | hc
    · exact quote
    · obtain ⟨d, -, hc⟩ := List.mem_flatMap.mp hc
      exact isPrintable_encodeChar hq d c hc
  · rwa [List.mem_singleton.mp hc]

structure Lexes (cs : List Char) (ts : List Token) : Prop where
  source : ts.flatMap Token.source = cs
  closed : ∀ t ∈ ts, ∀ rest, t.ReadsBack rest
  reads : ∀ rest, tokensFrom? .mark (cs ++ rest) = (tokensFrom? .mark rest).map (ts ++ ·)

namespace Lexes

theorem nil : Lexes [] [] where
  source := rfl
  closed := by simp
  reads rest := by
    rw [List.nil_append]
    cases tokensFrom? .mark rest <;> rfl

theorem append {cs ds : List Char} {ts us : List Token} (first : Lexes cs ts)
    (second : Lexes ds us) : Lexes (cs ++ ds) (ts ++ us) where
  source := by rw [List.flatMap_append, first.source, second.source]
  closed t ht rest := by
    rcases List.mem_append.mp ht with ht | ht
    · exact first.closed t ht rest
    · exact second.closed t ht rest
  reads rest := by
    rw [List.append_assoc, first.reads, second.reads]
    cases tokensFrom? .mark rest with
    | none => rfl
    | some vs => simp only [Option.map_some, List.append_assoc]

/-- A whole source is made of what its pieces are made of. -/
theorem tokens? {source : String} {ts : List Token} (h : Lexes source.toList ts) :
    Source.tokens? source = some ts := by
  have whole := h.reads []
  rw [List.append_nil] at whole
  rw [Source.tokens?, whole, tokensFrom?, Option.map_some, List.append_nil]

end Lexes

def IsCode (cs : List Char) : Prop := ∀ c ∈ cs, isCode c = true

instance (cs : List Char) : Decidable (IsCode cs) := List.decidableBAll _ cs

structure IsCodeText (cs : List Char) : Prop where
  code : IsCode cs
  ends : ∀ c ∈ cs.getLast?, isNameChar c = false

theorem isCodeText_iff {cs : List Char} :
    IsCodeText cs ↔ cs.all isCode = true ∧ cs.getLast?.all (!isNameChar ·) = true := by
  have last : (∀ c ∈ cs.getLast?, isNameChar c = false) ↔
      cs.getLast?.all (!isNameChar ·) = true := by
    cases cs.getLast? <;> simp
  constructor
  · intro h
    exact ⟨List.all_eq_true.mpr h.code, last.mp h.ends⟩
  · intro h
    exact ⟨List.all_eq_true.mp h.1, last.mpr h.2⟩

instance (cs : List Char) : Decidable (IsCodeText cs) := decidable_of_iff _ isCodeText_iff.symm

theorem isCode_append {cs ds : List Char} (first : IsCode cs) (second : IsCode ds) :
    IsCode (cs ++ ds) := by
  intro c hc
  rcases List.mem_append.mp hc with hc | hc
  · exact first c hc
  · exact second c hc

theorem isCodeText_append {cs ds : List Char} (first : IsCode cs) (second : IsCodeText ds)
    (some_ : ds ≠ []) : IsCodeText (cs ++ ds) where
  code := isCode_append first second.code
  ends := by
    rw [List.getLast?_append_of_ne_nil cs some_]
    exact second.ends

theorem IsCodeText.before {cs : List Char} (h : IsCodeText cs) :
    cs.foldl Before.next .mark = .mark := by
  rcases List.eq_nil_or_concat cs with rfl | ⟨init, c, rfl⟩
  · rfl
  · have last : isNameChar c = false := h.ends c (by simp)
    rw [List.concat_eq_append, List.foldl_append, List.foldl_cons, List.foldl_nil, Before.next,
      last]
    rfl

def plain (cs : List Char) : List Token := cs.map .code

theorem tokensFrom?_plain {b : Before} {cs : List Char} (code : IsCode cs)
    (rest : List Char) : tokensFrom? b (cs ++ rest) =
      (tokensFrom? (cs.foldl Before.next b) rest).map (plain cs ++ ·) := by
  induction cs generalizing b with
  | nil =>
    rw [List.nil_append]
    cases h : tokensFrom? b rest <;> simp [plain, h]
  | cons c cs ih =>
    have more := @ih (b.next c) fun d hd => code d (List.mem_cons_of_mem _ hd)
    rw [List.cons_append, tokensFrom?_code (code c List.mem_cons_self), more, Option.map_map]
    rfl

theorem source_plain (cs : List Char) : (plain cs).flatMap Token.source = cs := by
  induction cs with
  | nil => rfl
  | cons c cs ih =>
    rw [plain, List.map_cons, List.flatMap_cons]
    exact congrArg (c :: ·) ih

theorem readsBack_plain {cs : List Char} (code : IsCode cs) :
    ∀ t ∈ plain cs, ∀ rest, t.ReadsBack rest := by
  intro t ht rest
  obtain ⟨c, hc, rfl⟩ := List.mem_map.mp ht
  exact code c hc

theorem lexes_plain {cs : List Char} (h : IsCodeText cs) : Lexes cs (plain cs) where
  source := source_plain cs
  closed := readsBack_plain h.code
  reads rest := by rw [tokensFrom?_plain h.code, h.before]

theorem lexes_long (s : String) :
    Lexes (tripleQuote ++ ((docText s).toList ++ tripleQuote)) [.long s] where
  source := List.append_nil _
  closed t ht rest := by
    obtain rfl := List.mem_singleton.mp ht
    exact longBody?_docText s rest
  reads rest := by
    have body := longBody?_docText s rest
    have opens : textToken? .mark '"'
        (['"', '"'] ++ ((docText s).toList ++ (tripleQuote ++ rest))) = some (.long s, rest) := by
      unfold textToken?
      rw [after_append]
      simp only [body, Option.map_some, String.ofList_toList]
    rw [List.append_assoc, List.append_assoc]
    exact tokensFrom?_text (by decide) opens

section shortTexts

open Text.Quoted

variable {q c : Char} {cs rest : List Char}

theorem encodeChar_head (hq : isQuote q = true) (c : Char) :
    ∃ d ds, encodeChar q c = d :: ds ∧ d ≠ q := by
  have slash : '\\' ≠ q := by
    rintro rfl
    exact absurd hq (by decide)
  unfold encodeChar
  split
  · exact ⟨'\\', [c], rfl, slash⟩
  rename_i ordinary
  split
  · exact ⟨'\\', ['t'], rfl, slash⟩
  split
  · exact ⟨'\\', ['n'], rfl, slash⟩
  split
  · exact ⟨'\\', ['r'], rfl, slash⟩
  split
  · refine ⟨c, [], rfl, ?_⟩
    intro same
    simp [same] at ordinary
  split
  · exact ⟨'\\', _, rfl, slash⟩
  split
  · exact ⟨'\\', _, rfl, slash⟩
  · exact ⟨'\\', _, rfl, slash⟩

theorem ne_of_isCode (hq : isQuote q = true) (code : isCode c = true) : c ≠ q := by
  rintro rfl
  simp [isCode, hq] at code

/-- A short text does not open like a long one: its second character is no quote, or the one behind
its second quote is none. -/
theorem after_short (hq : isQuote q = true) (code : isCode c = true) (ds : List Char) :
    after [q, q] (ds.flatMap (encodeChar q) ++ q :: c :: rest) = none := by
  cases ds with
  | nil =>
    have other := ne_of_isCode hq code
    rw [List.flatMap_nil, List.nil_append, after, if_pos rfl, after, if_neg (Ne.symm other)]
  | cons d ds =>
    obtain ⟨x, xs, first, other⟩ := encodeChar_head hq d
    rw [List.flatMap_cons, first, List.append_assoc, List.cons_append, after,
      if_neg (Ne.symm other)]

/-- A short text is read up to its quote if code follows it. -/
theorem lexes_short (s : String) (code : IsCodeText (c :: cs)) :
    Lexes ((Text.quoted s).toList ++ c :: cs) (.short s :: plain (c :: cs)) where
  source := by rw [List.flatMap_cons, source_plain, Token.source]
  closed t ht rest := by
    rcases List.mem_cons.mp ht with rfl | ht
    · exact ⟨text?_quoted s rest, isPrintable_quoted s⟩
    · exact readsBack_plain code.code t ht rest
  reads rest := by
    have hq := isQuote_quoteFor s.toList
    have noLong := @after_short _ c (cs ++ rest) hq (code.code c List.mem_cons_self) s.toList
    have body := @quotedBody?_flatMap _ (c :: (cs ++ rest)) hq s.toList
    have reads : textToken? .mark (quoteFor s.toList)
        (s.toList.flatMap (encodeChar (quoteFor s.toList)) ++
          quoteFor s.toList :: c :: (cs ++ rest)) = some (.short s, c :: (cs ++ rest)) := by
      unfold textToken?
      simp only [noLong, body, Option.map_some, String.ofList_toList]
    have behind := (lexes_plain code).reads rest
    rw [List.cons_append] at behind
    have whole := (tokensFrom?_text hq reads).trans (congrArg _ behind)
    rw [Option.map_map] at whole
    rw [Text.quoted, encode, String.toList_ofList]
    simpa only [List.append_assoc, List.cons_append, List.nil_append, Function.comp_def] using whole

/-- A text into which values are put is read up to its quote if its characters stand for themselves
and code follows it. -/
theorem lexes_formatted {s : String} (plainly : ∀ d ∈ s.toList, encodeChar '"' d = [d])
    (code : IsCodeText (c :: cs)) :
    Lexes ('f' :: '"' :: (s.toList ++ '"' :: c :: cs))
      (.code 'f' :: .formatted s :: plain (c :: cs)) := by
  have self : s.toList.flatMap (encodeChar '"') = s.toList := by
    rw [List.flatMap_congr plainly, List.flatMap_singleton']
  have body : ∀ rest, quotedBody? '"' .none (s.toList ++ '"' :: rest) = some (s.toList, rest) := by
    intro rest
    have read := @quotedBody?_flatMap '"' rest (by decide) s.toList
    rwa [self] at read
  refine ⟨?_, ?_, ?_⟩
  · rw [List.flatMap_cons, List.flatMap_cons, source_plain, Token.source, Token.source]
    simp only [List.cons_append, List.nil_append, List.append_assoc]
  · intro t ht rest
    rcases List.mem_cons.mp ht with rfl | ht
    · exact (by decide : isCode 'f' = true)
    rcases List.mem_cons.mp ht with rfl | ht
    · exact body rest
    · exact readsBack_plain code.code t ht rest
  · intro rest
    have first := code.code c List.mem_cons_self
    have noLong := @after_short '"' c (cs ++ rest) (by decide) first s.toList
    rw [self] at noLong
    have reads : textToken? .letter '"' (s.toList ++ '"' :: c :: (cs ++ rest)) =
        some (.formatted s, c :: (cs ++ rest)) := by
      unfold textToken?
      simp only [noLong, body, Option.map_some, String.ofList_toList]
    have letter : Before.mark.next 'f' = .letter := by decide
    have behind := (lexes_plain code).reads rest
    rw [List.cons_append] at behind
    have whole := (tokensFrom?_text (by decide) reads).trans (congrArg _ behind)
    simp only [List.cons_append, List.append_assoc, Option.map_map] at whole ⊢
    rw [tokensFrom?_code (by decide), letter, whole, Option.map_map]
    rfl

end shortTexts

end SchemaChecks.Source
