import Mathlib.Data.List.TakeWhile
import SchemaChecks.Proofs.CompileRun

/-!
Files by the characters that they are spelled with. UTF-8 gives back the characters that it has
written, so that a file without carriage returns has the text that was written to it, and what a
YAML text stands for is computed from its characters.
-/

namespace SchemaChecks

namespace Text.Utf8

/-! ### Characters as bytes and back -/

theorem toNat_ofNat_byte {n : Nat} (small : n < 256) : (UInt8.ofNat n).toNat = n := by
  rw [UInt8.toNat_ofNat', Nat.mod_eq_of_lt small]

theorem isContinuation_of_toNat {b : UInt8} {n : Nat} (tail : b.toNat = 0x80 + n % 0x40) :
    isContinuation b = true := by
  simp only [isContinuation, tail, Bool.and_eq_true, decide_eq_true_eq]
  omega

theorem isSecond_of_bounds {first second : UInt8} (continues : isContinuation second = true)
    (e0 : first.toNat = 0xe0 → 0xa0 ≤ second.toNat) (ed : first.toNat = 0xed → second.toNat < 0xa0)
    (f0 : first.toNat = 0xf0 → 0x90 ≤ second.toNat)
    (f4 : first.toNat = 0xf4 → second.toNat < 0x90) :
    isSecond first second = true := by
  simp only [isSecond, continues, ← UInt8.toNat_inj, Bool.true_and, Bool.and_eq_true,
    Bool.not_eq_true', Bool.and_eq_false_imp, decide_eq_true_eq, decide_eq_false_iff_not]
  exact ⟨⟨⟨fun h => by simpa using e0 h, fun h => by simpa using ed h⟩,
    fun h => by simpa using f0 h⟩, fun h => by simpa using f4 h⟩

/-- A first byte with as many fitting bytes after it as it asks for is one character. -/
theorem decodeChar_of_tail {first second : UInt8} {rest : List UInt8} {c : Char}
    (wide : width? first = some (rest.length + 2)) (fits : isSecond first second = true)
    (continues : ∀ b ∈ rest, isContinuation b = true)
    (value : first.toNat % Nat.pow 2 (5 - rest.length) * Nat.pow 0x40 (rest.length + 1) +
      payload (second :: rest) = c.toNat) (more : List UInt8) :
    decodeChar first (second :: rest ++ more) = .ok (c, rest.length + 2) := by
  have all : rest.takeWhile isContinuation = rest := List.takeWhile_eq_self_iff.mpr continues
  rw [← Char.ofNat_toNat c, ← value]
  unfold decodeChar
  rw [wide]
  simp [fits, all, Nat.add_comm 1]

/-- The bytes of a character are read as that character, whatever follows. -/
theorem decodeChar_encodeChar (c : Char) (more : List UInt8) : ∃ first rest,
    encodeChar c = first :: rest ∧ decodeChar first (rest ++ more) = .ok (c, rest.length + 1) := by
  have scalar : c.toNat < 0xd800 ∨ 0xdfff < c.toNat ∧ c.toNat < 0x110000 := c.valid
  have tail : ∀ m, (UInt8.ofNat (0x80 + m % 0x40)).toNat = 0x80 + m % 0x40 :=
    fun m => toNat_ofNat_byte (by omega)
  have continues := fun m => isContinuation_of_toNat (tail m)
  have powers : Nat.pow 2 0 = 1 ∧ Nat.pow 2 6 = 0x40 ∧ Nat.pow 2 12 = 0x1000 := by decide
  simp only [encodeChar, powers]
  split
  · have first : (UInt8.ofNat c.toNat).toNat = c.toNat := toNat_ofNat_byte (by omega)
    refine ⟨_, [], rfl, ?_⟩
    simp [decodeChar, width?, *]
  split
  · have first : (UInt8.ofNat (0xc0 + c.toNat / 0x40)).toNat = 0xc0 + c.toNat / 0x40 :=
      toNat_ofNat_byte (by omega)
    refine ⟨_, _, rfl, decodeChar_of_tail ?_ ?_ ?_ ?_ more⟩
    · simp only [width?, first]
      grind
    · apply isSecond_of_bounds (continues _) <;> rw [first] <;> omega
    · exact List.forall_mem_nil _
    · simp only [payload, first, tail, List.foldl, List.length_nil, Nat.pow_eq]
      omega
  split
  · have first : (UInt8.ofNat (0xe0 + c.toNat / 0x1000)).toNat = 0xe0 + c.toNat / 0x1000 :=
      toNat_ofNat_byte (by omega)
    refine ⟨_, _, rfl, decodeChar_of_tail ?_ ?_ ?_ ?_ more⟩
    · simp only [width?, first]
      grind
    · -- shortest forms and surrogates are told apart by the first two bytes
      apply isSecond_of_bounds (continues _) <;> rw [first, tail] <;> omega
    · exact List.forall_mem_singleton.mpr (continues _)
    · simp only [payload, first, tail, List.foldl, List.length_nil, List.length_cons, Nat.pow_eq]
      omega
  · have first : (UInt8.ofNat (0xf0 + c.toNat / 0x40000)).toNat = 0xf0 + c.toNat / 0x40000 :=
      toNat_ofNat_byte (by omega)
    refine ⟨_, _, rfl, decodeChar_of_tail ?_ ?_ ?_ ?_ more⟩
    · simp only [width?, first]
      grind
    · apply isSecond_of_bounds (continues _) <;> rw [first, tail] <;> omega
    · exact List.forall_mem_cons.mpr ⟨continues _, List.forall_mem_singleton.mpr (continues _)⟩
    · simp only [payload, first, tail, List.foldl, List.length_nil, List.length_cons, Nat.pow_eq]
      omega

theorem decodeFrom_encode (cs : List Char) {fuel : Nat} (enough : (encode cs).length ≤ fuel)
    (start : Nat) (acc : List Char) :
    decodeFrom fuel start acc (encode cs) = .ok (acc.reverse ++ cs) := by
  induction cs generalizing fuel start acc with
  | nil => cases fuel <;> simp [encode, decodeFrom]
  | cons c cs ih =>
    obtain ⟨first, rest, bytes, char⟩ := decodeChar_encodeChar c (encode cs)
    have split : encode (c :: cs) = first :: (rest ++ encode cs) := by
      rw [encode, List.flatMap_cons, bytes]
      rfl
    rw [split] at enough ⊢
    cases fuel with
    | zero => simp at enough
    | succ fuel =>
      have dropped : (rest ++ encode cs).drop (rest.length + 1 - 1) = encode cs := by simp
      have left : (encode cs).length ≤ fuel := by
        simp only [List.length_cons, List.length_append] at enough
        omega
      simp only [decodeFrom, char, dropped]
      rw [ih left]
      simp

/-- The bytes of characters are read as those characters. -/
theorem decode_encode (cs : List Char) : decode (encode cs) = .ok cs :=
  decodeFrom_encode cs le_rfl 0 []

end Text.Utf8

theorem Text.unifyLineEnds_of_plain {cs : List Char} (plain : '\r' ∉ cs) :
    unifyLineEnds cs = cs := by
  induction cs with
  | nil => rfl
  | cons c cs ih =>
    simp only [List.mem_cons, not_or] at plain
    unfold unifyLineEnds
    split <;> simp_all

theorem textOfBytes_encode {cs : List Char} (plain : '\r' ∉ cs) :
    textOfBytes (Text.Utf8.encode cs) = .ok (String.ofList cs) := by
  rw [textOfBytes, Text.Utf8.decode_encode, Except.map, Text.unifyLineEnds_of_plain plain]

theorem textOfBytes_of_spelled {cs : List Char} {text : String} (spelled : String.ofList cs = text)
    (plain : '\r' ∉ cs) : textOfBytes (Text.Utf8.encode text.toList) = .ok text := by
  subst spelled
  rw [String.toList_ofList, textOfBytes_encode plain]

/-! ### What characters stand for -/

namespace Yaml

def valueOf (bottom : Except Fault Value) (depth : Nat) (cs : List Char) : Except Fault Value :=
  match Graph.ofText cs with
  | .error e => .error e
  | .ok none => .ok Value.null
  | .ok (some g) =>
    match Heap.ofGraph g with
    | .error e => .error e
    | .ok h => h.valueAt bottom depth h.root

theorem valueAt_of_text (bottom : Except Fault Value) (depth : Nat) (cs : List Char) :
    (match Heap.ofText (String.ofList cs) with
      | .error e => .error e
      | .ok none => .ok Value.null
      | .ok (some h) => h.valueAt bottom depth h.root) = valueOf bottom depth cs := by
  unfold Heap.ofText valueOf
  rw [String.toList_ofList]
  cases Graph.ofText cs with
  | error e => rfl
  | ok g =>
    cases g with
    | none => rfl
    | some g => cases made : Heap.ofGraph g <;> simp [made, Except.map]

theorem read_ofList (cs : List Char) :
    read (String.ofList cs) = valueOf (.error .tooDeep) depthLimit cs :=
  valueAt_of_text ..

theorem readUpTo_ofList (depth : Nat) (cs : List Char) :
    readUpTo depth (String.ofList cs) = valueOf (.ok Value.null) depth cs :=
  valueAt_of_text ..

end Yaml

namespace Document

def ofYaml (cs : List Char) : Except (Failure LoadError) Document :=
  match Yaml.valueOf (.error .tooDeep) Yaml.depthLimit cs with
  | .ok v => ofValue .yaml v
  | .error .malformed => .error (.error .malformedYaml)
  | .error .tooDeep => .error (.error (.tooDeep .yaml))
  | .error (.scalar f) => .error (.fault (.scalar f))

theorem load_yaml {cs : List Char} (full : cs.all Text.isBlank = false) :
    load (String.ofList cs) (some Format.yaml.name) = ofYaml cs := by
  have blank : Text.isBlankText (String.ofList cs) = false := by
    rw [Text.isBlankText, String.toList_ofList, full]
  have format : formatFor (some Format.yaml.name) (String.ofList cs) = .ok .yaml := rfl
  unfold load ofYaml
  rw [blank, format, if_neg Bool.false_ne_true]
  unfold readValue
  dsimp only
  rw [Yaml.read_ofList]
  cases Yaml.valueOf (.error .tooDeep) Yaml.depthLimit cs with
  | ok v => rfl
  | error e => cases e <;> rfl

end Document

namespace Configuration

def readChars (cs : List Char) : Except (Failure ConfigurationError) Value :=
  match Yaml.valueOf (.ok Value.null) depth cs with
  | .ok v => .ok v
  | .error .malformed => .error (.error .malformed)
  | .error .tooDeep => .error (.fault .tooDeep)
  | .error (.scalar f) => .error (.fault (.scalar f))

theorem readValue_ofList (cs : List Char) : readValue (String.ofList cs) = readChars cs := by
  have same := Yaml.readUpTo_ofList depth cs
  unfold readValue readChars
  cases value : Yaml.valueOf (.ok Value.null) depth cs with
  | ok v => rw [same, value]
  | error e => cases e <;> rw [same, value]

end Configuration

open Program Host CompileRun

/-! ### What stands at a path decides what is read there -/

namespace Host

variable {h k : Host} {p : Path}

theorem answer_read_congr (node : k.disk.nodeAt k.here p = h.disk.nodeAt h.here p) :
    k.answer (.read p) = h.answer (.read p) := by
  change guarded p (k.disk.read k.here p) = guarded p (h.disk.read h.here p)
  rw [Disk.read, Disk.read, node]

theorem readText_congr (node : k.disk.nodeAt k.here p = h.disk.nodeAt h.here p) :
    k.answer (readText p) = h.answer (readText p) := by
  simp only [readText, answer_bind, answer_read_congr node]
  split <;> rfl

theorem exists?_congr (node : k.disk.nodeAt k.here p = h.disk.nodeAt h.here p) :
    k.answer (exists? p) = h.answer (exists? p) := by
  have kind : k.answer (kindOf p) = h.answer (kindOf p) := by
    change guarded p ((k.disk.nodeAt k.here p).map Node.kind) =
      guarded p ((h.disk.nodeAt h.here p).map Node.kind)
    rw [node]
  simp only [exists?, answer_bind, kind]
  split <;> rfl

end Host

namespace CompileRun

variable {h k : Host}

theorem load_congr {q : Path} (here : k.here = h.here)
    (node : k.disk.nodeAt k.here q = h.disk.nodeAt h.here q) :
    k.answer (Configuration.load q) = h.answer (Configuration.load q) := by
  have hereAnswer : k.answer (Program.perform .here) = h.answer (Program.perform .here) := here
  simp only [Configuration.load, answer_bind, exists?_congr node, after_of_looks exists?_looks]
  split
  · rfl
  · rfl
  · simp only [answer_bind, readText_congr node, after_of_looks readText_looks]
    split
    · rfl
    · simp only [answer_bind, hereAnswer]
      rfl

theorem sourceText_congr (source : SchemaSource) (node : ∀ q, source = .file q →
    k.disk.nodeAt k.here q = h.disk.nodeAt h.here q) :
    k.answer (sourceText source) = h.answer (sourceText source) := by
  cases source with
  | inline text => rfl
  | file q =>
    simp only [sourceText, answer_bind, readText_congr (node q rfl)]
    rfl

end CompileRun

/-! ### Files that hold characters -/

section files

variable {h : Host} {p : Path} {cs : List Char} {text : String}

theorem readText_of_node (accepted : p.isRefused = false)
    (node : h.disk.nodeAt h.here p = .ok (.file (Text.Utf8.encode text.toList)))
    (spelled : String.ofList cs = text) (plain : '\r' ∉ cs) :
    h.answer (readText p) = .ok text := by
  have read := answer_read_eq_ok.mpr ⟨accepted, Disk.read_eq_ok.mpr node⟩
  simp only [readText, answer_bind, read, textOfBytes_of_spelled spelled plain]
  rfl

theorem sourceText_of_node (accepted : p.isRefused = false)
    (node : h.disk.nodeAt h.here p = .ok (.file (Text.Utf8.encode text.toList)))
    (spelled : String.ofList cs = text) (plain : '\r' ∉ cs) :
    h.answer (sourceText (.file p)) = .ok text := by
  simp only [sourceText, answer_bind, readText_of_node accepted node spelled plain]
  rfl

theorem Configuration.load_of_node (accepted : p.isRefused = false)
    (node : h.disk.nodeAt h.here p = .ok (.file (Text.Utf8.encode text.toList)))
    (spelled : String.ofList cs = text) (plain : '\r' ∉ cs) :
    h.answer (load p) = (readChars cs).bind (ofValue h.here p) := by
  simp only [load, answer_bind, exists?_of_node accepted node, after_of_looks exists?_looks,
    readText_of_node accepted node spelled plain, after_of_looks readText_looks, answer_pure]
  rw [← spelled, readValue_ofList]
  rfl

end files

end SchemaChecks
