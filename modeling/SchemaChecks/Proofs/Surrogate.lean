import Mathlib.Data.List.TakeWhile
import SchemaChecks.Text.Utf8

/-!
Code points and the characters that are them or stand for them, and texts that can be encoded.
-/

namespace SchemaChecks.Text

variable {c : Char} {n : Nat} {cs : List Char}

theorem charOfCode_of_single (single : n < 0xd800 ∨ 0xe000 ≤ n) : charOfCode n = Char.ofNat n := by
  have none : isSurrogateCode n = false := by
    simp only [isSurrogateCode, Bool.and_eq_false_iff, decide_eq_false_iff_not]
    omega
  simp [charOfCode, none]

theorem isSurrogate_of_lt (low : c.toNat < 0xd800) : isSurrogate c = false := by
  simp only [isSurrogate, Bool.and_eq_false_iff, decide_eq_false_iff_not]
  omega

@[simp] theorem codeOf_of_lt (low : c.toNat < 0xd800) : codeOf c = c.toNat := by
  simp [codeOf, isSurrogate_of_lt low]

theorem codeOf_le (c : Char) : codeOf c ≤ c.toNat := by
  unfold codeOf
  split <;> omega

/-- A character is found again from its code point. -/
theorem charOfCode_codeOf (c : Char) : charOfCode (codeOf c) = c := by
  unfold codeOf
  split
  · rename_i surrogate
    simp only [isSurrogate, Bool.and_eq_true, decide_eq_true_eq] at surrogate
    have code : isSurrogateCode (c.toNat - standInOffset) = true := by
      simp only [isSurrogateCode, Bool.and_eq_true, decide_eq_true_eq]
      omega
    rw [charOfCode, if_pos code, Nat.sub_add_cancel (by omega), Char.ofNat_toNat]
  · have single : c.toNat < 0xd800 ∨ 0xe000 ≤ c.toNat := by
      have valid := c.valid
      simp only [UInt32.isValidChar, Nat.isValidChar] at valid
      change c.toNat < 0xd800 ∨ 0xdfff < c.toNat ∧ _ at valid
      omega
    rw [charOfCode_of_single single, Char.ofNat_toNat]

/-- Characters that can be written: no surrogate is among them. -/
def HasBytes (cs : List Char) : Prop := ∀ c ∈ cs, isSurrogate c = false

instance (cs : List Char) : Decidable (HasBytes cs) := List.decidableBAll _ cs

@[simp] theorem hasBytes_nil : HasBytes [] := List.forall_mem_nil _

@[simp] theorem hasBytes_cons : HasBytes (c :: cs) ↔ isSurrogate c = false ∧ HasBytes cs :=
  List.forall_mem_cons

@[simp] theorem hasBytes_append {more : List Char} :
    HasBytes (cs ++ more) ↔ HasBytes cs ∧ HasBytes more :=
  List.forall_mem_append

theorem hasBytes_flatMap {α : Type} {as : List α} {f : α → List Char} :
    HasBytes (as.flatMap f) ↔ ∀ a ∈ as, HasBytes (f a) :=
  List.forall_mem_flatMap

/-- The texts that are encoded are those that can be. -/
theorem Utf8.unencodable?_eq_none : unencodable? (fun _ => false) cs = none ↔ HasBytes cs := by
  unfold unencodable?
  cases h : cs.dropWhile fun c => !isSurrogate c || false with
  | nil =>
    have all := List.dropWhile_eq_nil_iff.mp h
    simpa [HasBytes] using all
  | cons c rest =>
    have left : cs.dropWhile (fun c => !isSurrogate c || false) ≠ [] := h ▸ List.cons_ne_nil _ _
    rw [ne_eq, List.dropWhile_eq_nil_iff] at left
    simpa [HasBytes] using left

end SchemaChecks.Text
