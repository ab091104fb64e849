import Mathlib.Data.List.Forall2
import SchemaChecks.Proofs.Depth
import SchemaChecks.Proofs.Portable.Filling
import SchemaChecks.Proofs.Portable.Words

/-!
YAML reads such a document as JSON does.
-/

namespace SchemaChecks.Portable

open Yaml

variable {nodes : Array Yaml.Node} {least id : Nat}

/-! ### The nodes of values are plain -/

def InForm (nodes : Array Yaml.Node) (id : Nat) : Prop :=
  ∃ f : Form, ∃ least, f.Built nodes least id ∧ f.chars.length < Fill.stepLimit

theorem Items.Built.parts {items : Items} {ids : List Nat} (h : items.Built nodes least ids)
    (first : Bool) (short : (items.chars first).length < Fill.stepLimit) :
    ∀ i ∈ ids, InForm nodes i :=
  match items with
  | .nil => by
    obtain rfl : ids = [] := h
    exact nofun
  | .cons before form after rest => by
    obtain ⟨id, more, rfl, built, others⟩ := h
    simp only [Items.chars, List.length_append] at short
    intro i hi
    rcases List.mem_cons.mp hi with rfl | hi
    · exact ⟨form, least, built, by omega⟩
    · exact others.parts false (by omega) i hi

theorem Entries.Built.parts {entries : Entries} {ids : List (Nat × Nat)}
    (h : entries.Built nodes least ids) (first : Bool)
    (short : (entries.chars first).length < Fill.stepLimit) :
    (∀ e ∈ ids, ∃ text, nodes[e.1]? = some ⟨.str, .scalar text⟩) ∧
      (∀ e ∈ ids, InForm nodes e.2) ∧ ids.length < (entries.chars first).length :=
  match entries with
  | .nil => by
    obtain rfl : ids = [] := h
    exact ⟨nofun, nofun, Nat.zero_lt_one⟩
  | .cons before key spaces near colon form after rest => by
    obtain ⟨k, v, more, rfl, ⟨-, named⟩, built, others⟩ := h
    simp only [Entries.chars, List.length_append, List.length_cons] at short ⊢
    obtain ⟨keys, values, fewer⟩ := others.parts false (by omega)
    refine ⟨fun e he => ?_, fun e he => ?_, by omega⟩
    · rcases List.mem_cons.mp he with rfl | he
      · exact ⟨key.text, named⟩
      · exact keys e he
    · rcases List.mem_cons.mp he with rfl | he
      · exact ⟨form, least, built, by omega⟩
      · exact values e he

theorem Form.Built.leaf {f : Form} {a : Atom} (h : f.Built nodes least id)
    (atom : f.value = .scalar (.atom a)) : IsLeaf nodes id a := by
  cases f with
  | word w =>
    cases atom
    have node := h.2
    rw [w.spelling] at node
    exact ⟨w.tag, _, node, by cases w <;> simp [Word.tag, leafTags], w.reads⟩
  | text q =>
    cases atom
    exact ⟨.str, _, h.2, by simp [leafTags], rfl⟩
  | list => cases atom
  | dict => cases atom

theorem mapM_ok {α β ε : Type} {f : α → Except ε β} {xs : List α} {ys : List β}
    (h : List.Forall₂ (fun x y => f x = .ok y) xs ys) : xs.mapM f = .ok ys := by
  induction h with
  | nil => rfl
  | cons first _ ih =>
    rw [List.mapM_cons, first, ih]
    rfl

variable {h : Heap} {depth : Nat} {bottom : Except Yaml.Fault Value}

theorem valueAt_atom {a : Atom} (cell : h.cells[id]? = some (some (.atom a))) :
    h.valueAt bottom depth id = .ok (.scalar (.atom a)) := by
  unfold Heap.valueAt
  rw [cell]

theorem valueAt_list {items : List Nat} {values : List Value}
    (cell : h.cells[id]? = some (some (.list items)))
    (parts : List.Forall₂ (fun i v => h.valueAt bottom depth i = .ok v) items values) :
    h.valueAt bottom (depth + 1) id = .ok (.list values) := by
  unfold Heap.valueAt
  rw [cell]
  simp only [mapM_ok parts]
  rfl

theorem valueAt_dict {entries : List (Atom × Nat)} {values : List (Atom × Value)}
    (cell : h.cells[id]? = some (some (.dict entries)))
    (parts : List.Forall₂ (fun e v => e.1 = v.1 ∧ h.valueAt bottom depth e.2 = .ok v.2)
      entries values) :
    h.valueAt bottom (depth + 1) id = .ok (.dict values) := by
  have read : entries.mapM (fun e => do
      let value ← h.valueAt bottom depth e.2
      Except.ok (e.1, value)) = .ok values := by
    refine mapM_ok (parts.imp fun e v same => ?_)
    rw [same.1, same.2]
    rfl
  unfold Heap.valueAt
  rw [cell]
  simp only [read]
  rfl

theorem valueAt_bottom {c : Cell} (cell : h.cells[id]? = some (some c))
    (collection : (∃ items, c = .list items) ∨ ∃ entries, c = .dict entries) :
    h.valueAt bottom 0 id = bottom := by
  unfold Heap.valueAt
  rw [cell]
  rcases collection with ⟨_, rfl⟩ | ⟨_, rfl⟩ <;> rfl

def Stands (h : Heap) (depth : Nat) (e : Atom × Nat) (v : Atom × Value) : Prop :=
  e.1 = v.1 ∧ h.valueAt (.ok Value.null) depth e.2 = .ok (v.2.upTo depth)

theorem stands_insert {xs : List (Atom × Nat)} {ys : List (Atom × Value)} {key : Atom} {v : Value}
    (h' : List.Forall₂ (Stands h depth) xs ys) (stands : Stands h depth (key, id) (key, v)) :
    List.Forall₂ (Stands h depth) (Fill.insertEntry key id xs) (Value.insert key v ys) := by
  induction h' with
  | nil => exact .cons stands .nil
  | @cons x y xs ys first others ih =>
    obtain ⟨k, i⟩ := x
    obtain ⟨k', w⟩ := y
    obtain ⟨rfl, value⟩ : k = k' ∧ _ := first
    unfold Fill.insertEntry Value.insert
    split
    · exact .cons ⟨rfl, stands.2⟩ others
    · exact .cons ⟨rfl, value⟩ ih

abbrev IsSettled (nodes : Array Yaml.Node) (h : Heap) : Prop :=
  ∀ id, Seen h.cells id → Settled nodes h.cells id

mutual

/-- A settled node stands for its value down to a depth. -/
theorem Form.valueAt {least id : Nat} (settled : IsSettled nodes h) (f : Form)
    (built : f.Built nodes least id) (seen : Seen h.cells id) (depth : Nat) :
    h.valueAt (.ok Value.null) depth id = .ok (f.value.upTo depth) :=
  match f with
  | .word w => by
    rw [valueAt_atom ((settled id seen).leaf_cell (built.leaf rfl))]
    cases depth <;> rfl
  | .text q => by
    rw [valueAt_atom ((settled id seen).leaf_cell (built.leaf rfl))]
    cases depth <;> rfl
  | .list gap items => by
    obtain ⟨-, ids, node, parts⟩ := built
    obtain ⟨cell, inside⟩ := (settled id seen).list_cell node
    cases depth with
    | zero => exact valueAt_bottom cell (.inl ⟨ids, rfl⟩)
    | succ depth => exact valueAt_list cell (items.valueAt settled parts inside depth)
  | .dict gap entries => by
    obtain ⟨-, ids, node, parts⟩ := built
    obtain ⟨cell, inside⟩ := (settled id seen).dict_cell node
    cases depth with
    | zero => exact valueAt_bottom cell (.inr ⟨_, rfl⟩)
    | succ depth =>
      refine valueAt_dict cell ?_
      rw [List.forall₂_map_right_iff]
      exact entries.valueAt settled parts inside depth .nil

theorem Items.valueAt {least : Nat} {ids : List Nat} (settled : IsSettled nodes h) (items : Items)
    (built : items.Built nodes least ids) (seen : ∀ i ∈ ids, Seen h.cells i) (depth : Nat) :
    List.Forall₂ (fun i v => h.valueAt (.ok Value.null) depth i = .ok v) ids
      (items.values.map (Value.upTo depth)) :=
  match items with
  | .nil => by
    obtain rfl : ids = [] := built
    exact .nil
  | .cons before form after rest => by
    obtain ⟨id, more, rfl, first, others⟩ := built
    exact .cons (form.valueAt settled first (seen id List.mem_cons_self) depth)
      (rest.valueAt settled others (fun i hi => seen i (List.mem_cons_of_mem _ hi)) depth)

theorem Entries.valueAt {least : Nat} {ids : List (Nat × Nat)} (settled : IsSettled nodes h)
    (entries : Entries) (built : entries.Built nodes least ids) (seen : ∀ e ∈ ids, Seen h.cells e.2)
    (depth : Nat) {xs : List (Atom × Nat)} {ys : List (Atom × Value)}
    (before : List.Forall₂ (Stands h depth) xs ys) :
    List.Forall₂ (Stands h depth) (keyed nodes ids xs)
      (entries.values.foldl (fun acc e => Value.insert e.1 e.2 acc) ys) :=
  match entries with
  | .nil => by
    obtain rfl : ids = [] := built
    exact before
  | .cons before' key spaces near colon form after rest => by
    obtain ⟨k, v, more, rfl, ⟨-, named⟩, first, others⟩ := built
    have value := form.valueAt settled first (seen (k, v) List.mem_cons_self) depth
    have name : keyOf nodes k = .text key.text := by rw [keyOf, named]
    have inserted : List.Forall₂ (Stands h depth) (Fill.insertEntry (keyOf nodes k) v xs)
        (Value.insert (.text key.text) form.value ys) := by
      rw [name]
      exact stands_insert before ⟨rfl, value⟩
    exact rest.valueAt settled others (fun e he => seen e (List.mem_cons_of_mem _ he)) depth
      inserted

end

/-! ### Pages -/

structure Page.Fits (p : Page) : Prop where
  shallow : p.form.depth ≤ Yaml.depthLimit
  short : p.chars.length < Fill.stepLimit

end SchemaChecks.Portable
