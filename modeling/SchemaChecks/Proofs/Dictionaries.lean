import SchemaChecks.Document

/-!
Dictionaries inside values. A dictionary is built by entries put in one after the other, so that no
two of its keys are the same; yet two keys that are not the same may have one text.
-/

namespace SchemaChecks

namespace Atom

theorem sameKey_refl (a : Atom) : a.sameKey a = true := by
  cases a with
  | moment t => cases ho : t.offset <;> simp [sameKey, Moment.sameInstant, ho]
  | real x => cases hn : x.isNaN <;> simp [sameKey, Binary64.sameNumber, hn]
  | _ => simp [sameKey]

def Apart (keys : List Atom) : Prop := keys.Pairwise fun a b => a.sameKey b = false

def addKey (key : Atom) (keys : List Atom) : List Atom :=
  if keys.any (·.sameKey key) then keys else keys ++ [key]

theorem Apart.addKey {keys : List Atom} (h : Apart keys) (key : Atom) :
    Apart (addKey key keys) := by
  unfold Atom.addKey
  split
  next => exact h
  next new =>
    refine List.pairwise_append.mpr ⟨h, List.pairwise_singleton _ _, fun a ha b hb => ?_⟩
    obtain rfl := List.mem_singleton.mp hb
    exact Bool.eq_false_iff.mpr fun same => new (List.any_eq_true.mpr ⟨a, ha, same⟩)

theorem mem_addKey {key k : Atom} {keys : List Atom} (h : k ∈ addKey key keys) :
    k = key ∨ k ∈ keys := by
  unfold addKey at h
  split at h
  next => exact Or.inr h
  next => exact (List.mem_append.mp h).symm.imp_left List.mem_singleton.mp

end Atom

namespace Value

/-- A property of all values, shown of a list or a dictionary from what it holds. -/
@[elab_as_elim]
theorem parts_induction {P : Value → Prop} (scalar : ∀ s, P (.scalar s))
    (list : ∀ items, (∀ v ∈ items, P v) → P (.list items))
    (dict : ∀ entries, (∀ e ∈ entries, P e.2) → P (.dict entries)) (v : Value) : P v := by
  refine @Value.rec P (fun items => ∀ v ∈ items, P v) (fun entries => ∀ e ∈ entries, P e.2)
    (fun e => P e.2) scalar list dict ?_ ?_ ?_ ?_ (fun _ _ h => h) v
  · exact fun v hv => nomatch hv
  · exact fun _ _ first rest => List.forall_mem_cons.mpr ⟨first, rest⟩
  · exact fun e he => nomatch he
  · exact fun _ _ first rest => List.forall_mem_cons.mpr ⟨first, rest⟩

/-! ### Keys at any depth -/

inductive HasKey : Value → Atom → Prop
  | here {entries : List (Atom × Value)} {k : Atom} {v : Value} (h : (k, v) ∈ entries) :
      HasKey (.dict entries) k
  | inEntry {entries : List (Atom × Value)} {k key : Atom} {v : Value} (h : (k, v) ∈ entries)
      (inside : HasKey v key) : HasKey (.dict entries) key
  | inItem {items : List Value} {key : Atom} {v : Value} (h : v ∈ items) (inside : HasKey v key) :
      HasKey (.list items) key

inductive Holds : Value → List (Atom × Value) → Prop
  | here (entries : List (Atom × Value)) : Holds (.dict entries) entries
  | inEntry {entries inner : List (Atom × Value)} {e : Atom × Value} (h : e ∈ entries)
      (inside : Holds e.2 inner) : Holds (.dict entries) inner
  | inItem {items : List Value} {inner : List (Atom × Value)} {v : Value} (h : v ∈ items)
      (inside : Holds v inner) : Holds (.list items) inner

theorem HasKey.holds {v : Value} {k : Atom} (h : HasKey v k) :
    ∃ es, Holds v es ∧ k ∈ es.map Prod.fst := by
  induction h with
  | @here entries k v h => exact ⟨entries, .here entries, List.mem_map_of_mem h⟩
  | inEntry h _ ih =>
    obtain ⟨es, held, known⟩ := ih
    exact ⟨es, .inEntry h held, known⟩
  | inItem h _ ih =>
    obtain ⟨es, held, known⟩ := ih
    exact ⟨es, .inItem h held, known⟩

def EachDict (P : List Atom → Prop) (v : Value) : Prop :=
  ∀ es, Holds v es → P (es.map Prod.fst)

variable {P : List Atom → Prop}

theorem eachDict_scalar (s : Scalar) : EachDict P (.scalar s) := by
  intro es held
  cases held

theorem eachDict_list {items : List Value} (h : ∀ v ∈ items, EachDict P v) :
    EachDict P (.list items) := by
  intro es held
  cases held with
  | inItem hv inside => exact h _ hv es inside

theorem eachDict_dict {entries : List (Atom × Value)} (keys : P (entries.map Prod.fst))
    (h : ∀ e ∈ entries, EachDict P e.2) : EachDict P (.dict entries) := by
  intro es held
  cases held with
  | here => exact keys
  | inEntry he inside => exact h _ he es inside

/-! ### Entries put in one after the other -/

theorem keys_insert (key : Atom) (v : Value) (es : List (Atom × Value)) :
    (insert key v es).map Prod.fst = Atom.addKey key (es.map Prod.fst) := by
  induction es with
  | nil => rfl
  | cons e rest ih =>
    cases known : e.1.sameKey key with
    | true => simp [insert, Atom.addKey, known]
    | false =>
      simp only [insert, known, Bool.false_eq_true, if_false, List.map_cons, ih, Atom.addKey,
        List.any_cons, Bool.false_or]
      split <;> rfl

theorem mem_insert {key : Atom} {v : Value} {es : List (Atom × Value)} {e : Atom × Value}
    (h : e ∈ insert key v es) : e.2 = v ∨ e ∈ es := by
  induction es with
  | nil =>
    obtain rfl := List.mem_singleton.mp h
    exact Or.inl rfl
  | cons first rest ih =>
    unfold insert at h
    split at h
    · rcases List.mem_cons.mp h with rfl | h
      · exact Or.inl rfl
      · exact Or.inr (List.mem_cons_of_mem _ h)
    · rcases List.mem_cons.mp h with rfl | h
      · exact Or.inr List.mem_cons_self
      · exact (ih h).imp_right (List.mem_cons_of_mem _)

/-- What a key added keeps of the keys, and what is said of the values, holds of a dictionary that
is put together of entries. -/
theorem eachDict_dictOf {entries : List (Atom × Value)} (none : P [])
    (adds : ∀ e ∈ entries, ∀ keys, P keys → P (Atom.addKey e.1 keys))
    (h : ∀ e ∈ entries, EachDict P e.2) : EachDict P (dictOf entries) := by
  have collected : ∀ acc : List (Atom × Value), P (acc.map Prod.fst) →
      (∀ e ∈ acc, EachDict P e.2) →
      EachDict P (.dict (entries.foldl (fun acc e => insert e.1 e.2 acc) acc)) := by
    induction entries with
    | nil => exact fun acc keys values => eachDict_dict keys values
    | cons e rest ih =>
      intro acc keys values
      refine ih (fun e he => adds e (List.mem_cons_of_mem _ he))
        (fun e he => h e (List.mem_cons_of_mem _ he)) _ ?_ ?_
      · rw [keys_insert]
        exact adds e List.mem_cons_self _ keys
      · intro e' he'
        rcases mem_insert he' with new | old
        · rw [new]
          exact h e List.mem_cons_self
        · exact values e' old
  exact collected [] none fun e he => nomatch he

end Value

end SchemaChecks
