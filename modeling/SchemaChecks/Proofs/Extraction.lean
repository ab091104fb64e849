import Mathlib.Data.List.Nodup
import SchemaChecks.Extraction

/-!
What an extraction holds: extraction succeeds exactly when every pattern that counts can be read,
and then it is the list of the fields that have checks, in order, under the names of their schemas.
-/

namespace SchemaChecks

namespace Property

def usableChecks (p : Property) : List Check := if p.isReference then [] else p.plainChecks

def field? (p : Property) : Option FieldChecks :=
  match p.usableChecks with
  | [] => none
  | checks => some ⟨p.name, p.type, p.nullable, checks⟩

def Compiles (p : Property) : Prop :=
  p.isReference = false → p.type = .string →
    ∀ regex, p.pattern? = some regex → ∃ q, Pattern.compile regex = .ok q

theorem compilable_eq_ok {schema : String} {p : Property} :
    p.compilable schema = .ok () ↔
      (p.type = .string → ∀ regex, p.pattern? = some regex →
        ∃ q, Pattern.compile regex = .ok q) := by
  unfold compilable
  split
  next regex ht hp =>
    cases hc : Pattern.compile regex <;> simp [ht, hp, hc]
  next hn =>
    simp only [true_iff]
    intro ht regex hp
    exact absurd hp (hn regex ht)

theorem checks_eq_ok {schema : String} {p : Property} {cs : List Check} :
    p.checks schema = .ok cs ↔ p.Compiles ∧ cs = p.usableChecks := by
  unfold checks usableChecks Compiles
  cases hr : p.isReference with
  | true => simp [eq_comm]
  | false =>
    rw [forall_prop_of_true rfl, ← @compilable_eq_ok schema]
    cases p.compilable schema <;> simp [Except.map, eq_comm]

theorem fieldChecks?_eq_ok {schema : String} {p : Property} {o : Option FieldChecks} :
    p.fieldChecks? schema = .ok o ↔ p.Compiles ∧ o = p.field? := by
  unfold fieldChecks? field?
  cases hc : p.checks schema with
  | error e =>
    have hn : ¬ p.Compiles := fun h => by
      rw [checks_eq_ok.mpr ⟨h, rfl⟩] at hc
      cases hc
    simp [Except.map, hn]
  | ok cs =>
    obtain ⟨h, rfl⟩ := checks_eq_ok.mp hc
    simp only [Except.map, h, true_and, Except.ok.injEq]
    cases p.usableChecks <;> simp [eq_comm]

theorem field?_eq_some {p : Property} {f : FieldChecks} :
    p.field? = some f ↔ p.usableChecks ≠ [] ∧ f = ⟨p.name, p.type, p.nullable, p.usableChecks⟩ := by
  unfold field?
  cases p.usableChecks <;> simp [eq_comm]

end Property

namespace Definition

def Compiles (d : Definition) : Prop := ∀ p ∈ d.properties, p.Compiles

def fields (d : Definition) : List FieldChecks := d.properties.filterMap Property.field?

def entry? (d : Definition) : Option (String × List FieldChecks) :=
  if d.fields = [] then none else some (d.name, d.fields)

theorem fieldsOf_eq_ok {schema : String} {ps : List Property} {fs : List FieldChecks} :
    fieldsOf schema ps = .ok fs ↔ (∀ p ∈ ps, p.Compiles) ∧ fs = ps.filterMap Property.field? := by
  induction ps generalizing fs with
  | nil => simp [fieldsOf, eq_comm]
  | cons p rest ih =>
    unfold fieldsOf
    cases hp : p.fieldChecks? schema with
    | error e =>
      have hn : ¬ p.Compiles := fun h => by
        rw [Property.fieldChecks?_eq_ok.mpr ⟨h, rfl⟩] at hp
        cases hp
      simp [hn]
    | ok o =>
      obtain ⟨h, rfl⟩ := Property.fieldChecks?_eq_ok.mp hp
      have hcons : (p :: rest).filterMap Property.field? =
          p.field?.toList ++ rest.filterMap Property.field? := by
        cases hf : p.field? <;> simp [hf]
      rw [hcons]
      cases hr : fieldsOf schema rest with
      | error e =>
        have hn : ¬ ∀ q ∈ rest, q.Compiles := fun hq => by
          rw [ih.mpr ⟨hq, rfl⟩] at hr
          cases hr
        simp [Except.map, hn]
      | ok more =>
        obtain ⟨hq, rfl⟩ := ih.mp hr
        simp only [Except.map, List.forall_mem_cons, h, true_and, Except.ok.injEq]
        exact ⟨fun e => ⟨hq, e.symm⟩, fun e => e.2.symm⟩

theorem fieldChecks_eq_ok {d : Definition} {fs : List FieldChecks} :
    d.fieldChecks = .ok fs ↔ d.Compiles ∧ fs = d.fields := fieldsOf_eq_ok

theorem fields_names_sublist (d : Definition) :
    (d.fields.map FieldChecks.name).Sublist (d.properties.map Property.name) := by
  unfold fields
  induction d.properties with
  | nil => simp
  | cons p rest ih =>
    cases hp : p.field? with
    | none => simpa [hp] using ih.cons _
    | some f =>
      obtain ⟨_, rfl⟩ := Property.field?_eq_some.mp hp
      simpa [hp] using ih

end Definition

namespace Extraction

theorem ofDefinitions_eq_ok {ds : List Definition} {es : List (String × List FieldChecks)} :
    ofDefinitions ds = .ok es ↔
      (∀ d ∈ ds, d.Compiles) ∧ es = ds.filterMap Definition.entry? := by
  induction ds generalizing es with
  | nil => simp [ofDefinitions, eq_comm]
  | cons d rest ih =>
    cases hd : d.fieldChecks with
    | error e =>
      have hn : ¬ d.Compiles := fun h => by
        rw [Definition.fieldChecks_eq_ok.mpr ⟨h, rfl⟩] at hd
        cases hd
      simp [ofDefinitions, hd, hn]
    | ok fs =>
      obtain ⟨h, rfl⟩ := Definition.fieldChecks_eq_ok.mp hd
      cases hf : d.fields with
      | nil =>
        have he : d.entry? = none := by simp [Definition.entry?, hf]
        rw [hf] at hd
        simp [ofDefinitions, hd, ih, he, h]
      | cons f more =>
        have he : d.entry? = some (d.name, f :: more) := by simp [Definition.entry?, hf]
        rw [hf] at hd
        cases hr : ofDefinitions rest with
        | error e =>
          have hn : ¬ ∀ q ∈ rest, q.Compiles := fun hq => by
            rw [ih.mpr ⟨hq, rfl⟩] at hr
            cases hr
          simp [ofDefinitions, hd, hr, Except.map, hn]
        | ok tail =>
          obtain ⟨hq, rfl⟩ := ih.mp hr
          simp only [ofDefinitions, hd, hr, Except.map, List.forall_mem_cons, h, true_and,
            Except.ok.injEq, List.filterMap_cons, he]
          exact ⟨fun e => ⟨hq, e.symm⟩, fun e => e.2.symm⟩

/-- Definitions are read one after the other, and the first that fails ends it. -/
theorem ofDefinitions_append (ds more : List Definition) :
    ofDefinitions (ds ++ more) =
      (ofDefinitions ds).bind fun es => (ofDefinitions more).map (es ++ ·) := by
  induction ds with
  | nil =>
    rw [List.nil_append, ofDefinitions]
    cases ofDefinitions more <;> simp [Except.bind, Except.map]
  | cons d rest ih =>
    rw [List.cons_append, ofDefinitions, ofDefinitions, ih]
    cases d.fieldChecks with
    | error e => rfl
    | ok fields =>
      cases fields with
      | nil => rfl
      | cons f others =>
        cases ofDefinitions rest with
        | error e => rfl
        | ok es => cases ofDefinitions more <;> simp [Except.bind, Except.map]

/-- Extraction succeeds exactly when there is a collection and every pattern that counts can be
read. -/
theorem ofTree_eq_ok {root : Tree} {path : Option String} {e : Extraction} :
    ofTree root path = .ok e ↔
      ∃ c, Collection.ofTree root path = .ok c ∧ (∀ d ∈ c.definitions, d.Compiles) ∧
        e = ofList (c.definitions.filterMap Definition.entry?) := by
  unfold ofTree definitionsOf
  cases Collection.ofTree root path with
  | error e => simp [Except.map]
  | ok c =>
    cases hd : ofDefinitions c.definitions with
    | error e =>
      have hn : ¬ ∀ d ∈ c.definitions, d.Compiles := fun h => by
        rw [ofDefinitions_eq_ok.mpr ⟨h, rfl⟩] at hd
        cases hd
      simp [Except.map, hd, hn]
    | ok es =>
      obtain ⟨h, rfl⟩ := ofDefinitions_eq_ok.mp hd
      simp only [Except.map, hd, Except.ok.injEq, exists_eq_left']
      exact ⟨fun e => ⟨h, e.symm⟩, fun e => e.2.symm⟩

/-! ### Insertion under a name -/

variable {name other : String} {fields : List FieldChecks} {e : Extraction}

@[simp] theorem names_nil : names [] = [] := rfl
@[simp] theorem names_cons (s : String × List FieldChecks) (rest : Extraction) :
    names (s :: rest) = s.1 :: names rest := rfl

theorem names_insert :
    (insert name fields e).names = if name ∈ e.names then e.names else e.names ++ [name] := by
  induction e with
  | nil => simp [insert]
  | cons s rest ih =>
    by_cases hs : s.1 = name
    · simp [insert, hs]
    · have hs' : ¬ name = s.1 := fun h => hs h.symm
      simp only [insert, hs, if_false, names_cons, ih, List.mem_cons, hs', false_or]
      by_cases hm : name ∈ names rest
      · rw [if_pos hm, if_pos hm]
      · rw [if_neg hm, if_neg hm, List.cons_append]

theorem mem_insert {s : String × List FieldChecks} (h : s ∈ insert name fields e) :
    s = (name, fields) ∨ s ∈ e := by
  induction e with
  | nil => simpa [insert] using h
  | cons t rest ih =>
    by_cases ht : t.1 = name
    · simp only [insert, ht, if_true, List.mem_cons] at h
      rcases h with rfl | h
      · exact Or.inl rfl
      · exact Or.inr (List.mem_cons_of_mem _ h)
    · simp only [insert, ht, if_false, List.mem_cons] at h
      rcases h with rfl | h
      · exact Or.inr List.mem_cons_self
      · rcases ih h with rfl | h
        · exact Or.inl rfl
        · exact Or.inr (List.mem_cons_of_mem _ h)

theorem insert_of_new (h : name ∉ e.names) : insert name fields e = e ++ [(name, fields)] := by
  induction e with
  | nil => rfl
  | cons s rest ih =>
    simp only [names_cons, List.mem_cons, not_or] at h
    have hs : ¬ s.1 = name := fun hs => h.1 hs.symm
    simp [insert, hs, ih h.2]

theorem insert_append_of_new (h : name ∉ e.names) (later : Extraction) :
    insert name fields (e ++ later) = e ++ insert name fields later := by
  induction e with
  | nil => rfl
  | cons s rest ih =>
    simp only [names_cons, List.mem_cons, not_or] at h
    have hs : ¬ s.1 = name := fun hs => h.1 hs.symm
    simp [insert, hs, ih h.2]

theorem get?_cons (s : String × List FieldChecks) (rest : Extraction) :
    get? (s :: rest) name = if s.1 = name then some s.2 else get? rest name := by
  obtain ⟨n, fs⟩ := s
  by_cases same : n = name
  · simp [get?, same]
  · have apart : (name == n) = false := by simpa using fun h : name = n => same h.symm
    simp [get?, List.lookup_cons, same, apart]

theorem get?_insert :
    (insert other fields e).get? name = if other = name then some fields else e.get? name := by
  induction e with
  | nil => rw [insert, get?_cons]
  | cons s rest ih =>
    by_cases taken : s.1 = other
    · simp only [insert, taken, if_true, get?_cons]
      split <;> rfl
    · simp only [insert, taken, if_false, get?_cons, ih]
      by_cases found : s.1 = name
      · have apart : ¬ other = name := fun same => taken (found.trans same.symm)
        rw [if_pos found, if_neg apart, if_pos found]
      · rw [if_neg found, if_neg found]

private def collect (e : Extraction) (l : List (String × List FieldChecks)) : Extraction :=
  l.foldl (fun acc s => insert s.1 s.2 acc) e

private theorem collect_cons (s : String × List FieldChecks)
    (l : List (String × List FieldChecks)) :
    collect e (s :: l) = collect (insert s.1 s.2 e) l := rfl

private theorem collect_names_nodup (l : List (String × List FieldChecks)) (h : e.names.Nodup) :
    (collect e l).names.Nodup := by
  induction l generalizing e with
  | nil => exact h
  | cons s rest ih =>
    rw [collect_cons]
    apply ih
    rw [names_insert]
    split
    next => exact h
    next hn => exact List.Nodup.append h (List.nodup_singleton _) (by simpa using hn)

private theorem collect_names_sublist (l : List (String × List FieldChecks)) :
    (collect e l).names.Sublist (e.names ++ l.map Prod.fst) := by
  induction l generalizing e with
  | nil => simp [collect]
  | cons s rest ih =>
    rw [collect_cons]
    refine ih.trans ?_
    rw [names_insert]
    split
    next => exact List.Sublist.append_left (by simp) _
    next => simp

private theorem mem_collect {l : List (String × List FieldChecks)} {s : String × List FieldChecks}
    (h : s ∈ collect e l) : s ∈ e ∨ s ∈ l := by
  induction l generalizing e with
  | nil => exact Or.inl h
  | cons t rest ih =>
    rcases ih h with h | h
    · rcases mem_insert h with rfl | h
      · exact Or.inr List.mem_cons_self
      · exact Or.inl h
    · exact Or.inr (List.mem_cons_of_mem _ h)

private theorem collect_of_nodup {l : List (String × List FieldChecks)}
    (h : (e.names ++ l.map Prod.fst).Nodup) : collect e l = e ++ l := by
  induction l generalizing e with
  | nil => simp [collect]
  | cons s rest ih =>
    have hs : s.1 ∉ e.names := fun hm =>
      (List.nodup_append.mp h).2.2 _ hm _ List.mem_cons_self rfl
    rw [collect_cons, insert_of_new hs, ih, List.append_assoc]
    · rfl
    · simpa [names] using h

private theorem collect_append_of_new {later : Extraction} {l : List (String × List FieldChecks)}
    (h : ∀ s ∈ l, s.1 ∉ e.names) : collect (e ++ later) l = e ++ collect later l := by
  induction l generalizing later with
  | nil => rfl
  | cons s rest ih =>
    rw [collect_cons, collect_cons, insert_append_of_new (h s List.mem_cons_self),
      ih fun t ht => h t (List.mem_cons_of_mem _ ht)]

private theorem get?_collect (l : List (String × List FieldChecks)) :
    (collect e l).get? name = (get? l.reverse name).or (e.get? name) := by
  induction l generalizing e with
  | nil => rfl
  | cons s rest ih =>
    rw [collect_cons, ih, get?_insert, List.reverse_cons]
    simp only [get?, List.lookup_append, Option.or_assoc]
    have single : List.lookup name [s] = if s.1 = name then some s.2 else none := get?_cons s []
    rw [single]
    split <;> rfl

theorem ofList_names_nodup (l : List (String × List FieldChecks)) : (ofList l).names.Nodup :=
  collect_names_nodup l List.nodup_nil

theorem ofList_names_sublist (l : List (String × List FieldChecks)) :
    (ofList l).names.Sublist (l.map Prod.fst) :=
  collect_names_sublist (e := []) l

theorem mem_of_mem_ofList {l : List (String × List FieldChecks)} {s : String × List FieldChecks}
    (h : s ∈ ofList l) : s ∈ l := by
  rcases mem_collect (e := []) h with h | h
  · cases h
  · exact h

/-- Of schemas with one name the fields of the last stay. -/
theorem get?_ofList (l : List (String × List FieldChecks)) :
    (ofList l).get? name = get? l.reverse name :=
  (get?_collect (e := []) l).trans Option.or_none

/-- Schemas that share no name with those before them are put behind them. -/
theorem ofList_append {l m : List (String × List FieldChecks)}
    (apart : ∀ name ∈ l.map Prod.fst, name ∉ m.map Prod.fst) :
    ofList (l ++ m) = ofList l ++ ofList m := by
  have new : ∀ s ∈ m, s.1 ∉ (ofList l).names := fun s hs known =>
    apart s.1 ((ofList_names_sublist l).subset known) (List.mem_map_of_mem hs)
  have later := @collect_append_of_new (ofList l) [] m new
  rw [List.append_nil] at later
  exact (List.foldl_append ..).trans later

theorem ofList_of_nodup {l : List (String × List FieldChecks)} (h : (l.map Prod.fst).Nodup) :
    ofList l = l :=
  collect_of_nodup (e := []) h

end Extraction

end SchemaChecks
