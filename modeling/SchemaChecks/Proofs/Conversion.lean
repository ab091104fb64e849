import Mathlib.Data.List.Induction
import Mathlib.Data.List.Nodup
import SchemaChecks.Proofs.JsonReading

/-!
Trees and the plain values that they stand for. Nothing is lost on the way from one to the other and
back as long as no key stands twice. Where a key of a tree does, its plain value keeps the place of
the first entry and the value of the last one, at every depth, while a look into the tree finds the
first.
-/

namespace SchemaChecks

namespace Value

variable {entries : List (Atom × Value)}

theorem insert_of_new {key : Atom} {v : Value}
    (new : ∀ k ∈ entries.map Prod.fst, k.sameKey key = false) :
    insert key v entries = entries ++ [(key, v)] := by
  induction entries with
  | nil => rfl
  | cons e rest ih =>
    have first : e.1.sameKey key = false := new e.1 List.mem_cons_self
    rw [insert, first, if_neg Bool.false_ne_true, List.cons_append,
      ih fun k hk => new k (List.mem_cons_of_mem _ hk)]

/-- Entries with keys of their own are a dictionary as they stand. -/
theorem dictOf_of_apart (apart : Atom.Apart (entries.map Prod.fst)) :
    dictOf entries = .dict entries := by
  have collected : ∀ known : List (Atom × Value), Atom.Apart ((known ++ entries).map Prod.fst) →
      entries.foldl (fun acc e => insert e.1 e.2 acc) known = known ++ entries := by
    clear apart
    induction entries with
    | nil => simp
    | cons e rest ih =>
      intro known apart
      have new : ∀ k ∈ known.map Prod.fst, k.sameKey e.1 = false := by
        intro k hk
        rw [List.map_append] at apart
        exact (List.pairwise_append.mp apart).2.2 k hk e.1 List.mem_cons_self
      rw [List.foldl_cons, insert_of_new new, ih, List.append_assoc]
      · rfl
      · simpa using apart
  exact congrArg Value.dict (collected [] apart)

/-- A value put among others whose keys are distinct texts. -/
theorem insert_texts {keys : List String} (distinct : keys.Nodup) (f : String → Value)
    (key : String)
    (v : Value) :
    insert (.text key) v (keys.map fun k => (.text k, f k)) =
      (if key ∈ keys then keys else keys ++ [key]).map fun k =>
        (.text k, if k = key then v else f k) := by
  induction keys with
  | nil => simp [insert]
  | cons first rest ih =>
    obtain ⟨fresh, distinct⟩ := List.nodup_cons.mp distinct
    by_cases found : first = key
    · subst found
      have others : ∀ k ∈ rest, (if k = first then v else f k) = f k := by
        intro k hk
        have apart : k ≠ first := fun same => fresh (same ▸ hk)
        exact if_neg apart
      have rest_eq : (rest.map fun k => (Atom.text k, if k = first then v else f k)) =
          rest.map fun k => (Atom.text k, f k) :=
        List.map_congr_left fun k hk => by rw [others k hk]
      simp [insert, Atom.sameKey, rest_eq]
    · have apart : (Atom.text first).sameKey (.text key) = false := by
        simpa [Atom.sameKey, Atom.toInt?] using found
      rw [List.map_cons, insert, apart, if_neg Bool.false_ne_true, ih distinct]
      by_cases known : key ∈ rest
      · rw [if_pos known, if_pos (List.mem_cons_of_mem first known), List.map_cons, if_neg found]
      · have absent : key ∉ first :: rest :=
          List.not_mem_cons_of_ne_of_not_mem (Ne.symm found) known
        rw [if_neg known, if_neg absent, List.cons_append, List.map_cons, if_neg found]

theorem eraseDups_concat (keys : List String) (key : String) :
    (keys ++ [key]).eraseDups =
      if key ∈ keys.eraseDups then keys.eraseDups else keys.eraseDups ++ [key] := by
  rw [List.eraseDups_append]
  by_cases known : key ∈ keys
  · simp [List.removeAll, known]
  · simp [List.removeAll, known, List.eraseDups_cons]

theorem nodup_eraseDups (keys : List String) : keys.eraseDups.Nodup := by
  induction keys using List.reverseRecOn with
  | nil => exact List.nodup_nil
  | append_singleton before key ih =>
    rw [eraseDups_concat]
    split
    next => exact ih
    next new => exact List.Nodup.append ih (List.nodup_singleton key) (by simpa using new)

/-- Of entries under texts every key stands where it came first, with the value that came last. -/
theorem dictOf_texts (entries : List (String × Value)) :
    dictOf (entries.map fun e => (.text e.1, e.2)) =
      .dict ((entries.map Prod.fst).eraseDups.map fun k =>
        (.text k, (entries.reverse.lookup k).getD null)) := by
  refine congrArg Value.dict ?_
  induction entries using List.reverseRecOn with
  | nil => rfl
  | append_singleton before e ih =>
    have value : ∀ k, ((before ++ [e]).reverse.lookup k).getD null =
        if k = e.1 then e.2 else (before.reverse.lookup k).getD null := by
      intro k
      rw [List.reverse_append, List.reverse_singleton, List.singleton_append, List.lookup_cons]
      by_cases same : k = e.1
      · rw [same, beq_self_eq_true, if_pos rfl]
        rfl
      · rw [beq_false_of_ne same, if_neg same]
    rw [List.map_append, List.foldl_append, ih, List.map_singleton, List.foldl_cons, List.foldl_nil,
      insert_texts (nodup_eraseDups _), List.map_append, List.map_singleton, eraseDups_concat]
    simp only [value]

end Value

namespace Tree

/-- A property of all trees, shown of a sequence or a mapping from what it holds. -/
@[elab_as_elim]
theorem parts_induction {P : Tree → Prop} (scalar : ∀ s, P (.scalar s))
    (seq : ∀ items, (∀ t ∈ items, P t) → P (.seq items))
    (map : ∀ entries, (∀ e ∈ entries, P e.2) → P (.map entries)) (t : Tree) : P t := by
  refine @Tree.rec P (fun items => ∀ t ∈ items, P t) (fun entries => ∀ e ∈ entries, P e.2)
    (fun e => P e.2) scalar seq map ?_ ?_ ?_ ?_ (fun _ _ h => h) t
  · exact fun t ht => nomatch ht
  · exact fun _ _ first rest => List.forall_mem_cons.mpr ⟨first, rest⟩
  · exact fun e he => nomatch he
  · exact fun _ _ first rest => List.forall_mem_cons.mpr ⟨first, rest⟩

/-! ### Mappings at any depth -/

inductive Holds : Tree → List (String × Tree) → Prop
  | here (entries : List (String × Tree)) : Holds (.map entries) entries
  | inEntry {entries inner : List (String × Tree)} {e : String × Tree} (h : e ∈ entries)
      (inside : Holds e.2 inner) : Holds (.map entries) inner
  | inItem {items : List Tree} {inner : List (String × Tree)} {t : Tree} (h : t ∈ items)
      (inside : Holds t inner) : Holds (.seq items) inner

def IsDistinct (t : Tree) : Prop := ∀ entries, t.Holds entries → (entries.map Prod.fst).Nodup

/-! ### There and back -/

theorem ofItems_eq_map (items : List Value) : ofItems items = items.map ofValue := by
  induction items with
  | nil => rfl
  | cons v rest ih => rw [ofItems, ih, List.map_cons]

theorem ofEntries_eq_map (entries : List (Atom × Value)) :
    ofEntries entries = entries.map fun e => (e.1.keyText, ofValue e.2) := by
  induction entries with
  | nil => rfl
  | cons e rest ih => rw [ofEntries, ih, List.map_cons]

theorem toItems_eq_map (items : List Tree) : toItems items = items.map toValue := by
  induction items with
  | nil => rfl
  | cons t rest ih => rw [toItems, ih, List.map_cons]

theorem toEntries_eq_map (entries : List (String × Tree)) :
    toEntries entries = entries.map fun e => (.text e.1, e.2.toValue) := by
  induction entries with
  | nil => rfl
  | cons e rest ih => rw [toEntries, ih, List.map_cons]

theorem toValue_ofValue (v : Value) (spelled : Json.IsSpelled v) : (ofValue v).toValue = v := by
  induction v using Value.parts_induction with
  | scalar s => rfl
  | list items ih =>
    have items_eq : items.map (fun v => (ofValue v).toValue) = items :=
      (List.map_congr_left fun v hv =>
        ih v hv fun es held => spelled es (.inItem hv held)).trans (List.map_id' items)
    rw [ofValue, toValue, ofItems_eq_map, toItems_eq_map, List.map_map]
    exact congrArg Value.list items_eq
  | dict entries ih =>
    obtain ⟨apart, texts⟩ := spelled entries (.here entries)
    have entries_eq : entries.map (fun e => (Atom.text e.1.keyText, (ofValue e.2).toValue)) =
        entries := by
      refine (List.map_congr_left fun e he => ?_).trans (List.map_id' entries)
      obtain ⟨s, named⟩ := texts e.1 (List.mem_map_of_mem he)
      rw [ih e he fun es held => spelled es (.inEntry he held), named, Atom.keyText, ← named]
    rw [ofValue, toValue, ofEntries_eq_map, toEntries_eq_map, List.map_map]
    exact (congrArg Value.dictOf entries_eq).trans (Value.dictOf_of_apart apart)

theorem apart_texts {keys : List String} (distinct : keys.Nodup) :
    Atom.Apart (keys.map Atom.text) := by
  refine List.pairwise_map.mpr (distinct.imp ?_)
  intro a b apart
  simpa [Atom.sameKey, Atom.toInt?] using apart

theorem isSpelled_texts (entries : List (String × Value)) (distinct : (entries.map Prod.fst).Nodup)
    (spelled : ∀ e ∈ entries, Json.IsSpelled e.2) :
    Json.IsSpelled (.dict (entries.map fun e => (.text e.1, e.2))) := by
  have keys : (entries.map fun e => (Atom.text e.1, e.2)).map Prod.fst =
      (entries.map Prod.fst).map Atom.text := by
    rw [List.map_map, List.map_map]
    rfl
  refine Value.eachDict_dict ?_ fun e he => ?_
  · rw [keys]
    refine ⟨apart_texts distinct, fun k hk => ?_⟩
    obtain ⟨s, -, rfl⟩ := List.mem_map.mp hk
    exact ⟨s, rfl⟩
  · obtain ⟨s, hs, rfl⟩ := List.mem_map.mp he
    exact spelled s hs

theorem toValue_of_nodup {entries : List (String × Tree)}
    (distinct : (entries.map Prod.fst).Nodup) :
    (Tree.map entries).toValue = .dict (toEntries entries) := by
  refine Value.dictOf_of_apart ?_
  rw [toEntries_eq_map, List.map_map]
  have keys := apart_texts distinct
  rwa [List.map_map] at keys

theorem ofValue_toValue (t : Tree) (distinct : t.IsDistinct) : ofValue t.toValue = t := by
  induction t using parts_induction with
  | scalar s => rfl
  | seq items ih =>
    have items_eq : items.map (fun t => ofValue t.toValue) = items :=
      (List.map_congr_left fun t ht =>
        ih t ht fun entries held => distinct entries (.inItem ht held)).trans (List.map_id' items)
    rw [toValue, ofValue, toItems_eq_map, ofItems_eq_map, List.map_map]
    exact congrArg Tree.seq items_eq
  | map entries ih =>
    have entries_eq : entries.map (fun e => (e.1, ofValue e.2.toValue)) = entries := by
      refine (List.map_congr_left fun e he => ?_).trans (List.map_id' entries)
      rw [ih e he fun inner held => distinct inner (.inEntry he held)]
    rw [toValue_of_nodup (distinct entries (.here entries)), ofValue, toEntries_eq_map,
      ofEntries_eq_map, List.map_map]
    exact congrArg Tree.map entries_eq

/-! ### Keys that stand twice -/

def IsFirst (key : String) (t : Tree) (entries : List (String × Tree)) : Prop :=
  ∃ before after, entries = before ++ (key, t) :: after ∧ key ∉ before.map Prod.fst

def IsLast (key : String) (t : Tree) (entries : List (String × Tree)) : Prop :=
  ∃ before after, entries = before ++ (key, t) :: after ∧ key ∉ after.map Prod.fst

/-- How trees collapse to plain values: of the entries of a mapping every key stands where it came
first, with the value that the last of its entries collapses to. -/
inductive Collapses : Tree → Value → Prop
  | scalar (s : Scalar) : Collapses (.scalar s) (.scalar s)
  | seq {items : List Tree} {vs : List Value} (length : vs.length = items.length)
      (each : ∀ (i : Nat) t v, items[i]? = some t → vs[i]? = some v → Collapses t v) :
      Collapses (.seq items) (.list vs)
  | map {entries : List (String × Tree)} {es : List (Atom × Value)}
      (keys : es.map Prod.fst = (entries.map Prod.fst).eraseDups.map .text)
      (last : ∀ key t v, IsLast key t entries → (.text key, v) ∈ es → Collapses t v) :
      Collapses (.map entries) (.dict es)

section

variable {entries : List (String × Tree)} {key : String} {t : Tree}

theorem lookup_eq_lookup (key : String) (entries : List (String × Tree)) :
    lookup key entries = entries.lookup key := by
  induction entries with
  | nil => rfl
  | cons e rest ih =>
    obtain ⟨k, t⟩ := e
    rw [lookup, List.lookup_cons, ih]
    by_cases same : key = k
    · rw [same, beq_self_eq_true, if_pos rfl]
    · rw [beq_false_of_ne same, if_neg fun h => same h.symm]

theorem lookup_eq_some_iff_isFirst : entries.lookup key = some t ↔ IsFirst key t entries := by
  rw [List.lookup_eq_some_iff]
  constructor
  · rintro ⟨before, after, rfl, apart⟩
    refine ⟨before, after, rfl, fun known => ?_⟩
    obtain ⟨e, he, same⟩ := List.mem_map.mp known
    simpa [same] using apart e he
  · rintro ⟨before, after, rfl, apart⟩
    refine ⟨before, after, rfl, fun e he => ?_⟩
    rw [bne_iff_ne]
    rintro rfl
    exact apart (List.mem_map_of_mem he)

theorem get?_eq_some_iff : get? key (.map entries) = some t ↔ IsFirst key t entries := by
  rw [get?, lookup_eq_lookup, lookup_eq_some_iff_isFirst]

theorem lookup_reverse_eq_some_iff :
    entries.reverse.lookup key = some t ↔ IsLast key t entries := by
  rw [lookup_eq_some_iff_isFirst]
  constructor
  · rintro ⟨before, after, reversed, apart⟩
    refine ⟨after.reverse, before.reverse, ?_, ?_⟩
    · rw [← List.reverse_reverse entries, reversed]
      simp
    · rwa [List.map_reverse, List.mem_reverse]
  · rintro ⟨before, after, rfl, apart⟩
    refine ⟨after.reverse, before.reverse, by simp, ?_⟩
    rwa [List.map_reverse, List.mem_reverse]

theorem exists_isLast (known : key ∈ entries.map Prod.fst) : ∃ t, IsLast key t entries := by
  cases found : entries.reverse.lookup key with
  | some t => exact ⟨t, lookup_reverse_eq_some_iff.mp found⟩
  | none =>
    obtain ⟨e, he, rfl⟩ := List.mem_map.mp known
    have apart := List.lookup_eq_none_iff.mp found e (List.mem_reverse.mpr he)
    simp at apart

theorem IsFirst.mem (h : IsFirst key t entries) : (key, t) ∈ entries := by
  obtain ⟨before, after, rfl, -⟩ := h
  simp

theorem IsLast.mem (h : IsLast key t entries) : (key, t) ∈ entries := by
  obtain ⟨before, after, rfl, -⟩ := h
  simp

/-- The dictionary of a mapping. -/
theorem toValue_map (entries : List (String × Tree)) :
    (Tree.map entries).toValue = .dict ((entries.map Prod.fst).eraseDups.map fun k =>
      (.text k, ((entries.reverse.lookup k).map toValue).getD .null)) := by
  have texts : toEntries entries =
      (entries.map fun e => (e.1, e.2.toValue)).map fun e => (.text e.1, e.2) := by
    rw [toEntries_eq_map, List.map_map]
    rfl
  have value : ∀ k (es : List (String × Tree)),
      (es.map fun e => (e.1, e.2.toValue)).lookup k = (es.lookup k).map toValue := by
    intro k es
    induction es with
    | nil => rfl
    | cons e rest ih =>
      rw [List.map_cons, List.lookup_cons, List.lookup_cons, ih]
      split <;> rfl
  rw [toValue, texts, Value.dictOf_texts, List.map_map, ← List.map_reverse]
  simp only [value]
  rfl

end

theorem collapses_toValue (t : Tree) : Collapses t t.toValue := by
  induction t using parts_induction with
  | scalar s => exact .scalar s
  | seq items ih =>
    rw [toValue, toItems_eq_map]
    refine .seq (List.length_map _) fun i t v item value => ?_
    rw [List.getElem?_map, item] at value
    obtain rfl := Option.some.inj value
    exact ih t (List.mem_of_getElem? item)
  | map entries ih =>
    rw [toValue_map]
    refine .map (by rw [List.map_map]; rfl) fun key t v last member => ?_
    obtain ⟨k, -, same⟩ := List.mem_map.mp member
    obtain ⟨named, rfl⟩ := Prod.mk.inj same
    obtain rfl := Atom.text.inj named
    rw [lookup_reverse_eq_some_iff.mpr last]
    exact ih (k, t) last.mem

theorem eq_map_of_keys {es : List (Atom × Value)} {keys : List String} {f : String → Value}
    (named : es.map Prod.fst = keys.map .text) (values : ∀ k v, (.text k, v) ∈ es → v = f k) :
    es = keys.map fun k => (.text k, f k) := by
  induction es generalizing keys with
  | nil =>
    cases keys with
    | nil => rfl
    | cons k rest => cases named
  | cons e es ih =>
    cases keys with
    | nil => cases named
    | cons k rest =>
      obtain ⟨first, others⟩ := List.cons.inj named
      have value := values k e.2 (first ▸ List.mem_cons_self)
      rw [List.map_cons, ← ih others fun k v hv => values k v (List.mem_cons_of_mem _ hv), ← value,
        ← first]

/-- A tree collapses to one value. -/
theorem Collapses.eq_toValue {t : Tree} {v : Value} (h : Collapses t v) : v = t.toValue := by
  induction h with
  | scalar s => rfl
  | @seq items vs length _ ih =>
    rw [toValue, toItems_eq_map]
    congr 1
    refine List.ext_getElem (by rw [length, List.length_map]) fun i here there => ?_
    rw [List.getElem_map]
    rw [List.length_map] at there
    exact ih i items[i] vs[i] (List.getElem?_eq_getElem there) (List.getElem?_eq_getElem here)
  | @map entries es keys _ ih =>
    rw [toValue_map]
    congr 1
    refine eq_map_of_keys keys fun k v member => ?_
    have known : k ∈ entries.map Prod.fst := by
      have listed : Atom.text k ∈ (entries.map Prod.fst).eraseDups.map Atom.text :=
        keys ▸ List.mem_map_of_mem member
      simpa using listed
    obtain ⟨t, last⟩ := exists_isLast known
    rw [lookup_reverse_eq_some_iff.mpr last]
    exact ih k t v last member

/-! ### Trees of values -/

/-- A mapping in the tree of a value is that of a dictionary in the value. -/
theorem holds_ofValue {v : Value} {t : Tree} {entries : List (String × Tree)} (h : t.Holds entries)
    (same : t = ofValue v) : ∃ es, v.Holds es ∧ entries = ofEntries es := by
  induction h generalizing v with
  | here entries =>
    cases v with
    | scalar s => cases same
    | list items => cases same
    | dict es => exact ⟨es, .here es, Tree.map.inj same⟩
  | @inEntry entries inner e he _ ih =>
    cases v with
    | scalar s => cases same
    | list items => cases same
    | dict es =>
      rw [ofValue, ofEntries_eq_map] at same
      obtain ⟨e', he', rfl⟩ := List.mem_map.mp (Tree.map.inj same ▸ he)
      obtain ⟨es', held, rfl⟩ := ih rfl
      exact ⟨es', .inEntry he' held, rfl⟩
  | @inItem items inner t ht _ ih =>
    cases v with
    | scalar s => cases same
    | dict es => cases same
    | list vs =>
      rw [ofValue, ofItems_eq_map] at same
      obtain ⟨v', hv', rfl⟩ := List.mem_map.mp (Tree.seq.inj same ▸ ht)
      obtain ⟨es', held, rfl⟩ := ih rfl
      exact ⟨es', .inItem hv' held, rfl⟩

theorem isDistinct_ofValue {v : Value} (spelled : Json.IsSpelled v) : (ofValue v).IsDistinct := by
  intro entries held
  obtain ⟨es, inside, rfl⟩ := holds_ofValue held rfl
  obtain ⟨apart, texts⟩ := spelled es inside
  rw [ofEntries_eq_map, List.map_map]
  rw [Atom.Apart, List.pairwise_map] at apart
  refine List.pairwise_map.mpr (apart.imp_of_mem ?_)
  intro a b ha hb other same
  obtain ⟨s, hs⟩ := texts a.1 (List.mem_map_of_mem ha)
  obtain ⟨t, ht⟩ := texts b.1 (List.mem_map_of_mem hb)
  simp only [Function.comp_apply, hs, ht, Atom.keyText] at same
  rw [hs, ht, same, Atom.sameKey_refl] at other
  cases other

end Tree

/-- Trees and plain values turn into each other without loss: a value whose dictionaries have texts
for keys comes back from its tree, and a tree whose mappings have no key twice comes back from its
value. Any tree has the one value that it collapses to, in which a repeated key stands where it came
first and has the value of its last entry, at every depth; looked up in the tree, a key leads to its
first entry. The conversions are total here; what is read from a text passes them only within
`Document.depthLimit`, beyond which their recursion is too deep. -/
theorem Tree.there_and_back :
    (∀ v, Json.IsSpelled v → (Tree.ofValue v).toValue = v) ∧
      (∀ t : Tree, t.IsDistinct → Tree.ofValue t.toValue = t) ∧
      (∀ (t : Tree) (v : Value), Tree.Collapses t v ↔ v = t.toValue) ∧
      ∀ (key : String) (entries : List (String × Tree)) (t : Tree),
        Tree.get? key (.map entries) = some t ↔ Tree.IsFirst key t entries := by
  refine ⟨Tree.toValue_ofValue, Tree.ofValue_toValue, fun t v => ?_, fun _ _ _ => get?_eq_some_iff⟩
  constructor
  · exact Tree.Collapses.eq_toValue
  · rintro rfl
    exact Tree.collapses_toValue t

namespace Sample

def size : Value :=
  .dict [(.text "min", .scalar (.atom (.int 1))), (.text "units", .list [.scalar (.text "cm")])]

def sizes : Value := .dict [(.text "sizes", .list [size, size]), (.text "empty", .dict [])]

theorem size_spelled : Json.IsSpelled size := by
  refine Tree.isSpelled_texts [("min", _), ("units", _)] (by decide) ?_
  refine List.forall_mem_cons.mpr ⟨Value.eachDict_scalar _, List.forall_mem_singleton.mpr ?_⟩
  exact Value.eachDict_list (List.forall_mem_singleton.mpr (Value.eachDict_scalar _))

theorem sizes_spelled : Json.IsSpelled sizes := by
  refine Tree.isSpelled_texts [("sizes", _), ("empty", _)] (by decide) ?_
  refine List.forall_mem_cons.mpr ⟨Value.eachDict_list ?_, List.forall_mem_singleton.mpr ?_⟩
  · exact List.forall_mem_cons.mpr ⟨size_spelled, List.forall_mem_singleton.mpr size_spelled⟩
  · exact Tree.isSpelled_texts [] List.nodup_nil fun e he => nomatch he

def twice (inner : Tree) : Tree :=
  .map [("1", .scalar (.atom (.bool true))), ("k", .scalar .null), ("1", inner)]

end Sample

/-- A value and its tree come back; of a key that stands twice, at both depths, the last entry stays
at the place of the first. -/
theorem Tree.sizes_there_and_back :
    Json.IsSpelled Sample.sizes ∧ (Tree.ofValue Sample.sizes).toValue = Sample.sizes ∧
      (Tree.ofValue Sample.sizes).IsDistinct ∧
      Tree.ofValue (Tree.ofValue Sample.sizes).toValue = Tree.ofValue Sample.sizes ∧
      Tree.Collapses (Sample.twice (Sample.twice (.scalar (.text "last"))))
        (.dict [(.text "1", .dict [(.text "1", .scalar (.text "last")), (.text "k", .null)]),
          (.text "k", .null)]) := by
  have spelled := Sample.sizes_spelled
  have distinct := Tree.isDistinct_ofValue spelled
  obtain ⟨values, trees, collapses, -⟩ := Tree.there_and_back
  exact ⟨spelled, values _ spelled, distinct, trees _ distinct, (collapses _ _).mpr rfl⟩

end SchemaChecks
