import Mathlib.Data.List.Nodup
import Mathlib.Logic.Relation
import SchemaChecks.Proofs.Independence
import SchemaChecks.Proofs.Tightening

/-!
What extraction reads of a document. A definition is read under three keys, and its properties under
a fixed list of them. Two documents that agree there give the same extraction or the same error, so
the order of entries, repeated members of `required` and keywords that are not read do not matter.
-/

namespace SchemaChecks

namespace Tree

/-- Entries in other words for a reader of some keys: in another order, or with one more under a key
that is not read. -/
inductive Reworded (keys : List String) : List (String × Tree) → List (String × Tree) → Prop
  | order {es es' : List (String × Tree)} (distinct : (es.map Prod.fst).Nodup) (h : es.Perm es') :
      Reworded keys es es'
  | other {before after : List (String × Tree)} {key : String} (node : Tree) (unread : key ∉ keys) :
      Reworded keys (before ++ after) (before ++ (key, node) :: after)

theorem lookup_perm {es es' : List (String × Tree)} (distinct : (es.map Prod.fst).Nodup)
    (h : es.Perm es') (key : String) : lookup key es = lookup key es' := by
  have distinct' : (es'.map Prod.fst).Nodup := (h.map Prod.fst).nodup_iff.mp distinct
  refine Option.ext fun t => ?_
  rw [Reading.lookup_eq_some_iff distinct, Reading.lookup_eq_some_iff distinct', h.mem_iff]

theorem Reworded.lookup {keys : List String} {es es' : List (String × Tree)}
    (h : Reworded keys es es') {key : String} (read : key ∈ keys) :
    Tree.lookup key es = Tree.lookup key es' := by
  cases h with
  | order distinct perm => exact lookup_perm distinct perm key
  | @other before after added node unread =>
    have apart : ¬ added = key := fun same => unread (same ▸ read)
    simp [lookup_append, Tree.lookup, apart]

theorem scalar?_congr {t t' : Tree} {key : String} (h : t.get? key = t'.get? key) :
    t.scalar? key = t'.scalar? key := by
  unfold scalar?
  rw [h]

theorem mem_scalars {items : List Tree} {s : Scalar} : s ∈ scalars items ↔ .scalar s ∈ items := by
  induction items with
  | nil => simp [scalars]
  | cons t rest ih => cases t <;> simp [scalars, ih]

end Tree

/-! ### Properties -/

namespace Property

def keys : List String := "type" :: "nullable" :: compositions ++ Keyword.all.map Keyword.name

inductive Agree : Tree → Tree → Prop
  | leaf {t t' : Tree} (h : ∀ es, t ≠ .map es) (h' : ∀ es, t' ≠ .map es) : Agree t t'
  | mapping {es es' : List (String × Tree)}
      (h : ∀ key ∈ keys, (Tree.map es).get? key = (Tree.map es').get? key)
      (ref : (Tree.map es).has "$ref" = (Tree.map es').has "$ref") : Agree (.map es) (.map es')

theorem Agree.refl (t : Tree) : Agree t t := by
  cases t with
  | map es => exact .mapping (fun _ _ => rfl) rfl
  | scalar s => exact .leaf (fun _ h => by cases h) (fun _ h => by cases h)
  | seq items => exact .leaf (fun _ h => by cases h) (fun _ h => by cases h)

theorem agree_of_reworded {es es' : List (String × Tree)}
    (h : Tree.Reworded ("$ref" :: keys) es es') : Agree (.map es) (.map es') :=
  .mapping (fun _ read => h.lookup (List.mem_cons_of_mem _ read))
    (congrArg Option.isSome (h.lookup List.mem_cons_self))

section

variable {t t' : Tree} (same : ∀ key ∈ keys, t.get? key = t'.get? key)

include same

theorem constraintsOf_congr : constraintsOf t = constraintsOf t' := by
  refine List.filterMap_congr fun k hk => ?_
  have read : t.get? k.name = t'.get? k.name :=
    same _ (List.mem_append_right _ (List.mem_map_of_mem hk))
  rw [Tree.has, Tree.has, read, Tree.scalar?_congr read]

theorem refersOnly_congr (ref : t.has "$ref" = t'.has "$ref") : refersOnly t = refersOnly t' := by
  have allOf := same "allOf" (by decide)
  have oneOf := same "oneOf" (by decide)
  have anyOf := same "anyOf" (by decide)
  simp only [refersOnly, compositions, List.any_cons, List.any_nil, ref, allOf, oneOf, anyOf]

theorem isMarkedNullable_congr : isMarkedNullable t = isMarkedNullable t' := by
  unfold isMarkedNullable
  rw [Tree.scalar?_congr (same "nullable" (by decide))]

end

/-- A property is told by what is read of its node. -/
theorem ofTree_eq_of_agree {required required' : List String} {name : String} {t t' : Tree}
    (listed : required.contains name = required'.contains name) (h : Agree t t') :
    ofTree required name t = ofTree required' name t' := by
  cases h with
  | leaf h h' =>
    rw [ofTree_of_leaf h, ofTree_of_leaf h', listed]
  | mapping same ref =>
    have type := same "type" (by decide)
    simp only [ofTree, type, listed, constraintsOf_congr same, refersOnly_congr same ref,
      isMarkedNullable_congr same]

end Property

/-! ### Definitions -/

namespace Definition

def keys : List String := ["type", "required", "properties"]

structure Agree (t t' : Tree) : Prop where
  type : t.get? "type" = t'.get? "type"
  required : ∀ field, .text field ∈ Reading.membersUnder "required" t ↔
    .text field ∈ Reading.membersUnder "required" t'
  properties : List.Forall₂ (fun s s' => s.1 = s'.1 ∧ Property.Agree s.2 s'.2)
    (Reading.entriesUnder "properties" t) (Reading.entriesUnder "properties" t')

/-- A definition in other words: its own entries or those of one of its properties are reworded, or
its list of required fields has the same members in another order or number. -/
inductive Reworded : Tree → Tree → Prop
  | entries {es es' : List (String × Tree)} (h : Tree.Reworded keys es es') :
      Reworded (.map es) (.map es')
  | required {before after : List (String × Tree)} {items items' : List Tree}
      (h : ∀ t, t ∈ items ↔ t ∈ items') :
      Reworded (.map (before ++ ("required", .seq items) :: after))
        (.map (before ++ ("required", .seq items') :: after))
  | property {before after first rest : List (String × Tree)} {name : String}
      {es es' : List (String × Tree)} (h : Tree.Reworded ("$ref" :: Property.keys) es es') :
      Reworded (.map (before ++ ("properties", .map (first ++ (name, .map es) :: rest)) :: after))
        (.map (before ++ ("properties", .map (first ++ (name, .map es') :: rest)) :: after))

def gist (d : Definition) : String × List Property := (d.name, d.properties)

theorem propertiesOf_congr {required required' : List String} {es es' : List (String × Tree)}
    (listed : ∀ field, required.contains field = required'.contains field)
    (h : List.Forall₂ (fun s s' => s.1 = s'.1 ∧ Property.Agree s.2 s'.2) es es') :
    propertiesOf required es = propertiesOf required' es' := by
  refine (map_eq_of_forall₂ h fun s s' agree => ?_).symm
  obtain ⟨name, node⟩ := agree
  rw [← name, Property.ofTree_eq_of_agree (listed s.1) node]

theorem gist_of_agree (name : String) {t t' : Tree} (h : Agree t t') :
    (ofTree? name t).map gist = (ofTree? name t').map gist := by
  have listed : ∀ field, (requiredOf (t.get? "required")).contains field =
      (requiredOf (t'.get? "required")).contains field := by
    intro field
    rw [Bool.eq_iff_iff, Property.requiredOf_contains, Property.requiredOf_contains, h.required]
  have object : Reading.IsObject t ↔ Reading.IsObject t' := by
    rw [Reading.IsObject, Reading.IsObject, Tree.scalar?_congr h.type, ← List.length_pos_iff,
      ← List.length_pos_iff, h.properties.length_eq]
  simp only [ofTree?_eq_ite, object]
  split
  next => simp only [Option.map_some, gist, propertiesOf_congr listed h.properties]
  next => rfl

private theorem properties_agree (es : List (String × Tree)) :
    List.Forall₂ (fun s s' => s.1 = s'.1 ∧ Property.Agree s.2 s'.2) es es :=
  List.forall₂_same.mpr fun s _ => ⟨rfl, .refl s.2⟩

theorem agree_of_entries {es es' : List (String × Tree)} (h : Tree.Reworded keys es es') :
    Agree (.map es) (.map es') := by
  have same : ∀ key ∈ keys, (Tree.map es).get? key = (Tree.map es').get? key := fun _ => h.lookup
  refine ⟨same _ (by decide), fun field => ?_, ?_⟩
  · unfold Reading.membersUnder
    rw [same "required" (by decide)]
  · unfold Reading.entriesUnder
    rw [same "properties" (by decide)]
    exact properties_agree _

theorem agree_of_required {before after : List (String × Tree)} {items items' : List Tree}
    (h : ∀ t, t ∈ items ↔ t ∈ items') :
    Agree (.map (before ++ ("required", .seq items) :: after))
      (.map (before ++ ("required", .seq items') :: after)) := by
  refine ⟨?_, fun field => ?_, ?_⟩
  · simp [Tree.get?, Tree.lookup_append, Tree.lookup]
  · simp only [Reading.membersUnder, Tree.get?, Tree.lookup_append, Tree.lookup]
    cases Tree.lookup "required" before with
    | some t => exact Iff.rfl
    | none => simp [Tree.mem_scalars, h]
  · simp only [Reading.entriesUnder, Tree.get?, Tree.lookup_append, Tree.lookup]
    exact properties_agree _

theorem agree_of_property {before after first rest : List (String × Tree)} {name : String}
    {t t' : Tree} (h : Property.Agree t t') :
    Agree (.map (before ++ ("properties", .map (first ++ (name, t) :: rest)) :: after))
      (.map (before ++ ("properties", .map (first ++ (name, t') :: rest)) :: after)) := by
  refine ⟨?_, fun field => ?_, ?_⟩
  · simp [Tree.get?, Tree.lookup_append, Tree.lookup]
  · simp [Reading.membersUnder, Tree.get?, Tree.lookup_append, Tree.lookup]
  · simp only [Reading.entriesUnder, Tree.get?, Tree.lookup_append, Tree.lookup]
    cases Tree.lookup "properties" before with
    | some t => exact properties_agree _
    | none =>
      exact List.rel_append (properties_agree first) (.cons ⟨rfl, h⟩ (properties_agree rest))

theorem agree_of_reworded {t t' : Tree} (h : Reworded t t') : Agree t t' := by
  cases h with
  | entries h => exact agree_of_entries h
  | required h => exact agree_of_required h
  | property h => exact agree_of_property (Property.agree_of_reworded h)

/-- What a definition is checked for survives any number of rewordings, there or back. -/
theorem gist_of_reworded (name : String) {t t' : Tree} (h : Relation.EqvGen Reworded t t') :
    (ofTree? name t).map gist = (ofTree? name t').map gist := by
  induction h with
  | rel _ _ step => exact gist_of_agree name (agree_of_reworded step)
  | refl _ => rfl
  | symm _ _ _ ih => exact ih.symm
  | trans _ _ _ _ _ ih ih' => exact ih.trans ih'

end Definition

/-! ### Documents -/

namespace Extraction

theorem ofDefinitions_congr {ds ds' : List Definition}
    (h : ds.map Definition.gist = ds'.map Definition.gist) :
    ofDefinitions ds = ofDefinitions ds' := by
  induction ds generalizing ds' with
  | nil =>
    obtain rfl := List.map_eq_nil_iff.mp h.symm
    rfl
  | cons d rest ih =>
    cases ds' with
    | nil => cases h
    | cons d' rest' =>
      obtain ⟨same, more⟩ := List.cons.inj h
      obtain ⟨name, properties⟩ := Prod.mk.inj same
      have fields : d.fieldChecks = d'.fieldChecks := by
        unfold Definition.fieldChecks
        rw [name, properties]
      rw [ofDefinitions, ofDefinitions, ih more, name, fields]

/-- Collections whose definitions come down to the same have the same extraction. -/
theorem ofTree_congr {root root' : Tree} {path path' : Option String}
    {entries entries' : List (String × Tree)} (hc : Reading.IsCollection root path entries)
    (hc' : Reading.IsCollection root' path' entries')
    (h : List.Forall₂ (fun s s' => s.1 = s'.1 ∧ ∀ name,
      (Definition.ofTree? name s.2).map Definition.gist =
        (Definition.ofTree? name s'.2).map Definition.gist) entries entries') :
    ofTree root path = ofTree root' path' := by
  have gists : (entries.filterMap fun s => Definition.ofTree? s.1 s.2).map Definition.gist =
      (entries'.filterMap fun s => Definition.ofTree? s.1 s.2).map Definition.gist := by
    have options := map_eq_of_forall₂ h
      (f := fun s => (Definition.ofTree? s.1 s.2).map Definition.gist)
      (g := fun s => (Definition.ofTree? s.1 s.2).map Definition.gist)
      fun s s' same => by rw [← same.1, same.2]
    simpa [List.map_filterMap, List.filterMap_map, Function.comp_def] using
      congrArg (List.filterMap id) options.symm
  rw [ofTree_of_isCollection hc, ofTree_of_isCollection hc', ofDefinitions_congr gists]

/-- Extraction reads nothing but the keys it knows. Two documents whose definitions agree under
these keys have the same extraction or the same error; so have two documents whose definitions come
from each other by rewording. -/
theorem determined_by_known_keys :
    (∀ {root root' : Tree} {path path' : Option String} {entries entries' : List (String × Tree)},
      Reading.IsCollection root path entries → Reading.IsCollection root' path' entries' →
      List.Forall₂ (fun s s' => s.1 = s'.1 ∧ Definition.Agree s.2 s'.2) entries entries' →
        ofTree root path = ofTree root' path') ∧
    (∀ {root root' : Tree} {path path' : Option String} {entries entries' : List (String × Tree)},
      Reading.IsCollection root path entries → Reading.IsCollection root' path' entries' →
      List.Forall₂ (fun s s' => s.1 = s'.1 ∧ Relation.EqvGen Definition.Reworded s.2 s'.2)
        entries entries' →
        ofTree root path = ofTree root' path') := by
  constructor
  · intro root root' path path' entries entries' hc hc' agree
    exact ofTree_congr hc hc' (agree.imp fun _ _ h => ⟨h.1, fun name =>
      Definition.gist_of_agree name h.2⟩)
  · intro root root' path path' entries entries' hc hc' reworded
    exact ofTree_congr hc hc' (reworded.imp fun _ _ h => ⟨h.1, fun name =>
      Definition.gist_of_reworded name h.2⟩)

end Extraction

namespace Sample

def tenantWith (required : List Tree) (id owner : List (String × Tree)) : List (String × Tree) :=
  [("type", text "object"), ("required", .seq required),
    ("properties", .map [("id", .map id), ("seats", .map [("type", .seq [text "null",
      text "integer"]), ("minimum", number 1)]), ("owner", .map owner)])]

def idEntries : List (String × Tree) :=
  [("type", text "string"), ("minLength", number 3), ("maxLength", number 63),
    ("pattern", text "[a-z]+")]

def ownerEntries (target : String) : List (String × Tree) :=
  [("$ref", text target), ("type", text "string"), ("minLength", number 1)]

def rehousedSchemas : List (String × Tree) :=
  [("Tenant", .map (tenantWith [text "id"] idEntries (ownerEntries "#/definitions/Person"))),
    ("Note", .map [("type", text "string")])]

def retoldSchemas : List (String × Tree) :=
  [("Tenant", .map (tenantWith [text "id", text "id"] (("format", text "slug") :: idEntries)
      (ownerEntries "#/definitions/Note")).reverse),
    ("Note", .map [("type", text "string")])]

theorem tenants_rehoused : List.Forall₂ (fun s s' => s.1 = s'.1 ∧ Definition.Agree s.2 s'.2)
    tenantSchemas rehousedSchemas := by
  have moved : Property.Agree (.map (ownerEntries "#/definitions/Note"))
      (.map (ownerEntries "#/definitions/Person")) := by
    refine .mapping (fun key read => ?_) rfl
    have apart : ¬ "$ref" = key := fun same => by subst same; revert read; decide
    simp [ownerEntries, Tree.get?, Tree.lookup, apart]
  have tenant : Definition.Agree
      (.map (tenantWith [text "id"] idEntries (ownerEntries "#/definitions/Note")))
      (.map (tenantWith [text "id"] idEntries (ownerEntries "#/definitions/Person"))) :=
    @Definition.agree_of_property [_, _] [] [_, _] [] "owner" _ _ moved
  have note := Definition.agree_of_entries
    (@Tree.Reworded.order _ [("type", text "string")] _ (by decide) (.refl _))
  exact .cons ⟨rfl, tenant⟩ (.cons ⟨rfl, note⟩ .nil)

theorem tenants_retold :
    List.Forall₂ (fun s s' => s.1 = s'.1 ∧ Relation.EqvGen Definition.Reworded s.2 s'.2)
      tenantSchemas retoldSchemas := by
  have formatted : ∀ owner, Definition.Reworded (.map (tenantWith [text "id"] idEntries owner))
      (.map (tenantWith [text "id"] (("format", text "slug") :: idEntries) owner)) := fun owner =>
    @Definition.Reworded.property [_, _] [] [] [_, _] "id" _ _
      (@Tree.Reworded.other _ [] idEntries "format" _ (by decide))
  have repeated : ∀ id owner, Definition.Reworded (.map (tenantWith [text "id"] id owner))
      (.map (tenantWith [text "id", text "id"] id owner)) := fun id owner =>
    @Definition.Reworded.required [_] _ _ _ (by simp)
  have reversed : ∀ id owner, Definition.Reworded
      (.map (tenantWith [text "id", text "id"] id owner))
      (.map (tenantWith [text "id", text "id"] id owner).reverse) := fun id owner =>
    .entries (.order (by simp [tenantWith]) (List.reverse_perm _).symm)
  have tenant :=
    (Relation.EqvGen.rel _ _ (formatted (ownerEntries "#/definitions/Note"))).trans _ _ _
    ((Relation.EqvGen.rel _ _ (repeated _ _)).trans _ _ _ (.rel _ _ (reversed _ _)))
  exact .cons ⟨rfl, tenant⟩ (.cons ⟨rfl, .refl _⟩ .nil)

end Sample

/-- Tenants that are told otherwise are checked as before. -/
theorem Extraction.tenants_as_before :
    List.Forall₂ (fun s s' => s.1 = s'.1 ∧ Definition.Agree s.2 s'.2) Sample.tenantSchemas
        Sample.rehousedSchemas ∧
      List.Forall₂ (fun s s' => s.1 = s'.1 ∧ Relation.EqvGen Definition.Reworded s.2 s'.2)
        Sample.tenantSchemas Sample.retoldSchemas ∧
      Extraction.ofTree (Sample.documentOf Sample.rehousedSchemas) none =
        .ok [("Tenant", Sample.tenantFields)] ∧
      Extraction.ofTree (Sample.documentOf Sample.retoldSchemas) none =
        .ok [("Tenant", Sample.tenantFields)] := by
  have collection := Sample.isCollection_documentOf
  have rehoused := Sample.tenants_rehoused
  have retold := Sample.tenants_retold
  obtain ⟨known, reworded⟩ := Extraction.determined_by_known_keys
  refine ⟨rehoused, retold, ?_, ?_⟩
  · rw [← known (collection _) (collection _) rehoused]
    exact Sample.tenants_extraction
  · rw [← reworded (collection _) (collection _) retold]
    exact Sample.tenants_extraction

end SchemaChecks
