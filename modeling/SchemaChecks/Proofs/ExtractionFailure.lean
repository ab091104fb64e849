import SchemaChecks.Proofs.Reading

/-!
When nothing can be extracted from a document, and for which reason: there is no collection, or one
of the patterns that count cannot be read. Patterns are told from the tree alone, in the order of
the document, and the first one that cannot be read decides.
-/

namespace SchemaChecks

/-- The reading of a pattern breaks off and says nothing about the pattern. -/
def Pattern.BreaksOff (regex : String) : Prop := ∃ f, Pattern.compile regex = .error (.fault f)

instance (regex : String) : Decidable (Pattern.BreaksOff regex) :=
  match h : Pattern.compile regex with
  | .error (.fault f) => isTrue ⟨f, h⟩
  | .error (.error _) => isFalse fun ⟨_, g⟩ => by cases h.symm.trans g
  | .ok _ => isFalse fun ⟨_, g⟩ => by cases h.symm.trans g

structure PatternSite where
  schema : String
  field : String
  regex : String
  deriving DecidableEq, Repr

def PatternSite.failure? (s : PatternSite) : Option ExtractFailure :=
  match Pattern.compile s.regex with
  | .ok _ => none
  | .error e => some (e.map (.invalidPattern s.schema s.field s.regex))

theorem PatternSite.failure?_eq_none {s : PatternSite} :
    s.failure? = none ↔ ∃ q, Pattern.compile s.regex = .ok q := by
  unfold failure?
  cases Pattern.compile s.regex <;> simp

theorem PatternSite.failure?_eq_some {s : PatternSite} {x : ExtractFailure} :
    s.failure? = some x ↔ ∃ e, Pattern.compile s.regex = .error e ∧
      x = e.map (.invalidPattern s.schema s.field s.regex) := by
  unfold failure?
  cases Pattern.compile s.regex <;> simp [eq_comm]

namespace Reading

/-- The pattern of a property of type string that points nowhere else. -/
def patternSite? (schema field : String) (node : Tree) : Option PatternSite :=
  if PointsElsewhere node ∨ declaredType? node ≠ some (.text "string") then none
  else (regex? node).map (⟨schema, field, ·⟩)

def schemaSites (schema : String) (definition : Tree) : List PatternSite :=
  match definition.scalar? "type", definition.get? "properties" with
  | some (.atom (.text "object")), some (.map properties) =>
    properties.filterMap fun (field, node) => patternSite? schema field node
  | _, _ => []

def patternSites (entries : List (String × Tree)) : List PatternSite :=
  entries.flatMap fun (schema, definition) => schemaSites schema definition

def places : List String := ["components.schemas", "definitions", "$defs"]

/-- Why a document has no collection. A path that is given is the only one that is tried, and of the
usual places the first one that is there has to be a mapping. -/
inductive NoCollection (root : Tree) : Option String → StructureError → Prop
  | rootNotMapping {path : Option String} (hr : ∀ entries, root ≠ .map entries) :
      NoCollection root path .rootNotMapping
  | givenMissing {entries : List (String × Tree)} {place : String} (hr : root = .map entries)
      (given : place ≠ "") (h : root.find place = none) :
      NoCollection root (some place) (.collectionNotFound place)
  | givenNotMapping {entries : List (String × Tree)} {place : String} {t : Tree}
      (hr : root = .map entries) (given : place ≠ "") (h : root.find place = some t)
      (ht : ∀ es, t ≠ .map es) : NoCollection root (some place) (.collectionNotMapping place)
  | usualMissing {entries : List (String × Tree)} {path : Option String}
      (hr : root = .map entries) (noPath : path.getD "" = "")
      (h : ∀ place ∈ places, root.find place = none) : NoCollection root path .noCollection
  | usualNotMapping {entries : List (String × Tree)} {path : Option String} {place : String}
      {t : Tree} (hr : root = .map entries) (noPath : path.getD "" = "")
      (first : places.find? (fun q => (root.find q).isSome) = some place)
      (h : root.find place = some t) (ht : ∀ es, t ≠ .map es) :
      NoCollection root path (.collectionNotMapping place)

inductive Fails (root : Tree) (path : Option String) : StructureError → Prop
  | collection {e : StructureError} (missing : NoCollection root path e) : Fails root path e
  | pattern {entries : List (String × Tree)} {before after : List PatternSite}
      {site : PatternSite} {e : Pattern.Error} (collection : IsCollection root path entries)
      (sites : patternSites entries = before ++ site :: after)
      (readable : ∀ s ∈ before, ∃ q, Pattern.compile s.regex = .ok q)
      (rejected : Pattern.compile site.regex = .error (.error e)) :
      Fails root path (.invalidPattern site.schema site.field site.regex e)

end Reading

/-! ### The first pattern that cannot be read -/

namespace Property

def site? (schema : String) (p : Property) : Option PatternSite :=
  if p.isReference ∨ p.type ≠ .string then none else p.pattern?.map (⟨schema, p.name, ·⟩)

theorem checks_eq_error {schema : String} {p : Property} {x : ExtractFailure} :
    p.checks schema = .error x ↔ (p.site? schema).bind PatternSite.failure? = some x := by
  unfold checks site?
  cases hr : p.isReference with
  | true => simp
  | false =>
    by_cases ht : p.type = .string
    · cases hp : p.pattern? with
      | none => simp [compilable, ht, hp, Except.map]
      | some regex =>
        cases hc : Pattern.compile regex <;>
          simp [compilable, ht, hp, hc, Except.map, PatternSite.failure?]
    · have fine : p.compilable schema = .ok () := compilable_eq_ok.mpr fun h => absurd h ht
      simp [fine, ht, Except.map]

theorem fieldChecks?_eq_error {schema : String} {p : Property} {x : ExtractFailure} :
    p.fieldChecks? schema = .error x ↔ (p.site? schema).bind PatternSite.failure? = some x := by
  rw [← checks_eq_error]
  unfold fieldChecks?
  cases p.checks schema <;> simp [Except.map]

end Property

namespace Definition

def sites (d : Definition) : List PatternSite := d.properties.filterMap (Property.site? d.name)

theorem fieldsOf_eq_error {schema : String} {ps : List Property} {x : ExtractFailure} :
    fieldsOf schema ps = .error x ↔
      (ps.filterMap (Property.site? schema)).findSome? PatternSite.failure? = some x := by
  induction ps with
  | nil => simp [fieldsOf]
  | cons p rest ih =>
    have first := @Property.fieldChecks?_eq_error schema p
    unfold fieldsOf
    rw [List.filterMap_cons]
    cases hp : p.fieldChecks? schema with
    | error y =>
      have fails := first.mp hp
      cases hs : p.site? schema with
      | none => simp [hs] at fails
      | some s =>
        have fails : s.failure? = some y := by simpa [hs] using fails
        simp [fails]
    | ok o =>
      have passes : ∀ s, p.site? schema = some s → s.failure? = none := by
        intro s hs
        cases hf : s.failure? with
        | none => rfl
        | some y =>
          rw [first.mpr (by simpa [hs] using hf)] at hp
          cases hp
      have tail : (fieldsOf schema rest).map (fun fields => o.toList ++ fields) = .error x ↔
          fieldsOf schema rest = .error x := by
        cases fieldsOf schema rest <;> simp [Except.map]
      cases hs : p.site? schema with
      | none => exact tail.trans ih
      | some s =>
        simp only [List.findSome?_cons, passes s hs]
        exact tail.trans ih

theorem fieldChecks_eq_error {d : Definition} {x : ExtractFailure} :
    d.fieldChecks = .error x ↔ d.sites.findSome? PatternSite.failure? = some x := fieldsOf_eq_error

end Definition

namespace Extraction

theorem ofDefinitions_eq_error {ds : List Definition} {x : ExtractFailure} :
    ofDefinitions ds = .error x ↔
      (ds.flatMap Definition.sites).findSome? PatternSite.failure? = some x := by
  induction ds with
  | nil => simp [ofDefinitions]
  | cons d rest ih =>
    have first := @Definition.fieldChecks_eq_error d
    rw [List.flatMap_cons, List.findSome?_append]
    unfold ofDefinitions
    cases hd : d.fieldChecks with
    | error y => simp [first.mp hd]
    | ok fs =>
      have passes : d.sites.findSome? PatternSite.failure? = none := by
        cases hf : d.sites.findSome? PatternSite.failure? with
        | none => rfl
        | some y =>
          rw [first.mpr hf] at hd
          cases hd
      rw [passes, Option.none_or, ← ih]
      cases fs with
      | nil => rfl
      | cons f more => cases ofDefinitions rest <;> simp [Except.map]

theorem ofTree_eq_error {root : Tree} {path : Option String} {x : ExtractFailure} :
    ofTree root path = .error x ↔
      (∃ e, Collection.ofTree root path = .error e ∧ x = .error e) ∨
        ∃ c, Collection.ofTree root path = .ok c ∧
          (c.definitions.flatMap Definition.sites).findSome? PatternSite.failure? = some x := by
  unfold ofTree definitionsOf
  cases Collection.ofTree root path with
  | error e => simp [Except.map, eq_comm]
  | ok c =>
    have failing := @ofDefinitions_eq_error c.definitions x
    simp only [Except.map, reduceCtorEq, false_and, exists_false, false_or, Except.ok.injEq,
      exists_eq_left', ← failing]
    cases ofDefinitions c.definitions <;> simp

end Extraction

/-! ### Sites and collections as they are read -/

theorem Property.site?_ofTree (required : List String) (schema field : String) (node : Tree) :
    (Property.ofTree required field node).site? schema =
      Reading.patternSite? schema field node := by
  unfold Property.site? Reading.patternSite?
  cases node with
  | scalar s => simp [ofTree, Reading.declaredType?, Reading.membersUnder, Tree.scalar?, Tree.get?]
  | seq items => simp [ofTree, Reading.declaredType?, Reading.membersUnder, Tree.scalar?, Tree.get?]
  | map entries =>
    have reference : (ofTree required field (.map entries)).isReference = true ↔
        Reading.PointsElsewhere (.map entries) := refersOnly_iff (.map entries)
    have type : (ofTree required field (.map entries)).type = .string ↔
        Reading.declaredType? (.map entries) = some (.text "string") := by
      rw [type_ofTree]
      cases Reading.declaredType? (.map entries) with
      | none => simp
      | some t =>
        simp only [Option.elim, Option.some.injEq, Scalar.text]
        unfold BaseType.ofScalar
        split <;> simp_all
    simp only [reference, type, ne_eq, ofTree_name, pattern_ofTree]

namespace Collection

theorem definition_sites (name : String) (definition : Tree) :
    (Definition.ofTree? name definition).elim [] Definition.sites =
      Reading.schemaSites name definition := by
  cases hd : Definition.ofTree? name definition with
  | none =>
    unfold Reading.schemaSites
    split
    next properties ht hp =>
      cases properties with
      | nil => rfl
      | cons first rest =>
        have defined : ∃ d, Definition.ofTree? name definition = some d :=
          ⟨_, Definition.ofTree?_eq_some.mpr ⟨ht, first :: rest, hp, by simp, rfl⟩⟩
        rw [hd] at defined
        obtain ⟨d, defined⟩ := defined
        cases defined
    next => rfl
  | some d =>
    obtain ⟨ht, properties, hp, -, rfl⟩ := Definition.ofTree?_eq_some.mp hd
    simp only [Option.elim, Definition.sites, Definition.propertiesOf, Reading.schemaSites, ht, hp,
      Scalar.text, List.filterMap_map, Function.comp_def, Property.site?_ofTree]

theorem sites_eq (c : Collection) :
    c.definitions.flatMap Definition.sites = Reading.patternSites c.entries := by
  rw [definitions, List.filterMap_eq_flatMap_toList, List.flatMap_assoc]
  refine List.flatMap_congr ?_
  rintro ⟨name, definition⟩ -
  dsimp only
  rw [← definition_sites]
  cases Definition.ofTree? name definition <;> simp

/-- Nothing but a mapping has anything at a path. -/
theorem exists_of_find {root t : Tree} {place : String} (h : root.find place = some t) :
    ∃ entries, root = .map entries := by
  unfold Tree.find Tree.pathSegments at h
  cases hs : place.toList.splitOn '.' with
  | nil => exact absurd hs (List.splitOn_ne_nil _ _)
  | cons first rest =>
    cases root with
    | map entries => exact ⟨entries, rfl⟩
    | scalar s => simp [hs, Tree.follow, Tree.get?] at h
    | seq items => simp [hs, Tree.follow, Tree.get?] at h

theorem firstOf_of_find {root t : Tree} {places : List String} {place : String}
    (first : places.find? (fun q => (root.find q).isSome) = some place)
    (h : root.find place = some t) : firstOf root places = some (place, t) := by
  induction places with
  | nil => cases first
  | cons q rest ih =>
    unfold firstOf
    cases hq : root.find q with
    | some u =>
      obtain rfl : q = place := by simpa [hq] using first
      rw [h] at hq
      cases hq
      rfl
    | none =>
      refine ih ?_
      simpa [hq] using first

theorem firstOf_eq_none {root : Tree} {places : List String} :
    firstOf root places = none ↔ ∀ place ∈ places, root.find place = none := by
  induction places with
  | nil => simp [firstOf]
  | cons q rest ih =>
    unfold firstOf
    cases hq : root.find q <;> simp [hq, ih]

theorem candidates_given {place : String} (given : place ≠ "") :
    candidates (some place) = [place] ∧ missing (some place) = .collectionNotFound place := by
  unfold candidates missing
  constructor
  · split
    next h => cases h
    next h => cases h; exact absurd rfl given
    next h => cases h; rfl
  · split
    next h => cases h
    next h => cases h; exact absurd rfl given
    next h => cases h; rfl

theorem candidates_usual {path : Option String} (noPath : path.getD "" = "") :
    candidates path = Reading.places ∧ missing path = .noCollection := by
  cases path with
  | none => exact ⟨rfl, rfl⟩
  | some place =>
    obtain rfl : place = "" := noPath
    exact ⟨rfl, rfl⟩

theorem given_or_usual (path : Option String) :
    (∃ place, path = some place ∧ place ≠ "") ∨ path.getD "" = "" := by
  cases path with
  | none => exact .inr rfl
  | some place =>
    by_cases empty : place = ""
    · exact .inr empty
    · exact .inl ⟨place, rfl, empty⟩

section Lookup

variable {root t : Tree} {path : Option String} {entries : List (String × Tree)} {place : String}

theorem ofTree_of_mapping (hr : root = .map entries) {members : List (String × Tree)}
    (found : firstOf root (candidates path) = some (place, .map members)) :
    ofTree root path = .ok ⟨place, members⟩ := by
  subst hr
  simp only [ofTree, found]

theorem ofTree_of_not_mapping (hr : root = .map entries)
    (found : firstOf root (candidates path) = some (place, t)) (ht : ∀ es, t ≠ .map es) :
    ofTree root path = .error (.collectionNotMapping place) := by
  subst hr
  cases t with
  | map es => exact absurd rfl (ht es)
  | scalar s => simp only [ofTree, found]
  | seq items => simp only [ofTree, found]

theorem ofTree_of_absent (hr : root = .map entries)
    (nowhere : firstOf root (candidates path) = none) :
    ofTree root path = .error (missing path) := by
  subst hr
  simp only [ofTree, nowhere]

end Lookup

/-- Whatever keeps a collection from being found is a reason that the tree gives. -/
theorem noCollection_of_ofTree {root : Tree} {path : Option String} {e : StructureError}
    (h : ofTree root path = .error e) : Reading.NoCollection root path e := by
  by_cases mapping : ∃ entries, root = .map entries
  · obtain ⟨entries, hr⟩ := mapping
    cases found : firstOf root (candidates path) with
    | none =>
      obtain rfl := Except.error.inj (h.symm.trans (ofTree_of_absent hr found))
      have absent := firstOf_eq_none.mp found
      rcases given_or_usual path with ⟨given, rfl, named⟩ | noPath
      · obtain ⟨only, message⟩ := candidates_given named
        rw [message]
        exact .givenMissing hr named (absent given (only ▸ List.mem_singleton_self given))
      · obtain ⟨usual, message⟩ := candidates_usual noPath
        rw [message]
        exact .usualMissing hr noPath (usual ▸ absent)
    | some hit =>
      obtain ⟨place, t⟩ := hit
      have ht : ∀ es, t ≠ .map es := by
        rintro es rfl
        cases h.symm.trans (ofTree_of_mapping hr found)
      obtain rfl := Except.error.inj (h.symm.trans (ofTree_of_not_mapping hr found ht))
      obtain ⟨first, there⟩ := firstOf_eq_some found
      rcases given_or_usual path with ⟨given, rfl, named⟩ | noPath
      · rw [(candidates_given named).1] at first
        obtain rfl := List.mem_singleton.mp (List.mem_of_find?_eq_some first)
        exact .givenNotMapping hr named there ht
      · rw [(candidates_usual noPath).1] at first
        exact .usualNotMapping hr noPath first there ht
  · have hr : ∀ entries, root ≠ .map entries := fun entries same => mapping ⟨entries, same⟩
    have e_eq : e = .rootNotMapping := by
      cases root with
      | map entries => exact absurd rfl (hr entries)
      | scalar s => exact (Except.error.inj h).symm
      | seq items => exact (Except.error.inj h).symm
    subst e_eq
    exact .rootNotMapping hr

theorem ofTree_of_noCollection {root : Tree} {path : Option String} {e : StructureError}
    (h : Reading.NoCollection root path e) : ofTree root path = .error e := by
  cases h with
  | rootNotMapping hr =>
    cases root with
    | map entries => exact absurd rfl (hr entries)
    | scalar s => rfl
    | seq items => rfl
  | @givenMissing _ place hr given h =>
    obtain ⟨only, message⟩ := candidates_given given
    rw [← message]
    refine ofTree_of_absent hr (firstOf_eq_none.mpr ?_)
    simpa [only] using h
  | @givenNotMapping _ place t hr given h ht =>
    have found : firstOf root (candidates (some place)) = some (place, t) := by
      rw [(candidates_given given).1]
      exact firstOf_of_find (by simp [h]) h
    exact ofTree_of_not_mapping hr found ht
  | usualMissing hr noPath h =>
    obtain ⟨usual, message⟩ := candidates_usual noPath
    rw [← message]
    exact ofTree_of_absent hr (firstOf_eq_none.mpr (usual ▸ h))
  | usualNotMapping hr noPath first h ht =>
    refine ofTree_of_not_mapping hr ?_ ht
    rw [(candidates_usual noPath).1]
    exact firstOf_of_find first h

/-- The collection that is told from the tree is the one that is found. -/
theorem ofTree_of_isCollection {root : Tree} {path : Option String} {entries : List (String × Tree)}
    (h : Reading.IsCollection root path entries) :
    ∃ c, ofTree root path = .ok c ∧ c.entries = entries := by
  cases h with
  | @given place _ named h =>
    obtain ⟨members, hr⟩ := exists_of_find h
    have found : firstOf root (candidates (some place)) = some (place, .map entries) := by
      rw [(candidates_given named).1]
      exact firstOf_of_find (by simp [h]) h
    exact ⟨_, ofTree_of_mapping hr found, rfl⟩
  | @usual _ _ place noPath first h =>
    obtain ⟨members, hr⟩ := exists_of_find h
    have found : firstOf root (candidates path) = some (place, .map entries) := by
      rw [(candidates_usual noPath).1]
      exact firstOf_of_find first h
    exact ⟨_, ofTree_of_mapping hr found, rfl⟩

end Collection

namespace Reading

/-- Extraction ends without checks for one of two reasons: no collection, or the first pattern of
the collection that cannot be read. -/
theorem ofTree_eq_error {root : Tree} {path : Option String} {x : ExtractFailure} :
    Extraction.ofTree root path = .error x ↔
      (∃ e, NoCollection root path e ∧ x = .error e) ∨
        ∃ entries before site after e, IsCollection root path entries ∧
          patternSites entries = before ++ site :: after ∧
          (∀ s ∈ before, ∃ q, Pattern.compile s.regex = .ok q) ∧
          Pattern.compile site.regex = .error e ∧
          x = e.map (.invalidPattern site.schema site.field site.regex) := by
  rw [Extraction.ofTree_eq_error]
  refine or_congr ?_ ?_
  · refine exists_congr fun e => and_congr_left' ?_
    exact ⟨Collection.noCollection_of_ofTree, Collection.ofTree_of_noCollection⟩
  · constructor
    · rintro ⟨c, found, failing⟩
      rw [Collection.sites_eq, List.findSome?_eq_some_iff] at failing
      obtain ⟨before, site, after, sites, rejected, readable⟩ := failing
      obtain ⟨e, refused, rfl⟩ := PatternSite.failure?_eq_some.mp rejected
      exact ⟨c.entries, before, site, after, e, Collection.isCollection_of_ofTree found, sites,
        fun s hs => PatternSite.failure?_eq_none.mp (readable s hs), refused, rfl⟩
    · rintro ⟨entries, before, site, after, e, collection, sites, readable, refused, rfl⟩
      obtain ⟨c, found, rfl⟩ := Collection.ofTree_of_isCollection collection
      refine ⟨c, found, ?_⟩
      rw [Collection.sites_eq, List.findSome?_eq_some_iff]
      exact ⟨before, site, after, sites, PatternSite.failure?_eq_some.mpr ⟨e, refused, rfl⟩,
        fun s hs => PatternSite.failure?_eq_none.mpr (readable s hs)⟩

theorem ofTree_eq_error_error {root : Tree} {path : Option String} {e : StructureError} :
    Extraction.ofTree root path = .error (.error e) ↔ Fails root path e := by
  rw [ofTree_eq_error]
  constructor
  · rintro (⟨_, missing, same⟩ |
      ⟨entries, before, site, after, refusal, collection, sites, readable, refused, same⟩)
    · cases same
      exact .collection missing
    · cases refusal with
      | error r =>
        cases same
        exact .pattern collection sites readable refused
      | fault f => cases same
  · intro h
    cases h with
    | collection missing => exact .inl ⟨_, missing, rfl⟩
    | pattern collection sites readable rejected =>
      exact .inr ⟨_, _, _, _, _, collection, sites, readable, rejected, rfl⟩

/-- Extraction fails with an error exactly when the tree has that reason for it; and if no pattern
that counts makes the reading of patterns break off in another way, then it succeeds in all other
cases. What it says of a pattern names the schema and the field. -/
theorem fails_iff {root : Tree} {path : Option String}
    (regular : ∀ entries, IsCollection root path entries →
      ∀ s ∈ patternSites entries, ¬ Pattern.BreaksOff s.regex) :
    (∀ e, Extraction.ofTree root path = .error (.error e) ↔ Fails root path e) ∧
      ((∃ x, Extraction.ofTree root path = .ok x) ↔ ∀ e, ¬ Fails root path e) ∧
      ∀ schema field regex e,
        (StructureError.invalidPattern schema field regex e).message =
          "Invalid pattern for " ++ schema ++ "." ++ field ++ ": " ++ regex ++ " (" ++
            e.message regex ++ ")" := by
  refine ⟨fun e => ofTree_eq_error_error, ?_, fun schema field regex e => rfl⟩
  constructor
  · rintro ⟨x, succeeds⟩ e fails
    cases succeeds.symm.trans (ofTree_eq_error_error.mpr fails)
  · intro noReason
    cases h : Extraction.ofTree root path with
    | ok x => exact ⟨x, rfl⟩
    | error failure =>
      cases failure with
      | error e => exact absurd (ofTree_eq_error_error.mp h) (noReason e)
      | fault f =>
        rcases ofTree_eq_error.mp h with ⟨e, -, same⟩ |
          ⟨entries, before, site, after, refusal, collection, sites, -, refused, same⟩
        · cases same
        · have counts : site ∈ patternSites entries := by simp [sites]
          cases refusal with
          | error r => cases same
          | fault g => exact absurd ⟨g, refused⟩ (regular entries collection site counts)

end Reading

namespace Sample

def ledgerSchemas : List (String × Tree) :=
  [("Note", .map [("type", text "string"), ("pattern", text "(")]),
   ("Entry", .map [("type", text "object"), ("properties", .map
      [("parent", .map [("$ref", text "#/definitions/Note"), ("type", text "string"),
         ("pattern", text "(")]),
       ("amount", .map [("type", text "integer"), ("pattern", text "(")]),
       ("id", .map [("type", text "string"), ("pattern", text "[a-z]+")]),
       ("code", .map [("type", text "string"), ("pattern", text "(")]),
       ("label", .map [("type", text "string"), ("pattern", text "[a")])])])]

def ledger : Tree := .map [("definitions", .map ledgerSchemas)]

def ledgerSites : List PatternSite :=
  [⟨"Entry", "id", "[a-z]+"⟩, ⟨"Entry", "code", "("⟩, ⟨"Entry", "label", "[a"⟩]

theorem ledger_sites : Reading.patternSites ledgerSchemas = ledgerSites := by decide +kernel

end Sample

/-- Of the patterns that cannot be read, the first one that counts is told. -/
theorem Reading.ledger_fails_at_code :
    (∀ entries, IsCollection Sample.ledger none entries →
        ∀ s ∈ patternSites entries, ¬ Pattern.BreaksOff s.regex) ∧
      Extraction.ofTree Sample.ledger none =
        .error (.error (.invalidPattern "Entry" "code" "(" ⟨.unterminatedGroup, some 0⟩)) := by
  have collection : IsCollection Sample.ledger none Sample.ledgerSchemas :=
    @IsCollection.usual _ none _ "definitions" rfl (by decide +kernel) (by cbv)
  have regular : ∀ entries, IsCollection Sample.ledger none entries →
      ∀ s ∈ patternSites entries, ¬ Pattern.BreaksOff s.regex := by
    intro entries other
    obtain rfl := other.unique collection
    rw [Sample.ledger_sites]
    decide +kernel
  have readable : ∀ s ∈ Sample.ledgerSites.take 1, s.failure? = none := by decide +kernel
  have rejected : (PatternSite.mk "Entry" "code" "(").failure? =
      some (.error (.invalidPattern "Entry" "code" "(" ⟨.unterminatedGroup, some 0⟩)) := by
    decide +kernel
  obtain ⟨e, refused, same⟩ := PatternSite.failure?_eq_some.mp rejected
  obtain rfl : e = .error ⟨.unterminatedGroup, some 0⟩ := by
    cases e with
    | error r => cases same; rfl
    | fault f => cases same
  have fails : Fails Sample.ledger none
      (.invalidPattern "Entry" "code" "(" ⟨.unterminatedGroup, some 0⟩) :=
    @Fails.pattern _ _ _ (Sample.ledgerSites.take 1) (Sample.ledgerSites.drop 2) _ _ collection
      Sample.ledger_sites (fun s hs => PatternSite.failure?_eq_none.mp (readable s hs)) refused
  exact ⟨regular, ((fails_iff regular).1 _).mpr fails⟩

end SchemaChecks
