import Mathlib.Data.List.Find
import SchemaChecks.Proofs.ExtractionFailure

/-!
Stricter documents. A keyword that a mapping did not have, one more text in a `required` sequence,
or one mark of null less may be ignored, narrow a range, or bring fields and whole schemas to be
checked at all. In each case what is accepted after the change was accepted before.
-/

namespace SchemaChecks

namespace Tree

inductive Stricter : List (String × Tree) → List (String × Tree) → Prop
  /-- A keyword is added, with any node under it. -/
  | keyword {before after : List (String × Tree)} (k : Keyword) (node : Tree)
      (absent : k.name ∉ (before ++ after).map Prod.fst) :
      Stricter (before ++ after) (before ++ (k.name, node) :: after)
  /-- A text is added to a sequence of required fields. -/
  | required {before after : List (String × Tree)} {items more : List Tree} (field : String) :
      Stricter (before ++ ("required", .seq (items ++ more)) :: after)
        (before ++ ("required", .seq (items ++ .scalar (.text field) :: more)) :: after)
  /-- The only mark of null is taken away. -/
  | unmarked {before after : List (String × Tree)}
      (only : "nullable" ∉ (before ++ after).map Prod.fst) :
      Stricter (before ++ ("nullable", .scalar (.atom (.bool true))) :: after) (before ++ after)

inductive Tightened : Tree → Tree → Prop
  | here {es es' : List (String × Tree)} (h : Stricter es es') : Tightened (.map es) (.map es')
  | entry {before after : List (String × Tree)} {key : String} {t t' : Tree} (h : Tightened t t') :
      Tightened (.map (before ++ (key, t) :: after)) (.map (before ++ (key, t') :: after))
  | item {before after : List Tree} {t t' : Tree} (h : Tightened t t') :
      Tightened (.seq (before ++ t :: after)) (.seq (before ++ t' :: after))

inductive Shift (key : String) : Option Tree → Option Tree → Prop
  | same (o : Option Tree) : Shift key o o
  | inside {t t' : Tree} (h : Tightened t t') : Shift key (some t) (some t')
  | added {k : Keyword} {node : Tree} (named : key = k.name) : Shift key none (some node)
  | required {items more : List Tree} {field : String} (named : key = "required") :
      Shift key (some (.seq (items ++ more))) (some (.seq (items ++ .scalar (.text field) :: more)))
  | unmarked (named : key = "nullable") : Shift key (some (.scalar (.atom (.bool true)))) none

theorem lookup_append (key : String) (before after : List (String × Tree)) :
    lookup key (before ++ after) = (lookup key before).or (lookup key after) := by
  induction before with
  | nil => rfl
  | cons s rest ih =>
    by_cases hs : s.1 = key
    · simp [lookup, hs]
    · simp [lookup, hs, ih]

theorem lookup_eq_none {key : String} {entries : List (String × Tree)}
    (absent : key ∉ entries.map Prod.fst) : lookup key entries = none := by
  induction entries with
  | nil => rfl
  | cons s rest ih =>
    simp only [List.map_cons, List.mem_cons, not_or] at absent
    have other : ¬ s.1 = key := fun same => absent.1 same.symm
    simp [lookup, other, ih absent.2]

theorem Stricter.lookup {es es' : List (String × Tree)} (h : Stricter es es') (key : String) :
    Shift key (Tree.lookup key es) (Tree.lookup key es') := by
  cases h with
  | @keyword before after k node absent =>
    by_cases named : k.name = key
    · subst named
      rw [lookup_eq_none absent]
      rw [List.map_append, List.mem_append, not_or] at absent
      simpa [lookup_append, Tree.lookup, lookup_eq_none absent.1] using .added rfl
    · simpa [lookup_append, Tree.lookup, named] using .same _
  | @required before after items more field =>
    simp only [lookup_append, Tree.lookup]
    cases Tree.lookup key before with
    | some t => exact .same _
    | none =>
      by_cases named : "required" = key
      · simpa [named] using .required named.symm
      · simpa [named] using .same _
  | @unmarked before after only =>
    by_cases named : "nullable" = key
    · subst named
      rw [lookup_eq_none only]
      rw [List.map_append, List.mem_append, not_or] at only
      simpa [lookup_append, Tree.lookup, lookup_eq_none only.1] using .unmarked rfl
    · simpa [lookup_append, Tree.lookup, named] using .same _

theorem Tightened.get? {t t' : Tree} (h : Tightened t t') (key : String) :
    Shift key (t.get? key) (t'.get? key) := by
  cases h with
  | here step => exact step.lookup key
  | @entry before after k u u' changed =>
    simp only [Tree.get?, lookup_append, Tree.lookup]
    cases Tree.lookup key before with
    | some t => exact .same _
    | none =>
      by_cases named : k = key
      · simpa [named] using .inside changed
      · simpa [named] using .same _
  | item changed => exact .same _

theorem Tightened.of_map {es : List (String × Tree)} {t : Tree} (h : Tightened (.map es) t) :
    ∃ es', t = .map es' := by
  generalize hm : Tree.map es = m at h
  cases h with
  | here | entry => exact ⟨_, rfl⟩
  | item => cases hm

def IsSteady (key : String) : Prop := (∀ k : Keyword, key ≠ k.name) ∧ key ≠ "nullable"

theorem isSteady_of_not_mem {key : String}
    (h : key ∉ "nullable" :: Keyword.all.map Keyword.name) : IsSteady key := by
  simp only [List.mem_cons, List.mem_map, not_or, not_exists, not_and] at h
  refine ⟨fun k named => h.2 k (by cases k <;> decide) named.symm, h.1⟩

section Tightened

variable {t t' : Tree} {key : String}

theorem Tightened.has (h : Tightened t t') (steady : IsSteady key) :
    (t'.get? key).isSome = (t.get? key).isSome := by
  have shift := h.get? key
  generalize t.get? key = o at shift
  generalize t'.get? key = o' at shift
  cases shift with
  | same | inside | required => rfl
  | added named => exact absurd named (steady.1 _)
  | unmarked named => exact absurd named steady.2

/-- A scalar stays under its key, except a mark of null. -/
theorem Tightened.scalar_kept (h : Tightened t t') {s : Scalar} (hs : t.scalar? key = some s) :
    t'.scalar? key = some s ∨ key = "nullable" ∧ s = .atom (.bool true) := by
  have shift := h.get? key
  unfold scalar? at hs ⊢
  generalize t.get? key = o at shift hs
  generalize t'.get? key = o' at shift
  cases shift with
  | same => exact .inl hs
  | inside changed => cases changed <;> cases hs
  | added => cases hs
  | required => cases hs
  | unmarked named => exact .inr ⟨named, (Option.some.inj hs).symm⟩

/-- Under a key that is no keyword there is no scalar that was not there before. -/
theorem Tightened.scalar_before (h : Tightened t t') (other : ∀ k : Keyword, key ≠ k.name)
    {s : Scalar} (hs : t'.scalar? key = some s) : t.scalar? key = some s := by
  have shift := h.get? key
  unfold scalar? at hs ⊢
  generalize t.get? key = o at shift
  generalize t'.get? key = o' at shift hs
  cases shift with
  | same => exact hs
  | inside changed => cases changed <;> cases hs
  | added named => exact absurd named (other _)
  | required => cases hs
  | unmarked => cases hs

theorem Tightened.scalar? (h : Tightened t t') (steady : IsSteady key) :
    t'.scalar? key = t.scalar? key := by
  refine Option.ext fun s => ⟨h.scalar_before steady.1, fun hs => ?_⟩
  exact (h.scalar_kept hs).resolve_right fun mark => steady.2 mark.1

theorem scalars_append (before after : List Tree) :
    scalars (before ++ after) = scalars before ++ scalars after := by
  induction before with
  | nil => rfl
  | cons t rest ih => cases t <;> simp [scalars, ih]

theorem Tightened.scalars {items items' : List Tree} (h : Tightened (.seq items) (.seq items')) :
    Tree.scalars items' = Tree.scalars items := by
  generalize hi : Tree.seq items = s at h
  generalize hi' : Tree.seq items' = s' at h
  cases h with
  | here | entry => cases hi
  | item changed =>
    cases hi
    cases hi'
    cases changed <;> simp [scalars_append, Tree.scalars]

/-- The mappings that a path leads to. -/
theorem Tightened.follow (h : Tightened t t') {keys : List String} {es : List (String × Tree)}
    (found : t.follow keys = some (.map es)) :
    ∃ es', t'.follow keys = some (.map es') ∧ (es' = es ∨ Tightened (.map es) (.map es')) := by
  induction keys generalizing t t' with
  | nil =>
    obtain rfl := Option.some.inj found
    obtain ⟨es', rfl⟩ := h.of_map
    exact ⟨es', rfl, .inr h⟩
  | cons key rest ih =>
    have shift := h.get? key
    unfold Tree.follow at found ⊢
    generalize t.get? key = o at shift found
    generalize t'.get? key = o' at shift
    cases shift with
    | same => exact ⟨es, found, .inl rfl⟩
    | inside changed => exact ih changed found
    | added => cases found
    | required | unmarked => cases rest <;> cases found

/-- Along steady keys a path leads somewhere after the change exactly if it did before. -/
theorem Tightened.follow_isSome (h : Tightened t t') {keys : List String}
    (steady : ∀ key ∈ keys, IsSteady key) : (t'.follow keys).isSome = (t.follow keys).isSome := by
  induction keys generalizing t t' with
  | nil => rfl
  | cons key rest ih =>
    have shift := h.get? key
    obtain ⟨first, later⟩ := List.forall_mem_cons.mp steady
    unfold Tree.follow
    generalize t.get? key = o at shift
    generalize t'.get? key = o' at shift
    cases shift with
    | same => rfl
    | inside changed => exact ih changed later
    | added named => exact absurd named (first.1 _)
    | required => cases rest <;> rfl
    | unmarked named => exact absurd named first.2

theorem Tightened.keys_nodup {es es' : List (String × Tree)}
    (h : Tightened (.map es) (.map es')) (distinct : (es.map Prod.fst).Nodup) :
    (es'.map Prod.fst).Nodup := by
  generalize hm : Tree.map es = m at h
  generalize hm' : Tree.map es' = m' at h
  cases h with
  | here step =>
    cases hm
    cases hm'
    cases step with
    | keyword k node absent =>
      rw [List.map_append, List.map_cons, List.nodup_middle, ← List.map_append]
      exact List.nodup_cons.mpr ⟨absent, distinct⟩
    | required => simpa using distinct
    | unmarked =>
      rw [List.map_append, List.map_cons, List.nodup_middle, ← List.map_append] at distinct
      exact (List.nodup_cons.mp distinct).2
  | entry =>
    cases hm
    cases hm'
    simpa using distinct
  | item => cases hm

end Tightened

end Tree

open SchemaChecks.Tree (Tightened IsSteady)

namespace Reading

variable {t t' : Tree} {key : String}

/-- The collection of a tightened document is the one it had, or that one tightened. -/
theorem isCollection_of_tightened {path : Option String} {entries : List (String × Tree)}
    (h : Tightened t t') (hc : IsCollection t path entries) :
    ∃ entries', IsCollection t' path entries' ∧
      (entries' = entries ∨ Tightened (.map entries) (.map entries')) := by
  cases hc with
  | given named found =>
    obtain ⟨entries', found', changed⟩ := h.follow found
    exact ⟨entries', .given named found', changed⟩
  | @usual _ _ place noPath first found =>
    obtain ⟨entries', found', changed⟩ := h.follow found
    have steady : ∀ q ∈ places, ∀ key ∈ Tree.pathSegments q,
        key ∉ "nullable" :: Keyword.all.map Keyword.name := by decide +kernel
    have same : ∀ q ∈ places, (t'.find q).isSome = (t.find q).isSome := fun q hq =>
      h.follow_isSome fun key hk => Tree.isSteady_of_not_mem (steady q hq key hk)
    refine ⟨entries', .usual noPath ?_ found', changed⟩
    rw [← first]
    exact List.find?_congr same

/-- What an object schema finds wrong, property by property. -/
theorem rejections_eq_nil_iff {definition : Tree} {subject : Datum} :
    rejections definition subject = [] ↔
      ∀ properties, definition.scalar? "type" = some (.text "object") →
        definition.get? "properties" = some (.map properties) →
          ∀ s ∈ properties, fieldViolations definition s.1 s.2 (subject.read s.1) = [] := by
  unfold rejections
  split
  next properties ht hp => simp [ht, hp, Scalar.text]
  next other =>
    simp only [true_iff]
    intro properties ht hp
    exact absurd hp (other properties ht)

/-- A sequence keeps its scalar members, and under a key other than `required` it gets no more. -/
theorem membersUnder_tightened (h : Tightened t t') (steady : IsSteady key) :
    (∀ s ∈ membersUnder key t, s ∈ membersUnder key t') ∧
      (key ≠ "required" → membersUnder key t' = membersUnder key t) := by
  have shift := h.get? key
  unfold membersUnder
  generalize t.get? key = o at shift
  generalize t'.get? key = o' at shift
  cases shift with
  | same => exact ⟨fun _ hs => hs, fun _ => rfl⟩
  | inside changed =>
    cases changed with
    | here | entry => exact ⟨fun _ hs => hs, fun _ => rfl⟩
    | @item before after u u' changed =>
      have kept := (@Tightened.item before after u u' changed).scalars
      refine ⟨fun s hs => ?_, fun _ => kept⟩
      change s ∈ Tree.scalars (before ++ u' :: after)
      rw [kept]
      exact hs
  | added named => exact absurd named (steady.1 _)
  | @required items more field named =>
    refine ⟨fun s hs => ?_, fun other => absurd named other⟩
    simp only [Tree.scalars_append, Tree.scalars, List.mem_append, List.mem_cons] at hs ⊢
    exact hs.imp_right .inr
  | unmarked named => exact absurd named steady.2

theorem onlyReferences_tightened (h : Tightened t t') (steady : IsSteady key)
    (other : key ≠ "required") : OnlyReferences (t'.get? key) ↔ OnlyReferences (t.get? key) := by
  have target : IsSteady "$ref" := Tree.isSteady_of_not_mem (by decide)
  have shift := h.get? key
  generalize t.get? key = o at shift
  generalize t'.get? key = o' at shift
  cases shift with
  | same => rfl
  | inside changed =>
    cases changed with
    | here | entry => rfl
    | @item before after u u' changed =>
      have members : ∀ v : Tree, (before ++ v :: after ≠ [] ∧
          ∀ m ∈ before ++ v :: after, (m.get? "$ref").isSome) ↔
            (v.get? "$ref").isSome ∧ (∀ m ∈ before ++ after, (m.get? "$ref").isSome) := by
        intro v
        simp only [List.forall_mem_append, List.forall_mem_cons]
        refine ⟨fun ⟨_, hb, hv, ha⟩ => ⟨hv, hb, ha⟩, fun ⟨hv, hb, ha⟩ => ⟨by simp, hb, hv, ha⟩⟩
      refine (members u').trans (Iff.trans ?_ (members u).symm)
      rw [changed.has target]
  | added named => exact absurd named (steady.1 _)
  | required named => exact absurd named other
  | unmarked named => exact absurd named steady.2

theorem pointsElsewhere_tightened (h : Tightened t t') :
    PointsElsewhere t' ↔ PointsElsewhere t := by
  have other : ∀ key ∈ ["allOf", "oneOf", "anyOf"],
      key ∉ "required" :: "nullable" :: Keyword.all.map Keyword.name := by decide
  have target : IsSteady "$ref" := Tree.isSteady_of_not_mem (by decide)
  have lists : ∀ key ∈ ["allOf", "oneOf", "anyOf"],
      (OnlyReferences (t'.get? key) ↔ OnlyReferences (t.get? key)) := by
    intro key hk
    obtain ⟨notRequired, steady⟩ := not_or.mp (mt List.mem_cons.mpr (other key hk))
    exact onlyReferences_tightened h (Tree.isSteady_of_not_mem steady) notRequired
  unfold PointsElsewhere
  rw [h.has target]
  refine or_congr_right (exists_congr fun key => and_congr_right fun hk => lists key hk)

theorem declaredType?_tightened (h : Tightened t t') : declaredType? t' = declaredType? t := by
  have steady : IsSteady "type" := Tree.isSteady_of_not_mem (by decide)
  unfold declaredType?
  rw [h.scalar? steady, (membersUnder_tightened h steady).2 (by decide)]

/-- A property that may be null after the change might have been null before it. -/
theorem mayBeNull_tightened {definition definition' node node' : Tree} {name : String}
    (fields : ∀ s ∈ membersUnder "required" definition, s ∈ membersUnder "required" definition')
    (h : node' = node ∨ Tightened node node') (may : MayBeNull definition' name node') :
    MayBeNull definition name node := by
  have type : membersUnder "type" node' = membersUnder "type" node := by
    rcases h with rfl | h
    · rfl
    · exact (membersUnder_tightened h (Tree.isSteady_of_not_mem (by decide))).2 (by decide)
  rcases may with optional | marked | union
  · exact .inl fun required => optional (fields _ required)
  · refine .inr (.inl ?_)
    rcases h with rfl | h
    · exact marked
    · exact h.scalar_before (fun k => by cases k <;> decide) marked
  · exact .inr (.inr (type ▸ union))

theorem whole?_kept (h : Tightened t t') {n : Int} (hn : whole? t key = some n) :
    whole? t' key = some n := by
  unfold whole? at hn ⊢
  cases hs : t.scalar? key with
  | none => simp [hs] at hn
  | some s =>
    rw [hs] at hn
    rcases h.scalar_kept hs with same | ⟨-, rfl⟩
    · rwa [same]
    · cases hn

theorem regex?_kept (h : Tightened t t') {regex : String} (hr : regex? t = some regex) :
    regex? t' = some regex := by
  unfold regex? at hr ⊢
  cases hs : t.scalar? "pattern" with
  | none => simp [hs] at hr
  | some s =>
    rw [hs] at hr
    rcases h.scalar_kept hs with same | ⟨-, rfl⟩
    · rwa [same]
    · cases hr

theorem within_of_kept {b b' : Bounds} (least : ∀ lo ∈ b.least, lo ∈ b'.least)
    (most : ∀ hi ∈ b.most, hi ∈ b'.most) {n : Int} (h : Within b' n) : Within b n :=
  ⟨fun lo hlo => h.1 lo (least lo hlo), fun hi hhi => h.2 hi (most hi hhi)⟩

/-! ### Values that a demand finds nothing wrong with -/

theorem Demand.admits_of_violations {d : Demand} {value : Datum} (h : d.violations value = []) :
    d.type.admits value = true := by
  rw [Demand.violations_eq_breaches] at h
  split at h
  · assumption
  · cases h

theorem violations_text_eq_nil {b : Bounds} {regex : Option String} {value : Datum} :
    (Demand.text b regex).violations value = [] ↔
      ∃ s, value = .atom (.text s) ∧ Within b s.length ∧ ∀ r ∈ regex, Check.accepts r s = true := by
  have told : ∀ s, (Demand.text b regex).violations (.atom (.text s)) = [] ↔
      Within b s.length ∧ ∀ r ∈ regex, Check.accepts r s = true := by
    intro s
    cases regex <;> simp [Demand.violations]
  constructor
  · intro h
    obtain ⟨s, rfl⟩ := BaseType.admits_string.mp (Demand.admits_of_violations h)
    exact ⟨s, rfl, (told s).mp h⟩
  · rintro ⟨s, rfl, accepted⟩
    exact (told s).mpr accepted

theorem violations_number_eq_nil {b : Bounds} {value : Datum} :
    (Demand.number b).violations value = [] ↔ ∃ n, value = .atom (.int n) ∧ Within b n := by
  have told : ∀ n, (Demand.number b).violations (.atom (.int n)) = [] ↔ Within b n := by
    intro n
    simp [Demand.violations]
  constructor
  · intro h
    obtain ⟨n, rfl⟩ := BaseType.admits_integer.mp (Demand.admits_of_violations h)
    exact ⟨n, rfl, (told n).mp h⟩
  · rintro ⟨n, rfl, within⟩
    exact (told n).mpr within

/-- What a property demands it still demands, or more. -/
theorem demand?_kept (h : Tightened t t') {d : Demand} (hd : demand? t = some d) :
    ∃ d', demand? t' = some d' ∧ ∀ value, d'.violations value = [] → d.violations value = [] := by
  have absent : ∀ key, whole? t' key = none → whole? t key = none := by
    intro key none'
    cases hn : whole? t key with
    | none => rfl
    | some n => rw [whole?_kept h hn] at none'; cases none'
  have noPattern : regex? t' = none → regex? t = none := by
    intro none'
    cases hr : regex? t with
    | none => rfl
    | some r => rw [regex?_kept h hr] at none'; cases none'
  unfold demand? at hd ⊢
  rw [declaredType?_tightened h]
  split at hd
  next =>
    dsimp only at hd ⊢
    split at hd
    next => cases hd
    next some_given =>
      cases hd
      have still : ¬ (whole? t' "minLength" = none ∧ whole? t' "maxLength" = none ∧
          regex? t' = none) := fun ⟨least, most, pattern⟩ =>
        some_given ⟨absent _ least, absent _ most, noPattern pattern⟩
      refine ⟨_, if_neg still, fun value accepted => ?_⟩
      obtain ⟨s, rfl, within, matched⟩ := violations_text_eq_nil.mp accepted
      refine violations_text_eq_nil.mpr ⟨s, rfl, ?_, fun r hr => matched r (regex?_kept h hr)⟩
      exact within_of_kept (fun _ => whole?_kept h) (fun _ => whole?_kept h) within
  next =>
    dsimp only at hd ⊢
    split at hd
    next => cases hd
    next some_given =>
      cases hd
      have still : ¬ (whole? t' "minimum" = none ∧ whole? t' "maximum" = none) :=
        fun ⟨least, most⟩ => some_given ⟨absent _ least, absent _ most⟩
      refine ⟨_, if_neg still, fun value accepted => ?_⟩
      obtain ⟨n, rfl, within⟩ := violations_number_eq_nil.mp accepted
      refine violations_number_eq_nil.mpr ⟨n, rfl, ?_⟩
      exact within_of_kept (fun _ => whole?_kept h) (fun _ => whole?_kept h) within
  next =>
    obtain ⟨n, hn, rfl⟩ := Option.map_eq_some_iff.mp hd
    exact ⟨_, by rw [whole?_kept h hn]; rfl, fun _ accepted => accepted⟩
  next => cases hd

/-- A value that a property accepts after the change it accepted before. -/
theorem fieldViolations_tightened {definition definition' node node' : Tree} {name : String}
    {value : Datum}
    (fields : ∀ s ∈ membersUnder "required" definition, s ∈ membersUnder "required" definition')
    (h : node' = node ∨ Tightened node node')
    (accepted : fieldViolations definition' name node' value = []) :
    fieldViolations definition name node value = [] := by
  have may := @mayBeNull_tightened definition definition' node node' name fields h
  have elsewhere : PointsElsewhere node' ↔ PointsElsewhere node := by
    rcases h with rfl | h
    · rfl
    · exact pointsElsewhere_tightened h
  unfold fieldViolations at accepted ⊢
  by_cases points : PointsElsewhere node
  · rw [if_pos points]
  · rw [if_neg points]
    rw [if_neg (mt elsewhere.mp points)] at accepted
    cases hd : demand? node with
    | none => rfl
    | some d =>
      obtain ⟨d', hd', weaker⟩ : ∃ d', demand? node' = some d' ∧
          ∀ value, d'.violations value = [] → d.violations value = [] := by
        rcases h with rfl | h
        · exact ⟨d, hd, fun _ same => same⟩
        · exact demand?_kept h hd
      rw [hd'] at accepted
      dsimp only at accepted ⊢
      split at accepted
      next isNull =>
        split at accepted
        next nullable => rw [if_pos isNull, if_pos (may nullable)]
        next => cases accepted
      next present =>
        rw [if_neg present]
        exact weaker value accepted

/-- Every property that counted is still there, as it was or tightened. -/
theorem properties_tightened {es es' : List (String × Tree)} (h : Tightened (.map es) (.map es'))
    {name : String} {node : Tree} (hm : (name, node) ∈ es) :
    (∀ es, node ≠ .map es) ∨
      ∃ node', (name, node') ∈ es' ∧ (node' = node ∨ Tightened node node') := by
  generalize hs : Tree.map es = s at h
  generalize hs' : Tree.map es' = s' at h
  cases h with
  | here step =>
    cases hs
    cases hs'
    cases step with
    | keyword k added absent =>
      refine .inr ⟨node, ?_, .inl rfl⟩
      simp only [List.mem_append, List.mem_cons] at hm ⊢
      exact hm.imp_right .inr
    | required field =>
      simp only [List.mem_append, List.mem_cons] at hm
      rcases hm with hm | same | hm
      · exact .inr ⟨node, by simp [hm], .inl rfl⟩
      · cases same
        exact .inl (by simp)
      · exact .inr ⟨node, by simp [hm], .inl rfl⟩
    | unmarked only =>
      simp only [List.mem_append, List.mem_cons] at hm
      rcases hm with hm | same | hm
      · exact .inr ⟨node, by simp [hm], .inl rfl⟩
      · cases same
        exact .inl (by simp)
      · exact .inr ⟨node, by simp [hm], .inl rfl⟩
  | @entry before after key u u' changed =>
    cases hs
    cases hs'
    simp only [List.mem_append, List.mem_cons] at hm
    rcases hm with hm | same | hm
    · exact .inr ⟨node, by simp [hm], .inl rfl⟩
    · cases same
      exact .inr ⟨u', by simp, .inr changed⟩
    · exact .inr ⟨node, by simp [hm], .inl rfl⟩
  | item => cases hs

/-- An instance that a schema accepts after the change it accepted before. -/
theorem rejections_tightened (h : Tightened t t') {subject : Datum}
    (accepted : rejections t' subject = []) : rejections t subject = [] := by
  have type : t'.scalar? "type" = t.scalar? "type" :=
    h.scalar? (Tree.isSteady_of_not_mem (by decide))
  have fields := (@membersUnder_tightened t t' "required" h
    (Tree.isSteady_of_not_mem (by decide))).1
  rw [rejections_eq_nil_iff] at accepted ⊢
  intro properties ht hp s hs
  have shift := h.get? "properties"
  rw [hp] at shift
  generalize hp' : t'.get? "properties" = o' at shift
  have kept : ∃ properties', o' = some (.map properties') ∧
      (properties' = properties ∨ Tightened (.map properties) (.map properties')) := by
    cases shift with
    | same => exact ⟨properties, rfl, .inl rfl⟩
    | inside changed =>
      obtain ⟨properties', rfl⟩ := changed.of_map
      exact ⟨properties', rfl, .inr changed⟩
  obtain ⟨properties', rfl, changed⟩ := kept
  have passes := accepted properties' (type.trans ht) hp'
  rcases changed with rfl | changed
  · exact fieldViolations_tightened fields (.inl rfl) (passes s hs)
  · rcases properties_tightened changed hs with flat | ⟨node', hs', changed⟩
    · exact fieldViolations_of_leaf flat _ _ _
    · exact fieldViolations_tightened fields changed (passes _ hs')

/-- An instance that a collection accepts under a name after the change it accepted before. -/
theorem verdict_tightened {entries entries' : List (String × Tree)}
    (h : Tightened (.map entries) (.map entries')) {name : String} {subject : Datum}
    (accepted : verdict entries' name subject = none) : verdict entries name subject = none := by
  have shift := h.get? name
  unfold verdict at accepted ⊢
  change Tree.Shift name (Tree.lookup name entries) (Tree.lookup name entries') at shift
  generalize Tree.lookup name entries = o at shift
  generalize Tree.lookup name entries' = o' at shift accepted
  cases shift with
  | same => exact accepted
  | inside changed =>
    simp only [Option.bind_some, List.head?_eq_none_iff] at accepted ⊢
    exact rejections_tightened changed accepted
  | added => rfl
  | required => rfl
  | unmarked => rfl

theorem told_eq_none {o : Option Rejection} : Rejection.told o = .ok none ↔ o = none := by
  cases o with
  | none => simp [Rejection.told]
  | some r => cases hp : r.isPrintable <;> simp [Rejection.told, hp]

/-- A stricter document never accepts more. An instance that the validators of a tightened document
accept under a name is accepted under that name by those of the document itself. -/
theorem accepts_of_tightened {root root' : Tree} {path : Option String}
    {entries : List (String × Tree)} {e e' : Extraction} (hc : IsCollection root path entries)
    (distinct : (entries.map Prod.fst).Nodup) (tightened : Tightened root root')
    (h : Extraction.ofTree root path = .ok e) (h' : Extraction.ofTree root' path = .ok e') :
    ∃ s s', ValidatorSet.ofExtraction e = .ok s ∧ ValidatorSet.ofExtraction e' = .ok s' ∧
      ∀ name subject, s'.rejection? name subject = .ok none →
        s.rejection? name subject = .ok none := by
  obtain ⟨s, hs, judged⟩ := exists_judging h
  obtain ⟨s', hs', judged'⟩ := exists_judging h'
  refine ⟨s, s', hs, hs', fun name subject accepted => ?_⟩
  obtain ⟨entries', hc', changed⟩ := isCollection_of_tightened tightened hc
  rw [judged hc distinct, told_eq_none]
  rcases changed with rfl | changed
  · rwa [judged' hc' distinct, told_eq_none] at accepted
  · rw [judged' hc' (changed.keys_nodup distinct), told_eq_none] at accepted
    exact verdict_tightened changed accepted

end Reading

namespace Sample

def roomSchemas (bounds : List (String × Tree)) : List (String × Tree) :=
  [("Room", .map [("type", text "object"),
    ("properties", .map [("seats", .map (("type", text "integer") :: bounds))])])]

def rooms (bounds : List (String × Tree)) : Tree :=
  .map [("definitions", .map (roomSchemas bounds))]

def roomFields : List FieldChecks := [⟨"seats", .integer, true, [.range ⟨some 1, none⟩]⟩]

theorem rooms_tightened : Tightened (rooms []) (rooms [("minimum", number 1)]) := by
  have bounded : Tightened (.map [("type", text "integer")])
      (.map [("type", text "integer"), ("minimum", number 1)]) :=
    .here (@Tree.Stricter.keyword [_] [] .minimum (number 1) (by decide))
  have properties := @Tightened.entry [] [] "seats" _ _ bounded
  have schema := @Tightened.entry [("type", text "object")] [] "properties" _ _ properties
  have schemas := @Tightened.entry [] [] "Room" _ _ schema
  exact @Tightened.entry [] [] "definitions" _ _ schemas

end Sample

/-- The first bound of a number brings its schema to be checked at all. -/
theorem Reading.accepts_of_bounded_seats :
    IsCollection (Sample.rooms []) none (Sample.roomSchemas []) ∧
      ((Sample.roomSchemas []).map Prod.fst).Nodup ∧
      Extraction.ofTree (Sample.rooms []) none = .ok [] ∧
      Extraction.ofTree (Sample.rooms [("minimum", Sample.number 1)]) none =
        .ok [("Room", Sample.roomFields)] ∧
      ∃ s s', ValidatorSet.ofExtraction [] = .ok s ∧
        ValidatorSet.ofExtraction [("Room", Sample.roomFields)] = .ok s' ∧
        ∀ name subject, s'.rejection? name subject = .ok none →
          s.rejection? name subject = .ok none := by
  have collection : IsCollection (Sample.rooms []) none (Sample.roomSchemas []) :=
    @IsCollection.usual _ none _ "definitions" rfl (by decide +kernel) (by cbv)
  have distinct : ((Sample.roomSchemas []).map Prod.fst).Nodup := by decide
  have unbounded : Extraction.ofTree (Sample.rooms []) none = .ok [] := by decide +kernel
  have bounded : Extraction.ofTree (Sample.rooms [("minimum", Sample.number 1)]) none =
      .ok [("Room", Sample.roomFields)] := by decide +kernel
  exact ⟨collection, distinct, unbounded, bounded,
    accepts_of_tightened collection distinct Sample.rooms_tightened unbounded bounded⟩

end SchemaChecks
