import SchemaChecks.Proofs.Independence

/-!
Required fields. A property name is the text of a key, whatever atom the key was, but of the members
of `required` only the texts count. A field whose name is listed as a number, a truth value, a date
or null is optional.
-/

namespace SchemaChecks

/-- The text that a scalar has as a key, if its numbers have texts. -/
def Scalar.keyText? : Scalar → Option String
  | .atom a => if a.isPrintable then some a.keyText else none
  | .set members => if members.all Atom.isPrintable then some (Scalar.set members).shown else none

namespace Reading

/-- A member of the required fields would be this field's name as a key. -/
def IsListed (definition : Tree) (field : String) : Prop :=
  ∃ s ∈ membersUnder "required" definition, s.keyText? = some field

/-- A text that is the field's name is among the required fields. -/
def IsRequired (definition : Tree) (field : String) : Prop :=
  .text field ∈ membersUnder "required" definition

/-- A property that may be null by its own words. -/
def IsMarked (node : Tree) : Prop :=
  node.scalar? "nullable" = some (.atom (.bool true)) ∨ ∃ s ∈ membersUnder "type" node, IsNullMark s

instance (definition : Tree) (field : String) : Decidable (IsListed definition field) :=
  inferInstanceAs (Decidable (∃ s ∈ _, _ = _))

instance (definition : Tree) (field : String) : Decidable (IsRequired definition field) :=
  inferInstanceAs (Decidable (_ ∈ _))

instance (node : Tree) : Decidable (IsMarked node) :=
  inferInstanceAs (Decidable (_ ∨ ∃ s ∈ _, _))

theorem IsRequired.isListed {definition : Tree} {field : String} (h : IsRequired definition field) :
    IsListed definition field :=
  ⟨_, h, rfl⟩

theorem mayBeNull_iff {definition : Tree} {field : String} {node : Tree} :
    MayBeNull definition field node ↔ ¬ IsRequired definition field ∨ IsMarked node := Iff.rfl

theorem not_isMarked_of_leaf {node : Tree} (leaf : ∀ es, node ≠ .map es) : ¬ IsMarked node := by
  simp [IsMarked, membersUnder, Tree.scalar?, get?_of_leaf leaf]

end Reading

/-- A property may be null exactly if no text requires it or it says so itself. -/
theorem Property.nullable_iff (definition : Tree) (field : String) (node : Tree) :
    (ofTree (Definition.requiredOf (definition.get? "required")) field node).nullable = true ↔
      ¬ Reading.IsRequired definition field ∨ Reading.IsMarked node := by
  rw [← Reading.mayBeNull_iff]
  by_cases leaf : ∀ es, node ≠ .map es
  · have listed := requiredOf_contains definition field
    have unmarked := Reading.not_isMarked_of_leaf leaf
    rw [Reading.mayBeNull_iff, or_iff_left unmarked, Reading.IsRequired, ← listed,
      ofTree_of_leaf leaf]
    simp
  · obtain ⟨es, rfl⟩ := not_forall_not.mp leaf
    rw [nullable_ofTree, decide_eq_true_iff]

namespace Reading

/-- Null, or nothing, is wrong with a field that has a demand, unless it may be null. -/
theorem fieldViolations_null {definition : Tree} {field : String} {node : Tree} {d : Demand}
    {value : Datum} (stays : ¬ PointsElsewhere node) (demands : demand? node = some d)
    (null : value.isNull = true) :
    fieldViolations definition field node value =
      if MayBeNull definition field node then [] else [.null] := by
  simp [fieldViolations, stays, demands, null]

/-- Which fields of an object schema may be null: those whose name is not among the texts that are
required, and those that say so themselves. So a listed field stays required exactly if it is listed
as a text or marked anyway. If it has a demand, an instance without it, or with null under it, is
then rejected unless it is marked; a field that is listed as another scalar only is no more than
optional. -/
theorem required_by_texts {root : Tree} {path : Option String}
    {entries properties : List (String × Tree)} {name field : String} {definition node : Tree}
    (hc : IsCollection root path entries) (stands : (name, definition) ∈ entries)
    (object : definition.scalar? "type" = some (.text "object"))
    (under : definition.get? "properties" = some (.map properties))
    (property : (field, node) ∈ properties) :
    ((Property.ofTree (Definition.requiredOf (definition.get? "required")) field node).nullable =
        true ↔ ¬ IsRequired definition field ∨ IsMarked node) ∧
      ((IsListed definition field →
        (Property.ofTree (Definition.requiredOf (definition.get? "required")) field node).nullable =
          true → IsMarked node) ↔
      (IsListed definition field → IsRequired definition field ∨ IsMarked node)) ∧
      ∀ {e}, Extraction.ofTree root path = .ok e →
        (∀ other, (name, other) ∈ entries → other = definition) →
        ∃ s, ValidatorSet.ofExtraction e = .ok s ∧
          ∀ {d}, ¬ PointsElsewhere node → demand? node = some d →
            ∀ subject, (subject.read field).isNull = true →
              (IsRequired definition field → ¬ IsMarked node →
                ∃ r, s.rejection? name subject = Rejection.told (some r)) ∧
              (¬ IsRequired definition field →
                fieldViolations definition field node (subject.read field) = [] ∧
                s.rejection? name subject =
                  Rejection.told (rejections definition subject).head?) := by
  refine ⟨Property.nullable_iff definition field node, ?_, fun {e} h only => ?_⟩
  · rw [Property.nullable_iff]
    refine imp_congr_right fun _ => ?_
    constructor
    · intro alone
      by_cases required : IsRequired definition field
      · exact Or.inl required
      · exact Or.inr (alone (Or.inl required))
    · rintro (required | marked) optional
      · exact optional.resolve_left (not_not_intro required)
      · exact marked
  · obtain ⟨s, hs, judged⟩ := judged_by_only hc h
    obtain ⟨-, verdicts⟩ := judged ⟨stands, only⟩
    refine ⟨s, hs, fun {d} stays demands subject null => ?_⟩
    have wrong := @fieldViolations_null definition field node d _ stays demands null
    refine ⟨fun required unmarked => ?_, fun optional => ⟨?_, verdicts subject⟩⟩
    · have strict : ¬ MayBeNull definition field node := by
        rw [mayBeNull_iff, not_or, not_not]
        exact ⟨required, unmarked⟩
      have violated : fieldViolations definition field node (subject.read field) ≠ [] := by
        simp [wrong, strict]
      obtain ⟨r, first⟩ := exists_rejection object under property violated
      exact ⟨r, by rw [verdicts, first]⟩
    · rw [wrong, if_pos (mayBeNull_iff.mpr (Or.inl optional))]

end Reading

namespace Sample

def filled : Tree := .map [("type", text "string"), ("minLength", number 1)]

def reply : Tree := .map [("type", text "object"), ("required", .seq [text "id", number 200]),
  ("properties", .map [("id", filled), ("200", filled)])]

def replyFields : List FieldChecks :=
  [⟨"id", .string, false, [.length ⟨some 1, none⟩]⟩,
    ⟨"200", .string, true, [.length ⟨some 1, none⟩]⟩]

theorem reply_extraction :
    Extraction.ofTree (documentOf [("Reply", reply)]) none = .ok [("Reply", replyFields)] := by
  decide +kernel

end Sample

/-- A reply without its identifier is rejected, one with nothing else is not. -/
theorem Reading.reply_required :
    Extraction.ofTree (Sample.documentOf [("Reply", Sample.reply)]) none =
        .ok [("Reply", Sample.replyFields)] ∧
      IsListed Sample.reply "id" ∧ IsListed Sample.reply "200" ∧
      ∃ s, ValidatorSet.ofExtraction [("Reply", Sample.replyFields)] = .ok s ∧
        (∃ r, s.rejection? "Reply" (.dict []) = Rejection.told (some r)) ∧
        s.rejection? "Reply" (.dict [(.text "id", .atom (.text "a"))]) = .ok none := by
  have listed : IsListed Sample.reply "200" := by decide +kernel
  have required : IsRequired Sample.reply "id" := by decide
  have optional : ¬ IsRequired Sample.reply "200" := by decide
  have collection := Sample.isCollection_documentOf [("Reply", Sample.reply)]
  have stands : ("Reply", Sample.reply) ∈ [("Reply", Sample.reply)] := List.mem_singleton_self _
  have only : ∀ other, ("Reply", other) ∈ [("Reply", Sample.reply)] → other = Sample.reply :=
    fun other ho => by simpa using ho
  obtain ⟨-, -, texted⟩ := @required_by_texts _ _ _ _ _ "id" _ Sample.filled collection stands
    (by decide) rfl (by simp)
  obtain ⟨-, -, numbered⟩ := @required_by_texts _ _ _ _ _ "200" _ Sample.filled collection stands
    (by decide) rfl (by simp)
  obtain ⟨s, hs, absent⟩ := texted Sample.reply_extraction only
  obtain ⟨t, ht, present⟩ := numbered Sample.reply_extraction only
  obtain rfl := Except.ok.inj (hs.symm.trans ht)
  have rejects := @absent (.text ⟨some 1, none⟩ none) (by decide) rfl (.dict []) (by decide)
  have accepts := @present (.text ⟨some 1, none⟩ none) (by decide) rfl
    (.dict [(.text "id", .atom (.text "a"))]) (by decide)
  refine ⟨Sample.reply_extraction, required.isListed, listed, s, hs, ?_, ?_⟩
  · exact rejects.1 required (by decide)
  · rw [(accepts.2 optional).2]
    decide +kernel

end SchemaChecks
