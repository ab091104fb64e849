import SchemaChecks.Definition

/-!
Which nodes are definitions, and what their properties keep of them.
-/

namespace SchemaChecks

namespace Property

@[simp] theorem ofTree_name (required : List String) (name : String) (node : Tree) :
    (ofTree required name node).name = name := by
  cases node <;> rfl

end Property

namespace Definition

def propertiesOf (required : List String) (entries : List (String × Tree)) : List Property :=
  entries.map fun s => Property.ofTree required s.1 s.2

theorem propertiesOf_names (required : List String) (entries : List (String × Tree)) :
    (propertiesOf required entries).map Property.name = entries.map Prod.fst := by
  simp [propertiesOf, Function.comp_def]

/-- A node defines a schema exactly if it is an object with properties. -/
theorem ofTree?_eq_some {name : String} {node : Tree} {d : Definition} :
    ofTree? name node = some d ↔
      node.scalar? "type" = some (.text "object") ∧
        ∃ entries, node.get? "properties" = some (.map entries) ∧ entries ≠ [] ∧
          d = ⟨name, requiredOf (node.get? "required"),
            propertiesOf (requiredOf (node.get? "required")) entries⟩ := by
  unfold ofTree?
  by_cases ht : node.scalar? "type" = some (.text "object")
  · rw [if_pos ht]
    split
    next first rest hp => simp [ht, hp, propertiesOf, eq_comm]
    next hn =>
      constructor
      · intro h; cases h
      · rintro ⟨_, entries, hp, hne, _⟩
        cases entries with
        | nil => exact absurd rfl hne
        | cons first rest => exact absurd hp (hn first rest)
  · simp [ht]

theorem name_of_ofTree? {name : String} {node : Tree} {d : Definition}
    (h : ofTree? name node = some d) : d.name = name := by
  obtain ⟨-, _, -, -, rfl⟩ := ofTree?_eq_some.mp h
  rfl

end Definition

namespace Collection

theorem mem_definitions {c : Collection} {d : Definition} :
    d ∈ c.definitions ↔ ∃ s ∈ c.entries, Definition.ofTree? s.1 s.2 = some d := by
  simp [definitions]

theorem definitions_names_sublist (c : Collection) :
    (c.definitions.map Definition.name).Sublist (c.entries.map Prod.fst) := by
  unfold definitions
  induction c.entries with
  | nil => simp
  | cons s rest ih =>
    cases hs : Definition.ofTree? s.1 s.2 with
    | none => simpa [hs] using ih.cons _
    | some d =>
      obtain ⟨_, entries, _, _, rfl⟩ := Definition.ofTree?_eq_some.mp hs
      simpa [hs] using ih

end Collection

end SchemaChecks
