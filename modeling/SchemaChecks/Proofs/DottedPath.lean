import SchemaChecks.Proofs.Conversion

/-!
Paths with dots between their keys. Two paths with a dot between them lead along the first and then,
from the mapping found there, along the second, wherever empty keys stand in them. What a path finds
is what its keys lead to one by one, each through the first entry of a mapping that has it.
-/

namespace SchemaChecks.Tree

/-! ### The keys of a path -/

structure IsSplit (path : String) (keys : List String) : Prop where
  nonempty : keys ≠ []
  undotted : ∀ key ∈ keys, '.' ∉ key.toList
  joined : ".".intercalate keys = path

theorem undotted_of_mem_splitOn {cs part : List Char} (h : part ∈ cs.splitOn '.') : '.' ∉ part := by
  induction cs generalizing part with
  | nil =>
    obtain rfl := List.mem_singleton.mp h
    exact List.not_mem_nil
  | cons c rest ih =>
    rw [List.splitOn_cons_eq_if_modifyHead] at h
    split at h
    next =>
      rcases List.mem_cons.mp h with rfl | h
      · exact List.not_mem_nil
      · exact ih h
    next other =>
      cases parts : rest.splitOn '.' with
      | nil => exact absurd parts (List.splitOn_ne_nil _ _)
      | cons first more =>
        rw [parts] at h ih
        rcases List.mem_cons.mp h with rfl | h
        · have apart : '.' ≠ c := fun same => other (same ▸ beq_self_eq_true c)
          exact List.not_mem_cons_of_ne_of_not_mem apart (ih List.mem_cons_self)
        · exact ih (List.mem_cons_of_mem first h)

theorem pathSegments_toList (path : String) :
    (pathSegments path).map String.toList = path.toList.splitOn '.' := by
  rw [pathSegments, List.map_map]
  exact (List.map_congr_left fun cs _ => String.toList_ofList).trans (List.map_id' _)

theorem isSplit_pathSegments (path : String) : IsSplit path (pathSegments path) where
  nonempty := by
    intro none
    have parts := pathSegments_toList path
    rw [none] at parts
    exact List.splitOn_ne_nil _ _ parts.symm
  undotted := by
    intro key hk
    have listed : key.toList ∈ path.toList.splitOn '.' :=
      pathSegments_toList path ▸ List.mem_map_of_mem hk
    exact undotted_of_mem_splitOn listed
  joined := by
    apply String.toList_injective
    rw [String.toList_intercalate, pathSegments_toList]
    exact List.intercalate_splitOn '.'

/-- A path is made of one list of keys. -/
theorem IsSplit.eq_pathSegments {path : String} {keys : List String} (h : IsSplit path keys) :
    keys = pathSegments path := by
  have chars : path.toList.splitOn '.' = keys.map String.toList := by
    rw [← h.joined, String.toList_intercalate]
    refine List.splitOn_intercalate '.' ?_ (by simpa using h.nonempty)
    intro part hp
    obtain ⟨key, hk, rfl⟩ := List.mem_map.mp hp
    exact h.undotted key hk
  rw [pathSegments, chars, List.map_map]
  exact ((List.map_congr_left fun key _ => String.ofList_toList).trans (List.map_id' _)).symm

theorem IsSplit.append {p q : String} {as bs : List String} (hp : IsSplit p as)
    (hq : IsSplit q bs) : IsSplit (p ++ "." ++ q) (as ++ bs) where
  nonempty := List.append_ne_nil_of_left_ne_nil hp.nonempty bs
  undotted := List.forall_mem_append.mpr ⟨hp.undotted, hq.undotted⟩
  joined := by
    rw [String.intercalate_append_of_ne_nil hp.nonempty hq.nonempty, hp.joined, hq.joined]

theorem pathSegments_dotted (p q : String) :
    pathSegments (p ++ "." ++ q) = pathSegments p ++ pathSegments q :=
  ((isSplit_pathSegments p).append (isSplit_pathSegments q)).eq_pathSegments.symm

theorem isSplit_singleton {key : String} (undotted : '.' ∉ key.toList) : IsSplit key [key] where
  nonempty := List.cons_ne_nil _ _
  undotted := List.forall_mem_singleton.mpr undotted
  joined := String.intercalate_singleton

/-! ### The way along the keys -/

/-- Keys lead from a node to another one: the next key always through the first entry that has it,
and from a mapping only. -/
inductive Descends : Tree → List String → Tree → Prop
  | here (t : Tree) : Descends t [] t
  | into {entries : List (String × Tree)} {key : String} {inner t : Tree} {keys : List String}
      (first : IsFirst key inner entries) (onward : Descends inner keys t) :
      Descends (.map entries) (key :: keys) t

theorem follow_eq_some_iff {keys : List String} {t u : Tree} :
    t.follow keys = some u ↔ Descends t keys u := by
  induction keys generalizing t with
  | nil =>
    rw [follow, Option.some.injEq]
    constructor
    · rintro rfl
      exact .here t
    · rintro ⟨⟩
      rfl
  | cons key keys ih =>
    rw [follow, Option.bind_eq_some_iff]
    constructor
    · rintro ⟨inner, found, onward⟩
      cases t with
      | scalar s => cases found
      | seq items => cases found
      | map entries => exact .into (get?_eq_some_iff.mp found) (ih.mp onward)
    · rintro ⟨⟩
      next first onward => exact ⟨_, get?_eq_some_iff.mpr first, ih.mpr onward⟩

theorem follow_append (as bs : List String) (t : Tree) :
    t.follow (as ++ bs) = (t.follow as).bind (follow bs) := by
  induction as generalizing t with
  | nil => rfl
  | cons key as ih =>
    rw [List.cons_append, follow, follow, Option.bind_assoc]
    exact congrArg (Option.bind (t.get? key)) (funext ih)

theorem find_dotted (p q : String) (t : Tree) :
    t.find (p ++ "." ++ q) = (t.find p).bind (find q) := by
  rw [find, pathSegments_dotted, follow_append]
  rfl

/-- No path leads on from what is no mapping. -/
theorem find_of_leaf {t : Tree} (leaf : ∀ entries, t ≠ .map entries) (path : String) :
    t.find path = none := by
  rw [Option.eq_none_iff_forall_ne_some]
  intro u found
  have way := follow_eq_some_iff.mp found
  have some_key := (isSplit_pathSegments path).nonempty
  generalize pathSegments path = keys at way some_key
  cases way with
  | here => exact some_key rfl
  | into => exact leaf _ rfl

theorem find_undotted {key : String} (undotted : '.' ∉ key.toList) (t : Tree) :
    t.find key = t.get? key := by
  rw [find, ← (isSplit_singleton undotted).eq_pathSegments, follow]
  exact Option.bind_fun_some (t.get? key)

end SchemaChecks.Tree

namespace SchemaChecks

/-- Looking up a path composes. Two paths with a dot between them find in a mapping what the second
finds in the mapping that the first leads to, and nothing if the first leads to no mapping; a key
without a dot finds its first entry. So a path finds a node if and only if its keys, one by one,
lead there through the first entries of mappings; empty keys are keys like all others. -/
theorem Tree.find_composes :
    (∀ (entries : List (String × Tree)) (p q : String),
      (Tree.map entries).find (p ++ "." ++ q) =
        match (Tree.map entries).find p with
        | some (.map inner) => (Tree.map inner).find q
        | _ => none) ∧
    (∀ (entries : List (String × Tree)) (key : String), '.' ∉ key.toList →
      (Tree.map entries).find key = (Tree.map entries).get? key) ∧
    ∀ (entries : List (String × Tree)) (path : String) (t : Tree),
      (Tree.map entries).find path = some t ↔
        ∃ keys, Tree.IsSplit path keys ∧ Tree.Descends (.map entries) keys t := by
  refine ⟨?_, ?_, ?_⟩
  · intro entries p q
    rw [Tree.find_dotted]
    cases found : (Tree.map entries).find p with
    | none => rfl
    | some n =>
      cases n with
      | map inner => rfl
      | scalar s => exact Tree.find_of_leaf (by simp) q
      | seq items => exact Tree.find_of_leaf (by simp) q
  · intro entries key undotted
    exact Tree.find_undotted undotted (.map entries)
  · intro entries path t
    constructor
    · intro found
      exact ⟨_, Tree.isSplit_pathSegments path, Tree.follow_eq_some_iff.mp found⟩
    · rintro ⟨keys, split, way⟩
      rw [Tree.find, ← split.eq_pathSegments]
      exact Tree.follow_eq_some_iff.mpr way

def Sample.labels : List (String × Tree) :=
  [("", .map [("a", .map [("", .scalar (.text "found"))]), ("a", .scalar (.text "hidden"))]),
    ("list", .seq [.scalar (.text "item")])]

/-- A path of empty keys finds what is under them, and none leads into a list. -/
theorem Tree.labels_found :
    '.' ∉ "list".toList ∧
      (Tree.map Sample.labels).find "list" = (Tree.map Sample.labels).get? "list" ∧
      (Tree.map Sample.labels).find ("" ++ "." ++ "a.") = some (.scalar (.text "found")) ∧
      (Tree.map Sample.labels).find ("list" ++ "." ++ "0") = none ∧
      ∃ keys, Tree.IsSplit ".a." keys ∧
        Tree.Descends (.map Sample.labels) keys (.scalar (.text "found")) := by
  have undotted : '.' ∉ "list".toList := by decide
  obtain ⟨composes, direct, leads⟩ := Tree.find_composes
  refine ⟨undotted, direct _ _ undotted, ?_, ?_, (leads _ _ _).mp rfl⟩
  · exact (composes Sample.labels "" "a.").trans rfl
  · exact (composes Sample.labels "list" "0").trans rfl

end SchemaChecks
