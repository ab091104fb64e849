import SchemaChecks.Yaml.Graph
import SchemaChecks.Yaml.Leaf

/-!
What the nodes of a document stand for. Every node reached from the root becomes one cell; cells
refer to each other, so a document may hold itself. Nodes are visited level by level: a collection
is filled only after all collections opened before it.
-/

namespace SchemaChecks.Yaml

inductive Cell where
  | atom (a : Atom)
  | set (members : List Atom)
  | list (items : List Nat)
  | pairs (entries : List (Nat × Nat))
  | dict (entries : List (Atom × Nat))
  deriving DecidableEq, Repr

structure Heap where
  cells : Array (Option Cell)
  root : Nat

structure Filling where
  nodes : Array Node
  cells : Array (Option Cell)
  /-- Collections that are opened and not yet filled, the latest first. -/
  waiting : List Nat

abbrev Fill := StateT Filling (Except Fault)

namespace Fill

def malformed {α : Type} : Fill α := throw .malformed

def nodeAt (id : Nat) : Fill Node := do
  match (← get).nodes[id]? with
  | some n => pure n
  | none => malformed

def setNode (id : Nat) (n : Node) : Fill Unit :=
  modify fun s => { s with nodes := s.nodes.setIfInBounds id n }

def setCell (id : Nat) (c : Cell) : Fill Unit :=
  modify fun s => { s with cells := s.cells.setIfInBounds id (some c) }

def entriesOf (id : Nat) : Fill (List (Nat × Nat)) := do
  match (← nodeAt id).content with
  | .map entries => pure entries
  | _ => malformed

def setEntries (id : Nat) (entries : List (Nat × Nat)) : Fill Unit := do
  let n ← nodeAt id
  setNode id { n with content := .map entries }

/-- More steps than a document that fits into memory takes. -/
def stepLimit : Nat := Nat.pow 2 40

mutual

/-- Takes the merge keys out of a mapping and puts the entries of the mappings they name before its
own, which therefore prevail. A key `=` becomes a text. -/
def flatten (fuel id index : Nat) (merged : List (Nat × Nat)) : Fill Unit := do
  match fuel with
  | 0 => throw .tooDeep
  | fuel + 1 =>
    let entries ← entriesOf id
    match entries[index]? with
    | none => if merged.isEmpty then pure () else setEntries id (merged ++ entries)
    | some (k, v) =>
      let key ← nodeAt k
      match key.tag with
      | .merge =>
        setEntries id (entries.eraseIdx index)
        let more ← mergeSource fuel v
        flatten fuel id index (merged ++ more)
      | .default =>
        setNode k { key with tag := .str }
        flatten fuel id (index + 1) merged
      | _ => flatten fuel id (index + 1) merged

/-- The entries that a merge key brings in: those of one mapping, or of several, where an earlier
mapping prevails over a later one. -/
def mergeSource (fuel id : Nat) : Fill (List (Nat × Nat)) := do
  match fuel with
  | 0 => throw .tooDeep
  | fuel + 1 =>
    match (← nodeAt id).content with
    | .scalar _ => malformed
    | .map _ =>
      flatten fuel id 0 []
      entriesOf id
    | .seq items => do
      let parts ← mergeSources fuel items
      pure (parts.reverse.foldl (· ++ ·) [])

def mergeSources (fuel : Nat) (items : List Nat) : Fill (List (List (Nat × Nat))) := do
  match fuel with
  | 0 => throw .tooDeep
  | fuel + 1 =>
    match items with
    | [] => pure []
    | id :: rest =>
      let _ ← entriesOf id
      flatten fuel id 0 []
      let entries ← entriesOf id
      pure (entries :: (← mergeSources fuel rest))

end

/-- The text of a scalar; a mapping lends that of its `=` key. -/
def scalarText (fuel id : Nat) : Fill String := do
  match fuel with
  | 0 => throw .tooDeep
  | fuel + 1 =>
    match (← nodeAt id).content with
    | .scalar text => pure text
    | .seq _ => malformed
    | .map entries => do
      let nodes := (← get).nodes
      match entries.find? fun e => nodes[e.1]?.any (·.tag = .default) with
      | some (_, v) => scalarText fuel v
      | none => malformed

def visit (id : Nat) : Fill Unit := do
  let s ← get
  match s.cells[id]? with
  | some none =>
    let n ← nodeAt id
    match n.tag with
    | .seq | .orderedMap | .pairs | .map | .set =>
      setCell id (.list [])
      modify fun s => { s with waiting := id :: s.waiting }
    | .merge | .default | .unknown => malformed
    | tag =>
      let text ← scalarText (s.nodes.size + 1) id
      match tag, n.content with
      | .timestamp, .map _ => throw (.scalar .timestampOfMapping)
      | _, _ =>
        match atomOf tag text with
        | .ok a => setCell id (.atom a)
        | .error e => throw e
  | _ => pure ()

def keyAtom (id : Nat) : Fill Atom := do
  visit id
  match (← get).cells[id]? with
  | some (some (.atom a)) => pure a
  | _ => malformed

def insertEntry (key : Atom) (id : Nat) : List (Atom × Nat) → List (Atom × Nat)
  | [] => [(key, id)]
  | (k, v) :: rest =>
    if k.sameKey key then (k, id) :: rest else (k, v) :: insertEntry key id rest

def dictEntries : List (Nat × Nat) → List (Atom × Nat) → Fill (List (Atom × Nat))
  | [], acc => pure acc
  | (k, v) :: rest, acc => do
    let key ← keyAtom k
    visit v
    dictEntries rest (insertEntry key v acc)

def pairEntries : List Nat → Fill (List (Nat × Nat))
  | [] => pure []
  | id :: rest => do
    match ← entriesOf id with
    | [(k, v)] =>
      visit k
      visit v
      pure ((k, v) :: (← pairEntries rest))
    | _ => malformed

def visitAll : List Nat → Fill Unit
  | [] => pure ()
  | id :: rest => do
    visit id
    visitAll rest

def fillCell (id : Nat) : Fill Unit := do
  let n ← nodeAt id
  match n.tag, n.content with
  | .seq, .seq items =>
    visitAll items
    setCell id (.list items)
  | .orderedMap, .seq items => do
    let entries ← pairEntries items
    setCell id (.pairs entries)
  | .pairs, .seq items => do
    let entries ← pairEntries items
    setCell id (.pairs entries)
  | .map, .map _ => do
    flatten stepLimit id 0 []
    let entries ← dictEntries (← entriesOf id) []
    setCell id (.dict entries)
  | .set, .map _ => do
    flatten stepLimit id 0 []
    let entries ← dictEntries (← entriesOf id) []
    setCell id (.set (entries.map (·.1)))
  | _, _ => malformed

def fillAll : List Nat → Fill Unit
  | [] => pure ()
  | id :: rest => do
    fillCell id
    fillAll rest

def fillWaiting : Nat → Fill Unit
  | 0 => pure ()
  | fuel + 1 => do
    match (← get).waiting with
    | [] => pure ()
    | ids =>
      modify fun s => { s with waiting := [] }
      fillAll ids.reverse
      fillWaiting fuel

end Fill

def Heap.ofGraph (g : Graph) : Except Fault Heap :=
  let start : Filling := ⟨g.nodes, Array.replicate g.nodes.size none, []⟩
  let work : Fill Unit := do
    Fill.visit g.root
    Fill.fillWaiting (g.nodes.size + 1)
  match StateT.run work start with
  | .error e => .error e
  | .ok (_, s) => .ok ⟨s.cells, g.root⟩

/-- The plain value of a cell. Collections more than `depth` deep are replaced by `bottom`. -/
def Heap.valueAt (h : Heap) (bottom : Except Fault Value) : Nat → Nat → Except Fault Value
  | depth, id =>
    match h.cells[id]? with
    | some (some (.atom a)) => .ok (.scalar (.atom a))
    | some (some (.set members)) => .ok (.scalar (.set members))
    | some (some (.list items)) =>
      match depth with
      | 0 => bottom
      | depth + 1 => do
        let vs ← items.mapM (h.valueAt bottom depth)
        .ok (.list vs)
    | some (some (.pairs entries)) =>
      match depth with
      | 0 => bottom
      | depth + 1 => do
        let vs ← entries.mapM fun (k, v) => do
          let key ← h.valueAt bottom depth k
          let value ← h.valueAt bottom depth v
          .ok (Value.list [key, value])
        .ok (.list vs)
    | some (some (.dict entries)) =>
      match depth with
      | 0 => bottom
      | depth + 1 => do
        let vs ← entries.mapM fun (k, v) => do
          let value ← h.valueAt bottom depth v
          .ok (k, value)
        .ok (.dict vs)
    | _ => .ok Value.null

def Heap.ofText (text : String) : Except Fault (Option Heap) :=
  match Graph.ofText text.toList with
  | .error e => .error e
  | .ok none => .ok none
  | .ok (some g) => (Heap.ofGraph g).map some

/-- The whole document as a plain value; one that holds itself has none. -/
def read (text : String) : Except Fault Value :=
  match Heap.ofText text with
  | .error e => .error e
  | .ok none => .ok Value.null
  | .ok (some h) => h.valueAt (.error .tooDeep) depthLimit h.root

def readUpTo (depth : Nat) (text : String) : Except Fault Value :=
  match Heap.ofText text with
  | .error e => .error e
  | .ok none => .ok Value.null
  | .ok (some h) => h.valueAt (.ok Value.null) depth h.root

end SchemaChecks.Yaml
