import SchemaChecks.Yaml.Tag
import SchemaChecks.Yaml.TokenStream

/-!
The nodes of a YAML document. An alias stands for the node that its anchor marks, so the nodes form
a graph, which may have cycles. Nodes are numbered in the order in which they open.
-/

namespace SchemaChecks.Yaml

inductive Content where
  | scalar (text : String)
  | seq (items : List Nat)
  | map (entries : List (Nat × Nat))
  deriving DecidableEq, Repr

structure Node where
  tag : Tag
  content : Content
  deriving DecidableEq, Repr

structure Graph where
  nodes : Array Node
  root : Nat

def depthLimit : Nat := 480

structure Composer where
  tokens : List Token
  /-- What waits after the last token. -/
  fault : Option Fault
  nodes : Array Node
  anchors : List (String × Nat)
  handles : List (String × String)

abbrev Compose := StateT Composer (Except Fault)

namespace Compose

def malformed {α : Type} : Compose α := throw .malformed

/-- The next token; past the last one waits the stream's fault. -/
def peek : Compose Token := do
  let s ← get
  match s.tokens with
  | t :: _ => pure t
  | [] => throw (s.fault.getD .malformed)

def skip : Compose Unit := modify fun s => { s with tokens := s.tokens.drop 1 }

def accept (t : Token) : Compose Bool := do
  if (← peek) = t then
    skip
    pure true
  else pure false

def addNode (n : Node) : Compose Nat := do
  let s ← get
  set { s with nodes := s.nodes.push n }
  pure s.nodes.size

def setContent (id : Nat) (c : Content) : Compose Unit :=
  modify fun s => { s with nodes := s.nodes.modify id fun n => { n with content := c } }

def bind (anchor : Option String) (id : Nat) : Compose Unit :=
  match anchor with
  | none => pure ()
  | some a => modify fun s => { s with anchors := (a, id) :: s.anchors }

def emptyNode : Compose Nat := addNode ⟨.null, .scalar ""⟩

def properties : Compose (Option String × Option (Option String × String)) := do
  match ← peek with
  | .anchor a =>
    skip
    match ← peek with
    | .tag handle suffix =>
      skip
      pure (some a, some (handle, suffix))
    | _ => pure (some a, none)
  | .tag handle suffix =>
    skip
    match ← peek with
    | .anchor a =>
      skip
      pure (some a, some (handle, suffix))
    | _ => pure (none, some (handle, suffix))
  | _ => pure (none, none)

/-- A node's tag as written: none, the non-specific `!`, or a full name. -/
inductive Written where
  | none
  | open
  | name (s : String)
  deriving DecidableEq

def writtenTag : Option (Option String × String) → Compose Written
  | .none => pure .none
  | some (.none, "!") => pure .open
  | some (.none, name) => pure (.name name)
  | some (some handle, suffix) => do
    match (← get).handles.lookup handle with
    | some expansion =>
      pure (if expansion ++ suffix = "!" then .open else .name (expansion ++ suffix))
    | .none => malformed

def collectionTag (kind : Tag) : Written → Tag
  | .name n => .ofName n
  | _ => kind

/-- A plain scalar without a tag, and every scalar tagged `!`, has the tag of its spelling. -/
def scalarTag (text : String) (plain : Bool) : Written → Tag
  | .none => if plain then .ofSpelling text else .str
  | .open => .ofSpelling text
  | .name n => .ofName n

def checkAnchor (anchor : Option String) : Compose Unit := do
  match anchor with
  | none => pure ()
  | some a => if ((← get).anchors.lookup a).isSome then malformed else pure ()

def collection (anchor : Option String) (tag : Tag) (members : Compose Content) : Compose Nat := do
  let id ← addNode ⟨tag, .seq []⟩
  bind anchor id
  let content ← members
  setContent id content
  pure id

mutual

/-- One node. Block collections are allowed in a block only; a sequence without an indentation of
its own is allowed as the value of a block mapping. `depth` collections may still open. -/
def node (fuel depth : Nat) (block indentless : Bool) : Compose Nat := do
  match fuel with
  | 0 => throw .tooDeep
  | fuel + 1 =>
    match ← peek with
    | .alias name =>
      skip
      match (← get).anchors.lookup name with
      | some id => pure id
      | none => malformed
    | _ =>
      let (anchor, tag) ← properties
      let written ← writtenTag tag
      let t ← peek
      let open_ (kind : Tag) (members : Nat → Compose Content) : Compose Nat := do
        checkAnchor anchor
        match depth with
        | 0 => throw .tooDeep
        | depth + 1 => collection anchor (collectionTag kind written) (members depth)
      match t with
      | .scalar text plain =>
        skip
        checkAnchor anchor
        let id ← addNode ⟨scalarTag text plain written, .scalar text⟩
        bind anchor id
        pure id
      | .flowSequenceStart => do
        skip
        open_ .seq fun depth => do pure (.seq (← flowItems fuel depth true))
      | .flowMappingStart => do
        skip
        open_ .map fun depth => do pure (.map (← flowEntries fuel depth true))
      | .blockSequenceStart =>
        if block then do
          skip
          open_ .seq fun depth => do pure (.seq (← blockItems fuel depth))
        else emptyOrMalformed anchor written
      | .blockMappingStart =>
        if block then do
          skip
          open_ .map fun depth => do pure (.map (← blockEntries fuel depth))
        else emptyOrMalformed anchor written
      | .blockEntry =>
        if indentless then open_ .seq fun depth => do pure (.seq (← indentlessItems fuel depth))
        else emptyOrMalformed anchor written
      | _ => emptyOrMalformed anchor written

def emptyOrMalformed (anchor : Option String) (written : Written) : Compose Nat := do
  if anchor.isNone && written = .none then malformed
  else
    checkAnchor anchor
    let tag := match written with
      | .name n => Tag.ofName n
      | _ => .null
    let id ← addNode ⟨tag, .scalar ""⟩
    bind anchor id
    pure id

def blockItems (fuel depth : Nat) : Compose (List Nat) := do
  match fuel with
  | 0 => throw .tooDeep
  | fuel + 1 =>
    match ← peek with
    | .blockEntry =>
      skip
      let t ← peek
      let id ← if t = .blockEntry || t = .blockEnd then emptyNode else node fuel depth true false
      pure (id :: (← blockItems fuel depth))
    | .blockEnd =>
      skip
      pure []
    | _ => malformed

/-- The entries of a sequence that ends with the first token that is no entry. -/
def indentlessItems (fuel depth : Nat) : Compose (List Nat) := do
  match fuel with
  | 0 => throw .tooDeep
  | fuel + 1 =>
    if ← accept .blockEntry then
      let t ← peek
      let id ←
        if t = .blockEntry || t = .key || t = .value || t = .blockEnd then emptyNode
        else node fuel depth true false
      pure (id :: (← indentlessItems fuel depth))
    else pure []

def blockPart (fuel depth : Nat) : Compose Nat := do
  match fuel with
  | 0 => throw .tooDeep
  | fuel + 1 =>
    let t ← peek
    if t = .key || t = .value || t = .blockEnd then emptyNode else node fuel depth true true

def blockEntries (fuel depth : Nat) : Compose (List (Nat × Nat)) := do
  match fuel with
  | 0 => throw .tooDeep
  | fuel + 1 =>
    match ← peek with
    | .key =>
      skip
      let k ← blockPart fuel depth
      let v ← if ← accept .value then blockPart fuel depth else emptyNode
      pure ((k, v) :: (← blockEntries fuel depth))
    | .blockEnd =>
      skip
      pure []
    | _ => malformed

def comma (first : Bool) : Compose Unit := do
  if first then pure ()
  else if ← accept .flowEntry then pure ()
  else malformed

/-- The members of a flow sequence; a key makes a mapping of one entry. -/
def flowItems (fuel depth : Nat) (first : Bool) : Compose (List Nat) := do
  match fuel with
  | 0 => throw .tooDeep
  | fuel + 1 =>
    if ← accept .flowSequenceEnd then pure []
    else
      comma first
      match ← peek with
      | .key =>
        let id ← match depth with
          | 0 => throw .tooDeep
          | depth + 1 => collection none .map do
            skip
            let t ← peek
            let k ←
              if t = .value || t = .flowEntry || t = .flowSequenceEnd then emptyNode
              else node fuel depth false false
            let v ←
              if ← accept .value then
                let t ← peek
                if t = .flowEntry || t = .flowSequenceEnd then emptyNode
                else node fuel depth false false
              else emptyNode
            pure (.map [(k, v)])
        pure (id :: (← flowItems fuel depth false))
      | .flowSequenceEnd =>
        skip
        pure []
      | _ =>
        let id ← node fuel depth false false
        pure (id :: (← flowItems fuel depth false))

/-- The entries of a flow mapping; a node without a key indicator has an empty value. -/
def flowEntries (fuel depth : Nat) (first : Bool) : Compose (List (Nat × Nat)) := do
  match fuel with
  | 0 => throw .tooDeep
  | fuel + 1 =>
    if ← accept .flowMappingEnd then pure []
    else
      comma first
      match ← peek with
      | .key =>
        skip
        let t ← peek
        let k ←
          if t = .value || t = .flowEntry || t = .flowMappingEnd then emptyNode
          else node fuel depth false false
        let v ←
          if ← accept .value then
            let t ← peek
            if t = .flowEntry || t = .flowMappingEnd then emptyNode
            else node fuel depth false false
          else emptyNode
        pure ((k, v) :: (← flowEntries fuel depth false))
      | .flowMappingEnd =>
        skip
        pure []
      | _ =>
        let k ← node fuel depth false false
        let v ← emptyNode
        pure ((k, v) :: (← flowEntries fuel depth false))

end

def standardHandles : List (String × String) := [("!", "!"), ("!!", "tag:yaml.org,2002:")]

/-- Directives before a document: one version, of the first generation, and one expansion for each
handle. -/
def directives : Nat → Bool → List (String × String) → Compose (List (String × String))
  | 0, _, handles => pure handles
  | fuel + 1, versioned, handles => do
    match ← peek with
    | .directive d =>
      skip
      match d with
      | .version major _ =>
        if versioned || major ≠ 1 then malformed else directives fuel true handles
      | .tag handle expansion =>
        if (handles.lookup handle).isSome then malformed
        else directives fuel versioned ((handle, expansion) :: handles)
      | .other => directives fuel versioned handles
    | _ => pure handles

def documentStart : Compose Unit := do
  let n := (← get).tokens.length
  let handles ← directives (n + 1) false []
  let known := standardHandles.filter fun h => (handles.lookup h.1).isNone
  modify fun s => { s with handles := handles ++ known }
  if ← accept .documentStart then pure () else malformed

def skipEnds : Nat → Compose Unit
  | 0 => pure ()
  | fuel + 1 => do if ← accept .documentEnd then skipEnds fuel else pure ()

/-- The only document of a stream, `none` for a stream without one. -/
def document : Compose (Option Nat) := do
  let fuel := 4 * (← get).tokens.length + 8
  let t ← peek
  let root ← match t with
    | .streamEnd => return none
    | .directive _ | .documentStart => do
      documentStart
      let t ← peek
      match t with
      | .directive _ | .documentStart | .documentEnd | .streamEnd => emptyNode
      | _ => node fuel depthLimit true false
    | _ => node fuel depthLimit true false
  discard peek
  let _ ← accept .documentEnd
  skipEnds fuel
  match ← peek with
  | .streamEnd => pure (some root)
  | _ => do
    documentStart
    malformed

end Compose

def Graph.ofText (text : List Char) : Except Fault (Option Graph) :=
  let stream := TokenStream.ofText text
  let start : Composer :=
    { tokens := stream.tokens, fault := stream.fault, nodes := #[], anchors := []
      handles := Compose.standardHandles }
  match Compose.document.run start with
  | .error e => .error e
  | .ok (none, _) => .ok none
  | .ok (some root, s) => .ok (some ⟨s.nodes, root⟩)

end SchemaChecks.Yaml
