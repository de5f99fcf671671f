import KeepApart.Yaml.Token.Lexer

/-!
# The nodes of a settings file

A node is a text, a list or a mapping, and may be tagged with the kind of value that it stands for. Nodes are
numbered in the order in which they begin. One with an anchor can be repeated by an alias further down,
even within itself. A file holds one document at most.

Fuel bounds the number of steps and is computed from the number of tokens.
-/

namespace KeepApart.Yaml

/-- A node, with the numbers of the nodes in it. A plain text without a tag stands for what its form
says. -/
inductive Node where
  | text (tag : Option String) (isPlain : Bool) (codes : List Nat)
  | list (tag : Option String) (items : List Nat)
  | mapping (tag : Option String) (pairs : List (Nat × Nat))
  deriving Inhabited

def Node.missing : Node :=
  .text none true []

/-- The tokens to come, the meanings of the handles of tags, the nodes so far, and the anchors seen. -/
structure Feed where
  tokens : List Token
  handles : List (List Char × List Char) := []
  nodes : Array Node := #[]
  anchors : List (List Char × Nat) := []
  /-- How many collections are open. -/
  depth : Nat := 0

abbrev Reader := StateT Feed (Except Trouble)

namespace Reader

def fail {α : Type} : Reader α :=
  throw .malformed

def peek? : Reader (Option Token) := do
  return (← get).tokens.head?

def skip : Reader Unit :=
  modify fun f => { f with tokens := f.tokens.drop 1 }

def comes (kind : Token → Bool) : Reader Bool := do
  return (← peek?).any kind

def skipIf (kind : Token → Bool) : Reader Bool := do
  if ← comes kind then
    skip
    return true
  else return false

/-! ## Anchors and tags -/

def knownHandles : List (List Char × List Char) :=
  [(['!'], ['!']), (['!', '!'], "tag:yaml.org,2002:".toList)]

def tagName (t : Tag) : Reader (Option String) := do
  match t.handle with
  | none => return if t.suffix == ['!'] then none else some (String.ofList t.suffix)
  | some name =>
    match ((← get).handles ++ knownHandles).find? fun h => h.1 == name with
    | some h => return some (String.ofList (h.2 ++ t.suffix))
    | none => fail

/-- What stands in front of a node: its anchor and its tag, in either order. -/
structure Label where
  anchor : Option (List Char) := none
  tag : Option Tag := none

def label : Reader Label := do
  match ← peek? with
  | some (.anchor name) =>
    skip
    match ← peek? with
    | some (.tag t) =>
      skip
      return ⟨some name, some t⟩
    | _ => return ⟨some name, none⟩
  | some (.tag t) =>
    skip
    match ← peek? with
    | some (.anchor name) =>
      skip
      return ⟨some name, some t⟩
    | _ => return ⟨none, some t⟩
  | _ => return {}

def announce (name : List Char) (id : Nat) : Reader Unit := do
  let f ← get
  if f.anchors.any fun a => a.1 == name then fail
  else set { f with anchors := (name, id) :: f.anchors }

/-- The node of an alias, which has begun at least. -/
def aliased (name : List Char) : Reader Nat := do
  match (← get).anchors.find? fun a => a.1 == name with
  | some (_, id) => return id
  | none => fail

def begin : Reader Nat :=
  modifyGet fun f => (f.nodes.size, { f with nodes := f.nodes.push .missing })

def finish (id : Nat) (n : Node) : Reader Unit :=
  modify fun f => { f with nodes := f.nodes.setIfInBounds id n }

def add (n : Node) : Reader Nat := do
  let id ← begin
  finish id n
  return id

def depthLimit : Nat := 485

def nested {α : Type} (r : Reader α) : Reader α := do
  let depth := (← get).depth
  if depthLimit ≤ depth then throw (.fault .nested)
  skip
  modify fun f => { f with depth := depth + 1 }
  let a ← r
  modify fun f => { f with depth := depth }
  return a

/-! ## Kinds of tokens -/

def isValue : Token → Bool
  | .value => true
  | _ => false

def isComma : Token → Bool
  | .comma => true
  | _ => false

def isHyphen : Token → Bool
  | .hyphen => true
  | _ => false

def isKey : Token → Bool
  | .key => true
  | _ => false

def isBlockEnd : Token → Bool
  | .blockEnd => true
  | _ => false

def isBracketEnd : Token → Bool
  | .bracketEnd => true
  | _ => false

def isBraceEnd : Token → Bool
  | .braceEnd => true
  | _ => false

def isDocumentEnd : Token → Bool
  | .documentEnd => true
  | _ => false

def endsItem (t : Token) : Bool :=
  isHyphen t || isBlockEnd t

def endsPart (t : Token) : Bool :=
  isKey t || isValue t || isBlockEnd t

def endsContent : Token → Bool
  | .directive | .version _ | .handle .. | .documentStart | .documentEnd => true
  | _ => false

/-! ## Nodes -/

mutual

/-- Reads a node. Blocks are allowed in a block only; a list is bare when it is not indented further than
the mapping around it. -/
def node : (fuel : Nat) → (inBlock mayBeBare : Bool) → Reader Nat
  | 0, _, _ => fail
  | fuel + 1, inBlock, mayBeBare => do
    match ← peek? with
    | some (.alias name) =>
      skip
      aliased name
    | _ =>
      let l ← label
      let tag ← match l.tag with
        | some t => tagName t
        | none => pure none
      let id ← begin
      if let some name := l.anchor then announce name id
      let n ← match ← peek? with
        | some (.text isPlain codes) =>
          skip
          pure (Node.text tag (if l.tag.isNone then isPlain else tag.isNone) codes)
        | some .bracket => pure (.list tag (← nested (flowItems fuel true)))
        | some .brace => pure (.mapping tag (← nested (flowPairs fuel true)))
        | some .hyphen => if mayBeBare then pure (.list tag (← bareItems fuel)) else fail
        | some .listStart =>
          if inBlock then pure (.list tag (← nested (blockItems fuel))) else fail
        | some .mappingStart =>
          if inBlock then pure (.mapping tag (← nested (blockPairs fuel))) else fail
        | _ => if l.anchor.isNone && l.tag.isNone then fail else pure (.text tag tag.isNone [])
      finish id n
      return id

def nodeOr : (fuel : Nat) → (ends : Token → Bool) → (inBlock mayBeBare : Bool) → Reader Nat
  | 0, _, _, _ => fail
  | fuel + 1, ends, inBlock, mayBeBare => do
    if ← comes ends then add .missing else node fuel inBlock mayBeBare

def valueOr : (fuel : Nat) → (ends : Token → Bool) → (inBlock : Bool) → Reader Nat
  | 0, _, _ => fail
  | fuel + 1, ends, inBlock => do
    if ← skipIf isValue then nodeOr fuel ends inBlock inBlock else add .missing

def blockItems : (fuel : Nat) → Reader (List Nat)
  | 0 => fail
  | fuel + 1 => do
    if ← skipIf isHyphen then
      let n ← nodeOr fuel endsItem true false
      return n :: (← blockItems fuel)
    else if ← skipIf isBlockEnd then return []
    else fail

def bareItems : (fuel : Nat) → Reader (List Nat)
  | 0 => fail
  | fuel + 1 => do
    if ← skipIf isHyphen then
      let n ← nodeOr fuel (fun t => isHyphen t || endsPart t) true false
      return n :: (← bareItems fuel)
    else return []

def blockPairs : (fuel : Nat) → Reader (List (Nat × Nat))
  | 0 => fail
  | fuel + 1 => do
    if ← skipIf isKey then
      let k ← nodeOr fuel endsPart true true
      let v ← valueOr fuel endsPart true
      return (k, v) :: (← blockPairs fuel)
    else if ← skipIf isBlockEnd then return []
    else fail

/-- Reads the items of a list in brackets. A name and its value may stand as an item. -/
def flowItems : (fuel : Nat) → (isFirst : Bool) → Reader (List Nat)
  | 0, _ => fail
  | fuel + 1, isFirst => do
    let ends (t : Token) : Bool := isComma t || isBracketEnd t
    if ← skipIf isBracketEnd then return []
    if !isFirst then
      if !(← skipIf isComma) then fail
    if ← skipIf isKey then
      let k ← nodeOr fuel (fun t => isValue t || ends t) false false
      let v ← valueOr fuel ends false
      let id ← add (.mapping none [(k, v)])
      return id :: (← flowItems fuel false)
    else if ← skipIf isBracketEnd then return []
    else
      let n ← node fuel false false
      return n :: (← flowItems fuel false)

/-- Reads the names and values of a mapping in braces. A name alone has no value. -/
def flowPairs : (fuel : Nat) → (isFirst : Bool) → Reader (List (Nat × Nat))
  | 0, _ => fail
  | fuel + 1, isFirst => do
    let ends (t : Token) : Bool := isComma t || isBraceEnd t
    if ← skipIf isBraceEnd then return []
    if !isFirst then
      if !(← skipIf isComma) then fail
    if ← skipIf isKey then
      let k ← nodeOr fuel (fun t => isValue t || ends t) false false
      let v ← valueOr fuel ends false
      return (k, v) :: (← flowPairs fuel false)
    else if ← skipIf isBraceEnd then return []
    else
      let k ← node fuel false false
      let v ← add .missing
      return (k, v) :: (← flowPairs fuel false)

end

/-! ## Documents -/

def knownVersion : Nat := 1

/-- Reads the directives in front of a document: one version at most, and each handle once. -/
def directives : (fuel : Nat) → (hasVersion : Bool) → Reader Unit
  | 0, _ => fail
  | fuel + 1, hasVersion => do
    match ← peek? with
    | some .directive =>
      skip
      directives fuel hasVersion
    | some (.version major) =>
      if hasVersion || major != knownVersion then fail
      skip
      directives fuel true
    | some (.handle name meaning) =>
      let f ← get
      if f.handles.any fun h => h.1 == name then fail
      set { f with tokens := f.tokens.drop 1, handles := (name, meaning) :: f.handles }
      directives fuel hasVersion
    | some .documentStart => skip
    | _ => fail

def close : Reader Unit := do
  if !(← get).tokens.all isDocumentEnd then fail

def document (fuel : Nat) : Reader Nat := do
  match ← peek? with
  | none => add .missing
  | some first =>
    let n ←
      if endsContent first && !isDocumentEnd first then
        directives fuel false
        match ← peek? with
        | none => add .missing
        | some t => if endsContent t then add .missing else node fuel true false
      else node fuel true false
    close
    return n

end Reader

/-- The nodes of a file, with the number of the one that holds all others. -/
structure Document where
  nodes : Array Node
  root : Nat

def Document.ofText (s : String) : Except Trouble Document := do
  let tokens ← tokens s
  let (root, feed) ← (Reader.document (4 * tokens.length + 4)).run { tokens }
  return ⟨feed.nodes, root⟩

end KeepApart.Yaml
