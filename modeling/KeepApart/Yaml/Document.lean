import KeepApart.Yaml.Node
import KeepApart.Yaml.Tagged

/-!
# The value of a settings file

Plain texts stand for what their form says, unless a tag says what they stand for; other texts are texts.
Of a name that occurs twice the later value counts. A mapping may take over the fields of others, which
count less than its own. A list or mapping carries the number of its node as its mark.

Fuel bounds the depth and is taken from the number of nodes, none of which lies within itself twice.
-/

namespace KeepApart.Yaml

namespace Document

variable (d : Document)

def node (id : Nat) : Node :=
  (d.nodes[id]?).getD .missing

def isText (tag : String) (plainForm : String) : Node → Bool
  | .text none isPlain codes => isPlain && codes == plainForm.toList.map Char.toNat
  | .text (some t) _ _ => t == tag
  | _ => false

/-- Is this the name under which a mapping takes over fields? -/
def isMerge (n : Node) : Bool :=
  isText (commonTag "merge") "<<" n

/-- Is this the name under which a mapping has a value as a scalar? -/
def isDefault (n : Node) : Bool :=
  isText (commonTag "value") "=" n

def scalar : (fuel : Nat) → Nat → Except Trouble (List Nat)
  | 0, _ => .error (.fault .nested)
  | fuel + 1, id =>
    match d.node id with
    | .text _ _ codes => .ok codes
    | .list .. => .error .malformed
    | .mapping _ pairs =>
      match pairs.find? fun p => isDefault (d.node p.1) with
      | some p => scalar fuel p.2
      | none => .error .malformed

/-- The names and values that a mapping takes over, and then its own. From a list of mappings the first
counts most. A mapping that is to take over its own fields has them already. -/
def pairs : (fuel : Nat) → (within : List Nat) → Nat → Except Trouble (List (Nat × Nat))
  | 0, _, _ => .error (.fault .nested)
  | fuel + 1, within, id =>
    match d.node id with
    | .mapping _ ps => do
      let (merges, own) := ps.partition fun p => isMerge (d.node p.1)
      if within.contains id then return own
      let within := id :: within
      let taken ← merges.mapM fun p =>
        match d.node p.2 with
        | .list _ items => do return (← items.mapM (pairs fuel within)).reverse.flatten
        | _ => pairs fuel within p.2
      return taken.flatten ++ own
    | _ => .error .malformed

def onlyPair (id : Nat) : Except Trouble (Nat × Nat) :=
  match d.node id with
  | .mapping _ [p] => .ok p
  | _ => .error .malformed

/-- The value of a node within others. -/
def valueWithin : (fuel : Nat) → (within : List Nat) → Nat → Except Trouble Value
  | 0, _, _ => .error (.fault .nested)
  | fuel + 1, within, id => do
    if within.contains id then return .again id
    let part := valueWithin fuel (id :: within)
    let name (k : Nat) : Except Trouble Value := do
      if isDefault (d.node k) then return .ofCodes (← d.scalar fuel k)
      let v ← part k
      if v.isName then return v else throw .malformed
    let fields : Except Trouble (List (Value × Value)) := do
      let pairs ← d.pairs (d.nodes.size + 1) [] id
      return Value.collect (← pairs.mapM fun (k, v) => do return (← name k, ← part v))
    match d.node id with
    | .text none true codes => plain (codes.map Char.ofNat)
    | .text none false codes => return .ofCodes codes
    | .text (some tag) _ codes => tagged tag codes
    | .list tag items =>
      let tag := tag.getD (commonTag "seq")
      if tag == commonTag "seq" then return .list (some id) (← items.mapM part)
      else if tag == commonTag "omap" || tag == commonTag "pairs" then
        return .list (some id) (← items.mapM fun item => do
          let (k, v) ← d.onlyPair item
          return .pair (← part k) (← part v))
      else throw .malformed
    | .mapping tag _ =>
      let tag := tag.getD (commonTag "map")
      if tag == commonTag "map" then return .mapping (some id) (← fields)
      else if tag == commonTag "set" then return .set ((← fields).map Prod.fst)
      else if tag == commonTag "timestamp" then throw (.fault .wrongType)
      else tagged tag (← d.scalar fuel id)

def value : Except Trouble Value :=
  d.valueWithin (d.nodes.size + 1) [] d.root

end Document

def parse (s : String) : Except Trouble Value := do
  (← Document.ofText s).value

end KeepApart.Yaml
