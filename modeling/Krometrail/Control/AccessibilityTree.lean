import Krometrail.Core.Error
import Krometrail.Core.Values
import Krometrail.Lib.Results

/-!
# Accessibility trees

The decoder of the accessibility tree of a page.  It walks the tree from its roots, skips ignored and presentational
nodes, and gives every other node an identity: a backend node that has one keeps it, any other node draws the next one.
An actionable node carries a reference to its identity.
-/

namespace Krometrail.Control

open Results

def maxSnapshotNodes : Nat := 50000

def maxSnapshotTextBytes : Nat := 2 ^ 23

def maxAccessiblePropertyCount : Nat := 32

def accessibleProperties : List String :=
  ["disabled", "editable", "expanded", "focused", "focusable", "haspopup", "invalid", "level", "multiline",
    "multiselectable", "orientation", "pressed", "readonly", "required", "selected", "checked"]

def actionableRoles : List String :=
  ["button", "checkbox", "combobox", "link", "listbox", "menuitem", "menuitemcheckbox", "menuitemradio", "option",
    "radio", "scrollbar", "searchbox", "slider", "spinbutton", "switch", "tab", "textbox", "treeitem"]

def actionableSignals : List String := ["focusable", "editable", "clickable"]

def structuralWebAreaRoles : List String := ["rootwebarea", "webarea", "document"]

structure SnapshotGeneration where
  value : Nat
  value_ne_zero : value ≠ 0
  deriving DecidableEq

def SnapshotGeneration.new (value : Nat) : Result SnapshotGeneration :=
  if h : value ≠ 0 then .ok ⟨value, h⟩ else .error (invalid "snapshot generation must be non-zero")

structure SnapshotNodeId where
  value : Nat
  value_ne_zero : value ≠ 0
  deriving DecidableEq

def SnapshotNodeId.new (value : Nat) : Result SnapshotNodeId :=
  if h : value ≠ 0 then .ok ⟨value, h⟩ else .error (invalid "snapshot node id must be non-zero")

structure NodeReference where
  targetId : TargetId
  generation : SnapshotGeneration
  nodeId : SnapshotNodeId
  deriving DecidableEq

/-- A finite number is the rational that it stands for. -/
inductive AccessibleValue
  | boolean (value : Bool)
  | number (value : ℚ)
  | text (value : String)
  deriving DecidableEq

structure AccessibleProperty where
  name : String
  value : AccessibleValue
  deriving DecidableEq

structure SnapshotNode where
  id : SnapshotNodeId
  parent : Option SnapshotNodeId
  depth : Nat
  role : String
  name : Option String
  value : Option String
  description : Option String
  properties : List AccessibleProperty
  actionable : Bool
  reference : Option NodeReference
  deriving DecidableEq

/-- `serde_json::Value`, as far as the decoder tells its forms apart. -/
inductive Value
  | bool (value : Bool)
  | number (value : ℚ)
  | string (value : String)
  | other

structure AxValueWire where
  value : Option Value

structure AxPropertyWire where
  name : Option String
  value : Option AxValueWire

structure AxNodeWire where
  nodeId : Option String
  frameId : Option String
  ignored : Bool
  role : Option AxValueWire
  name : Option AxValueWire
  value : Option AxValueWire
  description : Option AxValueWire
  backendDomNodeId : Option Int
  childIds : List String
  properties : List AxPropertyWire

/-- The nodes may be missing, null or a list, in the response itself or in its result. -/
structure AxTreeResponse where
  nodes : Option (Option (List AxNodeWire))
  result : Option (Option (Option (List AxNodeWire)))

/-- The context that names the target is left out. -/
def operationError (code : ErrorCode) (message : String) : KrometrailError :=
  let error := (KrometrailError.new code message).withRetry code.defaultRetry
  match code.defaultRecovery with
  | some recovery => error.withRecovery recovery
  | none =>
    if code = .browserDisconnected then
      (error.withRetry .afterRecovery).withRecovery "wait for ready status, then repeat the read-only operation"
    else error

def malformed (message : String) : KrometrailError := operationError .pageObservationFailed message

def stale (message : String) : KrometrailError :=
  (operationError .staleReference message).withRecovery "request a fresh snapshot and retry once with the new reference"

def asBool : Option Value → Option Bool
  | some (.bool value) => some value
  | _ => none

def asString : Option Value → Option String
  | some (.string value) => some value
  | _ => none

def axString (value : Option AxValueWire) : Option String := asString (value.bind AxValueWire.value)

def axOwned (value : Option AxValueWire) : Option String := (axString value).filter (· ≠ "")

def textBytes (text : Option String) : Nat := text.elim 0 String.utf8ByteSize

/-- What `decode_properties` has gathered. -/
structure DecodedProperties where
  properties : List AccessibleProperty
  bytes : Nat
  disabled : Bool
  hidden : Bool
  signal : Bool

def accessibleValue : Option Value → Option AccessibleValue
  | some (.bool value) => some (.boolean value)
  | some (.number value) => some (.number value)
  | some (.string value) => some (.text value)
  | _ => none

def AccessibleValue.bytes : AccessibleValue → Nat
  | .text value => value.utf8ByteSize
  | _ => 0

def DecodedProperties.add (d : DecodedProperties) (property : AxPropertyWire) : DecodedProperties :=
  match property.name with
  | none => d
  | some name =>
    let value := property.value.bind AxValueWire.value
    let flagged := asBool value = some true
    let d := { d with
      disabled := d.disabled || (name = "disabled" && flagged)
      hidden := d.hidden || (name = "hidden" && flagged)
      signal := d.signal || (actionableSignals.contains name && flagged) }
    if !accessibleProperties.contains name || d.properties.length ≥ maxAccessiblePropertyCount then d
    else
      match accessibleValue value with
      | none => d
      | some accessible =>
        { d with
          bytes := d.bytes + (name.utf8ByteSize + accessible.bytes)
          properties := d.properties ++ [⟨name, accessible⟩] }

def decodeProperties (properties : List AxPropertyWire) : DecodedProperties :=
  properties.foldl .add ⟨[], 0, false, false, false⟩

/-- The snapshot that the references of a decoded tree belong to. -/
structure Scope where
  targetId : TargetId
  generation : SnapshotGeneration

/-- The identities of the backend nodes, and the last one drawn. -/
structure Identities where
  nodeByBackend : Int → Option SnapshotNodeId
  nextNodeId : Nat

/-- `published` lists the references of `nodes`, each with the backend node that it was made for. -/
structure Decoder where
  nodes : List SnapshotNode
  bindings : SnapshotNodeId → Option Int
  textBytes : Nat
  omitted : Nat
  visited : Finset Nat
  identities : Identities
  seenBackends : Finset Int
  published : List (NodeReference × Int)

/-- The index of the last definition of a node identifier. -/
def byId (nodes : List AxNodeWire) (id : String) : Option Nat :=
  (nodes.zipIdx.filter fun entry => entry.1.nodeId = some id).getLast?.map Prod.snd

def canonicalIndex (nodes : List AxNodeWire) (index : Nat) : Nat :=
  ((nodes[index]?.bind AxNodeWire.nodeId).bind (byId nodes)).getD index

def Identities.draw (identities : Identities) : Result (SnapshotNodeId × Identities) := do
  if identities.nextNodeId + 1 < 2 ^ 32 then
    let id ← SnapshotNodeId.new (identities.nextNodeId + 1)
    return (id, { identities with nextNodeId := identities.nextNodeId + 1 })
  else .error (malformed "snapshot node identity space exhausted")

def Identities.identify (identities : Identities) : Option Int → Result (SnapshotNodeId × Identities)
  | none => identities.draw
  | some backend =>
    match identities.nodeByBackend backend with
    | some id => .ok (id, identities)
    | none => do
      let (id, identities) ← identities.draw
      return (id, { identities with nodeByBackend := Function.update identities.nodeByBackend backend (some id) })

def isActionable (node : AxNodeWire) (role : String) (properties : DecodedProperties) : Bool :=
  node.backendDomNodeId.isSome && !properties.disabled && !properties.hidden &&
    (actionableRoles.contains role ||
      (properties.signal && !structuralWebAreaRoles.any fun candidate =>
        candidate.toList.map Char.toLower = role.toList.map Char.toLower))

/-- A decoder after a node, with the parent and the depth of the children of the node. -/
structure Descent where
  decoder : Decoder
  parent : Option SnapshotNodeId
  depth : Nat

/-- What `visit` does with a node before it turns to the children. -/
def Decoder.enter (d : Decoder) (scope : Scope) (node : AxNodeWire) (parent : Option SnapshotNodeId) (depth : Nat) :
    Result Descent := do
  let role := (axString node.role).getD "generic"
  if node.ignored || role = "none" || role = "presentation" then return ⟨d, parent, depth⟩
  let name := axOwned node.name
  let value := axOwned node.value
  let description := axOwned node.description
  let properties := decodeProperties node.properties
  let bytes := role.utf8ByteSize + Control.textBytes name + Control.textBytes value + Control.textBytes description +
    properties.bytes
  if d.nodes.length ≥ maxSnapshotNodes || d.textBytes + bytes > maxSnapshotTextBytes then
    return ⟨{ d with omitted := min (d.omitted + 1) (2 ^ 32 - 1) }, parent, depth⟩
  let (nodeId, identities) ← d.identities.identify node.backendDomNodeId
  let actionable := isActionable node role properties
  let reference : NodeReference := ⟨scope.targetId, scope.generation, nodeId⟩
  let backend := node.backendDomNodeId.filter fun _ => actionable
  let snapshotNode : SnapshotNode :=
    { id := nodeId, parent, depth, role, name, value, description, properties := properties.properties, actionable,
      reference := if actionable then some reference else none }
  let d : Decoder :=
    { d with
      identities
      seenBackends := d.seenBackends ∪ node.backendDomNodeId.toFinset
      nodes := d.nodes ++ [snapshotNode]
      bindings := if backend.isSome then Function.update d.bindings nodeId backend else d.bindings
      textBytes := d.textBytes + bytes
      published := d.published ++ (backend.map fun backend => (reference, backend)).toList }
  if depth + 1 < 2 ^ 16 then return ⟨d, some nodeId, depth + 1⟩
  else .error (malformed "snapshot depth exceeds u16")

/-- `fuel` bounds the depth of the recursion; every turn of it visits another node. -/
def visit (scope : Scope) (nodes : List AxNodeWire) : Nat → Nat → Option SnapshotNodeId → Nat → Decoder → Result Decoder
  | 0, _, _, _, d => .ok d
  | fuel + 1, index, parent, depth, d =>
    let canonical := canonicalIndex nodes index
    match nodes[canonical]? with
    | none => .ok d
    | some node =>
      if canonical ∈ d.visited then .ok d
      else do
        let descent ← { d with visited := insert canonical d.visited }.enter scope node parent depth
        node.childIds.foldlM (fun d childId => do
          let child ← okOr (byId nodes childId) (malformed "accessibility child node is missing")
          visit scope nodes fuel child descent.parent descent.depth d) descent.decoder

/-- The nodes that no node has as a child, in the order of their first definitions. -/
def roots (nodes : List AxNodeWire) : List Nat :=
  ((nodes.filterMap AxNodeWire.nodeId).filter fun id => !(nodes.flatMap AxNodeWire.childIds).contains id).eraseDups.filterMap
    (byId nodes)

/-- The nodes with an identifier. -/
def identified (nodes : List AxNodeWire) : List Nat :=
  (nodes.zipIdx.filter fun entry => entry.1.nodeId.isSome).map Prod.snd

def rawNodes (response : AxTreeResponse) : Option (List AxNodeWire) :=
  (response.nodes.orElse fun _ => response.result.bind id).join

/-- The decoder keeps the identities of the backend nodes that it has seen.  A response that is no accessibility tree at
all is `none`. -/
def decodeAxTreeWithIds (response : Option AxTreeResponse) (scope : Scope) (identities : Identities)
    (expectedFrameId : String) : Result Decoder := do
  let response ← okOr response (malformed "accessibility tree response is malformed")
  let rawNodes ← okOr (rawNodes response) (malformed "accessibility tree response is malformed")
  let observedFrameIds := rawNodes.filterMap AxNodeWire.frameId
  let nodes := rawNodes.filter fun node => node.frameId.all (· = expectedFrameId)
  if !observedFrameIds.isEmpty && !observedFrameIds.contains expectedFrameId then
    .error (stale "accessibility tree belongs to a different document than the resolved frame")
  let start : Decoder := ⟨[], fun _ => none, 0, 0, ∅, identities, ∅, []⟩
  let d ← (roots nodes ++ identified nodes).foldlM (fun d index => visit scope nodes (nodes.length + 1) index none 0 d) start
  return { d with
    identities.nodeByBackend := fun backend => if backend ∈ d.seenBackends then d.identities.nodeByBackend backend else none }

end Krometrail.Control
