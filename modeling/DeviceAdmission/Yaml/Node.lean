import DeviceAdmission.Yaml.Token

/-!
# Nodes of a document

A document is one node: a scalar, an alias, a sequence of nodes or a mapping from nodes to nodes.
Missing nodes are empty scalars. Anchors are numbered by how many different names came before, and
an alias stands for the last node that got the number which its name had at that point.
-/

namespace DeviceAdmission.Yaml

structure Scalar where
  tag : Option Tag
  text : String
  style : ScalarStyle
  deriving DecidableEq, Repr

inductive Node where
  | scalar (s : Scalar)
  | aliasOf (number : Nat)
  | sequence (tag : Option Tag) (items : List Node)
  | mapping (tag : Option Tag) (pairs : List (Node × Node))
  deriving Repr, Inhabited

namespace Node

/-- The node that is not there. -/
def missing : Node := scalar ⟨none, "", .plain⟩

mutual

/-- The number of parts of a node: one of a scalar or an alias, and two of a collection beside those
of what it holds. -/
def size : Node → Nat
  | scalar _ => 1
  | aliasOf _ => 1
  | sequence _ items => sizeOfItems items + 2
  | mapping _ pairs => sizeOfPairs pairs + 2

def sizeOfItems : List Node → Nat
  | [] => 0
  | n :: rest => n.size + sizeOfItems rest

def sizeOfPairs : List (Node × Node) → Nat
  | [] => 0
  | (k, v) :: rest => k.size + v.size + sizeOfPairs rest

end

end Node

/-- The anchors of a document. -/
structure Anchors where
  /-- The number of each name. -/
  names : List (String × Nat)
  /-- Which anchor, in their order, each number belongs to, the last first. -/
  numbers : List (Nat × Nat)
  /-- The nodes of anchors. -/
  nodes : List (Nat × Node)

namespace Anchors

def empty : Anchors := ⟨[], [], []⟩

/-- The number of a name. -/
def number? (a : Anchors) (name : String) : Option Nat :=
  (a.names.find? (·.1 = name)).map (·.2)

/-- The node that an alias with the number stands for. -/
def node? (a : Anchors) (number : Nat) : Option Node := do
  let (_, anchor) ← a.numbers.find? (·.1 = number)
  let (_, node) ← a.nodes.find? (·.1 = anchor)
  pure node

/-- Give a number to a name. -/
def declare (a : Anchors) (name : String) : Anchors :=
  let number := a.names.length
  { a with
    names := (name, number) :: a.names.filter (·.1 ≠ name)
    numbers := (number, a.numbers.length) :: a.numbers }

end Anchors

/-- A document: its node and what its aliases stand for. -/
structure Document where
  node : Node
  anchors : Anchors

/-- The tokens that are left, and what was declared before them. -/
structure Reading where
  tokens : List Token
  anchors : Anchors
  /-- What the handles of tags stand for. -/
  handles : List (String × Tag)

/-- A step of reading nodes. -/
abbrev NodeReader := StateT Reading Option

namespace NodeReader

def peek : NodeReader (Option Token) := do
  pure (← get).tokens.head?

def next : NodeReader Unit :=
  modify fun r => { r with tokens := r.tokens.drop 1 }

/-- Whether the next token is one of these. -/
def atOneOf (ts : List Token) : NodeReader Bool := do
  pure ((← peek).any ts.contains)

/-- Pass over a token, if it is the next. -/
def passed (t : Token) : NodeReader Bool := do
  if ← atOneOf [t] then
    next
    pure true
  else pure false

/-- Pass over a token, which has to be the next. -/
def expect (t : Token) : NodeReader Unit := do
  if !(← passed t) then failure

/-! ## Properties -/

structure Properties where
  anchor : Option String
  tag : Option Tag
  deriving DecidableEq, Repr

/-- The tag that a handle and a suffix stand for. -/
def tagOf (handle : String) (suffix : Tag) : NodeReader Tag := do
  if handle.isEmpty then pure suffix
  else
    let (_, expansion) ← liftM ((← get).handles.find? (·.1 = handle))
    pure (expansion ++ suffix)

/-- Read an anchor, if there is one. -/
def anchorName : NodeReader (Option String) := do
  match ← peek with
  | some (.anchor name) =>
    next
    pure (some name)
  | _ => pure none

/-- Read a tag, if there is one. -/
def tagGiven : NodeReader (Option Tag) := do
  match ← peek with
  | some (.tag handle suffix) =>
    next
    pure (some (← tagOf handle suffix))
  | _ => pure none

/-- Read an anchor and a tag, in either order. -/
def properties : NodeReader Properties := do
  match ← anchorName with
  | some name => pure ⟨some name, ← tagGiven⟩
  | none =>
    match ← tagGiven with
    | some tag => pure ⟨← anchorName, some tag⟩
    | none => pure ⟨none, none⟩

/-- Read a node whose anchor is declared before what it holds is read. -/
def anchored (name : Option String) (read : NodeReader Node) : NodeReader Node := do
  match name with
  | none => read
  | some name =>
    let anchor := (← get).anchors.numbers.length
    modify fun r => { r with anchors := r.anchors.declare name }
    let node ← read
    modify fun r => { r with
      anchors := { r.anchors with nodes := (anchor, node) :: r.anchors.nodes } }
    pure node

/-! ## Nodes -/

/-- Where a node stands, which decides what it may be. -/
inductive Place where
  /-- In a flow collection. -/
  | flow
  /-- In a block sequence or by itself. -/
  | block
  /-- In a block mapping, where a sequence need not be indented. -/
  | mapped
  deriving DecidableEq, Repr

mutual

/-- Read a node. -/
def node (place : Place) : (fuel : Nat) → NodeReader Node
  | 0 => failure
  | fuel + 1 => do
    if let some (.aliasOf name) ← peek then
      next
      return .aliasOf (← liftM ((← get).anchors.number? name))
    let p ← properties
    anchored p.anchor <| do
      match ← peek with
      | some (.scalar text style) =>
        next
        pure (.scalar ⟨p.tag, text, style⟩)
      | some .flowSequenceStart =>
        next
        return .sequence p.tag (← flowItems true fuel)
      | some .flowMappingStart =>
        next
        return .mapping p.tag (← flowPairs true fuel)
      | t =>
        if place = .mapped && t = some .blockEntry then
          return .sequence p.tag (← looseItems fuel)
        else if place ≠ .flow && t = some .blockSequenceStart then
          next
          return .sequence p.tag (← blockItems fuel)
        else if place ≠ .flow && t = some .blockMappingStart then
          next
          return .mapping p.tag (← blockPairs fuel)
        else if p.anchor.isSome || p.tag.isSome then
          pure (.scalar ⟨p.tag, "", .plain⟩)
        else failure

/-- Read a node, unless one of the tokens comes next: then it is missing. -/
def nodeUnless (place : Place) (ts : List Token) : (fuel : Nat) → NodeReader Node
  | 0 => failure
  | fuel + 1 => do
    if ← atOneOf ts then pure .missing else node place fuel

/-- Read the items of a block sequence. -/
def blockItems : (fuel : Nat) → NodeReader (List Node)
  | 0 => failure
  | fuel + 1 => do
    if ← passed .blockEntry then
      let item ← nodeUnless .block [.blockEntry, .blockEnd] fuel
      return item :: (← blockItems fuel)
    else
      expect .blockEnd
      pure []

/-- Read the items of a sequence that is not indented. -/
def looseItems : (fuel : Nat) → NodeReader (List Node)
  | 0 => failure
  | fuel + 1 => do
    if ← passed .blockEntry then
      let item ← nodeUnless .block [.blockEntry, .key, .value, .blockEnd] fuel
      return item :: (← looseItems fuel)
    else pure []

/-- Read the pairs of a block mapping. -/
def blockPairs : (fuel : Nat) → NodeReader (List (Node × Node))
  | 0 => failure
  | fuel + 1 => do
    if ← passed .blockEnd then pure []
    else
      expect .key
      let after : List Token := [.key, .value, .blockEnd]
      let k ← nodeUnless .mapped after fuel
      let v ← if ← passed .value then nodeUnless .mapped after fuel else pure .missing
      return (k, v) :: (← blockPairs fuel)

/-- Read the items of a flow sequence. A pair in it is a mapping by itself. -/
def flowItems (isFirst : Bool) : (fuel : Nat) → NodeReader (List Node)
  | 0 => failure
  | fuel + 1 => do
    if ← passed .flowSequenceEnd then return []
    if !isFirst then expect .flowEntry
    if ← passed .flowSequenceEnd then return []
    let after : List Token := [.flowEntry, .flowSequenceEnd]
    if ← passed .key then
      let k ←
        if ← atOneOf (.value :: after) then do
          next
          pure .missing
        else node .flow fuel
      let v ← if ← passed .value then nodeUnless .flow after fuel else pure .missing
      return .mapping none [(k, v)] :: (← flowItems false fuel)
    else
      let item ← node .flow fuel
      return item :: (← flowItems false fuel)

/-- Read the pairs of a flow mapping. A node without a colon has no value. -/
def flowPairs (isFirst : Bool) : (fuel : Nat) → NodeReader (List (Node × Node))
  | 0 => failure
  | fuel + 1 => do
    if ← passed .flowMappingEnd then return []
    if !isFirst then expect .flowEntry
    if ← passed .flowMappingEnd then return []
    let after : List Token := [.flowEntry, .flowMappingEnd]
    if ← passed .key then
      let k ← nodeUnless .flow (.value :: after) fuel
      let v ← if ← passed .value then nodeUnless .flow after fuel else pure .missing
      return (k, v) :: (← flowPairs false fuel)
    else
      let k ← node .flow fuel
      return (k, .missing) :: (← flowPairs false fuel)

end

/-! ## Documents -/

/-- The handles that need not be declared. -/
def knownHandles : List (String × Tag) :=
  [("!", bareTag), ("!!", sharedTag "")]

/-- Read the directives in front of a document. A version may be declared once, and each handle
once. -/
def directives : (fuel : Nat) → (hasVersion : Bool) → NodeReader Unit
  | 0, _ => failure
  | fuel + 1, hasVersion => do
    match ← peek with
    | some (.version major minor) =>
      if hasVersion || major ≠ 1 || (minor ≠ 1 && minor ≠ 2) then failure
      next
      directives fuel true
    | some (.tagHandle handle expansion) =>
      if (← get).handles.any (·.1 = handle) then failure
      modify fun r => { r with handles := (handle, expansion) :: r.handles }
      next
      directives fuel hasVersion
    | _ => pure ()

/-- Whether a token is a directive. -/
def isDirective : Token → Bool
  | .version _ _ | .tagHandle _ _ => true
  | _ => false

/-- Read the node of a document behind its start. -/
def content (fuel : Nat) : NodeReader Node := do
  match ← peek with
  | none => pure .missing
  | some t =>
    if isDirective t || t = .documentStart || t = .documentEnd then pure .missing
    else node .block fuel

/-- Pass over the marks of a document's end. -/
def documentEnds : (fuel : Nat) → NodeReader Unit
  | 0 => pure ()
  | fuel + 1 => do
    if ← passed .documentEnd then documentEnds fuel

/-- Read the only document, after which nothing may come. -/
def document (fuel : Nat) : NodeReader Node := do
  match ← peek with
  | none => pure .missing
  | some t =>
    let isExplicit := isDirective t || t = .documentStart
    if isExplicit then
      directives fuel false
      expect .documentStart
    modify fun r => { r with
      handles := r.handles ++ knownHandles.filter fun h => !r.handles.any (·.1 = h.1) }
    let n ← if isExplicit then content fuel else node .block fuel
    documentEnds fuel
    if (← peek).isSome then failure
    pure n

end NodeReader

/-- The document that tokens make. -/
def Document.ofTokens? (tokens : List Token) : Option Document := do
  let (node, r) ← (NodeReader.document (4 * tokens.length + 4)).run ⟨tokens, .empty, []⟩
  pure ⟨node, r.anchors⟩

end DeviceAdmission.Yaml
