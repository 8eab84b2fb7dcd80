import TunnelSettings.Yaml.Scalar
import TunnelSettings.Yaml.Token

/-!
The nodes of a YAML document: scalars, sequences and mappings, each with its tag. The nodes are numbered, and
a collection has the numbers of its parts. An alias stands for the number of the node that it names, which may
be a collection that the alias is inside of.
-/
namespace TunnelSettings.Yaml

/-- A node of a document, with its tag. -/
inductive Node where
  | scalar (tag text : String)
  | sequence (tag : String) (items : List Nat)
  | mapping (tag : String) (entries : List (Nat × Nat))
  deriving Inhabited

def Node.empty : Node := .scalar (standardTag "null") ""

/-- The nodes of a document by their numbers, and the number of the outermost one. -/
structure Graph where
  nodes : Array Node
  root : Nat

/-- Tokens that are being put together to nodes. -/
structure Composition where
  tokens : List Token
  /-- What stopped the text behind the last token. -/
  stop : Option Stop
  handles : List (String × String) := []
  nodes : Array Node := #[]
  anchors : List (String × Nat) := []

abbrev Compose := StateT Composition (Except Stop)

namespace Compose

def fail {α : Type} : Compose α := throw .malformed

def peek : Compose Token := do
  let s ← get
  match s.tokens with
  | t :: _ => return t
  | [] => throw (s.stop.getD .malformed)

def skip : Compose Unit := modify fun s => { s with tokens := s.tokens.tail }

/-- Whether the next token is one of some. -/
def nextIn (ts : List Token) : Compose Bool := return ts.contains (← peek)

def fullTag : Option String → String → Compose String
  | none, rest => return rest
  | some handle, rest => do
    match (← get).handles.lookup handle with
    | some lead => return lead ++ rest
    | none => fail

/-- The anchor before a node, if there is one. -/
def anchor? : Compose (Option String) := do
  match ← peek with
  | .anchor name => skip; return some name
  | _ => return none

def tag? : Compose (Option (Option String × String)) := do
  match ← peek with
  | .tag handle rest => skip; return some (handle, rest)
  | _ => return none

/-- The anchor and the tag before a node, in either order. -/
def properties : Compose (Option String × Option String) := do
  let first ← anchor?
  let tag ← tag?
  let anchor ← if first.isNone && tag.isSome then anchor? else pure first
  let tag ← match tag with
    | some (handle, rest) => some <$> fullTag handle rest
    | none => pure none
  return (anchor, tag)

/-- The tag that stands for no tag of its own. -/
def isOpenTag (tag : Option String) : Bool := tag.getD "!" = "!"

def tagOr (tag : Option String) (standard : String) : String :=
  if isOpenTag tag then standardTag standard else tag.getD ""

def scalarTag (tag : Option String) (text : String) (plain : Bool) : String :=
  if tag = some "!" || (tag.isNone && plain) then implicitTag text
  else tag.getD (standardTag "str")

/-- Add a node, and let an anchor name it. -/
def add (anchor : Option String) (n : Node) : Compose Nat := do
  let s ← get
  let number := s.nodes.size
  let anchors := (anchor.map fun name => (name, number)).toList ++ s.anchors
  set { s with nodes := s.nodes.push n, anchors }
  return number

/-- Add a collection. It is there, and named, before its parts are. -/
def addFilled {α : Type} (anchor : Option String) (collection : List α → Node) (parts : Compose (List α)) :
    Compose Nat := do
  let number ← add anchor (collection [])
  let n := collection (← parts)
  modify fun s => { s with nodes := s.nodes.setIfInBounds number n }
  return number

mutual

/-- One node. In block context a block collection may begin; where `entries` is set, one of entries that
are not indented may. -/
def node : Nat → Bool → Bool → Compose Nat
  | 0, _, _ => fail
  | fuel + 1, inBlock, entries => do
    match ← peek with
    | .alias name =>
      skip
      match (← get).anchors.lookup name with
      | some n => return n
      | none => fail
    | _ =>
      let (anchor, tag) ← properties
      let taken := (← get).anchors
      if anchor.any fun name => (taken.lookup name).isSome then fail
      let sequence (items : Compose (List Nat)) : Compose Nat :=
        addFilled anchor (.sequence (tagOr tag "seq")) items
      let mapping (es : Compose (List (Nat × Nat))) : Compose Nat :=
        addFilled anchor (.mapping (tagOr tag "map")) es
      let scalar (text : String) (plain : Bool) : Compose Nat :=
        add anchor (.scalar (scalarTag tag text plain) text)
      match ← peek with
      | .scalar text plain => skip; scalar text plain
      | .flowSequence => skip; sequence (flowItems fuel true)
      | .flowMapping => skip; mapping (flowEntries fuel true)
      | .entry =>
        if entries then sequence (openItems fuel)
        else if anchor.isSome || tag.isSome then scalar "" true
        else fail
      | .blockSequence =>
        if inBlock then do skip; sequence (blockItems fuel)
        else if anchor.isSome || tag.isSome then scalar "" true
        else fail
      | .blockMapping =>
        if inBlock then do skip; mapping (blockEntries fuel)
        else if anchor.isSome || tag.isSome then scalar "" true
        else fail
      | _ => if anchor.isSome || tag.isSome then scalar "" true else fail

/-- A node, or the empty one before one of some tokens. -/
def nodeUnless : Nat → List Token → Bool → Bool → Compose Nat
  | 0, _, _, _ => fail
  | fuel + 1, ts, inBlock, entries => do
    if ← nextIn ts then add none .empty else node fuel inBlock entries

/-- The items of a block sequence up to its end. -/
def blockItems : Nat → Compose (List Nat)
  | 0 => fail
  | fuel + 1 => do
    match ← peek with
    | .entry =>
      skip
      let n ← nodeUnless fuel [.entry, .blockEnd] true false
      return n :: (← blockItems fuel)
    | .blockEnd => skip; return []
    | _ => fail

/-- The items of a block sequence that is not indented. -/
def openItems : Nat → Compose (List Nat)
  | 0 => fail
  | fuel + 1 => do
    match ← peek with
    | .entry =>
      skip
      let n ← nodeUnless fuel [.entry, .key, .value, .blockEnd] true false
      return n :: (← openItems fuel)
    | _ => return []

/-- The value behind a key, if a colon comes. -/
def valueUnless : Nat → List Token → Bool → Compose Nat
  | 0, _, _ => fail
  | fuel + 1, ts, inBlock => do
    match ← peek with
    | .value => skip; nodeUnless fuel ts inBlock inBlock
    | _ => add none .empty

/-- The entries of a block mapping up to its end. -/
def blockEntries : Nat → Compose (List (Nat × Nat))
  | 0 => fail
  | fuel + 1 => do
    match ← peek with
    | .key =>
      skip
      let k ← nodeUnless fuel [.key, .value, .blockEnd] true true
      let v ← valueUnless fuel [.key, .value, .blockEnd] true
      return (k, v) :: (← blockEntries fuel)
    | .blockEnd => skip; return []
    | _ => fail

/-- The items of a flow sequence up to its end. -/
def flowItems : Nat → Bool → Compose (List Nat)
  | 0, _ => fail
  | fuel + 1, first => do
    if ← nextIn [.flowSequenceEnd] then skip; return []
    if !first then
      if ← nextIn [.comma] then skip else fail
    match ← peek with
    | .flowSequenceEnd => skip; return []
    | .key =>
      skip
      let k ← nodeUnless fuel [.value, .comma, .flowSequenceEnd] false false
      let v ← valueUnless fuel [.comma, .flowSequenceEnd] false
      let pair ← add none (.mapping (standardTag "map") [(k, v)])
      return pair :: (← flowItems fuel false)
    | _ =>
      let n ← node fuel false false
      return n :: (← flowItems fuel false)

/-- The entries of a flow mapping up to its end. -/
def flowEntries : Nat → Bool → Compose (List (Nat × Nat))
  | 0, _ => fail
  | fuel + 1, first => do
    if ← nextIn [.flowMappingEnd] then skip; return []
    if !first then
      if ← nextIn [.comma] then skip else fail
    match ← peek with
    | .flowMappingEnd => skip; return []
    | .key =>
      skip
      let k ← nodeUnless fuel [.value, .comma, .flowMappingEnd] false false
      let v ← valueUnless fuel [.comma, .flowMappingEnd] false
      return (k, v) :: (← flowEntries fuel false)
    | _ =>
      let k ← node fuel false false
      let v ← add none .empty
      return (k, v) :: (← flowEntries fuel false)

end

def standardHandles : List (String × String) := [("!", "!"), ("!!", standardTag "")]

/-- The directives before a document; `versioned` tells that one gave the version. -/
def directives : Nat → Bool → List (String × String) → Compose (List (String × String))
  | 0, _, _ => fail
  | fuel + 1, versioned, handles => do
    match ← peek with
    | .yamlDirective major =>
      skip
      if versioned || major ≠ 1 then fail else directives fuel true handles
    | .tagDirective handle lead =>
      skip
      if (handles.lookup handle).isSome then fail
      else directives fuel versioned ((handle, lead) :: handles)
    | .otherDirective => skip; directives fuel versioned handles
    | _ => return handles ++ standardHandles

def skipDocumentEnds : Nat → Compose Unit
  | 0 => return ()
  | fuel + 1 => do
    if ← nextIn [.documentEnd] then
      skip
      skipDocumentEnds fuel

/-- A document that begins with directives or a mark, unless the text is at its end. -/
def markedDocument (fuel : Nat) : Compose (Option Nat) := do
  skipDocumentEnds fuel
  if ← nextIn [.streamEnd] then return none
  let handles ← directives fuel false []
  modify fun s => { s with handles }
  if ← nextIn [.documentStart] then skip else fail
  match ← peek with
  | .documentStart | .documentEnd | .streamEnd | .otherDirective | .yamlDirective _
  | .tagDirective .. => some <$> add none .empty
  | _ => return some (← node fuel true false)

/-- The only document of a text, if it has one. -/
def document (fuel : Nat) : Compose (Option Nat) := do
  let result ← match ← peek with
    | .documentStart | .streamEnd | .otherDirective | .yamlDirective _ | .tagDirective .. =>
      markedDocument fuel
    | _ =>
      modify fun s => { s with handles := standardHandles }
      some <$> node fuel true false
  skipDocumentEnds fuel
  if ← nextIn [.streamEnd] then return result else fail

end Compose

/-- The nodes of a text that holds at most one document. -/
def Graph.ofText? (cs : List Char) : Except Stop (Option Graph) :=
  if cs.all isReadable then do
    let (ts, stop) := tokens cs
    let (root, s) ← (Compose.document (4 * ts.size + 8)).run { tokens := ts.toList, stop }
    return root.map fun root => { nodes := s.nodes, root }
  else .error .malformed

end TunnelSettings.Yaml
