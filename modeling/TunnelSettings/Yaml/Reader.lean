import TunnelSettings.Yaml.Node

/-!
The value of a YAML document. Mappings take over the entries of those that they merge, their own entries
coming later and so counting more. A collection is begun empty and filled later, those that were come across first
being filled first: of several faults, the one in the outermost collection is reported, and of those on one
level the first. What is made has parts that are known by their numbers; only at the end it is laid out as a
value, in which a collection that stands inside itself is given again.
-/
namespace TunnelSettings.Yaml

/-- The name of a standard tag. -/
def kindOfTag (tag : String) : Option String :=
  let lead := (standardTag "").toList
  if lead.isPrefixOf tag.toList then some (.ofList (tag.toList.drop lead.length)) else none

def Node.tag : Node → String
  | .scalar tag _ | .sequence tag _ | .mapping tag _ => tag

def Node.withTag (tag : String) : Node → Node
  | .scalar _ text => .scalar tag text
  | .sequence _ items => .sequence tag items
  | .mapping _ es => .mapping tag es

def Node.isScalar : Node → Bool
  | .scalar .. => true
  | _ => false

/-- Kinds of collections, which are begun empty and filled later. -/
def isCollectionKind (kind : String) : Bool := ["seq", "map", "set", "omap", "pairs"].contains kind

def isMergeKey (n : Node) : Bool := n.tag = standardTag "merge"

def isValueKey (n : Node) : Bool := n.tag = standardTag "value"

/-- An equals sign as a key is a text. -/
def plainKey (n : Node) : Node := if isValueKey n then n.withTag (standardTag "str") else n

/-! ### Making things -/

/-- What a node stands for. The parts are given by the numbers of their nodes. -/
inductive Thing where
  | scalar (s : Scalar)
  | list (items : List Nat)
  /-- A list of tuples of a key and a value. -/
  | pairs (items : List (Nat × Nat))
  | map (entries : List (Scalar × Nat))
  | set (items : List Scalar)

/-- Things that are being made. -/
structure Making where
  /-- The nodes as they are by now: where a mapping merges others it has their entries. -/
  nodes : Array Node
  /-- The things made or begun so far, by the numbers of their nodes. -/
  things : Array (Option Thing)
  /-- The collections that are begun but not filled, first those that were come across first. -/
  begun : List Nat := []

abbrev Make := StateT Making (Except Stop)

namespace Make

def fail {α : Type} : Make α := throw .malformed

def nodeAt (i : Nat) : Make Node := return (← get).nodes.getD i .empty

def setNode (i : Nat) (n : Node) : Make Unit :=
  modify fun s => { s with nodes := s.nodes.setIfInBounds i n }

def thing? (i : Nat) : Make (Option Thing) := return (← get).things.getD i none

def setThing (i : Nat) (t : Thing) : Make Unit :=
  modify fun s => { s with things := s.things.setIfInBounds i (some t) }

/-! ### Mappings that merge others -/

/-- The entries of a mapping by now. -/
def entriesOf (i : Nat) : Make (List (Nat × Nat)) :=
  return match ← nodeAt i with
  | .mapping _ es => es
  | _ => []

def setEntries (i : Nat) (es : List (Nat × Nat)) : Make Unit := do
  setNode i (.mapping (← nodeAt i).tag es)

/-- Of several mappings that are merged the earlier count more, so they come later. -/
def inheritAll (flatten : Nat → Make Unit) : List Nat → Make (List (Nat × Nat))
  | [] => return []
  | i :: is => do
    match ← nodeAt i with
    | .mapping .. =>
      flatten i
      let es ← entriesOf i
      return (← inheritAll flatten is) ++ es
    | _ => fail

/-- What is merged at a node: the entries of a mapping, or of several. -/
def inherit (flatten : Nat → Make Unit) (i : Nat) : Make (List (Nat × Nat)) := do
  match ← nodeAt i with
  | .mapping .. =>
    flatten i
    entriesOf i
  | .sequence _ items => inheritAll flatten items
  | .scalar .. => fail

/-- Go through entries of a mapping, of which `done` come before, and take out those that tell to merge; what they
bring is collected. -/
def takeMerged (flatten : Nat → Make Unit) (i : Nat) (done : List (Nat × Nat)) :
    List (Nat × Nat) → Make (List (Nat × Nat))
  | [] => return []
  | (k, v) :: es => do
    let key ← nodeAt k
    if isMergeKey key then
      setEntries i (done ++ es)
      let brought ← inherit flatten v
      -- if the mapping merges itself, then all that it tells to merge has been taken out by now
      if (← entriesOf i) = done ++ es then return brought ++ (← takeMerged flatten i done es)
      else return brought
    else
      setNode k (plainKey key)
      takeMerged flatten i (done ++ [(k, v)]) es

/-- Let a mapping take over what it merges. `fuel` bounds the mappings that are merged into each other. -/
def flatten : Nat → Nat → Make Unit
  | 0, _ => fail
  | fuel + 1, i => do
    let merged ← takeMerged (flatten fuel) i [] (← entriesOf i)
    setEntries i (merged ++ (← entriesOf i))

/-! ### Scalars and collections -/

/-- The text of a node where a scalar is wanted: its own, or that of its entry for the equals sign. -/
def scalarText : Nat → Nat → Make String
  | 0, _ => throw (.fault .endless)
  | fuel + 1, i => do
    match ← nodeAt i with
    | .scalar _ text => return text
    | .mapping _ es =>
      let nodes := (← get).nodes
      match es.find? fun e => isValueKey (nodes.getD e.1 .empty) with
      | some (_, v) => scalarText fuel v
      | none => fail
    | .sequence .. => fail

/-- What a node stands for where a scalar of some kind is wanted. Dates are not read from mappings. -/
def scalar (kind : String) (i : Nat) : Make Scalar := do
  if (scalarOf? kind "").isNone then fail
  let text ← scalarText ((← get).nodes.size + 1) i
  if kind = "timestamp" && !(← nodeAt i).isScalar then throw (.fault .notText)
  match scalarOf? kind text with
  | some r => r
  | none => fail

/-- Come across a node: a scalar is made at once, a collection is only begun. -/
def meet (i : Nat) : Make Unit := do
  if (← thing? i).isNone then
    match kindOfTag (← nodeAt i).tag with
    | none => fail
    | some kind =>
      if isCollectionKind kind then
        setThing i (.list [])
        modify fun s => { s with begun := s.begun ++ [i] }
      else setThing i (.scalar (← scalar kind i))

/-- An entry of a mapping. Its key must not be a collection. -/
def entry (e : Nat × Nat) : Make (Scalar × Nat) := do
  meet e.1
  match ← thing? e.1 with
  | some (.scalar key) =>
    meet e.2
    return (key, e.2)
  | _ => fail

/-- The entries of a mapping, with those that it takes over. -/
def entries (i : Nat) : Make (List (Scalar × Nat)) := do
  flatten ((← get).nodes.size + 1) i
  (← entriesOf i).mapM entry

/-- A pair of a key and a value, which is written as a mapping with one entry. -/
def pair (i : Nat) : Make (Nat × Nat) := do
  match ← nodeAt i with
  | .mapping _ [(k, v)] =>
    meet k
    meet v
    return (k, v)
  | _ => fail

/-- Fill a collection. -/
def fill (i : Nat) : Make Unit := do
  let n ← nodeAt i
  match kindOfTag n.tag, n with
  | some "seq", .sequence _ items =>
    items.forM meet
    setThing i (.list items)
  | some "omap", .sequence _ items | some "pairs", .sequence _ items => setThing i (.pairs (← items.mapM pair))
  | some "map", .mapping .. => setThing i (.map (← entries i))
  | some "set", .mapping .. => setThing i (.set ((← entries i).map (·.1)))
  | _, _ => fail

/-- Fill the collections that are begun and those that are begun meanwhile, each of which is a node. -/
def fillAll : Nat → Make Unit
  | 0 => return ()
  | fuel + 1 => do
    match (← get).begun with
    | [] => return ()
    | i :: rest =>
      modify fun s => { s with begun := rest }
      fill i
      fillAll fuel

end Make

/-- The things that the nodes of a document stand for, as far as they can be reached. -/
def Graph.things (g : Graph) : Except Stop (Array (Option Thing)) := do
  let made : Make Unit := do
    Make.meet g.root
    Make.fillAll g.nodes.size
  return (← made.run { nodes := g.nodes, things := .replicate g.nodes.size none }).2.things

/-! ### Laying things out -/

/-- How deep in data lies what is looked at for itself, and not only shown as part of something else: the items
that servers are selected by lie on this level below the root, and nothing lies deeper. -/
def reach : Nat := 5

/-- A collection by the number of its node, or by that and one more than the place of a tuple in it. -/
abbrev Spot := Nat × Nat

/-- Lay out a thing as a value. The spots that lead to it are given from the innermost to the outermost one. A spot
that leads to itself is given again, and if it lies deeper than what is looked at then without what it holds: then it is
part of something that is shown, in which it comes for the second time. `fuel` bounds the spots in each other. -/
def laidOut (things : Array (Option Thing)) : Nat → List Spot → Nat → Value
  | 0, _, _ => .null
  | fuel + 1, way, i =>
    let spot : Spot := (i, 0)
    let inside (j : Nat) : Value := laidOut things fuel (spot :: way) j
    let back? (way : List Spot) (spot : Spot) : Option Nat := (way.idxOf? spot).map (· + 1)
    let isOpen (way : List Spot) (back : Nat) : Bool := way.length < reach + back
    let tuple (place : Nat) (e : Nat × Nat) : Value :=
      let tuple : Spot := (i, place + 1)
      let parts := [e.1, e.2].map (laidOut things fuel (tuple :: spot :: way))
      match back? (spot :: way) tuple with
      | none => .tuple parts
      | some back => .outerTuple back (if isOpen (spot :: way) back then parts else [])
    match things.getD i none, back? way spot with
    | none, _ => .null
    | some (.scalar s), _ => s.value
    | some (.set items), _ => .set (Value.distinct (items.map Scalar.value))
    | some (.list items), none => .list (items.map inside)
    | some (.list items), some back => .outerList back (if isOpen way back then items.map inside else [])
    | some (.pairs items), none => .list (items.mapIdx tuple)
    | some (.pairs items), some back => .outerList back (if isOpen way back then items.mapIdx tuple else [])
    | some (.map es), none => .map (Value.ofEntries (es.map fun e => (e.1.value, inside e.2)))
    | some (.map es), some back =>
      .outerMap back (if isOpen way back then Value.ofEntries (es.map fun e => (e.1.value, inside e.2)) else [])

/-- The value that a document stands for. -/
def Graph.value (g : Graph) : Except Stop Value :=
  return laidOut (← g.things) (2 * g.nodes.size + reach + 2) [] g.root

/-- The value of the document of a YAML text; a text without a document stands for null. Of a text that is
malformed it is said what the library makes of it. -/
def load (wording : String → String) (text file : String) : Except Failure Value :=
  let failed (stop : Stop) : Failure := match stop with
    | .malformed => .yaml file (wording text)
    | .fault f => f.failure
  Except.mapError failed do
    match ← Graph.ofText? text.toList with
    | none => return .null
    | some g => g.value

/-- Read a YAML text; a document that is empty, or stands for nothing, is an empty mapping. -/
def read (wording : String → String) (text file : String) : Except Failure Value := do
  let v ← load wording text file
  return if v.isTruthy then v else .map []

end TunnelSettings.Yaml
