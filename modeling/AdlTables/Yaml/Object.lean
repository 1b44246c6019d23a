import AdlTables.Entries
import AdlTables.Yaml.Node
import AdlTables.Yaml.Scalar

/-! # Objects

What the nodes of a document stand for. A node is read once, so a list or a mapping that is named in
several places, or inside itself, is one object. Lists and mappings are first made empty and filled
afterwards, in the order in which they were met: what is wrong nearer to the root comes out first.

Merged mappings come in front of a mapping's own entries, which take their place where the keys are
the same.
-/

namespace AdlTables.Yaml

/-- A part of an object: a value of its own, or an object by its number. -/
inductive Part where
  | plain (v : Value)
  | object (n : Nat)
deriving Inhabited

/-- What a list or a mapping is filled with. -/
inductive Object where
  | list (items : List Part)
  | mapping (entries : List (Value × Part))
  | set (items : List Value)
  | pair (key value : Part)
deriving Inhabited

def Object.parts : Object → List Part
  | list items => items
  | mapping entries => entries.map (·.2)
  | set _ => []
  | pair key value => [key, value]

/-- Nodes that are being read. -/
structure Building where
  nodes : Nodes
  objects : Array Object
  /-- What was made of the nodes, by their numbers. -/
  made : Array (Option Part)
  /-- The nodes whose objects are not filled, the next one first, with the numbers of these. -/
  waiting : List (Nat × Nat)

/-- Reading of nodes. -/
abbrev Build := StateT Building (Except Cause)

namespace Build

/-- Fails because a node is not what its kind asks for. -/
def malformed {α : Type} : Build α :=
  throw (.obstacle .malformed)

def kind (n : Nat) : Build Kind :=
  return (← get).nodes.kind n

/-- What is written in a node. -/
def content (n : Nat) : Build Content :=
  return (← get).nodes.content n

/-- The entries of a mapping's node; other nodes have none to give. -/
def entries (n : Nat) : Build (List (Nat × Nat)) := do
  match ← content n with
  | .mapping entries => return entries
  | _ => malformed

/-- Puts entries in the place of a mapping's own. -/
def setEntries (n : Nat) (entries : List (Nat × Nat)) : Build Unit :=
  modify fun s => { s with nodes := s.nodes.setContent n (.mapping entries) }

/-- The text of a node where a scalar is asked for; a mapping gives that of the value that stands
for it. Nodes that stand for each other have no end, and looking goes no deeper than there are
nodes. -/
def scalarText (nodes : Nodes) : Nat → Nat → Except Cause String
  | 0, _ => Cause.breakDown .tooDeep
  | depth + 1, n => match nodes.content n with
    | .scalar text => .ok text
    | .list _ => Cause.malformed
    | .mapping entries => match entries.find? fun entry => nodes.kind entry.1 = .standIn with
      | some (_, value) => scalarText nodes depth value
      | none => Cause.malformed

def scalar (n : Nat) : Build Value := do
  let nodes := (← get).nodes
  if (Scalar.value? n (nodes.kind n) "").isNone then malformed
  else
    let text ← scalarText nodes (nodes.size + 1) n
    match nodes.kind n, nodes.content n with
    | .timestamp, .mapping _ => throw (.mishap .wrongKind)
    | kind, _ => match Scalar.value? n kind text with
      | some v => v
      | none => malformed

/-- The number of a new object. -/
def add (object : Object) : Build Nat := do
  let s ← get
  set { s with objects := s.objects.push object }
  return s.objects.size

/-- The object with which the node of a kind starts, none for a kind of scalars. -/
def start? : Kind → Option Object
  | .list | .pairs => some (.list [])
  | .mapping => some (.mapping [])
  | .set => some (.set [])
  | _ => none

/-- What a node stands for. -/
def part (n : Nat) : Build Part := do
  match ((← get).made[n]?).join with
  | some part => return part
  | none =>
    let part ← match start? (← kind n) with
      | some empty => do
        let number ← add empty
        modify fun s => { s with waiting := s.waiting ++ [(n, number)] }
        pure (Part.object number)
      | none => do pure (Part.plain (← scalar n))
    modify fun s => { s with made := s.made.setIfInBounds n (some part) }
    return part

/-- Reads the keys that would stand for a mapping as texts. -/
def nameStandIns (keys : List Nat) : Build Unit :=
  keys.forM fun key => do
    if (← kind key) = .standIn then
      modify fun s => { s with nodes := s.nodes.setKind key .text }

/-- Puts the entries of merged mappings in front of a mapping's own; `merged` holds those found so
far. A list of mappings is merged from its last one on, so that the first counts most. Each step
takes a key that merges out of the document, and goes no deeper than there are such keys. -/
def merge (n : Nat) (merged : List (Nat × Nat)) : Nat → Build Unit
  | 0 => malformed
  | depth + 1 => do
    let entries ← entries n
    let nodes := (← get).nodes
    let before := entries.takeWhile fun entry => nodes.kind entry.1 != .merge
    nameStandIns (before.map (·.1))
    match entries.drop before.length with
    | [] => if !merged.isEmpty then setEntries n (merged ++ entries)
    | (_, source) :: rest =>
      setEntries n (before ++ rest)
      let entriesOf (source : Nat) : Build (List (Nat × Nat)) := do
        merge source [] depth
        Build.entries source
      let more ← match ← content source with
        | .scalar _ => malformed
        | .list items => do pure (← items.mapM entriesOf).reverse.flatten
        | .mapping _ => entriesOf source
      merge n (merged ++ more) depth

/-- The number of keys that merge. -/
def merges (nodes : Nodes) : Nat :=
  nodes.foldl (fun count node => match node.content with
    | .mapping entries => count + entries.countP fun entry => nodes.kind entry.1 = .merge
    | _ => count) 0

/-- The entries of a mapping's node with what its keys and values stand for. -/
def mapping (n : Nat) : Build (List (Value × Part)) := do
  let _ ← entries n
  merge n [] (merges (← get).nodes + 1)
  (← entries n).foldlM (fun done (key, value) => do
    match ← part key with
    | .object _ => malformed
    | .plain key => return Entries.put done key (← part value)) []

/-- The items of a list's node; other nodes have none to give. -/
def items (n : Nat) : Build (List Nat) := do
  match ← content n with
  | .list items => return items
  | _ => malformed

/-- The pair of a node that is a mapping with one entry. -/
def pair (n : Nat) : Build Part := do
  match ← entries n with
  | [(key, value)] => do
    let key ← part key
    let value ← part value
    return .object (← add (.pair key value))
  | _ => malformed

def filling (n : Nat) : Build Object := do
  match ← kind n with
  | .list => return .list (← (← items n).mapM part)
  | .pairs => return .list (← (← items n).mapM pair)
  | .set => return .set (Entries.keys (← mapping n))
  | _ => return .mapping (← mapping n)

/-- Fills the objects that wait. Each node waits at most once. -/
def fill : Nat → Build Unit
  | 0 => return
  | fuel + 1 => do
    match (← get).waiting with
    | [] => return
    | (n, number) :: waiting =>
      modify fun s => { s with waiting := waiting }
      let object ← filling n
      modify fun s => { s with objects := s.objects.setIfInBounds number object }
      fill fuel

end Build

/-- Objects, with the part that stands for the whole document. -/
structure Objects where
  all : Array Object
  root : Part

namespace Objects

def ofNodes (doc : Rooted) : Except Cause Objects := do
  let build : Build Part := do
    let root ← Build.part doc.root
    Build.fill (doc.nodes.size + 1)
    return root
  let (root, s) ← build.run ⟨doc.nodes, #[], Array.replicate doc.nodes.size none, []⟩
  return ⟨s.objects, root⟩

/-- How often each object is a part. -/
def counts (objects : Objects) : Array Nat :=
  objects.all.foldl (fun counts object => object.parts.foldl (fun counts part => match part with
    | .object n => counts.modify n (· + 1)
    | .plain _ => counts) counts) (Array.replicate objects.all.size 0)

/-- The mappings that are entries of the outermost mapping and are named in several places. -/
def named (objects : Objects) : List Nat :=
  let counts := objects.counts
  let mapping? (part : Part) : Option Nat :=
    match part with
    | .plain _ => none
    | .object n => match objects.all[n]? with
      | some (.mapping _) => if 1 < (counts[n]?).getD 0 then some n else none
      | _ => none
  match objects.root with
  | .plain _ => []
  | .object root => match objects.all[root]? with
    | some (.mapping entries) => (entries.filterMap fun entry => mapping? entry.2).eraseDups
    | _ => []

/-- The values of objects that are known, by their numbers. -/
abbrev Known := Array (Option Value)

/-- The value of a part inside objects, and which of these are in it again. An object inside itself
is a number there, and so every object that leads back to one around it has to show its number. The
objects around a part are no more than there are. -/
def unfold (objects : Objects) (shared : List Nat) :
    Nat → List Nat → Part → StateM Known (Value × List Nat)
  | _, _, .plain v => return (v, [])
  | 0, _, .object n => return (.again n, [n])
  | depth + 1, around, .object n => do
    if around.contains n then return (.again n, [n])
    else match ((← get)[n]?).join with
      | some v => return (v, [])
      | none =>
        let within := unfold objects shared depth (n :: around)
        let (v, back) ← match (objects.all[n]?).getD (.list []) with
          | .list items => do
            let items ← items.mapM within
            pure (Value.list (items.map (·.1)), items.flatMap (·.2))
          | .mapping entries => do
            let entries ← entries.mapM fun (key, part) => do return (key, ← within part)
            pure (Value.mapping (entries.map fun (key, v, _) => (key, v)), entries.flatMap (·.2.2))
          | .set items => pure (Value.set items, [])
          | .pair key value => do
            let (key, keyBack) ← within key
            let (value, valueBack) ← within value
            pure (Value.pair key value, keyBack ++ valueBack)
        let v := if back.isEmpty && !shared.contains n then v else Value.shared n v
        let outer := back.eraseDups.filter (· != n)
        if outer.isEmpty then modify fun known => known.setIfInBounds n (some v)
        return (v, outer)

def value (objects : Objects) : Value :=
  let size := objects.all.size
  ((unfold objects objects.named (size + 1) [] objects.root).run (Array.replicate size none)).1.1

end Objects

end AdlTables.Yaml
