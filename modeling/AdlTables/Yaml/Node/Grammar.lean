import AdlTables.Yaml.Node
import AdlTables.Yaml.Token

/-! # Nodes of tokens

How the tokens of a text make up nodes. A text holds at most one document, and no name is given to
two nodes. Where the text is not read to its end, tokens that are no document are refused before
they run out.
-/

namespace AdlTables.Yaml

/-- How far the tokens are read, with the nodes so far and those that have anchors. -/
structure Parsing where
  tokens : List Token
  failure : Option Cause
  nodes : Nodes
  /-- How many lists and mappings may still be opened inside each other. -/
  room : Nat
  anchors : List (String × Nat)
  handles : List (String × String)

/-- A step of reading tokens. -/
abbrev Parser := StateT Parsing (Except Cause)

namespace Parser

def refuse {α : Type} : Parser α :=
  throw (.obstacle .malformed)

/-- The next token, if the text is read that far. -/
def peek : Parser Token := do
  let s ← get
  match s.tokens, s.failure with
  | t :: _, _ => return t
  | [], some cause => throw cause
  | [], none => return .streamEnd

/-- Passes the next token. -/
def advance : Parser Unit :=
  modify fun s => { s with tokens := s.tokens.tail }

/-- Passes the next token if it is the given one, and says so. -/
def accept (t : Token) : Parser Bool := do
  if (← peek) = t then
    advance
    return true
  else return false

/-- Passes the next token, which has to be the given one. -/
def expect (t : Token) : Parser Unit := do
  if ← accept t then return else refuse

/-- Whether the next token is one of the given ones. -/
def sees (ts : List Token) : Parser Bool := do
  return ts.contains (← peek)

/-- The number of a new node. -/
def add (kind : Kind) (content : Content) : Parser Nat :=
  modifyGet fun s => (s.nodes.size, { s with nodes := s.nodes.push ⟨kind, content⟩ })

/-- The number of a new node of which nothing is written. -/
def addEmpty : Parser Nat :=
  add .null (.scalar "")

/-- Puts what is written in a node in its place. -/
def complete (n : Nat) (content : Content) : Parser Unit :=
  modify fun s => { s with nodes := s.nodes.setContent n content }

/-- Reads what is inside a list or a mapping. -/
def inside {α : Type} (contents : Parser α) : Parser α := do
  match (← get).room with
  | 0 => throw (.mishap .tooDeep)
  | room + 1 =>
    modify fun s => { s with room := room }
    let found ← contents
    modify fun s => { s with room := room + 1 }
    return found

/-- The handles of tags that need no directive. -/
def standardHandles : List (String × String) := [("!", "!"), ("!!", Kind.standardStart)]

def fullTag (handle : Option String) (suffix : String) : Parser String := do
  match handle with
  | none => return suffix
  | some h => match (← get).handles.lookup h with
    | some start => return start ++ suffix
    | none => refuse

/-- The anchor and the tag in front of a node, in either order. -/
def properties : Parser (Option String × Option String) := do
  match ← peek with
  | .anchor name =>
    advance
    match ← peek with
    | .tag handle suffix => advance; return (some name, some (← fullTag handle suffix))
    | _ => return (some name, none)
  | .tag handle suffix =>
    advance
    match ← peek with
    | .anchor name => advance; return (some name, some (← fullTag handle suffix))
    | _ => return (none, some (← fullTag handle suffix))
  | _ => return (none, none)

/-- The tag that leaves the kind to the content. -/
def freeTag : String := "!"

/-- The kind of a list or mapping with a tag. -/
def kindOf (usual : Kind) : Option String → Kind
  | none => usual
  | some tag => if tag = freeTag then usual else .ofTag tag

def scalarKind (tag : Option String) (text : String) (plain : Bool) : Kind :=
  match tag with
  | none => if plain then .ofPlain text else .text
  | some tag => if tag = freeTag then .ofPlain text else .ofTag tag

/-- Refuses a name that is given already. -/
def checkAnchor (anchor : Option String) : Parser Unit := do
  match anchor with
  | none => return
  | some name => if ((← get).anchors.lookup name).isSome then refuse else return

/-- Gives a node its name, if it has one. -/
def setAnchor (anchor : Option String) (n : Nat) : Parser Unit := do
  match anchor with
  | none => return
  | some name => modify fun s => { s with anchors := (name, n) :: s.anchors }

/-- The number of a new node with a name, where that may be used from now on. -/
def addNamed (anchor : Option String) (kind : Kind) (content : Content) : Parser Nat := do
  let n ← add kind content
  setAnchor anchor n
  return n

def named (name : String) : Parser Nat := do
  match (← get).anchors.lookup name with
  | some n => return n
  | none => refuse

/-- Where a node stands, which decides how it may be written. -/
inductive Setting where
  | flow
  | block
  /-- The value of a key, which may be a list that is not indented. -/
  | member
deriving DecidableEq

mutual

def node : Nat → Setting → Parser Nat
  | 0, _ => refuse
  | fuel + 1, setting => do
    match ← peek with
    | .alias name =>
      advance
      named name
    | _ =>
      let (anchor, tag) ← properties
      content fuel setting anchor tag

/-- What stands behind the properties of a node. -/
def content : Nat → Setting → Option String → Option String → Parser Nat
  | 0, _, _, _ => refuse
  | fuel + 1, setting, anchor, tag => do
    let next ← peek
    let list (items : Parser (List Nat)) : Parser Nat := do
      checkAnchor anchor
      let n ← addNamed anchor (kindOf .list tag) (.list [])
      complete n (.list (← inside items))
      return n
    let mapping (members : Parser (List (Nat × Nat))) : Parser Nat := do
      checkAnchor anchor
      let n ← addNamed anchor (kindOf .mapping tag) (.mapping [])
      complete n (.mapping (← inside members))
      return n
    if setting = .member && next = .blockEntry then list (looseItems fuel)
    else match next with
      | .scalar text plain =>
        advance
        checkAnchor anchor
        addNamed anchor (scalarKind tag text plain) (.scalar text)
      | .flowSequenceStart => list do advance; flowItems fuel true
      | .flowMappingStart => mapping do advance; flowMembers fuel true
      | _ =>
        if setting != .flow && next = .blockSequenceStart then
          list do advance; blockItems fuel
        else if setting != .flow && next = .blockMappingStart then
          mapping do advance; blockMembers fuel
        else if anchor.isSome || tag.isSome then
          checkAnchor anchor
          addNamed anchor (scalarKind tag "" true) (.scalar "")
        else refuse

/-- A node, or the empty one before tokens that end it. -/
def nodeUnless : Nat → Setting → List Token → Parser Nat
  | 0, _, _ => refuse
  | fuel + 1, setting, ends => do
    if ← sees ends then addEmpty else node fuel setting

def blockItems : Nat → Parser (List Nat)
  | 0 => refuse
  | fuel + 1 => do
    if ← accept .blockEntry then
      let item ← nodeUnless fuel .block [.blockEntry, .blockEnd]
      return item :: (← blockItems fuel)
    else
      expect .blockEnd
      return []

/-- The items of a list that is not indented, which ends before anything else. -/
def looseItems : Nat → Parser (List Nat)
  | 0 => refuse
  | fuel + 1 => do
    if ← accept .blockEntry then
      let item ← nodeUnless fuel .block [.blockEntry, .key, .value, .blockEnd]
      return item :: (← looseItems fuel)
    else return []

/-- The members of an indented mapping and its end. -/
def blockMembers : Nat → Parser (List (Nat × Nat))
  | 0 => refuse
  | fuel + 1 => do
    let ends : List Token := [.key, .value, .blockEnd]
    if ← accept .key then
      let key ← nodeUnless fuel .member ends
      let value ← if ← accept .value then nodeUnless fuel .member ends else addEmpty
      return (key, value) :: (← blockMembers fuel)
    else
      expect .blockEnd
      return []

/-- The items of a list in brackets and its end; a comma stands in front of all but the first. -/
def flowItems : Nat → Bool → Parser (List Nat)
  | 0, _ => refuse
  | fuel + 1, isFirst => do
    if ← accept .flowSequenceEnd then return []
    else
      unless isFirst do expect .flowEntry
      if ← accept .flowSequenceEnd then return []
      else
        if ← accept .key then
          let item ← add .mapping (.mapping [])
          let member ← inside do
            let key ← nodeUnless fuel .flow [.value, .flowEntry, .flowSequenceEnd]
            let value ← if ← accept .value then
              nodeUnless fuel .flow [.flowEntry, .flowSequenceEnd] else addEmpty
            pure (key, value)
          complete item (.mapping [member])
          return item :: (← flowItems fuel false)
        else
          let item ← node fuel .flow
          return item :: (← flowItems fuel false)

/-- The members of a mapping in braces and its end; a comma stands in front of all but the first. -/
def flowMembers : Nat → Bool → Parser (List (Nat × Nat))
  | 0, _ => refuse
  | fuel + 1, isFirst => do
    if ← accept .flowMappingEnd then return []
    else
      unless isFirst do expect .flowEntry
      if ← accept .flowMappingEnd then return []
      else if ← accept .key then
        let key ← nodeUnless fuel .flow [.value, .flowEntry, .flowMappingEnd]
        let value ← if ← accept .value then
          nodeUnless fuel .flow [.flowEntry, .flowMappingEnd] else addEmpty
        return (key, value) :: (← flowMembers fuel false)
      else
        let key ← node fuel .flow
        return (key, ← addEmpty) :: (← flowMembers fuel false)

end

/-- The directives of a document, and whether there are any. -/
def directives : Nat → Bool → List (String × String) → Parser Bool
  | 0, _, _ => refuse
  | fuel + 1, hasVersion, handles => do
    match ← peek with
    | .directive d =>
      advance
      match d with
      | .version major _ =>
        if hasVersion || major ≠ 1 then refuse else directives fuel true handles
      | .handle name start =>
        if (handles.lookup name).isSome then refuse
        else directives fuel hasVersion ((name, start) :: handles)
      | .other => directives fuel hasVersion handles
    | _ =>
      modify fun s => { s with handles := handles ++ standardHandles }
      return hasVersion

def documentEnds : Nat → Parser Unit
  | 0 => return
  | fuel + 1 => do
    if ← accept .documentEnd then documentEnds fuel

/-- The root of a document, none if the text has no content. -/
def root : Parser (Option Nat) := do
  let fuel := 4 * (← get).tokens.length + 4
  if ← sees [.streamEnd] then return none
  let startsMarked := match ← peek with
    | .directive _ => true
    | .documentStart => true
    | _ => false
  let root ← if startsMarked then do
      let _ ← directives fuel false []
      expect .documentStart
      match ← peek with
      | .directive _ | .documentStart | .documentEnd | .streamEnd => addEmpty
      | _ => node fuel .block
    else node fuel .block
  documentEnds fuel
  expect .streamEnd
  return some root

end Parser

/-- The most lists and mappings inside each other. -/
def mostLevels : Nat := 485

/-- The nodes of tokens, none if they have no content. -/
def Rooted.ofTokens (tokens : Tokens) : Except Cause (Option Rooted) := do
  let start : Parsing := ⟨tokens.found, tokens.failure, #[], mostLevels, [], Parser.standardHandles⟩
  let (root, s) ← Parser.root.run start
  return root.map fun n => ⟨s.nodes, n⟩

end AdlTables.Yaml
