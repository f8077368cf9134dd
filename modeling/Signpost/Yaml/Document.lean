import Signpost.Yaml.Lexer
import Signpost.Yaml.Node

/-
  This file defines how a document is made of tokens.

  A text holds one document at most.  A node that is left
  out where one has to be is an empty scalar.

  Key definitions include:
    * `TokenReader`
    * `TokenReader.node`
    * `Document.ofTokens?`
    * `Document.parse?`
-/

namespace Signpost.Yaml

------------------------------------------------------------
-- Readers
------------------------------------------------------------

/-
  The tokens that are left, the starts that tags with a
  handle have, and the anchors so far with their numbers,
  the last one first.
-/
structure TokenSource where
  tokens : List Token
  handles : List (List Char × List Char) := []
  anchors : List (List Char × Nat) := []

/- A function that reads from tokens or fails. -/
abbrev TokenReader := StateT TokenSource Option

namespace TokenReader

/- The next token, which is not taken. -/
def peek : TokenReader (Option Token) := do
  return (← get).tokens.head?

/- Take the next token. -/
def skip : TokenReader Unit :=
  modify fun s => { s with tokens := s.tokens.tail }

/- Take the next token if it is a given one. -/
def accept (t : Token) : TokenReader Bool := do
  if (← peek) = some t then
    skip
    return true
  else return false

/- Take the next token, which has to be a given one. -/
def expect (t : Token) : TokenReader Unit := do
  if !(← accept t) then failure

/- The next token is one of some, or there is none. -/
def isAt (ts : List Token) : TokenReader Bool := do
  match ← peek with
  | none => return true
  | some t => return ts.contains t

------------------------------------------------------------
-- Properties
------------------------------------------------------------

/-
  Number an anchor.  A name that is used again takes a new
  number, but does not count for the numbers of others.
-/
def anchor (name : List Char) : TokenReader Nat := do
  let s ← get
  let id := s.anchors.length
  set { s with
    anchors :=
      (name, id) :: s.anchors.filter fun a => a.1 ≠ name }
  return id

/- The number of an anchor that an alias names. -/
def aliased (name : List Char) : TokenReader Nat := do
  match (← get).anchors.find? fun a => a.1 = name with
  | some (_, id) => return id
  | none => failure

/- A tag in full. -/
def fullTag (t : TagName) : TokenReader String := do
  if t.handle.isEmpty then return String.ofList t.suffix
  match (← get).handles.find? fun h => h.1 = t.handle with
  | some (_, start) => return String.ofList (start ++ t.suffix)
  | none => failure

/- Read the name of an anchor, if there is one. -/
def anchor? : TokenReader (Option (List Char)) := do
  match ← peek with
  | some (.anchor name) =>
      skip
      return some name
  | _ => return none

/- Read a tag, if there is one. -/
def tag? : TokenReader (Option TagName) := do
  match ← peek with
  | some (.tag t) =>
      skip
      return some t
  | _ => return none

/- Read an anchor and a tag in either order. -/
def properties : TokenReader Properties := do
  let name ← anchor?
  let t ← tag?
  let name ← if name.isNone then anchor? else pure name
  let tag ← t.mapM fullTag
  let anchor ← name.mapM anchor
  return { anchor, tag }

/- A lone exclamation mark is the same as no tag. -/
def scalarProperties (p : Properties) : Properties :=
  if p.tag = some "!" then { p with tag := none } else p

------------------------------------------------------------
-- Nodes
------------------------------------------------------------

/- Where a node stands. -/
inductive Position where
| flow
| block
| entry
deriving DecidableEq, Repr

/- A node without anything but its properties. -/
def bare (p : Properties) : TokenReader Node :=
  if p.anchor.isNone && p.tag.isNone then failure
  else return .empty (scalarProperties p)

mutual

/-
  Read a node.  The number bounds how many steps one after
  the other it may take.
-/
def node : Nat → Position → TokenReader Node
| 0, _ => failure
| n + 1, place => do
    if let some (.alias name) := ← peek then
      skip
      return .alias (← aliased name)
    let p ← properties
    match ← peek with
    | some (.scalar style text) =>
        skip
        return .scalar (scalarProperties p) style
          (String.ofList text)
    | some .flowSequence =>
        skip
        return .sequence p (← flowItems n true)
    | some .flowMapping =>
        skip
        return .mapping p (← flowEntries n true)
    | some .blockEntry =>
        if place = .entry then
          return .sequence p (← looseItems n)
        else bare p
    | some .blockSequence =>
        if place = .flow then bare p
        else
          skip
          return .sequence p (← blockItems n)
    | some .blockMapping =>
        if place = .flow then bare p
        else
          skip
          return .mapping p (← blockEntries n)
    | _ => bare p

/- Read a node, unless one of some tokens is next. -/
def nodeUnless :
    Nat → Position → List Token → TokenReader Node
| 0, _, _ => failure
| n + 1, place, ts => do
    if ← isAt ts then return .empty {}
    else node n place

/- Read the items of a block sequence. -/
def blockItems : Nat → TokenReader (List Node)
| 0 => failure
| n + 1 => do
    if ← accept .blockEnd then return []
    expect .blockEntry
    let v ← nodeUnless n .block [.blockEntry, .blockEnd]
    return v :: (← blockItems n)

/- Read the items of a sequence without indentation. -/
def looseItems : Nat → TokenReader (List Node)
| 0 => failure
| n + 1 => do
    if ← accept .blockEntry then
      let v ← nodeUnless n .block
        [.blockEntry, .key, .value, .blockEnd]
      return v :: (← looseItems n)
    else return []

/- Read the entries of a block mapping. -/
def blockEntries : Nat → TokenReader (List (Node × Node))
| 0 => failure
| n + 1 => do
    if ← accept .blockEnd then return []
    let ends : List Token := [.key, .value, .blockEnd]
    expect .key
    let k ← nodeUnless n .entry ends
    let v ←
      if ← accept .value then nodeUnless n .entry ends
      else pure (.empty {})
    return (k, v) :: (← blockEntries n)

/- Read the items of a sequence in brackets. -/
def flowItems : Nat → Bool → TokenReader (List Node)
| 0, _ => failure
| n + 1, isFirst => do
    if ← accept .flowSequenceEnd then return []
    if !isFirst then expect .flowEntry
    if ← accept .key then
      let e ← flowPair n
      return .mapping {} [e] :: (← flowItems n false)
    else if ← accept .flowSequenceEnd then return []
    else
      let v ← node n .flow
      return v :: (← flowItems n false)

/-
  Read the one entry of a mapping that is an item.  If its
  key is left out the next token is passed over.
-/
def flowPair : Nat → TokenReader (Node × Node)
| 0 => failure
| n + 1 => do
    let k ←
      if ← isAt [.value, .flowEntry, .flowSequenceEnd] then
        skip
        pure (.empty {})
      else node n .flow
    let v ←
      if ← accept .value then
        nodeUnless n .flow [.flowEntry, .flowSequenceEnd]
      else pure (.empty {})
    return (k, v)

/- Read the entries of a mapping in brackets. -/
def flowEntries : Nat → Bool → TokenReader (List (Node × Node))
| 0, _ => failure
| n + 1, isFirst => do
    if ← accept .flowMappingEnd then return []
    if !isFirst then expect .flowEntry
    if ← accept .key then
      let k ← nodeUnless n .flow
        [.value, .flowEntry, .flowMappingEnd]
      let v ←
        if ← accept .value then
          nodeUnless n .flow [.flowEntry, .flowMappingEnd]
        else pure (.empty {})
      return (k, v) :: (← flowEntries n false)
    else if ← accept .flowMappingEnd then return []
    else
      let k ← node n .flow
      return (k, .empty {}) :: (← flowEntries n false)

end

------------------------------------------------------------
-- Documents
------------------------------------------------------------

/- Read directives up to the start of a document. -/
def directives (isFirst : Bool) :
    List Token → TokenReader Unit
| .version major minor :: ts =>
    if isFirst && major = 1 && (minor = 1 || minor = 2) then do
      skip
      directives false ts
    else failure
| .handle name start :: ts => do
    skip
    let s ← get
    if s.handles.any fun h => h.1 = name then failure
    else
      set { s with handles := (name, start) :: s.handles }
      directives isFirst ts
| _ => return ()

/- The starts of tags with the common handles. -/
def commonHandles : List (List Char × List Char) :=
  [(['!'], ['!']),
    (['!', '!'], "tag:yaml.org,2002:".toList)]

/- The root of a document after its start. -/
def explicitRoot (n : Nat) : TokenReader Node := do
  match ← peek with
  | none => return .empty {}
  | some .documentEnd => return .empty {}
  | some .documentStart => return .empty {}
  | some (.version ..) => return .empty {}
  | some (.handle ..) => return .empty {}
  | some _ => node n .block

/- Nothing but marks of the end of a document may follow. -/
def ending : TokenReader Unit := do
  if (← get).tokens.all (· = .documentEnd) then return ()
  else failure

/- Read a document, unless there are no tokens at all. -/
def document : TokenReader Document := do
  let ts := (← get).tokens
  if ts.isEmpty then return .blank
  directives true ts
  modify fun s =>
    { s with handles := s.handles ++ commonHandles }
  let steps := 4 * ts.length + 4
  let root ←
    if ← accept .documentStart then explicitRoot steps
    else if (← get).tokens.length = ts.length then
      node steps .block
    else failure
  ending
  return .ofRoot root

end TokenReader

namespace Document

/- The document of some tokens. -/
def ofTokens? (ts : List Token) : Option Document :=
  (TokenReader.document.run { tokens := ts }).map Prod.fst

/- Read the document of a text. -/
def parse? (text : String) : Option Document :=
  (tokens? text).bind ofTokens?

end Document

end Signpost.Yaml
