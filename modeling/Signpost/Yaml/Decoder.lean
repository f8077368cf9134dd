import Signpost.Text.Dict
import Signpost.Yaml.Document
import Signpost.Yaml.Error

/-
  This file defines decoders, which take values out of the
  nodes of a document.

  An error shows at the innermost node that was asked for a
  value of some kind.  Aliases are followed, but not without
  end, and collections may be nested to some depth only.

  Key definitions include:
    * `Decoder`
    * `Decoder.text`
    * `Decoder.list`
    * `Decoder.dict`
    * `Decoder.record`
    * `Decoder.run`
-/

namespace Signpost.Yaml

open Text

------------------------------------------------------------
-- Decoders
------------------------------------------------------------

/- Where a decoder is, and how deep it may still go. -/
structure Spot where
  document : Document
  path : Path := .root
  levels : Nat := 128

/- A decoding counts the aliases that were followed. -/
abbrev Decoding := StateT Nat (Except DecodeError)

/- A function that takes a value out of a node. -/
abbrev Decoder (α : Type) := Spot → Node → Decoding α

/- Give up. -/
def refuse {α : Type} (c : DecodeCause) : Decoding α :=
  throw { cause := c }

/- Note where the errors of a decoding show. -/
def located
    {α : Type}
    (p : Path)
    (d : Decoding α) : Decoding α :=
  fun n =>
    match d n with
    | .ok r => .ok r
    | .error e => .error (e.shownAt p)

/-
  The node that an alias stands for.  There may be so many
  aliases to follow as the document is long.
-/
def follow (d : Document) : Node → Decoding Node
| .alias id => do
    let n ← get
    set (n + 1)
    if 100 * d.size < n + 1 then refuse .tooManyAliases
    else return (d.target? id).getD (.empty {})
| n => return n

------------------------------------------------------------
-- Findings
------------------------------------------------------------

/- The full name of a common tag. -/
def commonTag (name : String) : Option String :=
  some ("tag:yaml.org,2002:" ++ name)

/- A tag that is not among the common ones. -/
def isOwnTag (tag : Option String) : Bool :=
  tag.any fun t => t.toList.head? = some '!'

/- What a scalar means whose tag says what it is to be. -/
def taggedScalar?
    (tag : Option String)
    (text : String) : Option (Except DecodeCause Found) :=
  let found (f : Option Found) (expected : String) :=
    some (f.elim (.error (.wrongValue (.text text) expected))
      .ok)
  if tag = commonTag "bool" then
    found ((Found.boolean? text).map .boolean) "a boolean"
  else if tag = commonTag "int" then
    found (Found.integer? text) "an integer"
  else if tag = commonTag "float" then
    found ((Real.ofText? text.toList).map .real) "a float"
  else if tag = commonTag "null" then
    found (if Found.isNull text then some .unit else none)
      "null"
  else none

/- What a scalar means. -/
def scalarFound
    (p : Properties)
    (style : ScalarStyle)
    (text : String) : Except DecodeCause Found :=
  match taggedScalar? p.tag text with
  | some r => r
  | none =>
      let isRead := p.tag.isNone || isOwnTag p.tag
      .ok
        (if style = .plain && isRead then Found.ofPlain text
        else .text text)

/- What is found at a node. -/
def Node.found : Node → Except DecodeCause Found
| .scalar p style text => scalarFound p style text
| .sequence .. => .ok .sequence
| .mapping .. => .ok .mapping
| .alias _ => .ok .unit

/- A node is not what it is expected to be. -/
def mismatch
    {α : Type}
    (n : Node)
    (expected : String) : Decoding α :=
  match n.found with
  | .error c => refuse c
  | .ok f => refuse (.wrongType f expected)

namespace Decoder

variable {α β : Type}

------------------------------------------------------------
-- Scalars
------------------------------------------------------------

/- Take a text, whatever scalar it is written as. -/
def textAs (expected : String) : Decoder String :=
  fun s n => located s.path do
    match ← follow s.document n with
    | .scalar _ _ text => return text
    | n => mismatch n expected

/- Take a text. -/
def text : Decoder String := textAs "a string"

/- The text of a scalar that is written out as it is. -/
def bareText? (tag : String) : Node → Option String
| .scalar _ .plain text => some text
| .scalar p .literal text =>
    if p.tag = commonTag tag then some text else none
| _ => none

/- Take a truth value. -/
def boolean : Decoder Bool :=
  fun s n => located s.path do
    let n ← follow s.document n
    match (bareText? "bool" n).bind Found.boolean? with
    | some b => return b
    | none => mismatch n "a boolean"

/- Take a whole number that some function reads. -/
def integer
    (read : List Char → Option Int)
    (fits : Int → Bool)
    (expected : String) : Decoder Int :=
  fun s n => located s.path do
    let n ← follow s.document n
    match (bareText? "int" n).bind fun t => read t.toList with
    | none => mismatch n expected
    | some i =>
        if fits i then return i
        else refuse (.wrongValue (.integer i) expected)

/- Take a whole number of 16 bits without a sign. -/
def uint16 : Decoder UInt16 :=
  fun s n => do
    let i ← integer
      (fun cs => (unsigned? (UInt64.size - 1) cs).map Int.ofNat)
      (fun i => i < UInt16.size) "u16" s n
    return UInt16.ofNat i.toNat

/- Take a whole number of 32 bits with a sign. -/
def int32 : Decoder Int32 :=
  fun s n => do
    let i ← integer (signed? 64)
      (fun i => (Int32.ofInt i).toInt = i) "i32" s n
    return Int32.ofInt i

/- A scalar stands for nothing. -/
def isNothing
    (p : Properties)
    (style : ScalarStyle)
    (text : String) : Except DecodeCause Bool :=
  if style ≠ .plain then .ok false
  else if p.tag.isNone then
    .ok (text.isEmpty || Found.isNull text)
  else if p.tag = commonTag "null" then
    if Found.isNull text then .ok true
    else .error (.wrongValue (.text text) "null")
  else .ok false

/- Take a value, unless the node stands for nothing. -/
def optional (d : Decoder α) : Decoder (Option α) :=
  fun s n => do
    match ← follow s.document n with
    | .scalar p style text =>
        match isNothing p style text with
        | .error c => refuse c
        | .ok true => return none
        | .ok false => return some (← d s (.scalar p style text))
    | n => return some (← d s n)

------------------------------------------------------------
-- Collections
------------------------------------------------------------

/- A node that is left out counts as an empty collection. -/
def isLeftOut : Node → Bool
| .scalar _ .plain "" => true
| _ => false

/- Go into a collection. -/
def enter
    (s : Spot)
    (f : Spot → Decoding α) : Decoding α :=
  match s.levels with
  | 0 => refuse .tooDeep
  | n + 1 => f { s with levels := n }

/- Go to an item. -/
def atItem (s : Spot) (i : Nat) : Spot :=
  { s with path := .item s.path i }

/- Go to the value under a key. -/
def atEntry (s : Spot) (key : Node) : Spot :=
  { s with
    path :=
      match key with
      | .scalar _ _ text => .entry s.path text
      | _ => .unnamed s.path }

/- Take a list. -/
def list (d : Decoder α) : Decoder (List α) :=
  fun s n => located s.path do
    match ← follow s.document n with
    | .sequence _ items =>
        enter s fun s =>
          items.zipIdx.mapM fun (n, i) => d (atItem s i) n
    | n =>
        if isLeftOut n then return []
        else mismatch n "a sequence"

/- Take the entries of a mapping. -/
def entries
    (expected : String)
    (step : Spot → β → Node × Node → Decoding β)
    (start : β) : Decoder β :=
  fun s n => do
    match ← follow s.document n with
    | .mapping _ entries =>
        enter s fun s => entries.foldlM (step s) start
    | n =>
        if isLeftOut n then return start
        else mismatch n expected

/- Take a dictionary; of equal keys the last one counts. -/
def dict (d : Decoder α) : Decoder (Dict α) :=
  fun s n => located s.path
    (entries "a map"
      (fun s acc (k, v) => do
        let key ← text s k
        let value ← d (atEntry s k) v
        return acc.insert key value)
      .empty s n)

------------------------------------------------------------
-- Records
------------------------------------------------------------

/-
  The shape of a record: how it is called, its fields, and
  whether there may be others.
-/
structure Shape where
  expected : String
  fields : List String
  isOpen : Bool := false

/- What was taken of a record, and the fields it is from. -/
abbrev Draft (β : Type) := β × List String

/- Take one field of a record. -/
def field
    (shape : Shape)
    (read : String → β → Decoder β)
    (s : Spot)
    (draft : Draft β)
    (e : Node × Node) : Decoding (Draft β) := do
  let name ← textAs "field identifier" s e.1
  if !shape.fields.contains name then
    if shape.isOpen then return draft
    else refuse (.unknownField name shape.fields)
  else if draft.2.contains name then
    refuse (.duplicateField name)
  else
    let b ← read name draft.1 (atEntry s e.1) e.2
    return (b, name :: draft.2)

/- Take a record field by field, and finish it. -/
def record
    (shape : Shape)
    (start : β)
    (read : String → β → Decoder β)
    (finish : β → Except DecodeCause α) : Decoder α :=
  fun s n => located s.path do
    let (b, _) ←
      entries shape.expected (field shape read) (start, []) s n
    match finish b with
    | .ok a => return a
    | .error c => refuse c

/- A field that has to be there. -/
def needed (name : String) : Option α → Except DecodeCause α
| some a => .ok a
| none => .error (.missingField name)

end Decoder

------------------------------------------------------------
-- Documents
------------------------------------------------------------

/- Why a value cannot be read from a text. -/
inductive ReadError where
| malformed
| decoding (e : DecodeError)
deriving DecidableEq, Repr

/- The wording of a reading error. -/
def ReadError.message : ReadError → String
| .malformed => "<yaml>"
| .decoding e => e.message

/- Take a value out of the root of a document. -/
def Decoder.run
    {α : Type}
    (d : Decoder α)
    (doc : Document) : Except ReadError α :=
  match d { document := doc } (doc.root.getD (.empty {})) 0 with
  | .ok (a, _) => .ok a
  | .error e => .error (.decoding e)

/- Read a value from a text. -/
def Decoder.parse
    {α : Type}
    (d : Decoder α)
    (text : String) : Except ReadError α :=
  match Document.parse? text with
  | none => .error .malformed
  | some doc => d.run doc

end Signpost.Yaml
