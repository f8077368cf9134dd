import Signpost.Text.Split
import Signpost.Yaml.Found

/-
  This file defines why a document does not hold a value of
  some kind, and where in the document that shows.

  Key definitions include:
    * `Path`
    * `DecodeCause`
    * `DecodeError`
    * `DecodeError.message`
-/

namespace Signpost.Yaml

------------------------------------------------------------
-- Paths
------------------------------------------------------------

/- The way from the root of a document to a node. -/
inductive Path where
| root
| item (parent : Path) (index : Nat)
| entry (parent : Path) (key : String)
| unnamed (parent : Path)
deriving DecidableEq, Repr

/- The text of a path. -/
def Path.text : Path → String
| .root => "."
| .item p i => p.text ++ "[" ++ toString i ++ "]"
| .entry .root key => key
| .entry p key => p.text ++ "." ++ key
| .unnamed .root => "?"
| .unnamed p => p.text ++ ".?"

------------------------------------------------------------
-- Causes
------------------------------------------------------------

/- Why a node does not hold what is expected of it. -/
inductive DecodeCause where
| wrongType (found : Found) (expected : String)
| wrongValue (found : Found) (expected : String)
| unknownField (name : String) (fields : List String)
| duplicateField (name : String)
| missingField (name : String)
| noVariant (choice : String)
| tagged
| refused (message : String)
| tooDeep
| tooManyAliases
deriving DecidableEq, Repr

/- A name between backticks. -/
def ticked (s : String) : String :=
  "\x60" ++ s ++ "\x60"

/- The wording of which fields there are. -/
def expectedFields : List String → String
| [] => "there are no fields"
| [a] => "expected " ++ ticked a
| [a, b] => "expected " ++ ticked a ++ " or " ++ ticked b
| fs => "expected one of " ++ Text.joined ", " (fs.map ticked)

namespace DecodeCause

/- The wording of a cause. -/
def message : DecodeCause → String
| .wrongType found expected =>
    "invalid type: " ++ found.describe ++ ", expected " ++
      expected
| .wrongValue found expected =>
    "invalid value: " ++ found.describe ++ ", expected " ++
      expected
| .unknownField name fields =>
    "unknown field " ++ ticked name ++ ", " ++
      expectedFields fields
| .duplicateField name => "duplicate field " ++ ticked name
| .missingField name => "missing field " ++ ticked name
| .noVariant choice =>
    "data did not match any variant of untagged enum " ++
      choice
| .tagged =>
    "untagged and internally tagged enums do not support " ++
      "enum input"
| .refused message => message
| .tooDeep => "recursion limit exceeded"
| .tooManyAliases => "repetition limit exceeded"

/- The cause concerns the document rather than a node. -/
def isGeneral : DecodeCause → Bool
| .tooDeep => true
| .tooManyAliases => true
| _ => false

end DecodeCause

------------------------------------------------------------
-- Errors
------------------------------------------------------------

/- A cause, with the path to the node that it shows at. -/
structure DecodeError where
  cause : DecodeCause
  path : Option Path := none
deriving DecidableEq, Repr

namespace DecodeError

/- Note where an error shows, unless that is known. -/
def shownAt (p : Path) (e : DecodeError) : DecodeError :=
  if e.path.isSome || e.cause.isGeneral then e
  else { e with path := some p }

/- The wording of an error, after its path if it has one. -/
def message (e : DecodeError) : String :=
  match e.path with
  | none => e.cause.message
  | some .root => e.cause.message
  | some p => p.text ++ ": " ++ e.cause.message

end DecodeError

end Signpost.Yaml
