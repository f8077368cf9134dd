import Signpost.Text.Blank
import Signpost.Text.Decimal
import Signpost.Text.Dict
import Signpost.Text.Quoted
import Signpost.Text.Split
import Signpost.Error

/-
  This file defines the arguments of predicates and filters.

  An argument has a name, or it comes from the shortcut
  notation and has a number instead, which is kept in a key
  made from that number.  Binding gives the numbered values
  the names that a component declares for them.

  Key definitions include:
    * `ArgumentError`
    * `ArgumentError.message`
    * `numberedKey`
    * `number?`
    * `Shortcut`
    * `Arguments.bind`
    * `Arguments.optional`
    * `Arguments.required`
    * `Arguments.list`
    * `Arguments.bool`
-/

namespace Signpost

open Text

------------------------------------------------------------
-- Errors
------------------------------------------------------------

/- Why arguments are not usable for a component. -/
inductive ArgumentError where
| missing (key : String)
| empty (key : String)
| notBoolean (key value : String)
| tooMany (fields : List String) (count : Nat)
| noShortcut
| unclosedVariable (segment : String)
| invalidSegment (segment : String)
| largeSegment (segment : String)
| invalidRegexp (pattern : String)
| largeRegexp (pattern : String)
| invalidMethod (name : String)
| invalidHeaderName (name : String)
| refused (reason : String)
deriving DecidableEq, Repr

namespace ArgumentError

/- The wording of an argument error. -/
def message : ArgumentError → String
| .missing key => "missing required argument " ++ key
| .empty key => "argument " ++ key ++ " must not be empty"
| .notBoolean key value =>
    "argument " ++ key ++ " is not a boolean: " ++ value
| .tooMany fields count =>
    "expected at most " ++ toString fields.length ++
      " shortcut arguments " ++ quotedList fields ++
      ", got " ++ toString count
| .noShortcut => "shortcut arguments are not supported"
| .unclosedVariable segment =>
    "unclosed variable in pattern segment " ++ segment
| .invalidSegment segment =>
    "invalid pattern segment " ++ segment ++
      ": regex parse error: the pattern is malformed"
| .largeSegment segment =>
    "invalid pattern segment " ++ segment ++
      ": Compiled regex exceeds size limit of 10485760 bytes."
| .invalidRegexp pattern =>
    "invalid regexp " ++ pattern ++
      ": regex parse error: the pattern is malformed"
| .largeRegexp pattern =>
    "invalid regexp " ++ pattern ++
      ": Compiled regex exceeds size limit of 10485760 bytes."
| .invalidMethod name => "invalid http method " ++ name
| .invalidHeaderName name =>
    "invalid header name " ++ name ++
      ": invalid HTTP header name"
| .refused reason => reason

/- An argument error as an answer of the gateway. -/
def toGatewayError (e : ArgumentError) : GatewayError :=
  .invalidArgument e.message

end ArgumentError

------------------------------------------------------------
-- Numbered Keys
------------------------------------------------------------

/- What the key of a numbered argument starts with. -/
def numberedMark : String := "_genkey_"

/- The key of the argument with a number. -/
def numberedKey (n : Nat) : String :=
  numberedMark ++ toString n

/-
  The number of a key made for a numbered argument.  The
  digits may have a plus sign and leading zeros before them.
-/
def number? (key : String) : Option Nat :=
  match dropMark numberedMark.toList key.toList with
  | none => none
  | some digits =>
      (readNat 10 (UInt64.size - 1) digits).toOption

------------------------------------------------------------
-- Binding
------------------------------------------------------------

/- How numbered values are given names. -/
inductive Shortcut where
| each
| gather
deriving DecidableEq, Repr

/- Named values as the components read them. -/
abbrev Arguments := Dict String

namespace Arguments

/- The values with a number, each with its number. -/
def numbered (raw : Arguments) : List (Nat × String) :=
  raw.toList.filterMap fun (k, v) =>
    (number? k).map fun n => (n, v)

/- The numbered values in the order of their numbers. -/
def inOrder (raw : Arguments) : List String :=
  ((numbered raw).mergeSort
    (fun a b => a.1 ≤ b.1)).map Prod.snd

/- The values that have a name. -/
def named (raw : Arguments) : Arguments :=
  raw.keep fun k => (number? k).isNone

/-
  Give the numbered values the names of some fields: either
  one field each, or the first field all of them with commas
  in between.
-/
def bind
    (raw : Arguments)
    (fields : List String)
    (shortcut : Shortcut) :
    Except ArgumentError Arguments :=
  let values := inOrder raw
  if values.isEmpty then .ok (named raw)
  else
    match shortcut with
    | .gather =>
        match fields with
        | [] => .error .noShortcut
        | field :: _ =>
            .ok ((named raw).insert field
              (joined "," values))
    | .each =>
        if fields.length < values.length then
          .error (.tooMany fields values.length)
        else
          .ok ((fields.zip values).foldl
            (fun d (f, v) => d.insert f v) (named raw))

------------------------------------------------------------
-- Reading Bound Values
------------------------------------------------------------

/- The value of an argument, unless it is empty. -/
def optional (a : Arguments) (key : String) : Option String :=
  (a.get? key).filter (fun v => !v.isEmpty)

/- The value of an argument that must not be left out. -/
def required
    (a : Arguments)
    (key : String) : Except ArgumentError String :=
  match optional a key with
  | some v => .ok v
  | none => .error (.missing key)

/- The items of an argument, cut at commas and trimmed. -/
def items (v : String) : List String :=
  ((pieces ',' v).map trimmed).filter (fun s => !s.isEmpty)

/- The items of an argument, of which there must be one. -/
def list
    (a : Arguments)
    (key : String) : Except ArgumentError (List String) :=
  match required a key with
  | .error e => .error e
  | .ok v =>
      if (items v).isEmpty then .error (.empty key)
      else .ok (items v)

/- The truth value that a text spells. -/
def bool? (v : String) : Option Bool :=
  if v = "true" then some true
  else if v = "false" then some false
  else none

/- The truth value of an argument, or a default. -/
def bool
    (a : Arguments)
    (key : String)
    (default : Bool) : Except ArgumentError Bool :=
  match optional a key with
  | none => .ok default
  | some v =>
      match bool? v with
      | some b => .ok b
      | none => .error (.notBoolean key v)

end Arguments

end Signpost
