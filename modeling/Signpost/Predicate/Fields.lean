import Signpost.Predicate.Basic
import Signpost.Regex.Pattern
import Signpost.Regex.Size

/-
  This file defines the predicates that ask for parts of a
  request by name: its method, its headers, its cookies and
  its query parameters.

  Key definitions include:
    * `wholeMatch`
    * `methodFactory`
    * `headerFactory`
    * `cookieFactory`
    * `queryFactory`
-/

namespace Signpost

open Http

------------------------------------------------------------
-- Expressions
------------------------------------------------------------

/-
  Read a pattern that is to match whole values.  Its
  expression must not be too large.
-/
def wholeMatch
    (pattern : String) : Except ArgumentError Regex :=
  match Regex.whole? pattern with
  | some r =>
      if r.fits then .ok r else .error (.largeRegexp pattern)
  | none => .error (.invalidRegexp pattern)

/- Read the pattern of an argument, if there is one. -/
def optionalMatch
    (a : Arguments)
    (key : String) : Except ArgumentError (Option Regex) :=
  (a.optional key).mapM wholeMatch

------------------------------------------------------------
-- Methods
------------------------------------------------------------

/- Read a method, which is put into upper case. -/
def upperMethod (item : String) : Except ArgumentError Method :=
  match Method.parse? item.toUpper with
  | some m => .ok m
  | none => .error (.invalidMethod item)

/- The predicate that asks for the method of a request. -/
def methodFactory : PredicateFactory :=
  { name := "Method"
    fields := ["methods"]
    shortcut := .gather
    make := fun a => do
      let methods ← (← a.list "methods").mapM upperMethod
      return .immediate "Method" fun x =>
        methods.contains x.method }

------------------------------------------------------------
-- Headers
------------------------------------------------------------

/- Read the name of a header. -/
def headerName (raw : String) : Except ArgumentError HeaderName :=
  match HeaderName.parse? raw with
  | some n => .ok n
  | none => .error (.invalidHeaderName raw)

/-
  The predicate that asks for a header, or for one with a
  readable value that a pattern matches.
-/
def headerFactory : PredicateFactory :=
  { name := "Header"
    fields := ["header", "regexp"]
    make := fun a => do
      let name ← headerName (← a.required "header")
      let regexp ← optionalMatch a "regexp"
      return .immediate "Header" fun x =>
        match regexp with
        | none => !(x.headers.values name.text).isEmpty
        | some r => (x.headerValues name.text).any r.isMatch }

------------------------------------------------------------
-- Cookies and Parameters
------------------------------------------------------------

/- The pattern of a cookie, which has two names. -/
def cookiePattern (a : Arguments) : Except ArgumentError String :=
  match (a.optional "regexp").or (a.optional "value") with
  | some p => .ok p
  | none => a.required "regexp"

/- The predicate that asks for a cookie of some value. -/
def cookieFactory : PredicateFactory :=
  { name := "Cookie"
    fields := ["name", "regexp"]
    make := fun a => do
      let name ← a.required "name"
      let regexp ← wholeMatch (← cookiePattern a)
      return .immediate "Cookie" fun x =>
        (x.cookieValues name).any regexp.isMatch }

/-
  The predicate that asks for a query parameter, or for one
  whose value a pattern matches.
-/
def queryFactory : PredicateFactory :=
  { name := "Query"
    fields := ["param", "regexp"]
    make := fun a => do
      let param ← a.required "param"
      let regexp ← optionalMatch a "regexp"
      return .immediate "Query" fun x =>
        match regexp with
        | none => x.hasQuery param
        | some r => (x.queryValues param).any r.isMatch }

end Signpost
