import Signpost.Http.Form
import Signpost.Http.Header
import Signpost.Http.Method
import Signpost.Http.Uri
import Signpost.Net.Endpoint
import Signpost.Text.Blank
import Signpost.Text.Dict

/-
  This file defines exchanges: what routing sees of a
  request, and what filters may change of it.

  Key definitions include:
    * `Exchange`
    * `Exchange.host?`
    * `Exchange.headerValues`
    * `Exchange.cookieValues`
    * `Exchange.queryValues`
-/

namespace Signpost

open Text
open Http

------------------------------------------------------------
-- Exchanges
------------------------------------------------------------

/- A request, with attributes that filters leave on it. -/
structure Exchange where
  method : Method := .get
  uri : Uri := .root
  headers : Headers := []
  remote : Option Endpoint := none
  attributes : Dict String := .empty
deriving DecidableEq

namespace Exchange

/- The path of the request. -/
def path (x : Exchange) : String :=
  x.uri.path

/- The query of the request, if there is one. -/
def query? (x : Exchange) : Option String :=
  x.uri.query

------------------------------------------------------------
-- Host
------------------------------------------------------------

/- A host without the brackets around it. -/
def unbracketed (cs : List Char) : List Char :=
  ((cs.dropWhile (· = '[')).reverse.dropWhile
    (· = ']')).reverse

/- The host that a header field names, without its port. -/
def hostField (cs : List Char) : List Char :=
  match trim cs with
  | '[' :: rest => rest.takeWhile (· ≠ ']')
  | rest => rest.takeWhile (· ≠ ':')

/-
  The host of the request in lower case: that of the target,
  or else the one that the first host field names.
-/
def host? (x : Exchange) : Option String :=
  match x.uri.host? with
  | some h =>
      some (String.ofList (unbracketed h.toList)).toLower
  | none => do
      let value ← (x.headers.values "host").head?
      let text ← value.readable?
      let host := hostField text.toList
      if host.isEmpty then none
      else some (String.ofList host).toLower

------------------------------------------------------------
-- Headers, Cookies and Parameters
------------------------------------------------------------

/- The readable values under the name of a header. -/
def headerValues (x : Exchange) (name : String) : List String :=
  x.headers.texts name

/- A value without the double quotes around it. -/
def unquoted (cs : List Char) : List Char :=
  ((cs.dropWhile (· = '"')).reverse.dropWhile
    (· = '"')).reverse

/- A cookie as its name and its value. -/
def cookie? (cs : List Char) : Option (String × String) :=
  (cutList '=' (trim cs)).map fun (name, value) =>
    (String.ofList (trim name),
      String.ofList (unquoted (trim value)))

/- The cookies of one header field in order. -/
def cookiesOf (field : String) : List (String × String) :=
  (field.toList.splitOn ';').filterMap cookie?

/- The values under a name in some pairs, in order. -/
def valuesUnder
    (name : String)
    (pairs : List (String × String)) : List String :=
  (pairs.filter fun p => p.1 = name).map Prod.snd

/- The values of the cookies with a name, in order. -/
def cookieValues (x : Exchange) (name : String) : List String :=
  valuesUnder name
    ((x.headerValues "cookie").flatMap cookiesOf)

/- The values of the query parameters with a name. -/
def queryValues (x : Exchange) (name : String) : List String :=
  match x.query? with
  | some q => valuesUnder name (parameters q)
  | none => []

/- The query has a parameter with a name. -/
def hasQuery (x : Exchange) (name : String) : Bool :=
  !(x.queryValues name).isEmpty

end Exchange

end Signpost
