import Signpost.Url.Host

/-
  This file defines URLs and their texts.

  The path of a URL is a list of segments or, when no slash
  starts it, a plain text.

  Key definitions include:
    * `Authority`
    * `UrlPath`
    * `Url`
    * `Url.text`
    * `Url.isSpecial`
    * `Url.defaultPort?`
-/

namespace Signpost

open Text

------------------------------------------------------------
-- Schemes
------------------------------------------------------------

namespace Url

/- The port that a scheme means when none is given. -/
def defaultPort? (scheme : String) : Option Nat :=
  match scheme with
  | "http" => some 80
  | "https" => some 443
  | "ws" => some 80
  | "wss" => some 443
  | "ftp" => some 21
  | _ => none

/- A scheme whose URLs name a host and a path of segments. -/
def isSpecialScheme (scheme : String) : Bool :=
  (defaultPort? scheme).isSome || scheme = "file"

end Url

------------------------------------------------------------
-- Authorities
------------------------------------------------------------

/-
  Who is asked for at which host and port.  A user name and
  a password may be empty, and the port is absent when it is
  the one that the scheme means anyway.
-/
structure Authority where
  username : String := ""
  password : String := ""
  host : Host
  port : Option Nat := none
deriving DecidableEq, Repr

namespace Authority

/- The user name and the password before their mark. -/
def userText (a : Authority) : String :=
  if a.username.isEmpty && a.password.isEmpty then ""
  else if a.password.isEmpty then a.username ++ "@"
  else a.username ++ ":" ++ a.password ++ "@"

/- The port after its colon. -/
def portText (a : Authority) : String :=
  match a.port with
  | some p => ":" ++ toString p
  | none => ""

/- The text of an authority. -/
def text (a : Authority) : String :=
  a.userText ++ a.host.text ++ a.portText

end Authority

------------------------------------------------------------
-- URLs
------------------------------------------------------------

/- The path of a URL. -/
inductive UrlPath where
| plain (text : String)
| segments (list : List String)
deriving DecidableEq, Repr

/- The text of a path, with a slash before each segment. -/
def UrlPath.text : UrlPath → String
| .plain s => s
| .segments ss => String.join (ss.map ("/" ++ ·))

/-
  A URL.  A URL without authority whose path starts with two
  slashes is marked, since these would start an authority.
-/
structure Url where
  scheme : String
  authority : Option Authority
  marked : Bool := false
  path : UrlPath
  query : Option String := none
  fragment : Option String := none
deriving DecidableEq, Repr

namespace Url

/- The scheme of a URL is special. -/
def isSpecial (u : Url) : Bool :=
  isSpecialScheme u.scheme

/- The host of a URL, if it has one that is not empty. -/
def host? (u : Url) : Option String :=
  match u.authority with
  | some a => if a.host.isEmpty then none else some a.host.text
  | none => none

/- The port of a URL, unless it is that of the scheme. -/
def port? (u : Url) : Option Nat :=
  u.authority.bind Authority.port

/- The port that is used: the one given, or the scheme's. -/
def effectivePort? (u : Url) : Option Nat :=
  u.port?.or (defaultPort? u.scheme)

/- The user name of a URL, empty if there is none. -/
def username (u : Url) : String :=
  (u.authority.map Authority.username).getD ""

/- The password of a URL, empty if there is none. -/
def password (u : Url) : String :=
  (u.authority.map Authority.password).getD ""

/- A text after its mark, if it is there. -/
def markedText (mark : String) : Option String → String
| some s => mark ++ s
| none => ""

/- The text of a URL. -/
def text (u : Url) : String :=
  u.scheme ++ ":" ++
    (match u.authority with
      | some a => "//" ++ a.text
      | none => "") ++
    (if u.marked then "/." else "") ++ u.path.text ++
    markedText "?" u.query ++ markedText "#" u.fragment

end Url

end Signpost
