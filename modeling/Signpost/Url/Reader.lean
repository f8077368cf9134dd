import Signpost.Url.Basic

/-
  This file defines how URLs are read and how the path and
  query of one are replaced.

  Key definitions include:
    * `Url.resolveSegments`
    * `Url.parse`
    * `Url.withPath`
    * `Url.withQuery`
-/

namespace Signpost.Url

open Text

------------------------------------------------------------
-- Characters
------------------------------------------------------------

/- A control character or a blank. -/
def isTrimmed (c : Char) : Bool :=
  c.toNat ≤ 0x20

/- A tab or the end of a line. -/
def isDropped (c : Char) : Bool :=
  c = '\t' || c = '\n' || c = '\r'

/- The characters of a text that count for a URL. -/
def significant (cs : List Char) : List Char :=
  (((cs.dropWhile isTrimmed).reverse.dropWhile
    isTrimmed).reverse).filter (!isDropped ·)

/- A character that ends a segment. -/
def isSlash (special : Bool) (c : Char) : Bool :=
  c = '/' || (special && c = '\\')

/- A character that a scheme has after its first letter. -/
def isSchemeTail (c : Char) : Bool :=
  c.isAlphanum || c = '+' || c = '-' || c = '.'

------------------------------------------------------------
-- Paths
------------------------------------------------------------

/- Cut at every slash, where a backslash may be one. -/
def slashPieces
    (special : Bool)
    (cs : List Char) : List (List Char) :=
  cs.splitOnP (isSlash special)

/- A segment that stands for the place where it is. -/
def isDot (cs : List Char) : Bool :=
  [".", "%2e"].contains (String.ofList cs).toLower

/- A segment that stands for the one before it. -/
def isDoubleDot (cs : List Char) : Bool :=
  ["..", ".%2e", "%2e.", "%2e%2e"].contains
    (String.ofList cs).toLower

/- A segment is a drive: a letter and a colon or a bar. -/
def isDrive : List Char → Bool
| [a, b] => a.isAlpha && (b = ':' || b = '|')
| _ => false

/- A drive with a colon. -/
def driveText : List Char → String
| a :: _ => String.ofList [a, ':']
| [] => ""

/- The segments without the last one, which a file keeps if it is a drive. -/
def shorten
    (file : Bool)
    (before : List String) : List String :=
  match before with
  | s :: rest =>
      if file && isDrive s.toList &&
          s.toList.getLast? = some ':' then before
      else rest
  | [] => []

/-
  Resolve segments, given those before them with the last
  one first: dots are left out, and two dots take back the
  segment before them.
-/
def resolve
    (file : Bool) :
    List String → List (List Char) → List String
| before, [] => before.reverse
| before, [s] =>
    if isDoubleDot s then
      ("" :: shorten file before).reverse
    else if isDot s then ("" :: before).reverse
    else if file && before.isEmpty && isDrive s then
      (driveText s :: before).reverse
    else (encoded inPathSet s :: before).reverse
| before, s :: rest =>
    if isDoubleDot s then
      resolve file (shorten file before) rest
    else if isDot s then resolve file before rest
    else if file && before.isEmpty && isDrive s then
      resolve file (driveText s :: before) rest
    else resolve file (encoded inPathSet s :: before) rest

/- A path of a file has no empty segments at its start. -/
def dropEmpty (ss : List String) : List String :=
  match ss.dropWhile String.isEmpty with
  | [] => [""]
  | ss => ss

/- The segments that the text after a first slash gives. -/
def resolveSegments
    (scheme : String)
    (cs : List Char) : List String :=
  let file := scheme = "file"
  let ss := resolve file []
    (slashPieces (isSpecialScheme scheme) cs)
  if file then dropEmpty ss else ss

/- The segments of a path after an authority. -/
def pathSegments
    (scheme : String)
    (cs : List Char) : List String :=
  let special := isSpecialScheme scheme
  match cs with
  | [] => if special then [""] else []
  | c :: rest =>
      if isSlash special c then resolveSegments scheme rest
      else resolveSegments scheme (c :: rest)

------------------------------------------------------------
-- Authorities
------------------------------------------------------------

/- The characters before the last `@` and those after it. -/
def cutLastAt
    (cs : List Char) : Option (List Char × List Char) :=
  if cs.contains '@' then
    some
      ((cs.reverse.dropWhile (· ≠ '@')).tail.reverse,
        (cs.reverse.takeWhile (· ≠ '@')).reverse)
  else none

/- The user name and the password before an authority. -/
def userOf (cs : List Char) : String × String :=
  match cutList ':' cs with
  | some (name, password) =>
      (encoded inUserSet name, encoded inUserSet password)
  | none => (encoded inUserSet cs, "")

/- Cut at the first colon that stands in no brackets. -/
def cutPort (inside : Bool) :
    List Char → List Char × Option (List Char)
| [] => ([], none)
| c :: cs =>
    if c = ':' && !inside then ([], some cs)
    else
      let inside :=
        if c = '[' then true
        else if c = ']' then false
        else inside
      let (host, port) := cutPort inside cs
      (c :: host, port)

/-
  Read a port.  It ends at a backslash, and what follows
  from there belongs to the path.
-/
def portOf
    (scheme : String)
    (cs : List Char) :
    Except UrlError (Option Nat × List Char) :=
  let digits := cs.takeWhile Char.isDigit
  let rest := cs.dropWhile Char.isDigit
  if rest ≠ [] ∧ rest.head? ≠ some '\\' then
    .error .invalidPort
  else if digits.isEmpty then .ok (none, rest)
  else
    match readDigits 10 0xFFFF .tooLarge 0 digits with
    | .error _ => .error .invalidPort
    | .ok n =>
        if defaultPort? scheme = some n then .ok (none, rest)
        else .ok (some n, rest)

/- Read a host, which only a plain scheme leaves empty. -/
def hostOf
    (scheme : String)
    (cs : List Char) : Except UrlError Host :=
  if isSpecialScheme scheme then
    if cs.isEmpty then .error .emptyHost
    else Host.parseDomain cs
  else Host.parsePlain cs

/-
  Read an authority, and what of it belongs to the path.
  The flag says whether anything follows the authority.
-/
def authorityOf
    (scheme : String)
    (followed : Bool)
    (cs : List Char) :
    Except UrlError (Authority × List Char) := do
  let (user, rest) :=
    match cutLastAt cs with
    | some (user, rest) => (some user, rest)
    | none => (none, cs)
  if user = some [] && rest.isEmpty && followed then
    throw .emptyHost
  let (username, password) := userOf (user.getD [])
  let (hostText, portText) := cutPort false rest
  let host ← hostOf scheme hostText
  if host.isEmpty && portText.isSome then throw .emptyHost
  let (port, extra) ←
    match portText with
    | some cs => portOf scheme cs
    | none => pure (none, [])
  if host.isEmpty &&
      !(username.isEmpty && password.isEmpty) then
    throw .emptyHost
  return ({ username, password, host, port }, extra)

------------------------------------------------------------
-- The Parts of a URL
------------------------------------------------------------

/- A URL up to its query: authority, mark and path. -/
structure Place where
  authority : Option Authority
  marked : Bool := false
  path : UrlPath
deriving DecidableEq, Repr

/- Read what two slashes start. -/
def afterSlashes
    (scheme : String)
    (followed : Bool)
    (cs : List Char) : Except UrlError Place := do
  let ends := isSlash (isSpecialScheme scheme)
  let text := cs.takeWhile (!ends ·)
  let rest := cs.dropWhile (!ends ·)
  let (authority, extra) ←
    authorityOf scheme (followed || !rest.isEmpty) text
  return {
    authority := some authority
    path := .segments (pathSegments scheme (extra ++ rest)) }

/- Read the host of a file, which may be empty. -/
def fileHost (cs : List Char) : Except UrlError Host :=
  if cs.isEmpty then .ok .empty
  else
    match Host.parseDomain cs with
    | .ok (.name "localhost") => .ok .empty
    | r => r

/- The path of a file starts with a drive. -/
def startsWithDrive : List String → Bool
| s :: _ => isDrive s.toList
| [] => false

/- Read what follows the scheme of a file. -/
def filePlace (cs : List Char) : Except UrlError Place := do
  let file (host : Host) (ss : List String) : Place :=
    { authority := some { host }, path := .segments ss }
  match cs with
  | a :: b :: rest =>
      if isSlash true a && isSlash true b then
        let text := rest.takeWhile (!isSlash true ·)
        let path := rest.dropWhile (!isSlash true ·)
        if isDrive text then
          return file .empty (resolveSegments "file" rest)
        else
          let host ← fileHost text
          let ss := pathSegments "file" path
          return file
            (if startsWithDrive ss then .empty else host) ss
      else return file .empty (pathSegments "file" cs)
  | cs => return file .empty (pathSegments "file" cs)

/- Two slashes would be read where a path starts. -/
def needsMark : List String → Bool
| "" :: _ :: _ => true
| _ => false

/- Read what follows a scheme, up to the query. -/
def placeOf
    (scheme : String)
    (followed : Bool)
    (cs : List Char) : Except UrlError Place :=
  if scheme = "file" then filePlace cs
  else if isSpecialScheme scheme then
    afterSlashes scheme followed (cs.dropWhile (isSlash true))
  else
    match cs with
    | '/' :: '/' :: rest => afterSlashes scheme followed rest
    | '/' :: rest =>
        let ss := resolveSegments scheme rest
        .ok
          { authority := none
            marked := needsMark ss
            path := .segments ss }
    | cs =>
        .ok
          { authority := none
            path := .plain (encoded isControl cs) }

/- The part before a mark, and the part after it if any. -/
def cutAt
    (mark : Char)
    (cs : List Char) : List Char × Option (List Char) :=
  match cutList mark cs with
  | some (a, b) => (a, some b)
  | none => (cs, none)

/- The scheme of a text and what follows it. -/
def schemeOf
    (cs : List Char) : Option (String × List Char) :=
  match cutList ':' cs with
  | some (c :: name, rest) =>
      if c.isAlpha && name.all isSchemeTail then
        some ((String.ofList (c :: name)).toLower, rest)
      else none
  | _ => none

/- Read a URL. -/
def parse (s : String) : Except UrlError Url :=
  match schemeOf (significant s.toList) with
  | none => .error .relative
  | some (scheme, rest) => do
      let (rest, fragment) := cutAt '#' rest
      let (rest, query) := cutAt '?' rest
      let place ←
        placeOf scheme (query.isSome || fragment.isSome) rest
      return {
        scheme := scheme
        authority := place.authority
        marked := place.marked
        path := place.path
        query :=
          query.map
            (encoded (inQuerySet (isSpecialScheme scheme)))
        fragment := fragment.map (encoded inFragmentSet) }

------------------------------------------------------------
-- Replacing Parts
------------------------------------------------------------

/- A plain path never starts with a slash. -/
def plainPath : List Char → String
| '/' :: cs => "%2F" ++ encoded isControl cs
| cs => encoded isControl cs

/- A URL with another path. -/
def withPath (u : Url) (path : String) : Url :=
  let cs := path.toList.filter (!isDropped ·)
  { u with
    path :=
      match u.path with
      | .plain _ => .plain (plainPath cs)
      | .segments _ => .segments (pathSegments u.scheme cs) }

/- A URL with another query, or without one. -/
def withQuery (u : Url) (query : Option String) : Url :=
  { u with
    query :=
      query.map fun q =>
        encoded (inQuerySet u.isSpecial)
          (q.toList.filter (!isDropped ·)) }

end Signpost.Url
