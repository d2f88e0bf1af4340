import Playground.Link.Host

/-!
# Links

An absolute link has a scheme, perhaps an authority (whose text is kept in its usual form), a
path, and perhaps a query and a fragment.  `Url.parse` reads one, and `Url.text` writes it.
-/

namespace Playground.Link

open Playground.Text

/-- An absolute link. -/
structure Url where
  scheme : String
  /-- user, host and port -/
  authority : Option String
  path : String
  query : Option String := none
  fragment : Option String := none
deriving DecidableEq, Inhabited, Repr

namespace Url

/-! ### Writing -/

/-- A part that may be missing, behind its mark. -/
def marked (mark : String) : Option String → String
  | some s => mark ++ s
  | none => ""

/-- The link without its fragment.  A path of two slashes is kept apart from an authority. -/
def front (u : Url) : String :=
  let gap := if u.authority = none && startsWith ['/', '/'] u.path.toList then "/." else ""
  u.scheme ++ ":" ++ marked "//" u.authority ++ gap ++ u.path ++ marked "?" u.query

/-- The text of a link. -/
def text (u : Url) : String := u.front ++ marked "#" u.fragment

/-- Blanks within a link are passed over. -/
def isSkipped (c : Char) : Bool := c = '\t' || c = '\n' || c = '\r'

/-- The text of a fragment. -/
def fragmentText (cs : List Char) : String :=
  String.ofList (percentEncode inFragment (cs.filter fun c => !isSkipped c))

/-- The link with another fragment. -/
def withFragment (u : Url) (fragment : String) : Url :=
  { u with fragment := some (fragmentText fragment.toList) }

/-! ### Schemes -/

/-- The kinds of schemes. -/
inductive Kind where
  | file | known | other
deriving DecidableEq, Inhabited, Repr

/-- The kind of a scheme. -/
def kindOf (scheme : String) : Kind :=
  if scheme = "file" then .file
  else if ["http", "https", "ws", "wss", "ftp"].contains scheme then .known
  else .other

/-- The port that goes without saying. -/
def usualPort (scheme : String) : Option Nat :=
  match scheme with
  | "http" | "ws" => some 80
  | "https" | "wss" => some 443
  | "ftp" => some 21
  | _ => none

/-- Whether a character may stand in a scheme. -/
def isSchemeChar (c : Char) : Bool := c.isAlphanum || c = '+' || c = '-' || c = '.'

/-- The scheme at the start, and what follows its colon. -/
def scheme? (cs : List Char) : Option (String × List Char) :=
  let word := cs.takeWhile isSchemeChar
  match word, cs.drop word.length with
  | c :: _, ':' :: rest =>
    if c.isAlpha then some (String.ofList (word.map Char.toLower), rest) else none
  | _, _ => none

/-- Whether a backslash counts as a slash. -/
def Kind.isSlash (kind : Kind) (c : Char) : Bool := c = '/' || (c = '\\' && kind ≠ .other)

/-! ### Paths -/

/-- The segments of a path, each with whether a slash follows. -/
def segments (kind : Kind) : List Char → List Char → List (List Char × Bool)
  | [], acc => [(acc.reverse, false)]
  | c :: cs, acc =>
    if kind.isSlash c then (acc.reverse, true) :: segments kind cs []
    else segments kind cs (c :: acc)

/-- A letter and a colon or bar: the name of a drive. -/
def isDrive (cs : List Char) : Bool :=
  match cs with
  | [c, d] => c.isAlpha && (d = ':' || d = '|')
  | _ => false

/-- Whether a path starts with a drive. -/
def startsWithDrive (cs : List Char) : Bool :=
  match cs with
  | s :: c :: d :: rest =>
    ['/', '\\', '?', '#'].contains s && isDrive [c, d]
      && (rest.isEmpty || ['/', '\\', '?', '#'].contains (rest.headD ' '))
  | _ => false

/-- What stands behind the last slash. -/
def lastSegment (path : List Char) : List Char := (path.reverse.takeWhile (· ≠ '/')).reverse

/-- A path without its last segment; a drive stays. -/
def popSegment (kind : Kind) (path : List Char) : List Char :=
  let last := lastSegment path
  if kind = .file && isDrive last && last.getLast? = some ':' then path
  else path.take (path.length - last.length)

/-- Goes up from a path that ends in a slash. -/
def goUp (kind : Kind) (path : List Char) : List Char :=
  let shorter := path.dropLast
  let before := lastSegment shorter
  let path :=
    if path.getLast? = some '/' && shorter.contains '/' && !startsWithDrive ('/' :: before)
    then shorter else path
  popSegment kind path

/-- The text with a slash at its end. -/
def slashed (path : List Char) : List Char :=
  if path.getLast? = some '/' then path else path ++ ['/']

/-- A dot, which may be encoded. -/
def dots : List (List Char) := [['.'], "%2e".toList, "%2E".toList]

/-- Two dots. -/
def doubleDots : List (List Char) := dots.flatMap fun a => dots.map (a ++ ·)

/-- Goes along one segment. -/
def walk (kind : Kind) (path : List Char) (segment : List Char × Bool) : List Char :=
  let (name, hasSlash) := segment
  let name := percentEncode inPath name
  if doubleDots.contains name then
    let path := goUp kind path
    if hasSlash then slashed path else path
  else if dots.contains name then slashed path
  else
    path ++ name ++ (if hasSlash then ['/'] else [])

/-- A path without needless slashes at its start, for files. -/
def settled (kind : Kind) (path : List Char) : String :=
  String.ofList (if kind = .file then '/' :: path.dropWhile (· = '/') else path)

/-- The path from a start on. -/
def pathFrom (kind : Kind) (start cs : List Char) : String :=
  settled kind ((segments kind cs []).foldl (walk kind) start)

/-! ### The parts behind the path -/

/-- Cuts a text in front of a query or fragment. -/
def cutTail (cs : List Char) : List Char × List Char :=
  let head := cs.takeWhile fun c => c ≠ '?' && c ≠ '#'
  (head, cs.drop head.length)

/-- Adds the query and the fragment. -/
def withTail (u : Url) (tail : List Char) : Url :=
  let set := if kindOf u.scheme = .other then inQuery else inSpecialQuery
  match tail with
  | '?' :: cs =>
    let query := cs.takeWhile (· ≠ '#')
    let u := { u with query := some (String.ofList (percentEncode set query)) }
    match cs.drop query.length with
    | _ :: fragment => { u with fragment := some (fragmentText fragment) }
    | [] => u
  | '#' :: fragment => { u with fragment := some (fragmentText fragment) }
  | _ => u

/-! ### Authorities -/

/-- The text of a user and password, with the sign behind them. -/
def userInfo (cs : List Char) : String :=
  let user := cs.takeWhile (· ≠ ':')
  let encoded (cs : List Char) : String := String.ofList (percentEncode inUserInfo cs)
  match cs.drop (user.length + 1) with
  | [] => if user.isEmpty then "" else encoded user ++ "@"
  | password => encoded user ++ ":" ++ encoded password ++ "@"

/-- What stands behind the last `@`, and what stands before it. -/
def cutUser (cs : List Char) : Option (List Char) × List Char :=
  if cs.contains '@' then
    let host := (cs.reverse.takeWhile (· ≠ '@')).reverse
    (some (cs.take (cs.length - host.length - 1)), host)
  else (none, cs)

/-- Cuts a text at the first colon outside brackets. -/
def cutPort : List Char → Bool → List Char × Option (List Char)
  | [], _ => ([], none)
  | ':' :: rest, false => ([], some rest)
  | c :: rest, inside =>
    let inside := if c = '[' then true else if c = ']' then false else inside
    let (host, port) := cutPort rest inside
    (c :: host, port)

/-- The text of a port, unless it goes without saying. -/
def portText (scheme : String) (digits : List Char) : Except LinkError String := do
  if digits.isEmpty then return ""
  if !digits.all (fun c => '0' ≤ c && c ≤ '9') then throw .port
  let port := (numberIn? 10 digits).getD 0
  if port > 65535 then throw .port
  return if some port = usualPort scheme then "" else ":" ++ toString port

/-- The text of an authority.  A host is missed behind the sign of a user that has no name, unless
the link ends there. -/
def authorityText (scheme : String) (cs : List Char) (endsLink : Bool) :
    Except LinkError String := do
  let kind := kindOf scheme
  let (user, rest) := cutUser cs
  if user = some [] && rest.isEmpty && !endsLink then throw .emptyHost
  let info := (user.map userInfo).getD ""
  let (host, port) := cutPort rest false
  if kind = .known && host.isEmpty then throw .emptyHost
  let hostText ← if kind = .known then knownHost host else opaqueHost host
  if hostText.isEmpty && port.isSome then throw .emptyHost
  let port ← portText scheme (port.getD [])
  if hostText.isEmpty && !info.isEmpty then throw .emptyHost
  return info ++ hostText ++ port

/-! ### Reading -/

/-- A link behind the two slashes of its authority. -/
def behindSlashes (scheme : String) (cs : List Char) : Except LinkError Url := do
  let kind := kindOf scheme
  let authority := cs.takeWhile fun c => !kind.isSlash c && c ≠ '?' && c ≠ '#'
  let (path, tail) := cutTail (cs.drop authority.length)
  let authority ← authorityText scheme authority (path.isEmpty && tail.isEmpty)
  let path :=
    if kind = .known then
      pathFrom kind ['/'] (match path with
        | c :: rest => if kind.isSlash c then rest else path
        | [] => [])
    else if path.isEmpty then "" else pathFrom kind [] path
  return withTail { scheme, authority := some authority, path } tail

/-- A link to a file. -/
def fileUrl (cs : List Char) : Except LinkError Url := do
  let local_ (host : String) (start path tail : List Char) : Url :=
    withTail { scheme := "file", authority := some host, path := pathFrom .file start path } tail
  let (path, tail) := cutTail cs
  match path with
  | a :: b :: rest =>
    if Kind.file.isSlash a && Kind.file.isSlash b then
      let host := rest.takeWhile fun c => !Kind.file.isSlash c
      -- a drive in the place of the host is the start of the path
      if isDrive host then return local_ "" ['/'] rest tail
      let hostText ← if host.isEmpty then pure "" else knownHost host
      let path := (rest.drop (host.length + 1))
      let hasDrive := isDrive (path.takeWhile fun c => !Kind.file.isSlash c)
      -- the machine itself is not named, nor is any other in front of a drive
      return local_ (if hostText = "localhost" || hasDrive then "" else hostText) ['/'] path tail
    else if Kind.file.isSlash a then return local_ "" ['/'] (b :: rest) tail
    else return local_ "" ['/'] path tail
  | _ =>
    return local_ "" ['/'] (path.dropWhile Kind.file.isSlash) tail

/-- A link with a scheme that is not well known. -/
def otherUrl (scheme : String) (cs : List Char) : Except LinkError Url :=
  match cs with
  | '/' :: '/' :: rest => behindSlashes scheme rest
  | '/' :: rest =>
    let (path, tail) := cutTail rest
    .ok (withTail { scheme, authority := none, path := pathFrom .other ['/'] path } tail)
  | _ =>
    let (path, tail) := cutTail cs
    -- such a path is opaque: no segment of it is followed
    let path := String.ofList (percentEncode isControl path)
    .ok (withTail { scheme, authority := none, path } tail)

/-- A text without control characters and spaces at its ends. -/
def trimmed (cs : List Char) : List Char :=
  let isEdge (c : Char) : Bool := c.toNat ≤ 32
  ((cs.dropWhile isEdge).reverse.dropWhile isEdge).reverse

/-- The link that a text is. -/
def parse (input : String) : Except LinkError Url :=
  match scheme? ((trimmed input.toList).filter fun c => !isSkipped c) with
  | none => .error .noScheme
  | some (scheme, rest) =>
    match kindOf scheme with
    | .file => fileUrl rest
    | .known => behindSlashes scheme (rest.dropWhile Kind.known.isSlash)
    | .other => otherUrl scheme rest

end Url

end Playground.Link
