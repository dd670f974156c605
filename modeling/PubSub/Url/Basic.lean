import PubSub.Url.Host
import PubSub.Url.Path

/-!
# URLs

A URL is read into its scheme, host, port, path and query. What the parts mean is for the scheme to say, but some
schemes have rules for the reading itself: `file` has no port and may name a drive, and `http`, `https`, `ws`, `wss`
and `ftp` need a host, which is a domain name.

* `Url.parse`: reads a URL.
* `Url.queryPairs`: the options of a URL.
-/

namespace PubSub

/-- A URL, taken apart. -/
structure Url where
  /-- The scheme, in lower case. -/
  scheme : String
  /-- The host. -/
  host : Option Url.Host
  /-- The port, if one is written. -/
  port : Option Nat
  /-- The path, percent-encoded. -/
  path : List Char
  /-- What follows the question mark. -/
  query : Option (List Char)

namespace Url

/-- How the rest of a URL is read. -/
inductive Kind
  | file
  /-- The scheme needs a domain name. -/
  | network
  | other
  deriving DecidableEq

/-- The kind of a scheme. -/
def kindOf (scheme : String) : Kind :=
  if scheme = "file" then .file
  else if ["http", "https", "ws", "wss", "ftp"].contains scheme then .network
  else .other

/-- Whether a character belongs into a scheme. -/
def isSchemeChar (c : Char) : Bool := c.isAlphanum || c == '+' || c == '-' || c == '.'

/-- Splits off the scheme and its colon. -/
def splitScheme (cs : List Char) : Option (String × List Char) :=
  match cs with
  | c :: _ =>
    if c.isAlpha then
      let name := cs.takeWhile isSchemeChar
      match cs.drop name.length with
      | ':' :: rest => some (String.ofList (name.map Char.toLower), rest)
      | _ => none
    else none
  | [] => none

/-- Whether a character ends the part of a URL before the path. -/
def endsAuthority (kind : Kind) (c : Char) : Bool :=
  c == '/' || c == '?' || c == '#' || (kind != .other && c == '\\')

/-- The query of a text that may start with a question mark, without the fragment behind it. -/
def queryOf (cs : List Char) : Option (List Char) :=
  match cs with
  | '?' :: rest => some (rest.takeWhile (· ≠ '#'))
  | _ => none

/-- Splits a text into the path at its start and the query. -/
def splitPath (cs : List Char) : List Char × Option (List Char) :=
  let path := cs.takeWhile fun c => c ≠ '?' && c ≠ '#'
  (path, queryOf (cs.drop path.length))

/-- A port behind its colon: the number and what follows. No digits are no port. -/
def readPort (cs : List Char) : Except Defect (Option Nat × List Char) :=
  let digits := cs.takeWhile Text.isDigit
  let rest := cs.drop digits.length
  if 65535 < Text.digitsValue digits then .error .invalidPort
  else match rest with
    | c :: _ =>
      if c == '/' || c == '\\' || c == '?' || c == '#' then .ok (Text.digits? digits, rest) else .error .invalidPort
    | [] => .ok (Text.digits? digits, rest)

/-- The stretch of a text up to the end of a host: a colon ends it outside brackets. -/
def hostStretch (kind : Kind) : Bool → List Char → List Char
  | _, [] => []
  | inside, c :: rest =>
    if (c == ':' && !inside) || endsAuthority kind c then []
    else c :: hostStretch kind (if c == '[' then true else if c == ']' then false else inside) rest

/-- Whether user information leaves anything in the URL: a name or a password. -/
def isCredential (info : List Char) : Bool :=
  match info with
  | [] => false
  | [':'] => false
  | _ => true

/-- Splits off the user information, up to the last at sign before the host: whether there was any. -/
def splitUser (kind : Kind) (cs : List Char) : Except Defect (Bool × List Char) :=
  let authority := cs.takeWhile fun c => !endsAuthority kind c
  if authority.contains '@' then
    let host := (authority.reverse.takeWhile (· ≠ '@')).reverse
    let info := authority.take (authority.length - host.length - 1)
    let rest := cs.drop (info.length + 1)
    if info = [] then
      match rest with
      | c :: _ => if endsAuthority kind c then .error .emptyHost else .ok (false, rest)
      | [] => .ok (false, rest)
    else .ok (isCredential info, rest)
  else .ok (false, cs)

/-- Reads what follows the two slashes: user, host, port, path and query. -/
def readAuthority (scheme : String) (kind : Kind) (cs : List Char) : Except Defect Url := do
  let (credentials, cs) ← splitUser kind cs
  let stretch := hostStretch kind false cs
  let rest := cs.drop stretch.length
  if kind = .network ∧ stretch = [] then throw .emptyHost
  let host ← if kind = .other then Host.ofOpaque stretch else Host.ofDomain stretch
  let host := if host = .name "" then none else some host
  let (port, rest) ← match host, rest with
    | none, ':' :: _ => throw .emptyHost
    | _, ':' :: r => readPort r
    | _, r => pure (none, r)
  if host = none ∧ credentials then throw .emptyHost
  let (path, query) := splitPath rest
  return { scheme, host, port, path, query }

/-- Reads the rest of a `file` URL. -/
def readFile (cs : List Char) : Except Defect Url := do
  let slashed := cs.map fun c => if c = '\\' then '/' else c
  -- Backslashes are slashes up to the query.
  let head := slashed.takeWhile fun c => c ≠ '?' && c ≠ '#'
  let query := queryOf (cs.drop head.length)
  let make (host : Option Host) (p : Path.Segments) : Url :=
    { scheme := "file", host := if p.drive then none else host, port := none, path := Path.fileText p, query }
  match head with
  | '/' :: '/' :: rest =>
    let stretch := rest.takeWhile (· ≠ '/')
    if stretch = [] ∨ Path.isDrive stretch then return make none (Path.read true rest)
    else
      let host ← Host.ofDomain stretch
      let host := if host = .name "localhost" then none else some host
      return make host (Path.read true (rest.drop (stretch.length + 1)))
  | '/' :: rest => return make none (Path.read true rest)
  | rest => return make none (Path.read true rest)

/-- Reads a URL. Blanks and control characters around it, and tabs and line ends within it, are passed over. -/
def parse (text : String) : Except Defect Url :=
  let outer (c : Char) : Bool := c ≤ ' '
  let trimmed := ((text.toList.dropWhile outer).reverse.dropWhile outer).reverse
  let cs := trimmed.filter fun c => c ≠ '\t' && c ≠ '\n' && c ≠ '\r'
  match splitScheme cs with
  | none => .error .relativeWithoutBase
  | some (scheme, rest) =>
    match kindOf scheme with
    | .file => readFile rest
    | .network => readAuthority scheme .network (rest.dropWhile fun c => c == '/' || c == '\\')
    | .other =>
      match rest with
      | '/' :: '/' :: rest => readAuthority scheme .other rest
      | rest =>
        let (path, query) := splitPath rest
        .ok { scheme, host := none, port := none, path, query }

/-- The options of a URL, in order. -/
def queryPairs (u : Url) : List (String × String) :=
  match u.query with
  | none => []
  | some q => formPairs q

end Url
end PubSub
