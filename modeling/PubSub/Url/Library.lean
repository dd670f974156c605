import PubSub.Url.Basic

/-!
# Libraries of URLs

What addresses ask of a library of URLs: to read a text, and to tell of a URL what its parts are.

* `Url.Library`: such a library.
* `Url.Library.standard`: the one that is used.
-/

namespace PubSub.Url

/-- A library of URLs. -/
structure Library where
  /-- URLs that have been read. -/
  Parsed : Type
  /-- The operation `parse`: the URL that a text writes, or why it writes none. -/
  parse : String → Except Defect Parsed
  /-- The operation `scheme`. -/
  scheme : Parsed → String
  /-- The operation `host_str`: the host, if there is one. -/
  host : Parsed → Option String
  /-- The operation `port`: the port, if one is written. -/
  port : Parsed → Option Nat
  /-- The operation `path`: the path, percent-encoded. -/
  path : Parsed → String
  /-- The operation `query_pairs`: the options, decoded, in order. -/
  queryPairs : Parsed → List (String × String)
  /-- The operation `to_file_path`: the name of the file that the path stands for, if it stands for one. -/
  filePath : Parsed → Option ByteArray
  /-- The URL as it is shown. -/
  text : Parsed → String

/-- A URL as it is shown. -/
def text (u : Url) : String :=
  let host := u.host.elim "" Host.text
  let port := u.port.elim "" fun n => ":" ++ toString n
  let query := u.query.elim "" fun q => "?" ++ String.ofList q
  u.scheme ++ "://" ++ host ++ port ++ String.ofList u.path ++ query

/-- The library that is used. A URL without a host stands for a file. -/
def Library.standard : Library where
  Parsed := Url
  parse := Url.parse
  scheme := Url.scheme
  host u := u.host.map Host.text
  port := Url.port
  path u := String.ofList u.path
  queryPairs := Url.queryPairs
  filePath u := if u.host = none then some (Path.fileBytes u.path).toByteArray else none
  text := Url.text

end PubSub.Url
