import PubSub.Error
import PubSub.Message
import PubSub.Notice
import PubSub.Text.Blank
import PubSub.Url.Library

/-!
# Transport addresses

Where messages go and come from is told by a URL:

    memq://[key]
    udpm://239.255.76.67:7667?ttl=1&transmit_only=false&mtu=1400
    file:///var/log/session.log?mode=r&speed=2&start_timestamp=1700000000000000

* `Address.parseBy`: reads such a URL with the help of a library; a blank one stands for the default.
* `Address.applyOptions`: how options change settings: each in turn, up to the first with a bad value.
* `Address.parse`: the same with the library that is used.
-/

namespace PubSub

/-- What is done with a journal file. -/
inductive Journal.Mode
  /-- Read the records. -/
  | read
  /-- Start afresh and write records. -/
  | write
  /-- Keep the records and write further ones. -/
  | append
  deriving DecidableEq, Inhabited

/-- The letter of a mode. -/
def Journal.Mode.letter : Journal.Mode → String
  | .read => "r"
  | .write => "w"
  | .append => "a"

/-- The mode of a letter. -/
def Journal.Mode.ofLetter? : String → Option Journal.Mode
  | "r" => some .read
  | "w" => some .write
  | "a" => some .append
  | _ => none

/-- The name of a mode, as notices show it. -/
def Journal.Mode.name : Journal.Mode → String
  | .read => "Read"
  | .write => "Write"
  | .append => "Append"

/-- Settings of a multicast transport (`MulticastConfig`). -/
structure MulticastAddress where
  /-- The address of the group. -/
  group : Url.Ipv4
  /-- The port of the group. -/
  port : Nat
  /-- How many routers a datagram may pass; 0 keeps it on this host. -/
  ttl : Nat := 0
  /-- Whether nothing is received. -/
  transmitOnly : Bool := false
  /-- The bytes that the receiving socket may hold back. -/
  receiveBuffer : Option Nat := none
  /-- The longest datagram sent; a longer message is split. -/
  datagramSize : Nat
  /-- The longest wait between two fragments, in milliseconds. -/
  fragmentTimeout : Nat

/-- Settings of a journal transport (`FileConfig`). -/
structure FileAddress where
  /-- The name of the file. -/
  path : ByteArray
  /-- What is done with the file. -/
  mode : Journal.Mode := .read
  /-- How fast a replay runs; with zero or less it waits for nothing. -/
  speed : Float := 0
  /-- Where a replay starts. -/
  start : Option Timestamp := none

/-- The address of a transport (`ProviderConfig`). -/
inductive Address
  /-- The bus of the given key. -/
  | bus (key : String)
  | multicast (settings : MulticastAddress)
  | file (settings : FileAddress)

namespace Address

/-- The address used where none is given. -/
def default : String := "udpm://239.255.76.67:7667?ttl=0"

/-- The port of a multicast group where none is given. -/
def defaultPort : Nat := 7667

/-- The longest datagram. -/
def maxDatagramSize : Nat := 65507

/-- The shortest limit on datagrams that leaves room for a header, a channel name and data. -/
def minDatagramSize : Nat := 128

/-- The longest wait between two fragments where none is given, in milliseconds. -/
def defaultFragmentTimeout : Nat := 1000

/-- The scheme of an address (`ProviderConfig.scheme`). -/
def scheme : Address → String
  | .bus _ => "memq"
  | .multicast _ => "udpm"
  | .file _ => "file"

/-! ## Options -/

/-- Applies options in order. `change` gives the settings after an option, an error for a bad value and nothing for
an option that it does not know; the names of these are given back. -/
def applyOptions {σ : Type} (change : σ → String → String → Option (Except Error σ)) :
    σ → List (String × String) → Except Error σ × List String
  | s, [] => (.ok s, [])
  | s, (key, value) :: rest =>
    match change s key value with
    | none =>
      let (result, ignored) := applyOptions change s rest
      (result, key :: ignored)
    | some (.error e) => (.error e, [])
    | some (.ok t) => applyOptions change t rest

/-- The error of a value that cannot be read. -/
def badValue (key value : String) : Error := .invalidArgument (.optionValue key value)

/-- Makes a change with a value that may not be readable. -/
def withValue {σ α : Type} (key value : String) (read : Option α) (set : α → σ) : Option (Except Error σ) :=
  match read with
  | none => some (.error (badValue key value))
  | some a => some (.ok (set a))

/-- Reads a truth value (`parse_bool`). -/
def bool? (value : String) : Option Bool :=
  if ["true", "1", "yes", ""].contains value then some true
  else if ["false", "0", "no"].contains value then some false
  else none

/-- The largest number of 64 bits. -/
def maxWord : Nat := 0xFFFFFFFFFFFFFFFF

/-- The options of a multicast address (`parse_udpm`). -/
def changeMulticast (s : MulticastAddress) (key value : String) : Option (Except Error MulticastAddress) :=
  match key with
  | "ttl" => withValue key value (Text.nat? 255 value) fun n => { s with ttl := n }
  | "transmit_only" => withValue key value (bool? value) fun b => { s with transmitOnly := b }
  | "recv_buf_size" => withValue key value (Text.nat? maxWord value) fun n => { s with receiveBuffer := some n }
  | "mtu" =>
    match Text.nat? maxWord value with
    | none => some (.error (badValue key value))
    | some n =>
      if minDatagramSize ≤ n ∧ n ≤ maxDatagramSize then some (.ok { s with datagramSize := n })
      else some (.error (.invalidArgument (.datagramSize n minDatagramSize maxDatagramSize)))
  | "frag_timeout_ms" => withValue key value (Text.nat? maxWord value) fun n => { s with fragmentTimeout := n }
  | _ => none

/-- The options of a journal address (`parse_file`). -/
def changeFile (s : FileAddress) (key value : String) : Option (Except Error FileAddress) :=
  match key with
  | "mode" =>
    match Journal.Mode.ofLetter? value with
    | none => some (.error (.invalidArgument (.journalMode value)))
    | some mode => some (.ok { s with mode })
  | "speed" => withValue key value (Text.float? value) fun x => { s with speed := x }
  | "start_timestamp" =>
    withValue key value (Text.int? Int64.minValue.toInt Int64.maxValue.toInt value) fun n =>
      { s with start := some (Int64.ofInt n) }
  | _ => none

/-! ## The addresses of each scheme -/

/-- What is reported of options that a scheme does not know. -/
def ignoredNotices (scheme : String) (keys : List String) : List Notice :=
  keys.map fun key => .warn (scheme ++ ": ignoring unknown option " ++ Text.quoted key)

section Library

variable (lib : Url.Library)

/-- The group that the host of a multicast URL names (in `parse_udpm`). -/
def readGroup (u : lib.Parsed) : Except Error Url.Ipv4 :=
  match (lib.host u).getD "" with
  | "" => .error (.invalidArgument .noGroup)
  | host =>
    match Url.Ipv4.ofDotted? host with
    | none => .error (.invalidArgument (.groupNotAddress host))
    | some group =>
      if group.isMulticast then .ok group else .error (.invalidArgument (.groupNotMulticast group.text))

/-- The name that a journal URL gives to a file, even if it is empty. A first segment behind two slashes belongs to a
relative name. -/
def givenPath (u : lib.Parsed) : Except Error ByteArray :=
  match (lib.host u).getD "" with
  | "" =>
    match lib.filePath u with
    | none => .error (.invalidArgument (.noUsablePath (lib.text u)))
    | some path => .ok path
  | host => .ok (host ++ lib.path u).toUTF8

/-- The file that a journal URL names (in `parse_file`). -/
def readPath (u : lib.Parsed) : Except Error ByteArray :=
  match givenPath lib u with
  | .error e => .error e
  | .ok path => if path.isEmpty then .error (.invalidArgument .noPath) else .ok path

/-- The settings of a multicast address without options. -/
def multicastDefault (u : lib.Parsed) (group : Url.Ipv4) : MulticastAddress where
  group
  port := (lib.port u).getD defaultPort
  datagramSize := maxDatagramSize
  fragmentTimeout := defaultFragmentTimeout

/-- The address that a URL tells, and what is reported on the way: the operations `parse_memq`, `parse_udpm` and
`parse_file`. -/
def ofUrl (u : lib.Parsed) : Except Error Address × List Notice :=
  match lib.scheme u with
  | "memq" => (.ok (.bus ((lib.host u).getD "")), ignoredNotices "memq" ((lib.queryPairs u).map Prod.fst))
  | "udpm" =>
    match readGroup lib u with
    | .error e => (.error e, [])
    | .ok group =>
      let (result, ignored) := applyOptions changeMulticast (multicastDefault lib u group) (lib.queryPairs u)
      (result.map .multicast, ignoredNotices "udpm" ignored)
  | "file" =>
    match readPath lib u with
    | .error e => (.error e, [])
    | .ok path =>
      let (result, ignored) := applyOptions changeFile { path } (lib.queryPairs u)
      (result.map .file, ignoredNotices "file" ignored)
  | other => (.error (.invalidArgument (.scheme other)), [])

/-- Reads a text that is not blank. -/
def parseText (text : String) : Except Error Address × List Notice :=
  match lib.parse text with
  | .error defect => (.error (.invalidArgument (.url text defect)), [])
  | .ok u => ofUrl lib u

/-- The text that is read where none is given: `preferred` unless it is missing or blank. -/
def defaultText (preferred : Option String) : String :=
  match preferred.map Text.trim with
  | none | some "" => default
  | some text => text

/-- The text that is read where `text` is given: a blank one stands for the default. -/
def chosenText (preferred : Option String) (text : String) : String :=
  match Text.trim text with
  | "" => defaultText preferred
  | text => text

/-- Reads the address that `text` tells: the operation `parse`. -/
def parseBy (preferred : Option String) (text : String) : Except Error Address × List Notice :=
  parseText lib (chosenText preferred text)

/-- Reads the default address: the operation `from_env`. -/
def parseDefaultBy (preferred : Option String) : Except Error Address × List Notice :=
  parseText lib (defaultText preferred)

end Library

/-- Reads the address that `text` tells (`ProviderConfig.parse`). -/
def parse (preferred : Option String) (text : String) : Except Error Address × List Notice :=
  parseBy .standard preferred text

/-- Reads the default address (`ProviderConfig.from_env`). -/
def parseDefault (preferred : Option String) : Except Error Address × List Notice := parseDefaultBy .standard preferred

end Address
end PubSub
