import PubSub.Text.Quoted
import PubSub.Url.Defect

/-!
# Errors

Everything that can go wrong, as causes, with the wording of each in one place.

* `Error.message`: the text of an error.
* `Error.isSticky`: the errors that a transport goes on reporting once they have occurred.
-/

namespace PubSub

/-- What an operation of the file store or of the network reports. -/
inductive OsError
  | noEntry
  | notDirectory
  | isDirectory
  | noSpace
  | nameTooLong
  /-- The name of a file holds a zero byte. -/
  | zeroInName
  /-- An error known by its text alone. -/
  | other (text : String)
  deriving DecidableEq

/-- The wording of an error of the file store or the network. -/
def OsError.message : OsError → String
  | .noEntry => "No such file or directory (os error 2)"
  | .notDirectory => "Not a directory (os error 20)"
  | .isDirectory => "Is a directory (os error 21)"
  | .noSpace => "No space left on device (os error 28)"
  | .nameTooLong => "File name too long (os error 36)"
  | .zeroInName => "file name contained an unexpected NUL byte"
  | .other text => text

/-- Why an argument was refused. -/
inductive Refusal
  /-- The text is not a URL. -/
  | url (text : String) (defect : Url.Defect)
  /-- No transport has this scheme. -/
  | scheme (name : String)
  /-- A multicast URL without a host. -/
  | noGroup
  /-- The host of a multicast URL is not an IPv4 address. -/
  | groupNotAddress (host : String)
  /-- The address of a multicast URL is not a multicast address. -/
  | groupNotMulticast (address : String)
  /-- A journal URL that stands for no file. -/
  | noUsablePath (shown : String)
  /-- A journal URL without a path. -/
  | noPath
  /-- The value of a URL option cannot be read. -/
  | optionValue (key value : String)
  /-- The datagram size limit is outside its range. -/
  | datagramSize (given least most : Nat)
  /-- The journal mode is none of `r`, `w` and `a`. -/
  | journalMode (value : String)
  /-- The text is not a channel pattern. -/
  | pattern (text : String)
  /-- A message on no channel. -/
  | noChannel
  /-- The channel name has a length outside its range. -/
  | channelLength (given most : Nat)
  /-- The payload is too long for a journal record. -/
  | payloadLength
  /-- The payload is too long for one multicast message. -/
  | fragmentCount (payload most : Nat)
  /-- The subscription is not one of this broker's. -/
  | notRegistered (id : Nat)
  /-- The time to wait is negative. -/
  | timeout (milliseconds : Int)
  /-- A refusal known by its text alone. -/
  | other (text : String)
  deriving DecidableEq

/-- The wording of a refusal. -/
def Refusal.message : Refusal → String
  | .url text defect => "url " ++ Text.quoted text ++ ": " ++ defect.message
  | .scheme name => "unknown provider scheme " ++ Text.quoted name
  | .noGroup => "udpm url needs a multicast group"
  | .groupNotAddress host => "udpm group " ++ Text.quoted host ++ " is not an IPv4 address"
  | .groupNotMulticast address => address ++ " is not a multicast address"
  | .noUsablePath shown => "file url " ++ shown ++ " has no usable path"
  | .noPath => "file url needs a path"
  | .optionValue key value => "invalid value " ++ Text.quoted value ++ " for " ++ key
  | .datagramSize given least most => s!"mtu {given} outside {least}..={most}"
  | .journalMode value => "invalid file mode " ++ Text.quoted value
  | .pattern text => "channel pattern " ++ Text.quoted text
  | .noChannel => "channel must not be empty"
  | .channelLength given most => s!"channel length {given} outside 1..={most}"
  | .payloadLength => "payload exceeds i32::MAX bytes"
  | .fragmentCount payload most => s!"{payload} byte payload needs more than {most} fragments"
  | .notRegistered id => s!"subscription {id} is not registered with this broker"
  | .timeout milliseconds => s!"negative timeout {milliseconds}ms"
  | .other text => text

/-- Why bytes are not a record header. -/
inductive Corruption
  | missingSyncWord
  | channelLength
  | payloadLength
  /-- A corruption known by its text alone. -/
  | other (text : String)
  deriving DecidableEq

/-- The wording of a corruption. -/
def Corruption.message : Corruption → String
  | .missingSyncWord => "missing sync word"
  | .channelLength => "channel length out of range"
  | .payloadLength => "negative payload length"
  | .other text => text

/-- Why an operation failed. -/
inductive Error
  | invalidArgument (refusal : Refusal)
  /-- A dispatch of the same broker is in progress. -/
  | busy
  | closed
  /-- The journal is only read. -/
  | readOnly
  /-- The journal is only written. -/
  | writeOnly
  /-- A replay has come to its end. -/
  | endOfLog
  | corrupt (corruption : Corruption)
  | network (cause : OsError)
  | io (cause : OsError)
  deriving DecidableEq

namespace Error

/-- The wording of an error. -/
def message : Error → String
  | .invalidArgument refusal => "invalid argument: " ++ refusal.message
  | .busy => "dispatch already in progress"
  | .closed => "broker closed"
  | .readOnly => "provider is read-only"
  | .writeOnly => "provider is write-only"
  | .endOfLog => "end of log"
  | .corrupt corruption => "corrupt record: " ++ corruption.message
  | .network cause => "network unavailable: " ++ cause.message
  | .io cause => "io error: " ++ cause.message

/-- Whether a transport that has reported the error once reports it on every later receive (`is_sticky`). -/
def isSticky : Error → Bool
  | .endOfLog | .closed | .writeOnly | .network _ => true
  | _ => false

end Error
end PubSub
