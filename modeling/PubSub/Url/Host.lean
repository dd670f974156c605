import PubSub.Url.Defect
import PubSub.Url.Domain
import PubSub.Url.Ip

/-!
# Hosts

The host of a URL is a name or an address. Where the scheme has its own notion of hosts, the name is kept as it is
written, percent-encoded; for the schemes that every reader of URLs knows it is a domain name, and one that ends in a
number is an address.

* `Host.ofOpaque`, `Host.ofDomain`: the two readings.
* `Host.text`: how a host is written.
-/

namespace PubSub.Url

/-- The host of a URL. -/
inductive Host
  | name (text : String)
  | ipv4 (address : Ipv4)
  | ipv6 (address : Ipv6)
  deriving DecidableEq

namespace Host

/-- How a host is written. -/
def text : Host → String
  | .name s => s
  | .ipv4 a => a.text
  | .ipv6 a => "[" ++ a.text ++ "]"

/-- An address between brackets. -/
def ofBracketed (cs : List Char) : Except Defect Host :=
  match cs.reverse with
  | ']' :: inner =>
    match Ipv6.ofText? inner.reverse with
    | some a => .ok (.ipv6 a)
    | none => .error .invalidIpv6
  | _ => .error .invalidIpv6

/-- The characters that a name kept as it is may not hold. -/
def isForbidden (c : Char) : Bool :=
  ['\x00', '\t', '\n', '\r', ' ', '#', '/', ':', '<', '>', '?', '@', '[', '\\', ']', '^', '|'].contains c

/-- The host written by `cs` where names are kept as they are. -/
def ofOpaque (cs : List Char) : Except Defect Host :=
  match cs with
  | '[' :: rest => ofBracketed rest
  | _ =>
    if cs.any isForbidden then .error .invalidDomainCharacter
    else .ok (.name (String.ofList (percentEncode isControlOrHigh cs)))

/-- The host written by `cs` where names are domain names. -/
def ofDomain (cs : List Char) : Except Defect Host :=
  match cs with
  | '[' :: rest => ofBracketed rest
  | _ =>
    match Domain.toAscii? (percentDecode (bytesOf cs)) with
    | none => .error .invalidDomainName
    | some [] => .error .emptyHost
    | some domain =>
      if Ipv4.endsInNumber domain then
        match Ipv4.ofHost? domain with
        | some a => .ok (.ipv4 a)
        | none => .error .invalidIpv4
      else .ok (.name (String.ofList domain))

end Host
end PubSub.Url
