/-!
# Why a text is not a URL

Each defect that stops the reading of a URL, with its wording.
-/

namespace PubSub.Url

/-- A reason why a text cannot be read as a URL. -/
inductive Defect
  /-- There is no scheme, so the text is relative to some other URL. -/
  | relativeWithoutBase
  /-- User information or a port without a host, or a missing host where the scheme needs one. -/
  | emptyHost
  /-- The port is not a number below 65536. -/
  | invalidPort
  /-- The host ends in a number and is not an IPv4 address. -/
  | invalidIpv4
  /-- The host starts with a bracket and is not an IPv6 address. -/
  | invalidIpv6
  /-- The host holds a character that no host may hold. -/
  | invalidDomainCharacter
  /-- The host is a domain name that cannot be written in ASCII. -/
  | invalidDomainName
  deriving DecidableEq

/-- The wording of a defect. -/
def Defect.message : Defect → String
  | .relativeWithoutBase => "relative URL without a base"
  | .emptyHost => "empty host"
  | .invalidPort => "invalid port number"
  | .invalidIpv4 => "invalid IPv4 address"
  | .invalidIpv6 => "invalid IPv6 address"
  | .invalidDomainCharacter => "invalid domain character"
  | .invalidDomainName => "invalid international domain name"

end PubSub.Url
