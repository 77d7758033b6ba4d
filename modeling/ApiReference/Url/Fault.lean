/-!
What can be wrong with the text of a web address.
-/

namespace ApiReference

inductive UrlFault where
  | noScheme
  | emptyHost
  /-- What follows the host is no number of a service. -/
  | service
  /-- The host is a name that no domain has. -/
  | domain
  /-- The host has a character that a host outside the web cannot have. -/
  | hostCharacter
  | ipv4
  | ipv6
  /-- The text is an address, but of another scheme. -/
  | otherScheme (scheme : String)
  deriving DecidableEq, Inhabited

def UrlFault.message : UrlFault → String
  | .noScheme => "relative URL without a base"
  | .emptyHost => "empty host"
  | .service => "invalid port number"
  | .domain => "invalid international domain name"
  | .hostCharacter => "invalid domain character"
  | .ipv4 => "invalid IPv4 address"
  | .ipv6 => "invalid IPv6 address"
  | .otherScheme scheme => s!"unsupported scheme '{scheme}'"

end ApiReference
