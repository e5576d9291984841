/-!
# Refused URLs

Why a text is no URL, with the wording of each cause.
-/

namespace BridgeWatch

/-- Why a text is no URL. -/
inductive UrlFault
  /-- A host is needed and there is none. -/
  | emptyHost
  /-- A domain name that cannot be one. -/
  | invalidDomain
  /-- A character that a host must not hold. -/
  | invalidHostCharacter
  | invalidPort
  | invalidIpv4
  | invalidIpv6
  /-- A text without a scheme. -/
  | relativeWithoutBase
  /-- A reference to a base that has no hierarchy of its own. -/
  | relativeToFlatBase
  deriving DecidableEq, Repr

/-- The wording of a refused URL. -/
def UrlFault.message : UrlFault → String
  | .emptyHost => "empty host"
  | .invalidDomain => "invalid international domain name"
  | .invalidHostCharacter => "invalid domain character"
  | .invalidPort => "invalid port number"
  | .invalidIpv4 => "invalid IPv4 address"
  | .invalidIpv6 => "invalid IPv6 address"
  | .relativeWithoutBase => "relative URL without a base"
  | .relativeToFlatBase => "relative URL with a cannot-be-a-base base"

end BridgeWatch
