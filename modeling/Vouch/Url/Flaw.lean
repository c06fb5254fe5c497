/-!
Why a text is not a URL.
-/

namespace Vouch.Url

inductive Flaw where
  | noScheme
  | emptyHost
  | badPort
  | badIpv4
  | badIpv6
  /-- The host cannot be written in ASCII, or holds a character that no domain may have. -/
  | badDomain
  /-- A host that is kept as it is holds a character that stands for something else in a URL. -/
  | badHostCharacter
  deriving DecidableEq, Repr

def Flaw.message : Flaw → String
  | .noScheme => "relative URL without a base"
  | .emptyHost => "empty host"
  | .badPort => "invalid port number"
  | .badIpv4 => "invalid IPv4 address"
  | .badIpv6 => "invalid IPv6 address"
  | .badDomain => "invalid international domain name"
  | .badHostCharacter => "invalid domain character"

end Vouch.Url
