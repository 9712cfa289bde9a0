/-!
Why a text is no URL.
-/

namespace Preflight.Url

inductive Fault where
  | relative
  | emptyHost
  | badPort
  | badIpv4
  | badIpv6
  | badHostChar
  | badDomain
  deriving DecidableEq, Repr

def Fault.message : Fault → String
  | .relative => "relative URL without a base"
  | .emptyHost => "empty host"
  | .badPort => "invalid port number"
  | .badIpv4 => "invalid IPv4 address"
  | .badIpv6 => "invalid IPv6 address"
  | .badHostChar => "invalid domain character"
  | .badDomain => "invalid international domain name"

end Preflight.Url
