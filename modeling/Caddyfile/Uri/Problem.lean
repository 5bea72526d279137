/-!
# What is wrong with an address
-/

namespace Caddyfile.Uri

inductive Problem where
  | emptyHost
  | badName
  | badPort
  | badIpv4
  | badIpv6
  | badCharacter
  /-- Without a scheme the address would need another one to stand beside. -/
  | relative
deriving DecidableEq, Repr

def Problem.message : Problem → String
  | emptyHost => "empty host"
  | badName => "invalid international domain name"
  | badPort => "invalid port number"
  | badIpv4 => "invalid IPv4 address"
  | badIpv6 => "invalid IPv6 address"
  | badCharacter => "invalid domain character"
  | relative => "relative URL without a base"

end Caddyfile.Uri
