/-! The reasons for which a text is not a URL, or a URL cannot be changed, with their wording. -/

namespace ServiceCall.Url

/-- Why a URL, or a part given for one, was refused. -/
inductive Problem where
  | emptyHost
  | invalidDomain
  | invalidPort
  | invalidIpv4
  | invalidIpv6
  | invalidHostCharacter
  | noScheme
  | noHostToSet
  deriving DecidableEq, Repr

/-- The wording of a refusal. -/
def Problem.message : Problem → String
  | .emptyHost => "empty host"
  | .invalidDomain => "invalid international domain name"
  | .invalidPort => "invalid port number"
  | .invalidIpv4 => "invalid IPv4 address"
  | .invalidIpv6 => "invalid IPv6 address"
  | .invalidHostCharacter => "invalid domain character"
  | .noScheme => "relative URL without a base"
  | .noHostToSet => "a cannot-be-a-base URL doesn’t have a host to set"

end ServiceCall.Url
