/-!
# Faults of URLs
-/

namespace SchemaModel.Url

inductive Fault where
  /-- no scheme in front -/
  | relative
  | emptyHost
  /-- a name that cannot be written in ASCII, or with a forbidden character -/
  | domainName
  | port
  | ipv4
  | ipv6
  /-- a forbidden character in a host that is no domain name -/
  | hostCharacter
  deriving DecidableEq, Repr

def Fault.message : Fault → String
  | relative => "relative URL without a base"
  | emptyHost => "empty host"
  | domainName => "invalid international domain name"
  | port => "invalid port number"
  | ipv4 => "invalid IPv4 address"
  | ipv6 => "invalid IPv6 address"
  | hostCharacter => "invalid domain character"

end SchemaModel.Url
