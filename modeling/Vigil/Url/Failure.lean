/-!
Why a text is no URL.
-/

namespace Vigil.Url

inductive Failure where
  | emptyHost
  | invalidIpv4
  | invalidIpv6
  /-- The name of the host has no ASCII form. -/
  | invalidName
  | invalidPort
  /-- A host of an unknown scheme holds a character that delimits. -/
  | invalidCharacter
deriving DecidableEq, Repr

def Failure.message : Failure → String
  | emptyHost => "empty host"
  | invalidIpv4 => "invalid IPv4 address"
  | invalidIpv6 => "invalid IPv6 address"
  | invalidName => "invalid international domain name"
  | invalidPort => "invalid port number"
  | invalidCharacter => "invalid domain character"

end Vigil.Url
