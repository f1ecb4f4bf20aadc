import SchemaModel.Domain.Name
import SchemaModel.Url.Fault
import SchemaModel.Url.Ipv4
import SchemaModel.Url.Ipv6

/-!
# Hosts

The host of a special scheme is a domain name in ASCII or an address. The host of any other scheme
is an address in brackets or a text in which only a few characters are forbidden.
-/

namespace SchemaModel.Url

inductive Host where
  | name (s : String)
  | ipv4 (address : Nat)
  | ipv6 (pieces : List Nat)
  deriving DecidableEq, Repr

namespace Host

def text : Host → String
  | name s => s
  | ipv4 address => Ipv4.text address
  | ipv6 pieces => "[" ++ Ipv6.text pieces ++ "]"

/-- an address in brackets -/
def ofBrackets (s : List Char) : Except Fault Host :=
  if s.getLast? ≠ some ']' then .error .ipv6
  else match Ipv6.read? (s.drop 1).dropLast with
    | some pieces => .ok (.ipv6 pieces)
    | none => .error .ipv6

/-- the host of a special scheme -/
def ofDomain (s : List Char) : Except Fault Host :=
  if s.head? = some '[' then ofBrackets s
  else match (percentDecode? s).bind Domain.ascii? with
    | none => .error .domainName
    | some [] => .error .emptyHost
    | some domain =>
      if Ipv4.isAddress domain then
        match Ipv4.read? domain with
        | some address => .ok (.ipv4 address)
        | none => .error .ipv4
      else .ok (.name (String.ofList domain))

/-- a character that no host may hold -/
def isForbidden (c : Char) : Bool :=
  c.toNat = 0 || "\t\n\r #/:<>?@[\\]^|".toList.contains c

/-- the host of a scheme that is not special -/
def ofText (s : List Char) : Except Fault Host :=
  if s.head? = some '[' then ofBrackets s
  else if s.any isForbidden then .error .hostCharacter
  else .ok (.name (String.ofList (percentEncode [] s)))

end Host

end SchemaModel.Url
