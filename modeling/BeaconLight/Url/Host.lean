import BeaconLight.Url.Domain
import BeaconLight.Url.InternetAddress

/-!
# Hosts

The host of a URL is an internet address or a domain name. A name whose last part is a number
has to be an address of version 4.
-/

namespace BeaconLight

/-- The host of a URL. -/
inductive Host
  | domain (name : String)
  | version4 (address : Nat)
  | version6 (pieces : List Nat)
  deriving DecidableEq, Repr

namespace Host

/-- The address of the machine itself. -/
def loopback : Host := .version4 0x7f000001

/-- The address of version 6 that a text in brackets spells. -/
def bracketed? (cs : List Char) : Option Host :=
  match cs.getLast? with
  | some ']' => (InternetAddress.version6? cs.dropLast).map .version6
  | _ => none

/-- The host that the characters of a web URL spell. -/
def parse? : List Char → Option Host
  | '[' :: rest => bracketed? rest
  | cs => do
    let name ← Domain.parse? cs
    if InternetAddress.endsInNumber name then
      (InternetAddress.version4? name).map .version4
    else some (.domain (String.ofList name))

/-- The host that the characters of a URL of another scheme spell, where a name is not looked
at further. -/
def parseOther? : List Char → Option Host
  | '[' :: rest => bracketed? rest
  | cs =>
    if cs.any Domain.isForbiddenInHost then none
    else some (.domain (String.ofList (Percent.encode Percent.isVisible cs)))

/-- The text of a host. -/
def render : Host → String
  | .domain name => name
  | .version4 address => InternetAddress.renderVersion4 address
  | .version6 pieces => "[" ++ InternetAddress.renderVersion6 pieces ++ "]"

end Host

end BeaconLight
