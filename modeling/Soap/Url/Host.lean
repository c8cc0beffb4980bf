import Soap.Text.Split
import Soap.Url.Address
import Soap.Url.Domain
import Soap.Url.Percent

/-!
# Hosts

The host of a special scheme is a domain name or a numeric address and is brought into one form:
decoded, in lower case, in ASCII. The host of any other scheme is kept as it is.
-/

namespace Soap.Url

/-- Characters that no host contains. -/
def isForbiddenInHost (c : Char) : Bool := "\x00\t\n\r #/:<>?@[\\]^|".toList.contains c

def bracketed? (rest : List Char) : Option (List Char) :=
  match rest.reverse with
  | ']' :: inner => (ipv6? inner.reverse).map renderIpv6
  | _ => none

def specialHost? : List Char → Option (List Char)
  | '[' :: rest => bracketed? rest
  | host => do
    let domain ← Domain.toAscii? (← decode? host)
    if domain.isEmpty then none
    else if endsInNumber domain then (ipv4? domain).map renderIpv4
    else some domain

def plainHost? : List Char → Option (List Char)
  | '[' :: rest => bracketed? rest
  | host => if host.any isForbiddenInHost then none else some (encode controlSet host)

end Soap.Url
