import Courier.Domain
import Courier.Text.Percent
import Courier.Url.Address

/-!
# Hosts

The host of an address is a domain name or a numeric address. A name may be written with
escapes; a name whose last part is a number has to be a numeric address; and an address of 128
bits stands in brackets.

* `Url.host` is the normal form of a host.
* `Url.opaqueHost` is that of a host in an address whose scheme says nothing about hosts.
-/

namespace Courier.Url

/-- What keeps a text from being an absolute address. -/
inductive Fault where
  | relative
  | emptyHost
  | badPort
  | badDomain
  | badCharacter
  | badIpv4
  | badIpv6
deriving DecidableEq

/-- Names the fault. -/
def Fault.message : Fault → String
  | .relative => "relative URL without a base"
  | .emptyHost => "empty host"
  | .badPort => "invalid port number"
  | .badDomain => "invalid international domain name"
  | .badCharacter => "invalid domain character"
  | .badIpv4 => "invalid IPv4 address"
  | .badIpv6 => "invalid IPv6 address"

/-- An octet as an escape with two hexadecimal digits. -/
def escapeOctet (b : UInt8) : String :=
  let digit (n : Nat) : Char := if n < 10 then Char.ofNat (n + 48) else Char.ofNat (n + 55)
  String.ofList ['%', digit (b.toNat / 16), digit (b.toNat % 16)]

/-- Escapes controls, non-ASCII characters and the characters of `special`. -/
def escape (special : String) (cs : List Char) : String :=
  cs.foldl (fun out c =>
    if c.toNat ≤ 0x20 ∨ 0x7F ≤ c.toNat ∨ special.toList.contains c then
      (Utf8.encode c.toString).foldl (fun out b => out ++ escapeOctet b) out
    else out.push c) ""

/-- The normal form of an address in brackets, of which `cs` follows the first. -/
def bracketed (cs : List Char) : Except Fault String :=
  match cs.reverse with
  | ']' :: inner => match Ipv6.parse? inner.reverse with
    | some groups => .ok ("[" ++ Ipv6.render groups ++ "]")
    | none => .error .badIpv6
  | _ => .error .badIpv6

/-- The normal form of a domain name, or of the numeric address that it is. -/
def domainHost (cs : List Char) : Except Fault String :=
  match (Percent.decode (String.ofList cs)).toOption.bind fun s => Domain.normal? s.toList with
  | none => .error .badDomain
  | some [] => .error .emptyHost
  | some name =>
    if !Ipv4.isNumeric name then .ok (String.ofList name)
    else match Ipv4.parse? name with
      | some address => .ok (Ipv4.render address)
      | none => .error .badIpv4

/-- The normal form of a host. -/
def host : List Char → Except Fault String
  | '[' :: cs => bracketed cs
  | cs => domainHost cs

/-- Whether a character may not stand in a host, whatever the scheme. -/
def isForbidden (c : Char) : Bool :=
  c.toNat = 0 || " #/:<>?@[\\]^|".toList.contains c

/-- The normal form of a host that need not be a domain name. It may be empty. -/
def opaqueHost : List Char → Except Fault String
  | '[' :: cs => bracketed cs
  | cs => if cs.any isForbidden then .error .badCharacter else .ok (escape "" cs)

end Courier.Url
