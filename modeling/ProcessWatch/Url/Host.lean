import ProcessWatch.Url.Address
import ProcessWatch.Url.Domain.Basic

/-!
# Hosts

The host of an address: a domain in ASCII, a network address, or a name whose meaning is left to the
scheme.
-/

namespace ProcessWatch

/-- Why a text is no address. -/
inductive UrlError where
  | relative
  | emptyHost
  | invalidPort
  | invalidIpv4
  | invalidIpv6
  | invalidDomain
  | invalidDomainCharacter
  /-- Nothing lies below the address that the text leans on. -/
  | closed
deriving Repr, DecidableEq

def UrlError.reason : UrlError → String
  | relative => "relative URL without a base"
  | emptyHost => "empty host"
  | invalidPort => "invalid port number"
  | invalidIpv4 => "invalid IPv4 address"
  | invalidIpv6 => "invalid IPv6 address"
  | invalidDomain => "invalid international domain name"
  | invalidDomainCharacter => "invalid domain character"
  | closed => "relative URL with a cannot-be-a-base base"

namespace Url

inductive Host where
  | domain (name : String)
  | ipv4 (value : Nat)
  | ipv6 (pieces : List Nat)
deriving Repr, DecidableEq

namespace Host

def text : Host → String
  | domain name => name
  | ipv4 value => ipv4Text value
  | ipv6 pieces => "[" ++ ipv6Text pieces ++ "]"

/-- What may not stand in any host. -/
def forbidden : List Char :=
  ['\x00', '\t', '\n', '\r', ' ', '#', '/', ':', '<', '>', '?', '@', '[', '\\', ']', '^', '|']

/-- Whether a character may not stand in a domain. -/
def isForbiddenInDomain (c : Char) : Bool :=
  c ∈ forbidden || c = '%' || c.toNat < 0x20 || c = '\x7f'

/-- The inner part of a text in square brackets. -/
def bracketed? (text : String) : Option (Option String) :=
  match text.toList with
  | '[' :: rest =>
    if rest.getLast? = some ']' then some (some (String.ofList rest.dropLast)) else some none
  | _ => none

def readIpv6 (text : Option String) : Except UrlError Host :=
  match text.bind ipv6? with
  | some pieces => .ok (ipv6 pieces)
  | none => .error .invalidIpv6

def readSpecial (text : String) : Except UrlError Host :=
  match bracketed? text with
  | some inner => readIpv6 inner
  | none =>
    match (String.fromUTF8? ⟨(percentDecode text.toList).toArray⟩).bind Domain.toAscii? with
    | none => .error .invalidDomain
    | some name =>
      if name.isEmpty then .error .emptyHost
      else if name.toList.any isForbiddenInDomain then .error .invalidDomain
      else if endsInNumber name then
        match ipv4? name with
        | some value => .ok (ipv4 value)
        | none => .error .invalidIpv4
      else .ok (domain name)

def readOther (text : String) : Except UrlError Host :=
  match bracketed? text with
  | some inner => readIpv6 inner
  | none =>
    if text.toList.any (· ∈ forbidden) then .error .invalidDomainCharacter
    else .ok (domain (percentEncode [] text))

end Host

end Url

end ProcessWatch
