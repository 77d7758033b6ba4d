import ApiReference.Url.Domain.Basic
import ApiReference.Url.Fault
import ApiReference.Url.Ipv6
import ApiReference.Url.Percent

/-!
Hosts of addresses.
-/

namespace ApiReference.Url

inductive Host where
  | domain (name : String)
  | ipv4 (address : Nat)
  | ipv6 (pieces : List Nat)
  deriving DecidableEq, Inhabited

namespace Host

def text : Host → String
  | .domain name => name
  | .ipv4 address => Ipv4.text address
  | .ipv6 pieces => "[" ++ Ipv6.text pieces ++ "]"

/-- Reads what stands between brackets, after the first of them. -/
def ofBracket (cs : List Char) : Except UrlFault Host :=
  if cs.getLast? == some ']' then
    match Ipv6.ofText? cs.dropLast with
    | some pieces => .ok (.ipv6 pieces)
    | none => .error .ipv6
  else .error .ipv6

def domain? (cs : List Char) : Option String := do
  let bytes := percentDecode (String.ofList cs).toUTF8.toList
  Domain.ofText? (← String.fromUTF8? ⟨bytes.toArray⟩)

def ofText : List Char → Except UrlFault Host
  | '[' :: cs => ofBracket cs
  | cs =>
    match domain? cs with
    | none => .error .domain
    | some name =>
      if name.isEmpty then .error .emptyHost
      else if Ipv4.isMeant name.toList then
        match Ipv4.ofText? name.toList with
        | some address => .ok (.ipv4 address)
        | none => .error .ipv4
      else .ok (.domain name)

def isForbiddenOutside (c : Char) : Bool := "\x00\t\n\r #/:<>?@[\\]^|".contains c

/-- Reads a host outside the web, of which there may be nothing. -/
def ofTextOutside : List Char → Except UrlFault Host
  | '[' :: cs => ofBracket cs
  | cs =>
    if cs.any isForbiddenOutside then .error .hostCharacter
    else .ok (.domain (String.ofList (percentEncode isControl cs)))

end Host

end ApiReference.Url
