import Vouch.Text.Percent
import Vouch.Url.Domain
import Vouch.Url.Flaw
import Vouch.Url.Ipv6

/-!
Hosts: domain names, addresses, and names that are kept as they are.
-/

namespace Vouch.Url

inductive Host where
  | domain (name : String)
  | ipv4 (address : Ipv4.Address)
  | ipv6 (address : Ipv6.Address)
  | named (name : String)
  deriving DecidableEq, Repr

namespace Host

def text : Host → String
  | .domain name | .named name => name
  | .ipv4 address => String.ofList (Ipv4.chars address)
  | .ipv6 address => String.ofList ('[' :: Ipv6.chars address ++ [']'])

def ofBracketed (cs : List Char) : Except Flaw Host :=
  match cs.getLast?, Ipv6.read? cs.dropLast with
  | some ']', some address => .ok (.ipv6 address)
  | _, _ => .error .badIpv6

def read (cs : List Char) : Except Flaw Host :=
  match cs with
  | '[' :: rest => ofBracketed rest
  | _ =>
    match (Text.ofBytes? (Text.unescapedBytes cs)).bind (Domain.written? ·.toList) with
    | none => .error .badDomain
    | some [] => .error .emptyHost
    | some name =>
      if Ipv4.isMeant name then
        match Ipv4.read? name with
        | some address => .ok (.ipv4 address)
        | none => .error .badIpv4
      else .ok (.domain (String.ofList name))

/-- Characters that no host may hold, since they stand for something else in a URL. -/
def isForbidden (c : Char) : Bool :=
  c == '\x00' || "\t\n\r #/:<>?@[\\]^|".toList.contains c

def isControl (c : Char) : Bool :=
  c.toNat < 0x20 || 0x7F ≤ c.toNat

def readNamed (cs : List Char) : Except Flaw Host :=
  match cs with
  | '[' :: rest => ofBracketed rest
  | _ =>
    if cs.any isForbidden then .error .badHostCharacter
    else .ok (.named (String.ofList (Text.percentEscaped (fun c => !isControl c) cs)))

end Host

end Vouch.Url
