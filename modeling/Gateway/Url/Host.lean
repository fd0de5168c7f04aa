import Gateway.Domain
import Gateway.Ip.V6
import Gateway.Url.Percent

/-!
# Hosts

The host of an address is a name or an internet address. Where hosts are looked up, as in web
addresses, a name is a domain name in its ASCII form, and one whose last label is a number is an
address of version 4; elsewhere a name is any text without separators.
-/

namespace Gateway

/-- Why a text is no absolute address. -/
inductive UrlFault where
  /-- There is no scheme in front. -/
  | relative
  /-- A host is needed. -/
  | emptyHost
  /-- The host is no domain name. -/
  | domain
  /-- The host has a character that no host has. -/
  | domainCharacter
  /-- The port is not a number up to 65535. -/
  | port
  /-- The host ends in a number but is no address of version 4. -/
  | ipv4
  /-- What stands in brackets is no address of version 6. -/
  | ipv6
  deriving DecidableEq, Repr

/-- The wording of a fault. -/
def UrlFault.message : UrlFault → String
  | relative => "relative URL without a base"
  | emptyHost => "empty host"
  | domain => "invalid international domain name"
  | domainCharacter => "invalid domain character"
  | port => "invalid port number"
  | ipv4 => "invalid IPv4 address"
  | ipv6 => "invalid IPv6 address"

/-- The host of an address. -/
inductive Host where
  /-- A name. -/
  | name (text : String)
  /-- An address of version 4. -/
  | v4 (ip : Ipv4)
  /-- An address of version 6. -/
  | v6 (ip : Ipv6)
  deriving DecidableEq

namespace Host

/-- The written form of a host. -/
def toString : Host → String
  | name text => text
  | v4 ip => String.ofList ip.toText
  | v6 ip => String.ofList ('[' :: ip.toText ++ [']'])

/-! ### Numbers -/

/-- The value of a numeral whose base its beginning tells: `0x` for sixteen, `0` for eight, and
ten otherwise. -/
def number? : List Char → Option Nat
  | [] => none
  | '0' :: 'x' :: cs => inBase 16 cs
  | '0' :: 'X' :: cs => inBase 16 cs
  | '0' :: c :: cs => inBase 8 (c :: cs)
  | cs => inBase 10 cs
where
  /-- The value of digits to a base; zero if there are none. -/
  inBase (base : Nat) (cs : List Char) : Option Nat :=
    cs.foldl (fun n c => n.bind fun n =>
      match Text.hexValue? c with
      | some d => if d < base then some (n * base + d) else none
      | none => none) (some 0)

/-- The pieces of a name between dots, without an empty last one. -/
def pieces (cs : List Char) : List (List Char) :=
  let all := Text.split '.' cs
  if all.getLast? = some [] then all.dropLast else all

/-- Whether the last label of a name is a number. -/
def endsInNumber (cs : List Char) : Bool :=
  match (pieces cs).getLast? with
  | none => false
  | some last => (last ≠ [] && last.all Decimal.isDigit) || (number? last).isSome

/-- The address of version 4 that up to four numbers make: the last of them fills what the others
leave. -/
def ofNumbers? (ns : List Nat) : Option Ipv4 :=
  match ns.getLast? with
  | none => none
  | some last =>
    let front := ns.dropLast
    if ns.length ≤ 4 ∧ front.all (· ≤ 255) ∧ last < Nat.pow 256 (4 - front.length) then
      some (.ofNat (front.foldl (fun n k => n * 256 + k) 0 * Nat.pow 256 (4 - front.length) + last))
    else none

/-! ### Reading -/

/-- The address of version 6 in brackets, of which the first one is left out. -/
def bracketed? (cs : List Char) : Except UrlFault Host :=
  match cs.reverse with
  | ']' :: inner =>
    match Ipv6.ofText? inner.reverse with
    | some ip => .ok (.v6 ip)
    | none => .error .ipv6
  | _ => .error .ipv6

/-- The host that a text writes where hosts are looked up. -/
def ofWebText? : List Char → Except UrlFault Host
  | '[' :: cs => bracketed? cs
  | cs =>
    match (Utf8.decode? (Url.unescape cs)).bind Domain.toAscii? with
    | none => .error .domain
    | some domain =>
      if domain.isEmpty then .error .emptyHost
      else if endsInNumber domain then
        match ((pieces domain).mapM number?).bind ofNumbers? with
        | some ip => .ok (.v4 ip)
        | none => .error .ipv4
      else .ok (.name (String.ofList domain))

/-- The characters that no host has. -/
def forbidden : List Char :=
  ['\x00', '\t', '\n', '\r', ' ', '#', '/', ':', '<', '>', '?', '@', '[', '\\', ']', '^', '|']

/-- The host that a text writes where hosts are not looked up. -/
def ofText? : List Char → Except UrlFault Host
  | '[' :: cs => bracketed? cs
  | cs =>
    if cs.any forbidden.contains then .error .domainCharacter
    else .ok (.name (String.ofList (Url.escape Url.inHost cs)))

end Host

end Gateway
