import Gateway.Ip.V6

/-!
# Internet addresses

An address to listen at is one of version 4 or of version 6, without brackets, zone or blanks. With
a port it is written as a socket address, where brackets keep the colons apart.
-/

namespace Gateway

/-- An internet address. -/
inductive Ip where
  /-- An address of version 4. -/
  | v4 (ip : Ipv4)
  /-- An address of version 6. -/
  | v6 (ip : Ipv6)
  deriving DecidableEq

namespace Ip

/-- The address that a text writes. -/
def ofText? (cs : List Char) : Option Ip :=
  match Ipv4.ofText? cs with
  | some ip => some (.v4 ip)
  | none => (Ipv6.ofText? cs).map .v6

/-- The address that a string writes. -/
def ofString? (s : String) : Option Ip := ofText? s.toList

/-- The written form of an address. -/
def toString : Ip → String
  | .v4 ip => String.ofList ip.toText
  | .v6 ip => String.ofList ip.toMixedText

/-- The written form of an address with a port. -/
def withPort (ip : Ip) (port : UInt16) : String :=
  match ip with
  | .v4 _ => ip.toString ++ ":" ++ Decimal.toString port.toNat
  | .v6 _ => "[" ++ ip.toString ++ "]:" ++ Decimal.toString port.toNat

end Ip

end Gateway
