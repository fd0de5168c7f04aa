import Gateway.Number.Decimal
import Gateway.Text.Ascii

/-!
# Addresses of version 4

An address is four octets, written in decimal without leading zeros and with dots between them.
`ofText?_toText` says that the written form is read back.
-/

namespace Gateway

/-- An internet address of version 4. -/
structure Ipv4 where
  /-- The first octet. -/
  a : UInt8
  /-- The second octet. -/
  b : UInt8
  /-- The third octet. -/
  c : UInt8
  /-- The last octet. -/
  d : UInt8
  deriving DecidableEq, Repr

namespace Ipv4

/-- The octets in their order. -/
def octets (ip : Ipv4) : List UInt8 := [ip.a, ip.b, ip.c, ip.d]

/-- The address whose octets are the four low ones of a number. -/
def ofNat (n : Nat) : Ipv4 :=
  ⟨.ofNat (n / 0x1000000), .ofNat (n / 0x10000), .ofNat (n / 0x100), .ofNat n⟩

/-- The written form of an address. -/
def toText (ip : Ipv4) : List Char :=
  Text.join '.' (ip.octets.map fun o => Decimal.digits o.toNat)

/-- An octet in decimal without leading zeros. -/
def octet? (cs : List Char) : Option UInt8 :=
  match Decimal.read? 255 cs with
  | some n => if Decimal.digits n = cs then some (.ofNat n) else none
  | none => none

/-- The address that a text writes. -/
def ofText? (cs : List Char) : Option Ipv4 :=
  match (Text.split '.' cs).mapM octet? with
  | some [a, b, c, d] => some ⟨a, b, c, d⟩
  | _ => none

/-! ### Reading what was written -/

/-- The digits of a byte are read as that byte. -/
theorem octet?_digits (o : UInt8) : octet? (Decimal.digits o.toNat) = some o := by
  have h : o.toNat ≤ 255 := Nat.le_of_lt_succ o.toNat_lt
  simp [octet?, Decimal.read?_digits h]

theorem dot_not_mem_digits (n : Nat) : '.' ∉ Decimal.digits n := fun h => by
  have hdigit := Decimal.isDigit_of_mem_digits h
  revert hdigit
  decide

/-- The written form of an address is read back. -/
theorem ofText?_toText (ip : Ipv4) : ofText? ip.toText = some ip := by
  have dots : ∀ p ∈ ip.octets.map (fun o => Decimal.digits o.toNat), '.' ∉ p := by
    intro p hp
    obtain ⟨o, -, rfl⟩ := List.mem_map.1 hp
    exact dot_not_mem_digits _
  rw [ofText?, toText, Text.split_join (by simp [octets]) dots]
  simp [octets, octet?_digits]

end Ipv4

end Gateway
