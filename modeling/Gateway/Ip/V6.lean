import Gateway.Ip.V4
import Gateway.Text.Ranges

/-!
# Addresses of version 6

An address is eight groups of sixteen bits, written in hexadecimal with colons between them. One
run of zero groups may be left out, which leaves two colons in a row; the last two groups may be
written like an address of version 4. The written form leaves out the longest run of at least two
zero groups, and of several longest ones the first.
-/

namespace Gateway

/-- An internet address of version 6. -/
structure Ipv6 where
  /-- The groups in their order. -/
  groups : List UInt16
  /-- There are eight of them. -/
  length_eq : groups.length = 8
  deriving DecidableEq

namespace Ipv6

/-! ### Reading -/

/-- The number that some hexadecimal digits write. -/
def hexNumber? : List Char → Option Nat
  | cs => cs.foldl (fun n c => n.bind fun n => (Text.hexValue? c).map (n * 16 + ·)) (some 0)

/-- A group of one to four hexadecimal digits. -/
def group? (cs : List Char) : Option UInt16 :=
  if 1 ≤ cs.length ∧ cs.length ≤ 4 then (hexNumber? cs).map UInt16.ofNat else none

/-- The two groups of an address of version 4. -/
def groupsOf (ip : Ipv4) : List UInt16 :=
  [.ofNat (ip.a.toNat * 256 + ip.b.toNat), .ofNat (ip.c.toNat * 256 + ip.d.toNat)]

/-- The groups that some pieces write; with `mixed` the last piece may be an address of
version 4. -/
def groups? (mixed : Bool) : List (List Char) → Option (List UInt16)
  | [] => some []
  | p :: ps =>
    match group? p with
    | some g => (groups? mixed ps).map (g :: ·)
    | none => if mixed && ps.isEmpty then (Ipv4.ofText? p).map groupsOf else none

/-- The groups of a text without left out ones. -/
def plainGroups? (mixed : Bool) (cs : List Char) : Option (List UInt16) :=
  if cs.isEmpty then some [] else groups? mixed (Text.split ':' cs)

/-- The parts of a text before and behind its first two colons in a row. -/
def gap? : List Char → Option (List Char × List Char)
  | ':' :: ':' :: cs => some ([], cs)
  | c :: cs => (gap? cs).map fun (front, behind) => (c :: front, behind)
  | [] => none

/-- The address of some groups. -/
def ofGroups? (gs : List UInt16) : Option Ipv6 :=
  if h : gs.length = 8 then some ⟨gs, h⟩ else none

/-- The address that a text writes. -/
def ofText? (cs : List Char) : Option Ipv6 :=
  match gap? cs with
  | none => (groups? true (Text.split ':' cs)).bind ofGroups?
  | some (front, behind) =>
    match plainGroups? false front, plainGroups? true behind with
    | some fs, some bs =>
      if fs.length + bs.length < 8 then
        ofGroups? (fs ++ List.replicate (8 - fs.length - bs.length) 0 ++ bs)
      else none
    | _, _ => none

/-! ### Writing -/

/-- The number of zeros at the beginning of some groups. -/
def zeros (gs : List UInt16) : Nat := (gs.takeWhile (· == 0)).length

/-- The longest run of zero groups, the first of several: where it begins and how long it is. -/
def longestRun (gs : List UInt16) : Nat × Nat :=
  (List.range gs.length).foldl
    (fun best i => if best.2 < zeros (gs.drop i) then (i, zeros (gs.drop i)) else best) (0, 0)

/-- Some groups with colons between them. -/
def groupsText (gs : List UInt16) : List Char :=
  Text.join ':' (gs.map fun g => Text.hexDigits 1 g.toNat)

/-- The written form of an address. -/
def toText (ip : Ipv6) : List Char :=
  let (start, count) := longestRun ip.groups
  if 2 ≤ count then
    groupsText (ip.groups.take start) ++ [':', ':'] ++ groupsText (ip.groups.drop (start + count))
  else groupsText ip.groups

/-- The address of version 4 that stands in one of version 6 behind five zero groups and a full
one. -/
def mapped? (ip : Ipv6) : Option Ipv4 :=
  match ip.groups with
  | [0, 0, 0, 0, 0, 0xFFFF, g, h] => some (.ofNat (g.toNat * 0x10000 + h.toNat))
  | _ => none

/-- The written form of an address, in which one that holds an address of version 4 shows it. -/
def toMixedText (ip : Ipv6) : List Char :=
  match ip.mapped? with
  | some v4 => [':', ':', 'f', 'f', 'f', 'f', ':'] ++ v4.toText
  | none => ip.toText

end Ipv6

end Gateway
