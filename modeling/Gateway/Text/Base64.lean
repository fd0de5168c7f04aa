import Gateway.Text.Utf8

/-!
# Base64

Bytes written with sixty-four letters: four letters stand for three bytes, and a shorter last group
is filled up with padding. Blanks between the letters do not count.
-/

namespace Gateway.Base64

/-- Why a text is no base64. -/
inductive Fault where
  /-- There is a byte that stands for nothing. -/
  | strayByte (b : UInt8)
  /-- There is a letter behind padding. -/
  | earlyPadding
  /-- The last group is not filled up. -/
  | badPadding
  deriving DecidableEq, Repr

/-- The name of a fault. -/
def Fault.name : Fault → String
  | strayByte b => "InvalidCharacter(" ++ Nat.repr b.toNat ++ ")"
  | earlyPadding => "PrematurePadding"
  | badPadding => "InvalidPadding"

/-- What fills up the last group. -/
def padding : UInt8 := 0x3D

/-- Spaces, tabs and line breaks. -/
def isBlank (b : UInt8) : Bool := b == 0x20 || b == 0x09 || b == 0x0A || b == 0x0D

/-- The six bits that a letter stands for. -/
def value? (b : UInt8) : Option Nat :=
  let n := b.toNat
  if 0x41 ≤ n ∧ n ≤ 0x5A then some (n - 0x41)
  else if 0x61 ≤ n ∧ n ≤ 0x7A then some (n - 0x61 + 26)
  else if 0x30 ≤ n ∧ n ≤ 0x39 then some (n - 0x30 + 52)
  else if n = 0x2B then some 62
  else if n = 0x2F then some 63
  else none

/-- The bytes of groups of four letters, the last of which may be short. -/
def bytesOf : List Nat → Bytes
  | a :: b :: c :: d :: rest =>
    .ofNat (a * 4 + b / 16) :: .ofNat (b * 16 + c / 4) :: .ofNat (c * 64 + d) :: bytesOf rest
  | [a, b, c] => [.ofNat (a * 4 + b / 16), .ofNat (b * 16 + c / 4)]
  | [a, b] => [.ofNat (a * 4 + b / 16)]
  | _ => []

/-- What a letter stands for, or the fault if it stands for nothing. -/
def letter (b : UInt8) : Except Fault Nat :=
  match value? b with
  | some n => .ok n
  | none => .error (.strayByte b)

/-- The fault of what stands behind the first padding, if any. -/
def tailFault? (tail : Bytes) : Option Fault :=
  (tail.find? (· ≠ padding)).map fun b =>
    if (value? b).isSome then .earlyPadding else .strayByte b

/-- The bytes that a text writes. -/
def decode (text : Bytes) : Except Fault Bytes :=
  let marks := text.filter (!isBlank ·)
  let letters := marks.takeWhile (· ≠ padding)
  let tail := marks.dropWhile (· ≠ padding)
  match letters.mapM letter, tailFault? tail with
  | .error fault, _ => .error fault
  | .ok _, some fault => .error fault
  | .ok values, none =>
    if tail.length ≤ 2 ∧ marks.length % 4 = 0 then .ok (bytesOf values) else .error .badPadding

/-! ### Writing -/

/-- The letters in the order of the six bits that they stand for. -/
def letters : List Char := "ABCDEFGHIJKLMNOPQRSTUVWXYZabcdefghijklmnopqrstuvwxyz0123456789+/".toList

/-- The letter for six bits. -/
def letterOf (n : Nat) : Char := letters.getD n '='

/-- The text for some bytes, in groups of four letters. -/
def encode : Bytes → List Char
  | [] => []
  | [a] => [letterOf (a.toNat / 4), letterOf (a.toNat % 4 * 16), '=', '=']
  | [a, b] =>
    [letterOf (a.toNat / 4), letterOf (a.toNat % 4 * 16 + b.toNat / 16),
      letterOf (b.toNat % 16 * 4), '=']
  | a :: b :: c :: rest =>
    letterOf (a.toNat / 4) :: letterOf (a.toNat % 4 * 16 + b.toNat / 16) ::
      letterOf (b.toNat % 16 * 4 + c.toNat / 64) :: letterOf (c.toNat % 64) :: encode rest

end Gateway.Base64
