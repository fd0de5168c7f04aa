/-!
# Ranges of characters

A set of characters is given by its ranges of code points. Tables of ranges are written as
hexadecimal numbers in pairs: how far a range begins behind the end of the one before it, and how
far its last element lies behind its first. Where the ranges carry a number, such as a class or a
code point, it follows as a third one.
-/

namespace Gateway.Text

/-- The value of a hexadecimal digit. -/
def hexValue? (c : Char) : Option Nat :=
  if '0' ≤ c ∧ c ≤ '9' then some (c.toNat - 48)
  else if 'a' ≤ c ∧ c ≤ 'f' then some (c.toNat - 87)
  else if 'A' ≤ c ∧ c ≤ 'F' then some (c.toNat - 55)
  else none

/-- The hexadecimal digit of a number below sixteen. -/
def hexDigit (n : Nat) : Char :=
  if n % 16 < 10 then Char.ofNat (48 + n % 16) else Char.ofNat (87 + n % 16)

/-- The digits of a number to the base sixteen, at least `width` of them. -/
def hexDigits (width n : Nat) : List Char :=
  match width with
  | 0 => more 8 n
  | width + 1 => hexDigits width (n / 16) ++ [hexDigit n]
where
  /-- The digits of a number, none for zero. -/
  more (fuel n : Nat) : List Char :=
    match fuel with
    | 0 => []
    | fuel + 1 => if n = 0 then [] else more fuel (n / 16) ++ [hexDigit n]

/-- The hexadecimal numbers of a text, between any other characters. -/
def numbersIn (cs : List Char) : List Nat :=
  let step (acc : List Nat × Option Nat) (c : Char) : List Nat × Option Nat :=
    match hexValue? c, acc.2 with
    | some d, some n => (acc.1, some (n * 16 + d))
    | some d, none => (acc.1, some d)
    | none, some n => (n :: acc.1, none)
    | none, none => acc
  let (done, last) := cs.foldl step ([], none)
  (last.toList ++ done).reverse

/-- The hexadecimal numbers of a table. -/
def hexNumbers (table : String) : List Nat := numbersIn table.toList

/-- The ranges that a table of gaps and lengths describes, from a number on. -/
def rangesFrom (n : Nat) : List Nat → List (Nat × Nat)
  | gap :: length :: rest => (n + gap, n + gap + length) :: rangesFrom (n + gap + length) rest
  | _ => []

/-- The ranges of a table. -/
def ranges (table : String) : Array (Nat × Nat) := (rangesFrom 0 (hexNumbers table)).toArray

/-- Whether a character lies in one of some ranges. -/
def isWithin (rs : Array (Nat × Nat)) (c : Char) : Bool :=
  rs.any fun r => r.1 ≤ c.toNat && c.toNat ≤ r.2

/-- The ranges with a number each that a table of gaps, lengths and numbers describes. -/
def labelledFrom (n : Nat) : List Nat → List (Nat × Nat × Nat)
  | gap :: length :: label :: rest =>
    (n + gap, n + gap + length, label) :: labelledFrom (n + gap + length) rest
  | _ => []

/-- The ranges of a table that carry a number each. -/
def labelled (table : String) : Array (Nat × Nat × Nat) :=
  (labelledFrom 0 (hexNumbers table)).toArray

/-- The number of the range that a character lies in, with how far it lies behind the range's
first element. -/
def labelOf? (rs : Array (Nat × Nat × Nat)) (c : Char) : Option (Nat × Nat) :=
  (rs.find? fun r => r.1 ≤ c.toNat && c.toNat ≤ r.2.1).map fun r => (r.2.2, c.toNat - r.1)

end Gateway.Text
