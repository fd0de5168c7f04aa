import Gateway.Text.Ranges

/-!
# Writing directions

A domain name with a character that is written from right to left holds labels of one direction
each, so that it cannot be shown in a misleading order: every label begins with a letter of its
direction, holds nothing of the other one, and ends, apart from marks, with a letter or a number.
-/

namespace Gateway.Domain

/-- How a character takes part in the direction of a text. -/
inductive Direction where
  /-- A letter written from left to right. -/
  | left
  /-- A letter written from right to left. -/
  | right
  /-- A number of the Arabic script. -/
  | arabicNumber
  /-- A number of the European kind. -/
  | number
  /-- A character without a direction. -/
  | neutral
  /-- A mark on the character before. -/
  | mark
  deriving DecidableEq, Repr

namespace Direction

/-- The directions outside ASCII: 1 to 5 for all in their order but `left`. -/
def ranges : Array (Nat × Nat × Nat) := Text.labelled
  "a1 36 4 20 0 4 1c2 1 4 8 d 4 3 1b 4 2 10 4 1 6f 5 6 0 4 81 0 4 8d 6 5 101 5 4 2 2c 5 1 0 1 1 0
5 1 0 1 1 1 5 1 0 1 1 1 5 1 0 1 1 0 5 9 24 1 12 1 4 1 0 1 1 1 4 1 0 1 1 0 4 1 0 1 1 1 4 1 a 5 1
2f 1 1 14 5 1 9 2 1 0 4 1 1 2 1 2 1 1 0 5 1 64 1 1 6 5 2 0 4 1 5 5 1 1 1 1 1 5 1 0 4 1 3 5 1 1 1
1 9 3 1 16 1 1 0 5 1 1d 1 1 1a 5 3 58 1 1 a 5 1 39 1 1 8 5 1 1 1 1 3 4 1 0 1 3 0 5 1 17 1 1 3 5 1
0 1 1 8 5 1 0 1 1 2 5 1 0 1 1 4 5 3 28 1 1 2 5 3 31 1 8 8 5 1 29 1 1 38 5 38 0 5 2 0 5 5 7 5 5 0
5 4 6 5 b 1 5 1e 0 5 3b 0 5 5 3 5 9 0 5 15 1 5 f 1 4 8 0 4 3 4 5 3a 0 5 5 10 5 1f 1 5 4 0 5 c 1 5
3a 0 5 5 7 5 5 0 5 15 1 5 e 0 4 9 7 5 3b 0 5 3 0 5 2 3 5 9 9 5 c 1 5 1f 0 5 3e 0 5 d 0 5 26 7 4 6
0 5 4 0 5 38 0 5 2 2 5 6 10 5 c 1 5 15 6 4 3 0 5 3b 0 5 10 1 5 15 1 5 1d 1 5 3a 1 5 5 3 5 9 0 5
15 1 5 1e 0 5 49 0 5 8 4 5 5b 0 5 3 6 5 5 0 4 8 7 5 63 0 5 3 8 5 c 6 5 4a 1 5 1c 0 5 2 0 5 2 0 5
1 3 4 34 d 5 2 4 5 2 1 5 6 2f 5 a 0 5 67 3 5 2 5 5 2 1 5 3 1 5 1a 1 5 5 2 5 11 3 5 e 0 5 3 1 5 7
0 5 10 0 5 2c0 2 5 31 9 4 67 0 4 29b 1 4 76 2 5 1e 1 5 1f 1 5 1f 1 5 44 6 5 9 0 5 3 a 5 8 0 4 2 0
5 13 1a 4 7b 1 5 23 0 5 77 2 5 5 1 5 a 0 5 7 2 5 5 5 4 99 21 4 18 1 5 3 0 5 3b 0 5 2 8 5 2 0 5 3
7 5 7 c 5 31 53 5 31 0 5 2 4 5 2 0 5 6 0 5 29 8 5 d 1 5 21 3 5 3 1 5 2 2 5 39 0 5 2 1 5 4 0 5 2 2
5 3b 7 5 3 1 5 99 2 5 2 c 5 2 6 5 5 0 5 7 0 5 4 1 5 c7 3f 5 20d b5 4 f 20 5 14 49 4 3d 1ab 4 46
19 4 2 315 4 2 152 4 101 2ff 4 e6 5 4 5 2 5 8 6 4 80 0 5 61 1f 5 1 204 4 4 18 4 a 3 5 3 0 4 7 0 4
6 2 4 5a 1 5 6 0 4 5b 0 4 c5 25 4 1bdb 3f 4 5691 36 4 147 2 4 60 3 5 1 0 4 1 9 5 1 1 4 1f 1 5 51
1 5 f 21 4 67 0 4 7a 0 5 4 0 5 5 0 5 1a 1 5 2 3 4 1 0 5 c 1 4 3b 3 4 4d 1 5 1b 11 5 e 0 5 27 7 5
1a a 5 2f 2 5 31 0 5 3 3 5 3 1 5 28 0 5 44 5 5 3 1 5 3 1 5 d 0 5 9 0 5 30 0 5 34 0 5 2 2 5 3 1 5
6 1 5 2 0 5 2b 1 5 9 0 5 74 1 4 7a 0 5 3 0 5 5 0 5 4f31 0 5 94 10 1 1 23c 4 21 f 5 16 1 4 2d 0 1
28e 0 4 3f 4c 4 4 10 4 5d 0 5 e3 0 5 1 1a 3 7b 4 5 486 11b 1 4 0 4 1 e0 1 1 e 5 1 25 1 3 7 5 1 a4
1 1 1 5 5 4a 1 4 6 4 1 1e3 1 1 3 5 9 19 2 1 5 1 1a 4 5 1 0 4 1 20 1 d1 1e 2 2 29 1 2 1 5 1 1a 1 9
8 4 22 5 5 1 45 1 1 a 5 1 30 1 1 3 5 1 70 1 b 0 5 37 e 5 c 13 4 b 0 5 3 1 5 b 2 5 32 3 5 3 1 5 8
0 5 3e 2 5 25 4 5 2 7 5 3f 0 5 d 1 5 35 8 5 b 3 5 3 0 5 60 2 5 3 0 5 2 1 5 7 0 5 3 0 5 9e 0 5 4 7
5 16 1 5 3a 1 5 4 0 5 26 e 5 47 5 5 e 0 5 2 0 5 2 0 5 f 1 5 56 7 5 3 2 5 2 0 5 18 0 5 55 5 5 2 0
5 5 1 5 2 1 5 ef 3 5 7 1 5 2 1 5 1c 1 5 56 7 5 3 0 5 2 1 5 20 c 4 3f 0 5 2 0 5 3 5 5 2 0 5 66 0 5
2 0 5 3 3 5 2 4 5 104 8 5 2 1 5 101 1 5 2 0 5 5 0 5 91 7 5 5 0 5 21 5 5 3 1 5 29 5 5 3 3 5 9 0 5
a 5 5 3 2 5 2f c 5 2 1 5 c7 0 5 2 2 5 2 0 5 ca d 5 55 15 5 3 6 5 2 1 5 2 1 5 7b 14 5 2 0 5 49 1 5
4 0 5 2 0 5 15c 1 5 c 1 5 35 4 5 6 0 5 2 0 5 18 0 5 7b 1c 4 144f 0 5 7 e 5 2cc9 b 5 4 2 5 9c1 4 5
3c 6 5 419 0 5 40 3 5 50 0 4 2 0 5 4cb9 1 5 f62 2f0 4 10 46 5 221 2 5 12 7 5 3 6 5 1f 3 5 3c 58 4
1 2 5 1 0 4 bb 56 4 6aa 36 5 5 31 5 9 0 5 f 0 5 17 14 5 551 8f 5 a1 6 5 178 0 5 3e 3 5 10 0 4 1ed
3 5 ff 1 5 f4 0 5 3 0 5 8 1 5 6 0 5 10b cf 1 1 6 5 4c 21 1 1 6 5 1 3f2 1 1b3 23f 4 3e 2 4 3e 0 4
b3 99a 4"

/-- The direction of a character. -/
def of (c : Char) : Direction :=
  if c.toNat < 0x80 then
    if c.isDigit then number else if c.isAlpha then left else neutral
  else
    match (Text.labelOf? ranges c).map Prod.fst with
    | some 1 => right
    | some 2 => arabicNumber
    | some 3 => number
    | some 4 => neutral
    | some 5 => mark
    | _ => left

/-- Whether a character makes its text one that is written from right to left. -/
def isRightToLeft (d : Direction) : Bool := d == right || d == arabicNumber

/-- Whether a label keeps to one direction. -/
def isConsistent (ds : List Direction) : Bool :=
  let core := (ds.reverse.dropWhile (· == mark)).reverse
  match ds.head? with
  | none => true
  | some left =>
    ds.all (fun d => d != right && d != arabicNumber) &&
      (core.getLast? == some left || core.getLast? == some number)
  | some right =>
    ds.all (· != left) && !(ds.contains number && ds.contains arabicNumber) &&
      (core.getLast? == some right || core.getLast? == some number ||
        core.getLast? == some arabicNumber)
  | some _ => false

end Direction

end Gateway.Domain
