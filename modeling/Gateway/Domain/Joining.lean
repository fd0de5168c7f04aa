import Gateway.Domain.Composition

/-!
# Joiners and marks

Two invisible characters say whether the letters at their sides are joined. They may stand only
where they change how a text is written: behind a character that drops the vowel of its syllable,
and the non-joiner also between letters that would be joined otherwise.
-/

namespace Gateway.Domain

/-- The marks, which follow the character that they belong to. -/
def markRanges : Array (Nat × Nat) := Text.ranges
  "300 6f 114 6 108 2c 2 0 2 1 2 1 2 0 49 a 31 14 11 0 66 6 3 5 3 1 2 3 24 0 1f 1a 5c a 3b 8 a 0
19 3 2 8 2 2 2 4 2c 2 3c 8 2b 39 37 2 2 11 2 6 b 1 1e 2 39 0 2 f a 0 b 1 1b 5 39 15 1f 1 4 0 c 2
39 0 2 f 15 1 17 9 39 0 2 19 b 1 1f 0 3c f a 0 29 4 38 0 2 18 c 1 1e 2 39 0 2 18 c 1 10 10 38 1 2
f a 0 b 1 1e 2 47 15 13 1 3e 0 3 6 d 7 63 0 3 8 c 6 4a 1 1c 0 2 0 2 0 5 1 32 13 2 1 6 2f a 0 65
13 18 3 5 2 2 2 3 6 4 3 e b 2 0 b 3 2c0 2 3b3 3 1d 2 1e 1 1f 1 43 1d a 0 a8 1 23 0 77 1b dc 4 3a
2a 31 54 30 10 27 8 d 2 1f c 39 d 31 13 99 2 2 14 5 0 7 0 3 2 c7 3f 2d1 20 bff 2 8e 0 61 1f 22b 5
6a 1 75d5 3 2 9 21 1 51 1 111 0 4 0 5 0 18 4 5 0 54 1 33 11 1b 11 e 0 27 7 1a c 2d 3 30 d 25 0 44
d d 0 9 1 2e 2 33 0 2 2 3 1 6 1 2 0 2a 4 6 1 ed 7 2 1 4f31 0 302 f 3ce 0 e3 0 96 4 687 e 29 7 a6
1 23e 3 42 4 13e 1 4e 5 47 a 32 3 7b 2 36 e 2a 0 3 1 b 3 2e a 8 0 3e 2 25 d 11 1 2d 0 d 2 31 d 9
3 2 1 5d b 7 0 3 0 9e b 16 3 38 1 2 f a 0 b 12 44 18 2 0 f 1 53 11 18 0 52 13 ec 11 1c 1 53 10 6b
c 66 e 101 e f6 e 2 0 2 1 8e f 4 0 1d 9 29 6 2 3 9 0 a a 2f f c7 7 c8 10 53 24 7b 14 2 0 43 d 15c
3 a 1 2 0 31 e 18 0 14e6 0 7 e 2cc9 11 9c1 4 3c 6 419 0 2 41 52 d 4cac 1 1262 46 21f 4 4 15 3 6
1f 3 95 2 7bc 36 5 31 9 0 f 0 17 14 551 8f a1 6 178 0 3e 3 1fd 3 ff 1 f4 0 3 0 8 1 6 0 1db 6 6e 6"

/-- Whether a character is a mark. -/
def isMark (c : Char) : Bool := Text.isWithin markRanges c

/-- How characters join: 1 with the next one, 2 with both, 3 with the one before, 4 not at all
but letting their neighbours join. -/
def joiningRanges : Array (Nat × Nat × Nat) := Text.labelled
  "300 6f 4 114 6 4 108 2c 4 2 0 4 2 1 4 2 1 4 2 0 4 49 a 4 6 0 2 2 3 3 1 0 2 1 0 3 1 0 2 1 0 3 1
4 2 1 3 3 1 c 2 2 6 2 1 0 3 1 1 2 1 14 4 f 1 2 1 0 4 1 2 3 6 e 2 1 11 3 1 25 2 1 0 3 1 1 2 1 8 3
1 0 2 1 0 3 1 0 2 1 0 3 1 1 2 1 1 3 2 0 3 1 6 4 3 5 4 3 1 4 2 3 4 1 1 3 b 2 2 3 0 2 11 0 3 1 0 4
1 2 2 1 4 3 1 3 2 1 0 3 1 8 2 1 0 3 1 0 2 1 0 3 1 0 2 1 0 3 1 1 2 1 0 3 1 1a 4 3 0 3 1 a 2 1 2 3
1 e 2 1 1 3 1 3 2 1 0 3 1 0 2 1 1 3 1 2 2 1 1 3 1 5 2 27 a 4 1a 20 2 1 8 4 a 0 4 19 3 4 2 8 4 2 2
4 2 4 4 13 0 3 1 4 2 1 1 3 1 0 2 1 0 3 1 9 2 1 0 3 1 0 2 1 2 3 1 2 4 5 0 2 2 3 2 2 0 3 1 0 2 1 19
3 4 0 2 3 4 2 1 0 3 1 0 2 8 8 4 1 9 2 1 2 3 2 0 3 1 1 2 1 1 3 1 5 2 1 0 3 1 e 2 2 38 4 38 0 4 2 0
4 5 7 4 5 0 4 4 6 4 b 1 4 1e 0 4 3b 0 4 5 3 4 9 0 4 15 1 4 1b 4 4 3a 0 4 5 10 4 1f 1 4 4 0 4 c 1
4 3a 0 4 5 7 4 5 0 4 15 1 4 17 7 4 3b 0 4 3 0 4 2 3 4 9 9 4 c 1 4 1f 0 4 3e 0 4 d 0 4 33 0 4 4 0
4 38 0 4 2 2 4 6 10 4 c 1 4 1e 0 4 3b 0 4 3 0 4 7 0 4 6 1 4 15 1 4 1d 1 4 3a 1 4 5 3 4 9 0 4 15 1
4 1e 0 4 49 0 4 8 4 4 5b 0 4 3 6 4 d 7 4 63 0 4 3 8 4 c 6 4 4a 1 4 1c 0 4 2 0 4 2 0 4 38 d 4 2 4
4 2 1 4 6 2f 4 a 0 4 67 3 4 2 5 4 2 1 4 3 1 4 1a 1 4 5 2 4 11 3 4 e 0 4 3 1 4 7 0 4 10 0 4 2c0 2
4 3b3 2 4 1e 1 4 1f 1 4 1f 1 4 44 6 4 9 0 4 3 a 4 a 0 4 2a 0 2 19 58 2 d 1 4 1 21 2 1 0 4 1 0 2
76 2 4 5 1 4 a 0 4 7 2 4 dc 1 4 3 0 4 3b 0 4 2 8 4 2 0 4 3 7 4 7 c 4 31 53 4 31 0 4 2 4 4 2 0 4 6
0 4 29 8 4 d 1 4 21 3 4 3 1 4 2 2 4 39 0 4 2 1 4 4 0 4 2 2 4 3b 7 4 3 1 4 99 2 4 2 c 4 2 6 4 5 0
4 7 0 4 4 1 4 c7 3f 4 2d1 20 4 bff 2 4 8e 0 4 61 1f 4 22b 3 4 6c 1 4 75d5 3 4 2 9 4 21 1 4 51 1 4
111 0 4 4 0 4 5 0 4 1a 1 4 6 0 4 14 31 2 1 0 1 52 1 4 1b 11 4 e 0 4 27 7 4 1a a 4 2f 2 4 31 0 4 3
3 4 3 1 4 28 0 4 44 5 4 3 1 4 3 1 4 d 0 4 9 0 4 30 0 4 34 0 4 2 2 4 3 1 4 6 1 4 2 0 4 2b 1 4 9 0
4 ef 0 4 3 0 4 5 0 4 4f31 0 4 302 f 4 3ce 0 4 e3 0 4 96 4 4 687 e 4 29 7 4 81 4 2 1 0 3 2 0 3 2 1
3 3 0 1 1 4 3 1 3 2 1 0 1 1 4 2 1 0 3 1 2 2 1 0 3 3 0 3 1 1 4 5 3 2 1 0 3 91 0 2 1 0 3 1 0 2 1 2
3 1 2 2 1 0 3 1 1 2 1 0 3 1 0 2 1 1 3 1 0 2 1 0 3 18 3 3 1 1 2 152 0 1 1 20 2 1 0 3 1 0 2 1 3 4
42 4 4 13e 1 4 16 0 3 1 1 2 2 1 2 33 5 4 31 2 2 1 0 3 1 10 2 2 a 4 1 2 2 1 0 3 1c 3 2 1 1 3 1 b 2
1 3 4 2b 0 2 2 1 2 1 2 3 2 0 2 1 1 3 1 1 2 1 0 3 1 1 2 2 0 2 1 1 3 1 0 2 5 0 3 1 0 2 1 0 1 36 0 4
37 e 4 2a 0 4 3 1 4 b 2 4 32 3 4 3 1 4 8 0 4 3e 2 4 25 4 4 2 7 4 3f 0 4 d 1 4 35 8 4 b 3 4 3 0 4
60 2 4 3 0 4 2 1 4 7 0 4 3 0 4 9e 0 4 4 7 4 16 1 4 3a 1 4 4 0 4 26 e 4 47 5 4 e 0 4 2 0 4 2 0 4 f
1 4 56 7 4 3 2 4 2 0 4 18 0 4 55 5 4 2 0 4 5 1 4 2 1 4 ef 3 4 7 1 4 2 1 4 1c 1 4 56 7 4 3 0 4 2 1
4 6b 0 4 2 0 4 3 5 4 2 0 4 66 0 4 2 0 4 3 3 4 2 4 4 104 8 4 2 1 4 101 1 4 2 0 4 5 0 4 91 7 4 5 0
4 21 9 4 29 5 4 3 3 4 9 0 4 a 5 4 3 2 4 2f c 4 2 1 4 c7 0 4 2 2 4 2 0 4 ca d 4 2 0 4 53 15 4 3 6
4 2 1 4 2 1 4 7b 14 4 2 0 4 49 1 4 4 0 4 2 0 4 15c 1 4 c 1 4 35 4 4 6 0 4 2 0 4 18 0 4 14e6 0 4 7
e 4 2cc9 b 4 4 2 4 9c1 4 4 3c 6 4 419 0 4 40 3 4 52 0 4 4cb9 1 4 1262 46 4 221 2 4 12 7 4 3 6 4
1f 3 4 95 2 4 7bc 36 4 5 31 4 9 0 4 f 0 4 17 14 4 551 8f 4 a1 6 4 178 0 4 3e 3 4 1fd 3 4 ff 1 4
f4 0 4 3 0 4 8 1 4 6 0 4 1db 6 4 4c 21 2 1 7 4"

/-- How a character joins. -/
def joining (c : Char) : Nat :=
  match Text.labelOf? joiningRanges c with
  | some (k, _) => k
  | none => 0

/-- The combining class of the characters that drop a vowel. -/
def vowelDropping : Nat := 9

/-- Whether the joiners of a text stand where they may, behind a text given from its end on. -/
def joinersFit (before : List Char) : List Char → Bool
  | [] => true
  | c :: cs =>
    let dropped := match before with
      | [] => false
      | b :: _ => combiningClass b == vowelDropping
    let sideFits (side : List Char) (outward : Nat) : Bool :=
      match (side.dropWhile fun d => joining d == 4).head? with
      | none => false
      | some d => joining d == outward || joining d == 2
    let fits :=
      if c == '\u200D' then dropped
      else if c == '\u200C' then dropped || (sideFits before 1 && sideFits cs 3)
      else true
    fits && joinersFit (c :: before) cs

end Gateway.Domain
