import Gateway.Text.Ranges

/-!
# Quoted text

Messages show a text between double quotes. Characters without a shape of their own are written
as escapes: control and format characters, blanks other than the space, unassigned characters,
and marks that join the character before them. `hidden` lists these beyond ASCII.
-/

namespace Gateway.Text

/-- The characters from U+007F on that are not shown as they are, as gaps and lengths. -/
def hiddenTable : String :=
  "7f 21, d 0, 253 6f, 9 1, 7 3, 8 0, 2 0, 15 0, e1 6, a7 0, 27 1, 33 1, 4 2d, 2 0, 2 1, 2 1,
2 8, 1c 3, 7 10, b a, 2 0, 2f 14, 11 0, 66 7, 2 5, 3 1, 2 3, 21 1, 2 0, 1f 1c, 5a a, 2 d,
2c 8, 8 2, 19 3, 2 8, 2 2, 2 6, 10 0, 1a 4, 2 0, c 4, 20 10, 2b 38, 38 0, 2 0, 5 7, 5 0, 4 6,
b 1, 1e 0, 3 0, 9 1, 3 1, 17 0, 8 0, 2 2, 5 2, 2 0, 3 5, 3 1, 3 0, 2 c, 3 0, 4 3, 19 4, 2 0,
7 3, 3 1, 17 0, 8 0, 3 0, 3 0, 3 3, 4 17, 5 0, 2 6, b 1, 4 0, 2 b, 2 0, a 0, 4 0, 17 0, 8 0,
3 0, 6 2, 5 7, 2 0, 3 2, 2 e, 3 3, d 6, 2 7, 3 0, 9 1, 3 1, 17 0, 8 0, 3 0, 6 2, 2 1, 2 5,
3 1, 3 e, 3 0, 4 3, 13 a, 2 0, 7 2, 4 0, 5 2, 3 0, 2 0, 3 2, 3 2, 4 2, d 4, 2 0, 3 2, 4 0,
4 2, 2 14, 16 5, 4 0, 9 0, 4 0, 18 0, 11 2, 2 2, 5 12, 4 1, 2 1, 3 3, b 6, b 0, c 0, 4 0,
18 0, b 0, 6 2, 3 0, 3 0, 3 1, 3 0, 3 10, 3 0, 3 3, b 0, 4 d, c 0, 4 0, 2a 1, 2 0, 3 4, 4 0,
4 0, 3 3, 4 0, b 3, 1b 1, 3 0, 13 2, 19 0, a 0, 2 1, 8 8, 3 5, 8 6, b 1, 4 b, 31 0, 3 a, 9 7,
e 24, 3 0, 2 0, 6 0, 19 0, 2 0, b 0, 3 8, 2 1, 6 0, 2 8, b 1, 5 1f, 19 1, 1c 0, 2 0, 2 0,
f 0, 25 11, 2 4, 2 1, 6 30, 9 0, 7 0, e 24, 2e 3, 2 5, 2 1, 3 1, 1a 1, 5 2, 11 3, e 0, 3 1,
7 0, 10 0, 29 0, 2 4, 2 1, 17a 0, 5 1, 8 0, 2 0, 5 1, 2a 0, 5 1, 22 0, 5 1, 8 0, 2 0, 5 1,
10 0, 3a 0, 5 1, 44 4, 1e 2, 1b 5, 57 1, 7 1, 281 0, 1d 2, 5a 6, 13 2, 2 8, 14 1, 4 8, 13 d,
e 0, 4 e, 35 1, 2 6, 9 0, 3 a, a 2, b 5, b 5, c 4, b 5, 5a 6, 6 1, 23 0, 2 4, 47 9, 20 3,
5 1, 4 3, 3 0, 7 6, 2 2, 2b 1, 6 a, 2d 3, 1b 5, c 2, 3a 1, 3 2, 39 0, 2 8, 2 0, 3 7, 7 c,
b 5, b 5, f 55, 31 6, 2 0, 6 0, b 2, 1c 8, c 2, 21 3, 3 1, 2 2, 39 0, 2 1, 4 0, 2 2, 3 7,
31 7, 3 4, 10 2, 3d 6, 2c 1, c a, 2 c, 2 6, 5 0, 7 0, 4 1, 2 4, c1 3f, 117 1, 7 1, 27 1, 7 1,
9 0, 2 0, 2 0, 2 0, 20 1, 36 0, 10 0, f 1, 7 0, 14 1, 4 0, a 10, 19 7, 30 10, 3 1, 1c 0, e 2,
22 3e, 8d 3, 298 18, c 14, 715 1, 21 0, 159 2, 3 4, 2e 0, 2 4, 2 1, 39 6, 3 e, 18 8, 8 0,
8 0, 8 0, 8 0, 8 0, 8 0, 8 0, 8 20, 5f 21, 1b 0, 5a b, d7 19, d 4, 2a 5, 11 0, 57 3, 66 4,
2c 0, 5f 0, 55 b, 30 0, 726e 2, 38 8, 15d 13, 30 3, 2 9, 21 1, 51 1, 7 7, cc 4, 3 0, 2 0,
6 17, 11 0, 4 0, 5 0, 1a 1, 6 3, b 5, 39 7, 45 9, d 17, e 0, 27 7, 1a a, 3 a, 1f 5, 31 0,
3 3, 3 1, 11 0, c 3, 8 0, 1a 0, 2a 5, 3 1, 3 a, 4 0, 9 0, 2 1, b 1, 21 0, 34 0, 2 2, 3 1,
6 1, 2 0, 2 17, 12 1, 9 a, 7 1, 7 1, 7 8, 8 0, 8 0, 3d 3, 76 0, 3 0, 5 2, b 5, 2ba5 b, 18 3,
32 2103, 16f 1, 6b 25, 8 b, 6 4, 2 0, 19 0, 6 0, 2 0, 3 0, 3 0, 7e f, 1be 1, 37 6, 2 1f,
11 f, b 15, 24 0, 14 0, 5 3, 6 0, 88 3, 9e 1, 20 2, 7 1, 7 1, 7 1, 4 2, 8 0, 8 c, 3 1, d 0,
1b 0, 14 0, 3 0, 10 1, f 21, 7c 4, 4 3, 2e 2, 59 0, e 2, 2 2e, 2e 82, 1e 2, 32 f, 1c 3, 25 8,
1f 4, 27 9, 1f 0, 26 3, f 29, 9f 1, b 5, 25 3, 25 3, 29 7, 35 a, d 0, 10 0, 8 0, 3 0, c 0,
10 0, 8 0, 3 42, 138 8, 17 9, 9 17, 7 0, 2b 0, a 44, 7 1, 2 0, 2d 0, 3 2, 2 1, 18 0, 49 7,
a 2f, 14 0, 3 4, 22 2, 1c 4, 2 3f, 39 3, 15 1, 30 e, 5 0, 4 0, 1e 9, a 6, a 6, 41 1f, 26 5,
d 8, 37 2, 1e 1, 1c 4, 1b 6, 5 b, 8 4f, 4a 36, 34 c, 34 6, 2b b, b 125, 20 0, 2b 2, 2 1,
3 4d, 29 7, 17 a, a 15, 13 3, 5 25, 1d 13, 18 8, 2 0, 37 e, 8 3, 1f 0, 3 1, 2 b, 32 3, 3 1,
3 0, 5 d, 1a 6, b 8, 25 4, 2 8, 13 7, 24 0, 4 a, 35 8, b 3, 3 0, 11 0, 15 a, 13 0, 1d 2, 3 0,
2 1, 7 0, 3 3e, 8 0, 2 0, 5 0, 10 0, c 5, 30 0, 4 c, b 7, 3 0, 9 1, 3 1, 17 0, 8 0, 3 0, 6 2,
2 0, 2 0, 5 1, 3 1, 4 1, 2 b, 8 9b, 39 7, 3 2, 2 0, 16 0, 2 0, 4 1d, 31 0, 3 5, 2 0, 3 0,
2 1, 2 1, 5 7, b a5, 30 0, 3 5, 5 1, 2 1, 1c 23, 34 7, 3 0, 2 1, 5 a, b 5, e 12, 2c 0, 2 0,
3 5, 2 0, 3 5, b 35, 1c 4, 3 3, 2 8, 18 b8, 30 8, 2 1, 2 63, 54 b, 9 1, 2 1, 9 0, 3 0, 19 0,
6 0, 3 3, 2 0, 5 0, 4 8, b 45, 9 1, 2b 7, 5 0, 5 1a, 2 9, 29 5, 3 3, 9 8, 2 5, 3 2, 2f c,
2 1, a c, 4a 6, b f5, a 0, 27 d, 2 0, 7 9, 1e 2, 21 18, 2 6, 2 1, 2 4a, 8 0, 3 0, 27 14, 2 8,
b 5, 7 0, 3 0, 26 3, 3 0, 2 0, 2 6, b 135, 14 1, 5 8, 10 0, 25 7, 3 0, 2 0, 18 55, 2 e, 33 c,
39c 65, 70 0, 6 a, c5 a4b, 64 c, 431 10, 7 fb8, 248 21b8, 23a 6, 20 0, b 3, 52 0, b 5, 1f 6,
2 9, 31 6, 10 9, b 0, 8 0, 16 4, 14 2af, 5c 64, 4c 4, 39 a, e 3f, 5 b, 3 d, 17f9 7, 4d7 29,
a 22e6, 5 0, 8 0, 3 0, 124 e, 2 1c, 4 1, 2 d, 5 7, 18d 903, 6c 4, e 2, a 6, b 1, 2 1, 2 12af,
75 3b, f7 9, 28 1, 3d 0, 2 2, 5 14, 3 6, 1f 3, 3e 14, 43 2, 2 79, 15 b, 15 b, 58 8, 1a 86,
56 0, 48 0, 3 1, 2 1, 3 1, 5 0, d 0, 2 0, 8 0, 42 0, 5 1, 9 0, 8 0, 1d 0, 5 0, 6 0, 2 2, 8 0,
155 1, 125 1, 233 36, 5 31, 9 0, f 0, 8 473, 20 5, 7 104, 3f 91, 2e 9, 8 1, b 3, 3 13f,
1f 11, 2d 3, b 4, 2 1cf, 1d 3, b 2e5, 8 0, 5 0, 3 0, 10 0, c6 1, a 2f, 45 6, 2 3, b 3, 3 310,
45 4b, 3e c1, 5 0, 1c 0, 3 0, 2 1, 2 0, b 0, 5 0, 2 0, 2 5, 2 3, 2 0, 2 0, 2 0, 4 0, 3 0,
2 1, 2 0, 2 0, 2 0, 2 0, 2 0, 3 0, 2 1, 5 0, 8 0, 5 0, 5 0, 2 0, b 0, 12 4, 4 0, 6 0, 12 33,
3 10d, 2d 3, 65 b, 10 1, 10 0, 10 0, 26 9, af 37, 1e c, 2d 3, a 6, 3 d, 7 99, 3d9 3, 12 2,
e 2, 78 3, 60 5, d 3, 2 e, d 3, 39 7, b 5, 29 7, 1f 1, 3 4d, 155 b, f 1, e 2, a 6, 2f 0, 8 7,
f 3, a 6, a 6, 94 0, 38 24, b 405, a6e1 1f, 103b 5, df 1, 1683 d, 1d32 c1e, 21f 5e1, 134c 4,
1061 ddc4f,"

/-- The ranges of `hiddenTable`. -/
def hidden : Array (Nat × Nat) := ranges hiddenTable

/-- A character as it appears between quotes. -/
def quoteChar (c : Char) : List Char :=
  if c = '"' then ['\\', '"']
  else if c = '\\' then ['\\', '\\']
  else if c = '\n' then ['\\', 'n']
  else if c = '\r' then ['\\', 'r']
  else if c = '\t' then ['\\', 't']
  else if c.toNat = 0 then ['\\', '0']
  else if c.toNat < 0x20 ∨ (0x7F ≤ c.toNat ∧ isWithin hidden c) then
    ['\\', 'u', '\x7b'] ++ hexDigits 0 c.toNat ++ ['\x7d']
  else [c]

/-- A text between quotes. -/
def quote (s : String) : String :=
  String.ofList ('"' :: s.toList.flatMap quoteChar ++ ['"'])

end Gateway.Text
