import Gateway.Text.Utf8

/-!
# Digests of keys

The digest SHA-1 of a message: twenty bytes. The message is filled up to whole blocks of sixteen
words of four bytes, the last two of which hold its length in bits. Each block is spread out to
eighty words and worked into five words in as many rounds.
-/

namespace Gateway.Sha1

/-! ### Blocks -/

/-- The words that some bytes make, four bytes each, the highest one first. -/
def words : Bytes → List UInt32
  | a :: b :: c :: d :: rest =>
    UInt32.ofNat (((a.toNat * 256 + b.toNat) * 256 + c.toNat) * 256 + d.toNat) :: words rest
  | _ => []

/-- The bytes of a word, the highest one first. -/
def bytes (w : UInt32) : Bytes :=
  let n := w.toNat
  [.ofNat (n / 16777216), .ofNat (n / 65536), .ofNat (n / 256), .ofNat n]

/-- The words of a message that is filled up: behind the message stands a one bit, and at the end
its length. -/
def filled (message : Bytes) : List UInt32 :=
  let fill := List.replicate ((119 - message.length % 64) % 64) (0 : UInt8)
  let bits := message.length * 8
  words (message ++ 0x80 :: fill) ++ [.ofNat (bits / 4294967296), .ofNat bits]

/-- A word whose bits are moved to the left by `n`, those at the end coming back in front. -/
def turn (n w : UInt32) : UInt32 := (w <<< n) ||| (w >>> (32 - n))

/-- Puts `n` more words in front of those of a block, which stand in reverse. -/
def spread : Nat → List UInt32 → List UInt32
  | 0, ws => ws
  | n + 1, ws =>
    let w (i : Nat) : UInt32 := ws.getD i 0
    spread n (turn 1 (w 2 ^^^ w 7 ^^^ w 13 ^^^ w 15) :: ws)

/-! ### Rounds -/

/-- The five words that blocks are worked into. -/
structure State where
  a : UInt32
  b : UInt32
  c : UInt32
  d : UInt32
  e : UInt32

namespace State

/-- The words before the first block. -/
def first : State := ⟨0x67452301, 0xEFCDAB89, 0x98BADCFE, 0x10325476, 0xC3D2E1F0⟩

/-- How round `t` mixes the words. -/
def mix (s : State) (t : Nat) : UInt32 :=
  if t < 20 then ((s.b &&& s.c) ||| (~~~s.b &&& s.d)) + 0x5A827999
  else if t < 40 then (s.b ^^^ s.c ^^^ s.d) + 0x6ED9EBA1
  else if t < 60 then ((s.b &&& s.c) ||| (s.b &&& s.d) ||| (s.c &&& s.d)) + 0x8F1BBCDC
  else (s.b ^^^ s.c ^^^ s.d) + 0xCA62C1D6

/-- Round `t`, with its word. -/
def round (s : State) (w : UInt32) (t : Nat) : State :=
  ⟨turn 5 s.a + s.mix t + s.e + w, s.a, turn 30 s.b, s.c, s.d⟩

/-- Works a block into the words; the block stands in reverse. -/
def absorb (s : State) (block : List UInt32) : State :=
  let r := (spread 64 block).reverse.zipIdx.foldl (fun r w => r.round w.1 w.2) s
  ⟨s.a + r.a, s.b + r.b, s.c + r.c, s.d + r.d, s.e + r.e⟩

/-- Works words into the state, with those of the present block in reverse. -/
def absorbAll (s : State) (block : List UInt32) : List UInt32 → State
  | [] => s
  | w :: ws =>
    if block.length = 15 then absorbAll (s.absorb (w :: block)) [] ws
    else absorbAll s (w :: block) ws

end State

/-- The digest of a message. -/
def digest (message : Bytes) : Bytes :=
  let s := State.first.absorbAll [] (filled message)
  [s.a, s.b, s.c, s.d, s.e].flatMap bytes

end Gateway.Sha1
