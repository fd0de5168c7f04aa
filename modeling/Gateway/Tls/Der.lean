import Gateway.Text.Utf8

/-!
# Elements of encoded data

Certificates and keys are trees of elements. An element is a tag, the length of what it holds, and
what it holds: bytes, or further elements. Lengths below 128 are one byte; greater ones are the
number of their bytes and these bytes, as few as there can be.
-/

namespace Gateway.Der

/-- An element. -/
structure Element where
  /-- What the element is. -/
  tag : UInt8
  /-- What it holds. -/
  content : Bytes
  deriving DecidableEq, Repr

/-! ### Tags -/

/-- The tag of integers. -/
def integer : UInt8 := 0x02

/-- The tag of strings of bits. -/
def bitString : UInt8 := 0x03

/-- The tag of strings of bytes. -/
def octetString : UInt8 := 0x04

/-- The tag of sequences of elements. -/
def sequence : UInt8 := 0x30

/-- The tag of a part that has a number within its sequence. -/
def numbered (n : UInt8) : UInt8 := 0xA0 + n

/-! ### Reading -/

/-- The number that some bytes write, the highest first. -/
def number (bs : Bytes) : Nat := bs.foldl (fun n b => n * 256 + b.toNat) 0

/-- The length at the front of some bytes, and what stands behind it. -/
def length? : Bytes → Option (Nat × Bytes)
  | [] => none
  | b :: rest =>
    if b < 0x80 then some (b.toNat, rest)
    else
      let size := b.toNat - 0x80
      let digits := rest.take size
      if size = 0 ∨ 4 < size ∨ digits.length < size ∨ digits.head? = some 0 then none
      else if number digits < 0x80 then none
      else some (number digits, rest.drop size)

/-- The element at the front of some bytes, and what stands behind it. -/
def element? : Bytes → Option (Element × Bytes)
  | [] => none
  | tag :: rest =>
    match length? rest with
    | none => none
    | some (n, rest) => if rest.length < n then none else some (⟨tag, rest.take n⟩, rest.drop n)

theorem length_length?_le {bs rest : Bytes} {n : Nat} (h : length? bs = some (n, rest)) :
    rest.length ≤ bs.length := by
  unfold length? at h
  split at h
  · simp at h
  · split at h
    · simp only [Option.some.injEq, Prod.mk.injEq] at h
      simp [← h.2]
    · dsimp only at h
      split at h
      · simp at h
      · split at h
        · simp at h
        · simp only [Option.some.injEq, Prod.mk.injEq] at h
          simp [← h.2]
          omega

theorem length_element?_lt {bs rest : Bytes} {e : Element} (h : element? bs = some (e, rest)) :
    rest.length < bs.length := by
  unfold element? at h
  split at h
  · simp at h
  · split at h
    · simp at h
    · next hl =>
      split at h
      · simp at h
      · have hlength := length_length?_le hl
        simp only [Option.some.injEq, Prod.mk.injEq] at h
        simp [← h.2]
        omega

/-- The elements that some bytes consist of. -/
def elements? (bs : Bytes) : Option (List Element) :=
  if bs = [] then some []
  else
    match _h : element? bs with
    | none => none
    | some (e, rest) => (elements? rest).map (e :: ·)
termination_by bs.length
decreasing_by exact length_element?_lt ‹_›

/-- The elements of a sequence that fills some bytes. -/
def sequence? (bs : Bytes) : Option (List Element) :=
  match element? bs with
  | some (⟨tag, content⟩, []) => if tag = sequence then elements? content else none
  | _ => none

/-! ### Writing -/

/-- The bytes of a number, the highest first and none for zero. -/
def digits (n : Nat) : Bytes :=
  if n = 0 then [] else digits (n / 256) ++ [.ofNat n]

/-- The written form of a length. -/
def encodeLength (n : Nat) : Bytes :=
  if n < 0x80 then [.ofNat n] else .ofNat (0x80 + (digits n).length) :: digits n

/-- The written form of an element. -/
def Element.encode (e : Element) : Bytes := e.tag :: (encodeLength e.content.length ++ e.content)

end Gateway.Der
