/-!
# Bytes and text

Command-line arguments, file contents and header values arrive as bytes. Text is read from
them in two ways:

* `Utf8.decode?` reads a byte string that is well-formed UTF-8 as a whole, or refuses it;
* `Utf8.decodeLossy` reads any byte string, one replacement character for each maximal
  ill-formed part.

Both take the same step, `Utf8.next`, which reads one character or steps over one ill-formed
part. `Utf8.encode` writes text as bytes, and `decode?_encode` says that reading gives it back.
-/

namespace Gateway

/-- A byte string. -/
abbrev Bytes := List UInt8

namespace Utf8

/-! ### Writing -/

/-- The bytes of one character, one to four of them. -/
def encodeChar (c : Char) : Bytes :=
  let n := c.toNat
  if n < 0x80 then [UInt8.ofNat n]
  else if n < 0x800 then [UInt8.ofNat (0xC0 + n / 64), UInt8.ofNat (0x80 + n % 64)]
  else if n < 0x10000 then
    [UInt8.ofNat (0xE0 + n / 4096), UInt8.ofNat (0x80 + n / 64 % 64), UInt8.ofNat (0x80 + n % 64)]
  else
    [UInt8.ofNat (0xF0 + n / 262144), UInt8.ofNat (0x80 + n / 4096 % 64),
      UInt8.ofNat (0x80 + n / 64 % 64), UInt8.ofNat (0x80 + n % 64)]

/-- The bytes of a text. -/
def encode (cs : List Char) : Bytes := cs.flatMap encodeChar

/-- The bytes of a string. -/
def ofString (s : String) : Bytes := encode s.toList

/-- How many bytes a character takes. -/
def width (c : Char) : Nat :=
  let n := c.toNat
  if n < 0x80 then 1 else if n < 0x800 then 2 else if n < 0x10000 then 3 else 4

/-- How many bytes a text takes. -/
def length (cs : List Char) : Nat := cs.foldl (fun n c => n + width c) 0

/-! ### Reading -/

/-- Whether `b` lies between `lo` and `hi`, both included. -/
def within (lo hi : Nat) (b : UInt8) : Bool := lo ≤ b.toNat && b.toNat ≤ hi

/-- The six low bits that a continuation byte carries. -/
def tail (b : UInt8) : Nat := b.toNat - 0x80

/-- Whether a byte continues a character. -/
def isTail (b : UInt8) : Bool := within 0x80 0xBF b

/-- Reads the front of `b :: rest`: a character and what follows it, or no character and what
follows the longest part that could have begun one. -/
def next (b : UInt8) (rest : Bytes) : Option Char × Bytes :=
  let n := b.toNat
  if n < 0x80 then (some (Char.ofNat n), rest)
  else if 0xC2 ≤ n ∧ n ≤ 0xDF then
    match rest with
    | c :: r => if isTail c then (some (Char.ofNat ((n - 0xC0) * 64 + tail c)), r) else (none, rest)
    | [] => (none, rest)
  else if 0xE0 ≤ n ∧ n ≤ 0xEF then
    let lo := if n = 0xE0 then 0xA0 else 0x80
    let hi := if n = 0xED then 0x9F else 0xBF
    match rest with
    | c :: r =>
      if within lo hi c then
        match r with
        | d :: r' =>
          if isTail d then
            (some (Char.ofNat ((n - 0xE0) * 4096 + tail c * 64 + tail d)), r')
          else (none, r)
        | [] => (none, r)
      else (none, rest)
    | [] => (none, rest)
  else if 0xF0 ≤ n ∧ n ≤ 0xF4 then
    let lo := if n = 0xF0 then 0x90 else 0x80
    let hi := if n = 0xF4 then 0x8F else 0xBF
    match rest with
    | c :: r =>
      if within lo hi c then
        match r with
        | d :: r' =>
          if isTail d then
            match r' with
            | e :: r'' =>
              if isTail e then
                (some (Char.ofNat
                  ((n - 0xF0) * 262144 + tail c * 4096 + tail d * 64 + tail e)), r'')
              else (none, r')
            | [] => (none, r')
          else (none, r)
        | [] => (none, r)
      else (none, rest)
    | [] => (none, rest)
  else (none, rest)

/-- A step never gives back more than followed the byte it began with. -/
theorem length_next_le (b : UInt8) (rest : Bytes) : (next b rest).2.length ≤ rest.length := by
  unfold next
  dsimp only
  repeat' split
  all_goals simp_all
  all_goals omega

/-- Reads well-formed UTF-8, or refuses. -/
def decode? : Bytes → Option (List Char)
  | [] => some []
  | b :: rest =>
    match next b rest, length_next_le b rest with
    | (some c, r), _ => (decode? r).map (c :: ·)
    | (none, _), _ => none
termination_by bs => bs.length
decreasing_by exact Nat.lt_succ_of_le (by assumption)

/-- Reads any byte string; each maximal ill-formed part becomes U+FFFD. -/
def decodeLossy : Bytes → List Char
  | [] => []
  | b :: rest =>
    match next b rest, length_next_le b rest with
    | (some c, r), _ => c :: decodeLossy r
    | (none, r), _ => '\uFFFD' :: decodeLossy r
termination_by bs => bs.length
decreasing_by all_goals exact Nat.lt_succ_of_le (by assumption)

/-- The string that a byte string spells, if it is well-formed. -/
def string? (bs : Bytes) : Option String := (decode? bs).map String.ofList

/-- The string that a byte string spells, ill-formed parts replaced. -/
def stringLossy (bs : Bytes) : String := String.ofList (decodeLossy bs)

/-- The well-formed text at the front of a byte string, and the bytes from the first ill-formed
part on. -/
def wellFormedFront : Bytes → List Char × Bytes
  | [] => ([], [])
  | b :: rest =>
    match next b rest, length_next_le b rest with
    | (some c, r), _ => ((c :: (wellFormedFront r).1), (wellFormedFront r).2)
    | (none, _), _ => ([], b :: rest)
termination_by bs => bs.length
decreasing_by all_goals exact Nat.lt_succ_of_le (by assumption)

/-! ### Reading what was written -/

private theorem toNat_ofNat_lt {n : Nat} (h : n < 256) : (UInt8.ofNat n).toNat = n := by
  simp [UInt8.toNat_ofNat', Nat.mod_eq_of_lt h]

private theorem within_ofNat {lo hi n : Nat} (hn : n < 256) (h : lo ≤ n ∧ n ≤ hi) :
    within lo hi (UInt8.ofNat n) = true := by
  simp [within, toNat_ofNat_lt hn, h]

private theorem isTail_ofNat (n : Nat) : isTail (UInt8.ofNat (0x80 + n % 64)) = true :=
  within_ofNat (by omega) (by omega)

private theorem tail_ofNat (n : Nat) : tail (UInt8.ofNat (0x80 + n % 64)) = n % 64 := by
  have h := toNat_ofNat_lt (show 0x80 + n % 64 < 256 by omega)
  unfold tail
  omega

/-- The first step over a written character reads that character. -/
theorem next_encodeChar (c : Char) (rest : Bytes) :
    ∃ b bs, encodeChar c = b :: bs ∧ next b (bs ++ rest) = (some c, rest) := by
  have hc : c.toNat < 0xD800 ∨ 0xDFFF < c.toNat ∧ c.toNat < 0x110000 := c.valid
  have hback : Char.ofNat c.toNat = c := Char.ofNat_toNat c
  generalize hn : c.toNat = n at hc hback
  unfold encodeChar
  simp only [hn]
  split
  · next h =>
    exact ⟨_, _, rfl, by simp [next, toNat_ofNat_lt (show n < 256 by omega), h, hback]⟩
  split
  · next h0 h =>
    refine ⟨_, _, rfl, ?_⟩
    have e1 := toNat_ofNat_lt (show 0xC0 + n / 64 < 256 by omega)
    have hval : (0xC0 + n / 64 - 0xC0) * 64 + n % 64 = n := by omega
    simp only [next, e1, isTail_ofNat, tail_ofNat, List.cons_append, List.nil_append, hval, hback]
    rw [if_neg (show ¬ 0xC0 + n / 64 < 0x80 by omega),
      if_pos (show 0xC2 ≤ 0xC0 + n / 64 ∧ 0xC0 + n / 64 ≤ 0xDF by omega), if_pos trivial]
  split
  · next h0 h1 h =>
    refine ⟨_, _, rfl, ?_⟩
    have e1 := toNat_ofNat_lt (show 0xE0 + n / 4096 < 256 by omega)
    have hw : within (if 0xE0 + n / 4096 = 0xE0 then 0xA0 else 0x80)
        (if 0xE0 + n / 4096 = 0xED then 0x9F else 0xBF)
        (UInt8.ofNat (0x80 + n / 64 % 64)) = true :=
      within_ofNat (by omega) (by split <;> split <;> omega)
    have hval : (0xE0 + n / 4096 - 0xE0) * 4096 + n / 64 % 64 * 64 + n % 64 = n := by omega
    simp only [next, e1, hw, isTail_ofNat, tail_ofNat, List.cons_append, List.nil_append, hval,
      hback]
    rw [if_neg (show ¬ 0xE0 + n / 4096 < 0x80 by omega),
      if_neg (show ¬ (0xC2 ≤ 0xE0 + n / 4096 ∧ 0xE0 + n / 4096 ≤ 0xDF) by omega),
      if_pos (show 0xE0 ≤ 0xE0 + n / 4096 ∧ 0xE0 + n / 4096 ≤ 0xEF by omega),
      if_pos trivial, if_pos trivial]
  · next h0 h1 h =>
    refine ⟨_, _, rfl, ?_⟩
    have e1 := toNat_ofNat_lt (show 0xF0 + n / 262144 < 256 by omega)
    have hw : within (if 0xF0 + n / 262144 = 0xF0 then 0x90 else 0x80)
        (if 0xF0 + n / 262144 = 0xF4 then 0x8F else 0xBF)
        (UInt8.ofNat (0x80 + n / 4096 % 64)) = true :=
      within_ofNat (by omega) (by split <;> split <;> omega)
    have hval : (0xF0 + n / 262144 - 0xF0) * 262144 + n / 4096 % 64 * 4096 + n / 64 % 64 * 64 +
        n % 64 = n := by omega
    simp only [next, e1, hw, isTail_ofNat, tail_ofNat, List.cons_append, List.nil_append, hval,
      hback]
    rw [if_neg (show ¬ 0xF0 + n / 262144 < 0x80 by omega),
      if_neg (show ¬ (0xC2 ≤ 0xF0 + n / 262144 ∧ 0xF0 + n / 262144 ≤ 0xDF) by omega),
      if_neg (show ¬ (0xE0 ≤ 0xF0 + n / 262144 ∧ 0xF0 + n / 262144 ≤ 0xEF) by omega),
      if_pos (show 0xF0 ≤ 0xF0 + n / 262144 ∧ 0xF0 + n / 262144 ≤ 0xF4 by omega),
      if_pos trivial, if_pos trivial, if_pos trivial]

/-- Strict reading, one step at a time. -/
theorem decode?_cons_of_next {b : UInt8} {rest r : Bytes} {c : Char}
    (h : next b rest = (some c, r)) : decode? (b :: rest) = (decode? r).map (c :: ·) := by
  rw [decode?]
  split
  · next c' r' _ heq _ =>
    cases h.symm.trans heq
    rfl
  · next heq _ => cases h.symm.trans heq

/-- Reading what was written gives the text back. -/
theorem decode?_encode (cs : List Char) : decode? (encode cs) = some cs := by
  induction cs with
  | nil => simp [encode, decode?]
  | cons c cs ih =>
    obtain ⟨b, bs, hb, hn⟩ := next_encodeChar c (encode cs)
    have h : encode (c :: cs) = b :: (bs ++ encode cs) := by
      simp [encode, ← List.cons_append, ← hb]
    rw [h, decode?_cons_of_next hn, ih]
    rfl

/-- Reading the bytes of a string gives the string back. -/
theorem string?_ofString (s : String) : string? (ofString s) = some s := by
  simp [string?, ofString, decode?_encode]

end Utf8

end Gateway
