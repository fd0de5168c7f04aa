/-!
# Punycode

A label with characters outside ASCII is written with letters, digits and hyphens alone. Its ASCII
characters come first; the others are put in one after the other, by increasing code point and,
among equal ones, from left to right. Each such insertion is written as the number of steps from
the one before, where a step is either the next place or, behind the last place, the next code
point.

The numbers have digits to the base 36, the least first. A digit below its threshold is the last
one; the thresholds follow a bias, which adapts to the numbers seen so far.

`number?_numeral` says that a written number is read back, whatever follows it.
-/

namespace Gateway.Domain.Punycode

/-! ### Digits and thresholds -/

/-- The digit of a value below 36: the letters, then the decimal digits. -/
def digit (d : Nat) : Char :=
  if d < 26 then Char.ofNat (97 + d) else Char.ofNat (22 + d)

/-- The value of a digit. -/
def value? (c : Char) : Option Nat :=
  if 'a' ≤ c ∧ c ≤ 'z' then some (c.toNat - 97)
  else if '0' ≤ c ∧ c ≤ '9' then some (c.toNat - 22)
  else none

/-- A digit has the value that it is written for. -/
theorem value?_digit {d : Nat} (h : d < 36) : value? (digit d) = some d := by
  have all : ∀ e ∈ List.range 36, value? (digit e) = some e := by decide
  exact all d (List.mem_range.2 h)

/-- The threshold of the digit at a place, where the places count in steps of 36. -/
def threshold (bias place : Nat) : Nat :=
  if place ≤ bias + 1 then 1 else if bias + 26 ≤ place then 26 else place - bias

/-- A digit of zero is below every threshold, so every number has a last digit. -/
theorem threshold_pos (bias place : Nat) : 1 ≤ threshold bias place := by
  unfold threshold
  split <;> (try split) <;> omega

/-- Above every threshold there are digits left, so every number has a next one. -/
theorem threshold_le (bias place : Nat) : threshold bias place ≤ 26 := by
  unfold threshold
  split <;> (try split) <;> omega

/-- Divides by 35 until at most 455 is left, and counts 36 for each division. -/
def shrink (count n : Nat) : Nat × Nat :=
  if 455 < n then shrink (count + 36) (n / 35) else (count, n)
termination_by n
decreasing_by exact Nat.div_lt_self (by omega) (by decide)

/-- The bias after a number of steps that made the text `length` characters long. -/
def adapt (first : Bool) (length steps : Nat) : Nat :=
  let scaled := if first then steps / 700 else steps / 2
  let (count, rest) := shrink 0 (scaled + scaled / length)
  count + 36 * rest / (rest + 38)

/-! ### Numbers -/

/-- The digits of a number, from a place on. -/
def numeral (bias place n : Nat) : List Char :=
  let t := threshold bias place
  if n < t then [digit n]
  else digit (t + (n - t) % (36 - t)) :: numeral bias (place + 36) ((n - t) / (36 - t))
termination_by n
decreasing_by
  have pos := threshold_pos bias place
  exact Nat.lt_of_le_of_lt (Nat.div_le_self _ _) (by omega)

/-- The number at the front of a text, from a place of a given weight on, and what follows it. -/
def number? (bias place weight : Nat) : List Char → Option (Nat × List Char)
  | [] => none
  | c :: cs =>
    match value? c with
    | none => none
    | some d =>
      let t := threshold bias place
      if d < t then some (d * weight, cs)
      else
        match number? bias (place + 36) (weight * (36 - t)) cs with
        | none => none
        | some (n, rest) => some (d * weight + n, rest)

theorem length_of_number? {bias place weight : Nat} {cs rest : List Char} {n : Nat}
    (h : number? bias place weight cs = some (n, rest)) : rest.length < cs.length := by
  induction cs generalizing place weight n rest with
  | nil => simp [number?] at h
  | cons c cs ih =>
    rw [number?] at h
    split at h
    · simp at h
    · dsimp only at h
      split at h
      · simp only [Option.some.injEq, Prod.mk.injEq] at h
        simp [← h.2]
      · split at h
        · simp at h
        · next m r hm =>
          simp only [Option.some.injEq, Prod.mk.injEq] at h
          have hrest := ih hm
          simp only [List.length_cons, ← h.2]
          omega

/-- A written number is read back, whatever follows it. -/
theorem number?_numeral (bias place weight n : Nat) (rest : List Char) :
    number? bias place weight (numeral bias place n ++ rest) = some (n * weight, rest) := by
  induction n using Nat.strongRecOn generalizing place weight with
  | _ n ih =>
    have pos := threshold_pos bias place
    have le := threshold_le bias place
    rw [numeral]
    by_cases h : n < threshold bias place
    · simp [h, number?, value?_digit (show n < 36 by omega)]
    · simp only [h, if_false, List.cons_append, number?]
      generalize threshold bias place = t at *
      have small : (n - t) % (36 - t) < 36 - t := Nat.mod_lt _ (by omega)
      have less : (n - t) / (36 - t) < n := Nat.lt_of_le_of_lt (Nat.div_le_self _ _) (by omega)
      have whole : t + (n - t) % (36 - t) + (n - t) / (36 - t) * (36 - t) = n := by
        have hsplit := Nat.mod_add_div' (n - t) (36 - t)
        omega
      have weights : (n - t) / (36 - t) * (weight * (36 - t)) =
          (n - t) / (36 - t) * (36 - t) * weight := by
        rw [Nat.mul_comm weight, Nat.mul_assoc]
      simp only [value?_digit (show t + (n - t) % (36 - t) < 36 by omega), ih _ less]
      rw [if_neg (by omega), weights, ← Nat.add_mul, whole]

/-! ### Insertions -/

/-- The rightmost of the largest characters of a text, with its place. -/
def lastLargest? : List Char → Option (Nat × Char)
  | [] => none
  | c :: cs =>
    match lastLargest? cs with
    | none => some (0, c)
    | some (place, top) => if c ≤ top then some (place + 1, top) else some (0, c)

theorem lt_of_lastLargest? {cs : List Char} {place : Nat} {top : Char}
    (h : lastLargest? cs = some (place, top)) : place < cs.length := by
  induction cs generalizing place top with
  | nil => simp [lastLargest?] at h
  | cons c cs ih =>
    rw [lastLargest?] at h
    split at h
    · simp only [Option.some.injEq, Prod.mk.injEq] at h
      simp [← h.1]
    · next i t hi =>
      have hrest := ih hi
      split at h <;>
      · simp only [Option.some.injEq, Prod.mk.injEq] at h
        simp only [← h.1, List.length_cons]
        omega

/-- Whether a character is one of the 128 of ASCII. -/
def isAscii (c : Char) : Bool := c.toNat < 128

/-- The insertions that make a text from its ASCII characters, in their order. -/
def insertions (cs : List Char) : List (Nat × Char) :=
  match _h : lastLargest? cs with
  | none => []
  | some (place, top) =>
    if isAscii top then [] else insertions (cs.eraseIdx place) ++ [(place, top)]
termination_by cs.length
decreasing_by
  have hindex := lt_of_lastLargest? _h
  rw [List.length_eraseIdx_of_lt hindex]
  omega

/-- Where the insertions stand: the next place and code point, and the bias. -/
structure Cursor where
  /-- The place behind the last insertion. -/
  place : Nat
  /-- The code point of the last insertion. -/
  code : Nat
  /-- The bias of the next number. -/
  bias : Nat
  /-- Whether nothing has been inserted so far. -/
  first : Bool

namespace Cursor

/-- The first place, before all characters outside ASCII. -/
def start : Cursor := ⟨0, 128, 72, true⟩

/-- The steps to an insertion into a text of a length. -/
def stepsTo (at_ : Cursor) (length place code : Nat) : Nat :=
  (code - at_.code) * (length + 1) + place - at_.place

/-- The insertion some steps further in a text of a length. -/
def target (at_ : Cursor) (length steps : Nat) : Nat × Nat :=
  ((at_.place + steps) % (length + 1), at_.code + (at_.place + steps) / (length + 1))

/-- The cursor behind an insertion into a text of a length. -/
def behind (at_ : Cursor) (length steps place code : Nat) : Cursor :=
  ⟨place + 1, code, adapt at_.first (length + 1) steps, false⟩

end Cursor

/-! ### Texts -/

/-- The numbers of some insertions into a text of a length. -/
def numerals (at_ : Cursor) (length : Nat) : List (Nat × Char) → List Char
  | [] => []
  | (place, c) :: rest =>
    let steps := at_.stepsTo length place c.toNat
    numeral at_.bias 36 steps ++
      numerals (at_.behind length steps place c.toNat) (length + 1) rest

/-- The written form of a text. -/
def encode (cs : List Char) : List Char :=
  let ascii := cs.filter isAscii
  let front := if ascii.isEmpty then [] else ascii ++ ['-']
  front ++ numerals .start ascii.length (insertions cs)

/-- The character of a code point, if it is one. -/
def char? (code : Nat) : Option Char :=
  if code.isValidChar then some (Char.ofNat code) else none

/-- Makes the insertions whose numbers a text holds. -/
def insert? (at_ : Cursor) (text cs : List Char) : Option (List Char) :=
  if cs.isEmpty then some text
  else
    match _h : number? at_.bias 36 1 cs with
    | none => none
    | some (steps, rest) =>
      let (place, code) := at_.target text.length steps
      match char? code with
      | none => none
      | some c =>
        insert? (at_.behind text.length steps place code) (text.insertIdx place c) rest
termination_by cs.length
decreasing_by exact length_of_number? _h

/-- The parts of a text before and behind its last hyphen; without a hyphen, or with one at the
very beginning, all of it is behind. -/
def parts (cs : List Char) : List Char × List Char :=
  let behind := (cs.reverse.takeWhile (· ≠ '-')).reverse
  let front := cs.take (cs.length - behind.length - 1)
  if front.isEmpty then ([], cs) else (front, behind)

/-- The text that a written form stands for. -/
def decode? (cs : List Char) : Option (List Char) :=
  let (front, behind) := parts cs
  insert? .start front behind

end Gateway.Domain.Punycode
