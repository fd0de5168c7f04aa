/-!
# Decimal numerals

Natural numbers written with the digits `0` to `9`, most significant first and without leading
zeros, and the reading of digit strings. `value_digits` says that reading undoes writing, and
`read?_digits` that the bounded reader accepts what was written as long as the bound allows it.
-/

namespace Gateway.Decimal

/-- The digit of a number below ten. -/
def digit (n : Nat) : Char := Char.ofNat (48 + n % 10)

/-- The value of a digit. -/
def digitValue (c : Char) : Nat := c.toNat - 48

/-- Whether a character is one of the ten digits. -/
def isDigit (c : Char) : Bool := '0' ≤ c && c ≤ '9'

/-- The numeral of a number. -/
def digits (n : Nat) : List Char :=
  if n < 10 then [digit n] else digits (n / 10) ++ [digit n]
termination_by n

/-- The number that a string of digits denotes. -/
def value (cs : List Char) : Nat := cs.foldl (fun n c => n * 10 + digitValue c) 0

/-- The numeral as a string. -/
def toString (n : Nat) : String := String.ofList (digits n)

/-- Reads a non-empty string of digits that denotes a number of at most `bound`. -/
def read? (bound : Nat) (cs : List Char) : Option Nat :=
  if cs ≠ [] ∧ cs.all isDigit ∧ value cs ≤ bound then some (value cs) else none

/-! ### Reading what was written -/

theorem digitValue_digit (n : Nat) : digitValue (digit n) = n % 10 := by
  have h : n % 10 < 10 := Nat.mod_lt _ (by decide)
  unfold digitValue digit
  generalize n % 10 = m at h
  match m, h with
  | 0, _ | 1, _ | 2, _ | 3, _ | 4, _ | 5, _ | 6, _ | 7, _ | 8, _ | 9, _ => rfl

theorem isDigit_digit (n : Nat) : isDigit (digit n) = true := by
  have h : n % 10 < 10 := Nat.mod_lt _ (by decide)
  unfold digit
  generalize n % 10 = m at h
  match m, h with
  | 0, _ | 1, _ | 2, _ | 3, _ | 4, _ | 5, _ | 6, _ | 7, _ | 8, _ | 9, _ => rfl

theorem digits_ne_nil (n : Nat) : digits n ≠ [] := by
  unfold digits
  split <;> simp

theorem isDigit_of_mem_digits {n : Nat} {c : Char} (h : c ∈ digits n) : isDigit c = true := by
  induction n using digits.induct with
  | case1 n hn =>
    rw [digits, if_pos hn, List.mem_singleton] at h
    exact h ▸ isDigit_digit n
  | case2 n hn ih =>
    rw [digits, if_neg hn, List.mem_append, List.mem_singleton] at h
    rcases h with h | rfl
    · exact ih h
    · exact isDigit_digit n

/-- Reading undoes writing. -/
theorem value_digits (n : Nat) : value (digits n) = n := by
  induction n using digits.induct with
  | case1 n hn =>
    rw [digits, if_pos hn]
    simp [value, digitValue_digit]
    omega
  | case2 n hn ih =>
    rw [digits, if_neg hn]
    unfold value at ih ⊢
    rw [List.foldl_append, ih]
    simp [digitValue_digit]
    omega

/-- A written number is read back under any bound that allows it. -/
theorem read?_digits {bound n : Nat} (h : n ≤ bound) : read? bound (digits n) = some n := by
  have hall : (digits n).all isDigit = true :=
    List.all_eq_true.2 fun _ => isDigit_of_mem_digits
  simp [read?, digits_ne_nil, hall, value_digits, h]

end Gateway.Decimal
