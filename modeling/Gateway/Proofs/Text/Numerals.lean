import Gateway.Number.Decimal
import Gateway.Text.Ranges

/-!
# Numerals in front of other text

Readers of documents meet numerals with the rest of the document behind them. A decimal numeral is
the run of digits at the beginning of a text (`takeWhile_digits_append`), it begins with a zero
only if it is the numeral of zero (`digits_eq_cons`), and every digit of a hexadecimal numeral is
read back as it was written (`hexValue?_hexDigit`).
-/

namespace Gateway

namespace Decimal

/-! ### Decimal numerals -/

/-- A text that does not go on with a digit. -/
def EndsNumeral (rest : List Char) : Prop := ∀ c ∈ rest.head?, isDigit c = false

theorem ne_of_isDigit {c d : Char} (hc : isDigit c = true) (hd : isDigit d = false) : c ≠ d := by
  rintro rfl
  cases hc.symm.trans hd

theorem isAlpha_of_isDigit {c : Char} (h : isDigit c = true) : c.isAlpha = false := by
  rw [isDigit, Bool.and_eq_true, decide_eq_true_eq, decide_eq_true_eq] at h
  have hle : c.toNat ≤ 0x39 := h.2
  have hupper : ¬ 0x41 ≤ c.toNat := by omega
  have hlower : ¬ 0x61 ≤ c.toNat := by omega
  refine Bool.or_eq_false_iff.mpr ⟨decide_eq_false fun h => hupper h.1, ?_⟩
  exact Bool.and_eq_false_iff.mpr (.inl (decide_eq_false hlower))

theorem digits_zero : digits 0 = ['0'] := by
  rw [digits, if_pos (by decide)]
  rfl

theorem digits_eq_digit_cons (n : Nat) : ∃ c cs, digits n = c :: cs ∧ isDigit c = true := by
  obtain ⟨c, cs, hcs⟩ := List.exists_cons_of_ne_nil (digits_ne_nil n)
  exact ⟨c, cs, hcs, isDigit_of_mem_digits (hcs ▸ List.mem_cons_self)⟩

/-- Only the numeral of zero begins with a zero. -/
theorem digits_eq_cons {n : Nat} (h : n ≠ 0) :
    ∃ c cs, digits n = c :: cs ∧ isDigit c = true ∧ c ≠ '0' := by
  induction n using digits.induct with
  | case1 n hn =>
    rw [digits, if_pos hn]
    refine ⟨digit n, [], rfl, isDigit_digit n, fun hc => ?_⟩
    have hv := congrArg digitValue hc
    rw [digitValue_digit, Nat.mod_eq_of_lt hn] at hv
    exact h hv
  | case2 n hn ih =>
    obtain ⟨c, cs, hcs, hc, hne⟩ := ih (by omega)
    rw [digits, if_neg hn, hcs]
    exact ⟨c, cs ++ [digit n], rfl, hc, hne⟩

/-- A numeral is taken up to where it ends. -/
theorem takeWhile_digits_append (n : Nat) {rest : List Char} (h : EndsNumeral rest) :
    (digits n ++ rest).takeWhile isDigit = digits n := by
  rw [List.takeWhile_append_of_pos fun _ => isDigit_of_mem_digits]
  cases rest with
  | nil => simp
  | cons c cs => simp [h c rfl]

theorem dropWhile_digits_append (n : Nat) {rest : List Char} (h : EndsNumeral rest) :
    (digits n ++ rest).dropWhile isDigit = rest := by
  rw [List.dropWhile_append_of_pos fun _ => isDigit_of_mem_digits]
  cases rest with
  | nil => simp
  | cons c cs => simp [h c rfl]

end Decimal

namespace Text

/-! ### Hexadecimal numerals -/

/-- A digit is read back. -/
theorem hexValue?_hexDigit (n : Nat) : hexValue? (hexDigit n) = some (n % 16) := by
  have h : n % 16 < 16 := Nat.mod_lt _ (by decide)
  unfold hexDigit
  generalize n % 16 = m at h
  decide +revert

/-- A small number has four digits. -/
theorem hexDigits_four {n : Nat} (h : n < 65536) :
    hexDigits 4 n =
      [hexDigit (n / 4096), hexDigit (n / 256), hexDigit (n / 16), hexDigit n] := by
  have h0 : n / (16 * 16 * 16 * 16) = 0 := Nat.div_eq_of_lt h
  simp only [hexDigits, Nat.div_div_eq_div_mul, h0]
  rfl

end Text

end Gateway
