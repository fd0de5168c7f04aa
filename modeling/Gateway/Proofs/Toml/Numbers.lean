import Gateway.Toml.Value
import Gateway.Proofs.Text.Numerals

/-!
# TOML numbers that were written

A decimal numeral at the end of a line is a whole number and nothing else. The reader of values
tries moments and floating-point numbers before whole ones; on a numeral the first fail for want of
a hyphen or a colon (`readMoment_digits`), the second for want of a point or an exponent
(`readReal_digits`), and the last gives the number back if it is below the limit
(`readInteger_digits`).
-/

namespace Gateway.Toml

open Decimal (digits isDigit)

/-! ### Moments -/

/-- What is left of a numeral behind some of its digits goes on with a digit or a line end. -/
private theorem expect_drop {c : Char} (hc : isDigit c = false) (hline : c ≠ '\n') {width : Nat}
    {ds : List Char} (hds : ∀ d ∈ ds, isDigit d = true) (hwidth : width ≤ ds.length)
    (rest : List Char) : expect c ((ds ++ '\n' :: rest).drop width) = none := by
  rw [List.drop_append_of_le_length hwidth]
  cases htail : ds.drop width with
  | nil => exact if_neg hline.symm
  | cons d tail =>
    have hd : isDigit d = true := hds d (List.mem_of_mem_drop (htail ▸ List.mem_cons_self))
    exact if_neg (Decimal.ne_of_isDigit hd hc)

/-- A field of a moment lies within the numeral. -/
private theorem readField_eq_some {width low high n : Nat} {ds rest after : List Char}
    (h : readField width low high (ds ++ '\n' :: rest) = some (n, after)) :
    width ≤ ds.length ∧ after = (ds ++ '\n' :: rest).drop width := by
  unfold readField at h
  simp only at h
  split at h
  · next hfield =>
    split at h
    · cases h
      refine ⟨?_, rfl⟩
      -- a wider field would reach the line end, which is no digit
      refine Nat.le_of_not_lt fun hlt => ?_
      have hmem : '\n' ∈ (ds ++ '\n' :: rest).take width := by
        have hpos : width - ds.length = (width - ds.length - 1) + 1 := by omega
        rw [List.take_append, hpos, List.take_succ_cons]
        exact List.mem_append_right _ List.mem_cons_self
      have hdigit := List.all_eq_true.mp hfield.2 _ hmem
      exact absurd hdigit (by decide)
    · cases h
  · cases h

/-- **A numeral is no moment.** -/
theorem readMoment_digits {ds : List Char} (hds : ∀ d ∈ ds, isDigit d = true)
    (rest : List Char) : readMoment (ds ++ '\n' :: rest) = none := by
  have hdate : skipDate (ds ++ '\n' :: rest) = none := by
    unfold skipDate
    cases hyear : readField 4 0 9999 (ds ++ '\n' :: rest) with
    | none => rfl
    | some r =>
      obtain ⟨year, after⟩ := r
      obtain ⟨hwidth, rfl⟩ := readField_eq_some hyear
      simp [expect_drop (c := '-') (by decide) (by decide) hds hwidth]
  have htime : skipTime (ds ++ '\n' :: rest) = none := by
    unfold skipTime
    cases hhour : readField 2 0 23 (ds ++ '\n' :: rest) with
    | none => rfl
    | some r =>
      obtain ⟨hour, after⟩ := r
      obtain ⟨hwidth, rfl⟩ := readField_eq_some hhour
      simp [expect_drop (c := ':') (by decide) (by decide) hds hwidth]
  unfold readMoment
  rw [hdate, htime]
  rfl

/-! ### Digits -/

private theorem more_append {ds : List Char} (hds : ∀ d ∈ ds, isDigit d = true)
    (rest : List Char) :
    readDigits.more isDigit (ds ++ '\n' :: rest) = some (ds, '\n' :: rest) := by
  induction ds with
  | nil => rfl
  | cons d ds ih =>
    obtain ⟨hd, hds⟩ := List.forall_mem_cons.mp hds
    have hunder : d ≠ '_' := Decimal.ne_of_isDigit hd (by decide)
    rw [List.cons_append, readDigits.more.eq_def]
    split
    · next heq =>
      exact absurd (List.cons.inj heq).1 hunder
    · next heq => exact absurd (List.cons.inj heq).1 hunder
    · next heq =>
      cases heq
      rw [if_pos hd, ih hds]
      rfl
    · next heq => cases heq

/-- The digits of a number are read as they were written. -/
theorem readDecimal_digits (n : Nat) (rest : List Char) :
    readDecimal (digits n ++ '\n' :: rest) = some (digits n, '\n' :: rest) := by
  by_cases hz : n = 0
  · -- a leading zero is read by itself
    subst hz
    rw [Decimal.digits_zero]
    rfl
  · obtain ⟨c, cs, hcs, hc, hne⟩ := Decimal.digits_eq_cons hz
    have htail : ∀ d ∈ cs, isDigit d = true := fun d hd =>
      Decimal.isDigit_of_mem_digits (hcs ▸ List.mem_cons_of_mem c hd)
    rw [hcs, List.cons_append, readDecimal.eq_def]
    split
    · next heq => exact absurd (List.cons.inj heq).1 hne
    · rw [readDigits, if_pos hc, more_append htail]
      rfl

/-- A numeral has no sign. -/
private theorem readSign_digits (n : Nat) (rest : List Char) :
    readSign (digits n ++ rest) = (false, digits n ++ rest) := by
  obtain ⟨c, cs, hcs, hc⟩ := Decimal.digits_eq_digit_cons n
  rw [hcs, List.cons_append]
  unfold readSign
  split
  · next heq =>
    cases heq
    exact absurd hc (by decide)
  · next heq =>
    cases heq
    exact absurd hc (by decide)
  · rfl

/-! ### Numbers -/

/-- **A numeral is no floating-point number.** -/
theorem readReal_digits (n : Nat) (rest : List Char) :
    readReal (digits n ++ '\n' :: rest) = none := by
  have hdecimal : readDecimalReal (digits n ++ '\n' :: rest) = none := by
    simp only [readDecimalReal, readSign_digits, readDecimal_digits, Option.bind_some]
    rfl
  have hnamed : readNamedReal (digits n ++ '\n' :: rest) = none := by
    obtain ⟨c, cs, hcs, hc⟩ := Decimal.digits_eq_digit_cons n
    simp only [readNamedReal, readSign_digits]
    rw [hcs, List.cons_append]
    split
    · next heq =>
      obtain ⟨rfl, -⟩ := List.cons.inj heq
      exact absurd hc (by decide)
    · next heq =>
      obtain ⟨rfl, -⟩ := List.cons.inj heq
      exact absurd hc (by decide)
    · rfl
  rw [readReal, hdecimal, hnamed]

/-- **Whole numbers are read back** if they are below the limit. -/
theorem readInteger_digits {n : Nat} (h : n < integerLimit) (rest : List Char) :
    readInteger (digits n ++ '\n' :: rest) = some (.integer n, '\n' :: rest) := by
  have hread : ((readDecimal (readSign (digits n ++ '\n' :: rest)).2).bind fun r =>
      (wholeNumber? false (Decimal.value r.1)).map (·, r.2)) = some (.integer n, '\n' :: rest) := by
    rw [readSign_digits, readDecimal_digits, Option.bind_some, Decimal.value_digits]
    simp [wholeNumber?, h]
  -- the prefixes of other bases begin with a zero, and so does only the numeral of zero
  by_cases hz : n = 0
  · subst hz
    rw [Decimal.digits_zero] at hread ⊢
    exact hread
  · obtain ⟨c, cs, hcs, hc, hne⟩ := Decimal.digits_eq_cons hz
    unfold readInteger
    split
    · next heq =>
      rw [hcs] at heq
      exact absurd (List.cons.inj heq).1 hne
    · next heq =>
      rw [hcs] at heq
      exact absurd (List.cons.inj heq).1 hne
    · next heq =>
      rw [hcs] at heq
      exact absurd (List.cons.inj heq).1 hne
    · rw [readSign_digits] at hread ⊢
      exact hread

end Gateway.Toml
