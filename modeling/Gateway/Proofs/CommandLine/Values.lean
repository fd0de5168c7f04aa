import Gateway.Proofs.CommandLine.Grammar

/-!
# The values of flags as they are read

A number is read from the text of its digits (`readNumber_eq_ok_iff`), and a value from the bytes
of a text that its flag takes (`readValue_eq_ok_iff`).

The reader looks at a value only when the next flag is met. What is followed through a run is
therefore not what has been read but what would be if the reader settled (`Reader.Settles`).
-/

namespace Gateway.CommandLine

/-! ### Numbers -/

/-- Only digits are read, and what they amount to fits if what was read before them did. -/
theorem readDigits_eq_ok {cs : List Char} {n m : Nat} (h : readDigits n cs = .ok m) :
    cs.all Decimal.isDigit = true ∧ m = cs.foldl (fun n c => n * 10 + Decimal.digitValue c) n ∧
      (n < UInt64.size → m < UInt64.size) := by
  induction cs generalizing n with
  | nil =>
    cases h
    exact ⟨rfl, rfl, id⟩
  | cons c cs ih =>
    rw [readDigits] at h
    split at h
    · cases h
    · next hdigit =>
      split at h
      · cases h
      · next hlt =>
        obtain ⟨hall, hm, hsize⟩ := ih h
        refine ⟨?_, hm, fun _ => hsize (Nat.not_le.mp hlt)⟩
        rw [List.all_cons, hall, Bool.and_true]
        simpa using hdigit

/-- Digits are read if what they amount to fits. -/
theorem readDigits_of_isDigit {cs : List Char} {n : Nat}
    (hdigits : ∀ c ∈ cs, Decimal.isDigit c = true)
    (hlt : cs.foldl (fun n c => n * 10 + Decimal.digitValue c) n < UInt64.size) :
    readDigits n cs = .ok (cs.foldl (fun n c => n * 10 + Decimal.digitValue c) n) := by
  have hle (cs : List Char) : ∀ n, n ≤ cs.foldl (fun n c => n * 10 + Decimal.digitValue c) n := by
    induction cs with
    | nil => exact fun n => n.le_refl
    | cons c cs ih =>
      intro n
      have h := ih (n * 10 + Decimal.digitValue c)
      rw [List.foldl_cons]
      omega
  induction cs generalizing n with
  | nil => rfl
  | cons c cs ih =>
    -- the number read so far is at most the one that is read in the end
    have hnext := hle cs (n * 10 + Decimal.digitValue c)
    rw [List.foldl_cons] at hlt ⊢
    rw [readDigits, hdigits c List.mem_cons_self, Bool.not_true, if_neg Bool.false_ne_true,
      if_neg (by omega)]
    exact ih (fun d hd => hdigits d (List.mem_cons_of_mem _ hd)) hlt

/-- Numbers are read as the strings of digits that they are. -/
theorem readNumber_eq_ok_iff {cs : List Char} {n : Nat} :
    readNumber cs = .ok n ↔
      unsigned cs ≠ [] ∧ (unsigned cs).all Decimal.isDigit = true ∧
        Decimal.value (unsigned cs) < UInt64.size ∧ n = Decimal.value (unsigned cs) := by
  have hdigits {ds : List Char} (hne : ds ≠ []) : readDigits 0 ds = .ok n ↔
      ds ≠ [] ∧ ds.all Decimal.isDigit = true ∧ Decimal.value ds < UInt64.size ∧
        n = Decimal.value ds := by
    constructor
    · intro h
      obtain ⟨hall, rfl, hsize⟩ := readDigits_eq_ok h
      exact ⟨hne, hall, hsize (by decide), rfl⟩
    · rintro ⟨-, hall, hlt, rfl⟩
      exact readDigits_of_isDigit (List.all_eq_true.mp hall) hlt
  unfold readNumber
  split
  · exact iff_of_false nofun fun h => h.1 rfl
  · exact iff_of_false nofun fun h => h.1 rfl
  · next cs hne =>
    have hunsigned : unsigned ('+' :: cs) = cs := rfl
    rw [hunsigned]
    exact hdigits fun hnil => hne (hnil ▸ rfl)
  · next hnil _ hplus =>
    have hunsigned : unsigned cs = cs := by
      unfold unsigned
      cases cs with
      | nil => rfl
      | cons c cs =>
        refine if_neg fun hc => hplus cs ?_
        rw [Option.some.inj hc]
    rw [hunsigned]
    exact hdigits fun h => hnil h

/-! ### Values -/

/-- A flag that takes a number reads it as one. -/
theorem read?_number_eq_some_iff {text : String} {value : UInt64} :
    Kind.read? .number text = some value ↔
      ∃ n, readNumber text.toList = .ok n ∧ UInt64.ofNat n = value := by
  unfold Kind.read?
  simp only [Option.ite_none_right_eq_some, Option.some.injEq, readNumber_eq_ok_iff]
  constructor
  · rintro ⟨⟨hne, hall, hlt⟩, rfl⟩
    exact ⟨_, ⟨hne, hall, hlt, rfl⟩, rfl⟩
  · rintro ⟨n, ⟨hne, hall, hlt, rfl⟩, rfl⟩
    exact ⟨⟨hne, hall, hlt⟩, rfl⟩

/-- The bytes of a text have the value of the text. -/
theorem readValue_ofString_eq_ok_iff (f : Flag) {text : String} {k : Kind} {value : k.Value} :
    readValue f (Utf8.ofString text) k = .ok value ↔ k.read? text = some value := by
  cases k with
  | text | repeated =>
    rw [readValue, Utf8.string?_ofString]
    exact ⟨fun h => congrArg some (Except.ok.inj h),
      fun h => congrArg Except.ok (Option.some.inj h)⟩
  | number =>
    rw [readValue, Utf8.string?_ofString, read?_number_eq_some_iff]
    cases hnumber : readNumber text.toList with
    | error why => simp [hnumber]
    | ok n => simp [hnumber]
  | switch =>
    rw [readValue, Utf8.stringLossy_ofString, Kind.read?]
    by_cases htrue : text = "true"
    · rw [if_pos htrue, if_pos htrue, Except.ok.injEq, Option.some.injEq]
    by_cases hfalse : text = "false"
    · rw [if_neg htrue, if_pos hfalse, if_neg htrue, if_pos hfalse, Except.ok.injEq,
        Option.some.injEq]
    · rw [if_neg htrue, if_neg hfalse, if_neg htrue, if_neg hfalse]
      refine iff_of_false (fun h => ?_) nofun
      split at h <;> cases h

/-- Bytes that have a value are those of a text. -/
theorem exists_ofString_of_readValue {f : Flag} {given : Bytes} {k : Kind} {value : k.Value}
    (h : readValue f given k = .ok value) : ∃ text, given = Utf8.ofString text := by
  cases k with
  | text | number | repeated =>
    cases hgiven : Utf8.string? given with
    | some text => exact ⟨text, Utf8.eq_ofString_of_string? hgiven⟩
    | none =>
      rw [readValue, hgiven] at h
      cases h
  | switch =>
    -- the two words of a switch have no replaced character in them
    rw [readValue] at h
    split at h
    · next htrue => exact ⟨"true", Utf8.eq_ofString_of_stringLossy htrue (by decide)⟩
    split at h
    · next hfalse => exact ⟨"false", Utf8.eq_ofString_of_stringLossy hfalse (by decide)⟩
    split at h <;> cases h

/-- **Values are read** from the bytes of the texts that flags take, and from nothing else. -/
theorem readValue_eq_ok_iff (f : Flag) {given : Bytes} {k : Kind} {value : k.Value} :
    readValue f given k = .ok value ↔
      ∃ text, given = Utf8.ofString text ∧ k.read? text = some value := by
  constructor
  · intro h
    obtain ⟨text, rfl⟩ := exists_ofString_of_readValue h
    exact ⟨text, rfl, (readValue_ofString_eq_ok_iff f).mp h⟩
  · rintro ⟨text, rfl, h⟩
    exact (readValue_ofString_eq_ok_iff f).mpr h

namespace Reader

/-! ### Readers that have settled -/

/-- A reader that has read some values and waits for nothing. -/
def idle (values : Flag.Values) : Reader := ⟨values, .nothing, false⟩

/-- A value is recorded if it is that of a text that the flag takes. -/
theorem record_eq_ok_iff {values : Flag.Values} {pending : Pending} {isClosed : Bool} {f : Flag}
    {given : Bytes} {r : Reader} :
    record ⟨values, pending, isClosed⟩ f given = .ok r ↔
      ∃ text, given = Utf8.ofString text ∧ (f.kind.read? text).isSome = true ∧
        r = ⟨values.give f text, .nothing, isClosed⟩ := by
  unfold record
  constructor
  · intro h
    split at h
    · next value hvalue =>
      obtain ⟨text, hgiven, hread⟩ := (readValue_eq_ok_iff f).mp hvalue
      refine ⟨text, hgiven, by rw [hread]; rfl, ?_⟩
      rw [Flag.Values.give_of_read? hread]
      exact (Except.ok.inj h).symm
    · cases h
  · rintro ⟨text, hgiven, htaken, rfl⟩
    obtain ⟨value, hread⟩ := Option.isSome_iff_exists.mp htaken
    have hvalue : readValue f given f.kind = .ok value :=
      (readValue_eq_ok_iff f).mpr ⟨text, hgiven, hread⟩
    simp only [hvalue, Flag.Values.give_of_read? hread]

/-- A reader that is not past the flags and would settle with some values. -/
structure Settles (r : Reader) (values : Flag.Values) : Prop where
  /-- The flags have not ended. -/
  isClosed_eq : r.isClosed = false
  /-- Settling leaves the values and nothing to wait for. -/
  settle_eq : r.settle = .ok (idle values)

theorem settles_idle (values : Flag.Values) : (idle values).Settles values := ⟨rfl, rfl⟩

/-- A reader settles with one collection of values. -/
theorem Settles.unique {r : Reader} {values values' : Flag.Values} (h : r.Settles values)
    (h' : r.Settles values') : values = values' :=
  congrArg Reader.values (Except.ok.inj (h.settle_eq.symm.trans h'.settle_eq))

theorem not_settles_awaiting {values values' : Flag.Values} {f : Flag} :
    ¬ Settles ⟨values, .awaiting f, false⟩ values' := fun h => nomatch h.settle_eq

/-- A value that is held back settles if it is that of a text that its flag takes. -/
theorem settles_holding_iff {values values' : Flag.Values} {f : Flag} {given : Bytes} :
    Settles ⟨values, .holding f given, false⟩ values' ↔
      ∃ text, given = Utf8.ofString text ∧ (f.kind.read? text).isSome = true ∧
        values' = values.give f text := by
  constructor
  · rintro ⟨-, hsettle⟩
    obtain ⟨text, hgiven, htaken, hidle⟩ := record_eq_ok_iff.mp hsettle
    exact ⟨text, hgiven, htaken, congrArg Reader.values hidle⟩
  · rintro ⟨text, hgiven, htaken, rfl⟩
    exact ⟨rfl, record_eq_ok_iff.mpr ⟨text, hgiven, htaken, rfl⟩⟩

variable {r : Reader} {values : Flag.Values}

theorem settles_of_settle {r₀ : Reader} (h : r.settle = .ok r₀) :
    Settles ⟨r.values, r.pending, false⟩ r₀.values := by
  obtain ⟨values, pending, isClosed⟩ := r
  cases pending with
  | nothing =>
    cases h
    exact settles_idle values
  | awaiting f => cases h
  | holding f given =>
    obtain ⟨text, hgiven, htaken, rfl⟩ := record_eq_ok_iff.mp h
    exact settles_holding_iff.mpr ⟨text, hgiven, htaken, rfl⟩

/-- What would be read is read behind the end of the flags too. -/
theorem Settles.settle_close (h : r.Settles values) :
    ({ r with isClosed := true } : Reader).settle = .ok ⟨values, .nothing, true⟩ := by
  obtain ⟨values', pending, isClosed⟩ := r
  obtain ⟨hclosed, hsettle⟩ := h
  obtain rfl : isClosed = false := hclosed
  cases pending with
  | nothing =>
    cases hsettle
    rfl
  | awaiting f => cases hsettle
  | holding f given =>
    obtain ⟨text, hgiven, htaken, hidle⟩ := record_eq_ok_iff.mp hsettle
    obtain rfl := congrArg Reader.values hidle
    exact record_eq_ok_iff.mpr ⟨text, hgiven, htaken, rfl⟩

/-- If settling does not fail, the reader that comes of it waits for nothing. -/
theorem exists_settles (hclosed : r.isClosed = false) {r₀ : Reader} (h : r.settle = .ok r₀) :
    r.Settles r₀.values ∧ r₀ = idle r₀.values := by
  obtain ⟨values, pending, isClosed⟩ := r
  obtain rfl : isClosed = false := hclosed
  have hr := settles_of_settle h
  exact ⟨hr, Except.ok.inj (h.symm.trans hr.settle_eq)⟩

end Reader

end Gateway.CommandLine
