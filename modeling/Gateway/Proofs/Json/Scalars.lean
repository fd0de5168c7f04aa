import Gateway.Proofs.Json.Grammar

/-!
# Strings and numbers by the grammar

What the readers make of a string or a number is what the grammar says of it. `readString` accepts
exactly the bodies that spell a text (`readString_append_iff`), while `skipString` steps over every
body (`skipString_append`). `readNumber` gives a natural number exactly for whole numbers that fit
in 64 bits (`readNumber_eq_natural_iff`), while `skipNumber` steps over every number
(`skipNumber_append`).

A string that is read and one that is skipped end at the same quote, and so do numbers: what is
stepped over determines where a value ends, and that is how the readers are compared.
-/

namespace Gateway.Json

/-! ### Escapes -/

/-- Four digits are read as the code unit that they write. -/
theorem readHex_eq_ok_iff {n : Nat} {cs rest : List Char} :
    readHex cs = .ok (n, rest) ↔ ∃ digits, IsCode n digits ∧ cs = digits ++ rest := by
  constructor
  · intro h
    unfold readHex at h
    split at h
    · split at h
      · next ha hb hc hd =>
        cases h
        exact ⟨_, .mk ha hb hc hd, rfl⟩
      · cases h
    · split at h <;> cases h
  · rintro ⟨_, ⟨ha, hb, hc, hd⟩, rfl⟩
    simp only [List.cons_append, List.nil_append, readHex, ha, hb, hc, hd]

/-- The second half of a pair is one more code. -/
theorem readLowSurrogate_eq_ok_iff {high : Nat} {c : Char} {cs rest : List Char} :
    readLowSurrogate high cs = .ok (c, rest) ↔
      ∃ low digits, IsCode low digits ∧ IsLow low ∧ c = joined high low ∧
        cs = '\\' :: 'u' :: (digits ++ rest) := by
  constructor
  · intro h
    unfold readLowSurrogate at h
    split at h
    · cases h
    · split at h
      · cases h
      · split at h
        · cases h
        · next low _ hhex =>
          obtain ⟨digits, hcode, rfl⟩ := readHex_eq_ok_iff.mp hhex
          split at h
          · next hlow =>
            obtain ⟨hc, rfl⟩ := Prod.mk.inj (Except.ok.inj h)
            exact ⟨low, digits, hcode, hlow, hc.symm, rfl⟩
          · cases h
      · cases h
    · cases h
  · rintro ⟨low, digits, hcode, hlow, hc, rfl⟩
    simp only [readLowSurrogate, readHex_eq_ok_iff.mpr ⟨digits, hcode, rfl⟩]
    rw [hc]
    exact if_pos hlow

/-- **Escapes** are read as what they stand for. -/
theorem readEscape_eq_ok_iff {c : Char} {cs rest : List Char} :
    readEscape cs = .ok (c, rest) ↔ ∃ unit, IsEscape c unit ∧ cs = unit ++ rest := by
  constructor
  · intro h
    unfold readEscape at h
    split at h
    · cases h
    · split at h
      case h_9 =>
        split at h
        · cases h
        · next n _ hhex =>
          obtain ⟨digits, hcode, rfl⟩ := readHex_eq_ok_iff.mp hhex
          split at h
          · cases h
          · next hlow =>
            split at h
            · next hhigh =>
              obtain ⟨low, digits', hcode', hlow', hc, rfl⟩ := readLowSurrogate_eq_ok_iff.mp h
              rw [hc]
              exact ⟨_, .pair hcode hcode' hhigh hlow', by simp⟩
            · next hhigh =>
              cases h
              exact ⟨_, .code hcode hhigh hlow, rfl⟩
      case h_10 => cases h
      all_goals
        cases h
        exact ⟨_, .letter (by decide), rfl⟩
  · rintro ⟨unit, hunit, rfl⟩
    cases hunit with
    | letter h =>
      simp only [escapes, List.mem_cons, Prod.mk.injEq, List.not_mem_nil, or_false] at h
      rcases h with ⟨rfl, rfl⟩ | ⟨rfl, rfl⟩ | ⟨rfl, rfl⟩ | ⟨rfl, rfl⟩ | ⟨rfl, rfl⟩ | ⟨rfl, rfl⟩ |
        ⟨rfl, rfl⟩ | ⟨rfl, rfl⟩ <;> rfl
    | code hcode hhigh hlow =>
      rw [IsHigh] at hhigh
      rw [IsLow] at hlow
      simp only [List.cons_append, readEscape, readHex_eq_ok_iff.mpr ⟨_, hcode, rfl⟩]
      rw [if_neg hlow, if_neg hhigh]
    | @pair high low digits digits' hcode hcode' hhigh hlow =>
      have hsecond : readLowSurrogate high ('\\' :: 'u' :: (digits' ++ rest)) =
          .ok (joined high low, rest) :=
        readLowSurrogate_eq_ok_iff.mpr ⟨low, digits', hcode', hlow, rfl, rfl⟩
      rw [IsHigh] at hhigh
      simp only [List.cons_append, List.append_assoc, readEscape,
        readHex_eq_ok_iff.mpr ⟨digits, hcode, rfl⟩]
      rw [if_neg (by omega), if_pos hhigh, hsecond]

/-! ### Strings that are skipped -/

theorem skipEscape_letter {c e : Char} (h : (c, e) ∈ escapes) (rest : List Char) :
    skipEscape (c :: rest) = .ok rest := by
  have hc : c ∈ escapes.map Prod.fst := List.mem_map_of_mem h
  exact if_pos hc

theorem skipEscape_code {n : Nat} {digits : List Char} (h : IsCode n digits) (rest : List Char) :
    skipEscape ('u' :: (digits ++ rest)) = .ok rest := by
  rw [skipEscape, if_neg (by decide), if_pos rfl]
  simp only [readHex_eq_ok_iff.mpr ⟨digits, h, rfl⟩]

theorem skipString_escape {cs after : List Char} (h : skipEscape cs = .ok after) :
    skipString ('\\' :: cs) = skipString after := by
  rw [skipString, if_neg (by decide), if_pos rfl]
  split
  · next heq => cases h.symm.trans heq
  · next heq =>
    cases h.symm.trans heq
    rfl

/-- **Strings** are stepped over, whether or not they spell a text. -/
theorem skipString_append {body : List Char} (h : IsBody body) (rest : List Char) :
    skipString (body ++ '"' :: rest) = .ok rest := by
  induction h with
  | nil =>
    rw [List.nil_append, skipString, if_pos rfl]
  | cons hunit hbody ih =>
    cases hunit with
    | plain hquote hbackslash hcontrol =>
      rw [List.append_assoc, List.singleton_append, skipString, if_neg hquote,
        if_neg hbackslash, if_neg hcontrol, ih]
    | escape h =>
      simp only [List.cons_append, List.nil_append]
      rw [skipString_escape (skipEscape_letter h _), ih]
    | code h =>
      simp only [List.cons_append, List.append_assoc]
      rw [skipString_escape (skipEscape_code h _), ih]

/-! ### Strings that are read -/

/-- An escape is one piece of a body, or two. -/
theorem IsEscape.isBody {c : Char} {unit body : List Char} (h : IsEscape c unit)
    (hbody : IsBody body) : IsBody ('\\' :: (unit ++ body)) := by
  cases h with
  | letter h => exact .cons (.escape h) hbody
  | code hcode => exact .cons (.code hcode) hbody
  | @pair _ _ digits digits' hcode hcode' =>
    have htwo := IsBody.cons (.code hcode) (.cons (.code hcode') hbody)
    simpa using htwo

/-- What spells a text is the body of a string. -/
theorem Spells.isBody {body text : List Char} (h : Spells body text) : IsBody body := by
  induction h with
  | nil => exact .nil
  | plain hquote hbackslash hcontrol _ ih => exact .cons (.plain hquote hbackslash hcontrol) ih
  | escape hunit _ ih => exact hunit.isBody ih

/-- **Texts are read** from the bodies that spell them. -/
theorem Spells.readString {body text : List Char} (h : Spells body text) (rest : List Char) :
    readString (body ++ '"' :: rest) = .ok (text, rest) := by
  induction h with
  | nil =>
    rw [List.nil_append, Json.readString, if_pos rfl]
  | plain hquote hbackslash hcontrol _ ih => exact readString_plain hquote hbackslash hcontrol ih
  | @escape c unit body text hunit _ ih =>
    rw [List.cons_append, List.append_assoc]
    exact readString_escape (readEscape_eq_ok_iff.mpr ⟨unit, hunit, rfl⟩) ih

/-- A body spells one text at most. -/
theorem Spells.unique {body text text' : List Char} (h : Spells body text)
    (h' : Spells body text') : text = text' :=
  (Prod.mk.inj (Except.ok.inj ((h.readString []).symm.trans (h'.readString [])))).1

/-- A text without quotes, backslashes and control characters spells itself. -/
theorem spells_self {cs : List Char}
    (h : (cs.all fun c => c ≠ '"' ∧ c ≠ '\\' ∧ ¬ c.toNat < 0x20) = true) : Spells cs cs := by
  induction cs with
  | nil => exact .nil
  | cons c cs ih =>
    rw [List.all_cons, Bool.and_eq_true, decide_eq_true_eq] at h
    obtain ⟨⟨hquote, hbackslash, hcontrol⟩, hcs⟩ := h
    exact .plain hquote hbackslash hcontrol (ih hcs)

/-- What is read is a body with a quote behind it. -/
theorem exists_spells_of_readString {cs text rest : List Char}
    (h : readString cs = .ok (text, rest)) :
    ∃ body, Spells body text ∧ cs = body ++ '"' :: rest := by
  fun_induction readString cs generalizing text rest with
  | case1 => cases h
  | case2 =>
    cases h
    exact ⟨[], .nil, rfl⟩
  | case3 => cases h
  | case4 => cases h
  | case5 _ _ _ hescape _ _ _ hs _ ih =>
    cases h
    obtain ⟨body, hbody, rfl⟩ := ih hs
    obtain ⟨unit, hunit, rfl⟩ := readEscape_eq_ok_iff.mp hescape
    exact ⟨_, .escape hunit hbody, by simp⟩
  | case6 => cases h
  | case7 => cases h
  | case8 _ _ hquote hbackslash hcontrol _ _ hs ih =>
    cases h
    obtain ⟨body, hbody, rfl⟩ := ih hs
    exact ⟨_, .plain hquote hbackslash hcontrol hbody, rfl⟩

/-- **Strings** are read as the texts that their bodies spell. -/
theorem readString_append_iff {body text rest rest' : List Char} (h : IsBody body) :
    readString (body ++ '"' :: rest) = .ok (text, rest') ↔ rest' = rest ∧ Spells body text := by
  constructor
  · intro hread
    obtain ⟨body', hbody', heq⟩ := exists_spells_of_readString hread
    -- both bodies are stepped over, up to the same quote
    have hskip := skipString_append h rest
    rw [heq, skipString_append hbody'.isBody rest'] at hskip
    obtain rfl := Except.ok.inj hskip
    rw [List.append_cancel_right heq]
    exact ⟨rfl, hbody'⟩
  · rintro ⟨rfl, hbody⟩
    exact hbody.readString rest'

/-! ### Runs of digits -/

section Digits

variable {ds rest : List Char}

/-- Digits are taken up to where the numeral ends. -/
theorem leadingDigits_append (hds : ∀ c ∈ ds, Decimal.isDigit c = true)
    (h : Decimal.EndsNumeral rest) : leadingDigits (ds ++ rest) = ds := by
  rw [leadingDigits, List.takeWhile_append_of_pos hds]
  cases rest with
  | nil => exact List.append_nil ds
  | cons c cs => simp [h c rfl]

theorem afterDigits_append (hds : ∀ c ∈ ds, Decimal.isDigit c = true)
    (h : Decimal.EndsNumeral rest) : afterDigits (ds ++ rest) = rest := by
  rw [afterDigits, List.dropWhile_append_of_pos hds]
  cases rest with
  | nil => rfl
  | cons c cs => simp [h c rfl]

/-- No digits are taken exactly where a numeral ends. -/
theorem leadingDigits_eq_nil_iff : leadingDigits rest = [] ↔ Decimal.EndsNumeral rest := by
  cases rest with
  | nil => simp [leadingDigits, Decimal.EndsNumeral]
  | cons c cs => simp [leadingDigits, Decimal.EndsNumeral, List.takeWhile_cons]

theorem endsNumeral_afterDigits (cs : List Char) : Decimal.EndsNumeral (afterDigits cs) := by
  intro c hc
  have hnot := List.head?_dropWhile_not Decimal.isDigit cs
  rw [← afterDigits, hc] at hnot
  simpa using hnot

end Digits

/-! ### Numbers that are skipped -/

/-- Neither a place nor an exponent begins with a digit. -/
theorem endsNumeral_exponent {exponent rest : List Char} (he : IsExponent exponent)
    (h : EndsNumber rest) : Decimal.EndsNumeral (exponent ++ rest) := by
  obtain rfl | ⟨letter, hletter, sign, -, digits, -, rfl⟩ := he
  · exact h.endsNumeral
  · intro c hc
    obtain rfl := Option.some.inj hc
    simp only [List.mem_cons, List.not_mem_nil, or_false] at hletter
    obtain rfl | rfl := hletter <;> rfl

/-- No exponent begins with a point. -/
theorem exponent_ne_point {exponent rest : List Char} (he : IsExponent exponent)
    (h : EndsNumber rest) (cs : List Char) : exponent ++ rest ≠ '.' :: cs := by
  intro heq
  obtain rfl | ⟨letter, hletter, sign, -, digits, -, rfl⟩ := he
  · rw [List.nil_append] at heq
    exact (h '.' (congrArg List.head? heq)).2.1 rfl
  · obtain rfl := (List.cons.inj heq).1
    exact absurd hletter (by decide)

/-- The digits of a number end where its fraction, its exponent or the rest begins. -/
theorem endsNumeral_fraction {fraction exponent rest : List Char} (hf : IsFraction fraction)
    (he : IsExponent exponent) (h : EndsNumber rest) :
    Decimal.EndsNumeral (fraction ++ (exponent ++ rest)) := by
  obtain rfl | ⟨places, -, rfl⟩ := hf
  · rw [List.nil_append]
    exact endsNumeral_exponent he h
  · intro c hc
    obtain rfl := Option.some.inj hc
    rfl

theorem skipExponent_append {sign digits rest : List Char} (hsign : sign ∈ [[], ['+'], ['-']])
    (hdigits : IsDigits digits) (h : Decimal.EndsNumeral rest) :
    skipExponent (sign ++ (digits ++ rest)) = .ok rest := by
  have hskip : (if leadingDigits (digits ++ rest) = [] then
      .error (.at .badNumber (digits ++ rest)) else .ok (afterDigits (digits ++ rest)) :
        Except Fault (List Char)) = .ok rest := by
    rw [leadingDigits_append hdigits.2 h, if_neg hdigits.1, afterDigits_append hdigits.2 h]
  simp only [List.mem_cons, List.not_mem_nil, or_false] at hsign
  obtain rfl | rfl | rfl := hsign
  · -- a digit is no sign
    obtain ⟨d, ds, rfl⟩ := List.exists_cons_of_ne_nil hdigits.1
    have hd := hdigits.2 d List.mem_cons_self
    have hplus : d ≠ '+' := Decimal.ne_of_isDigit hd rfl
    have hminus : d ≠ '-' := Decimal.ne_of_isDigit hd rfl
    rw [List.nil_append, List.cons_append] at *
    unfold skipExponent
    split
    · next heq => exact absurd (List.cons.inj heq).1 hplus
    · next heq => exact absurd (List.cons.inj heq).1 hminus
    · exact hskip
  · exact hskip
  · exact hskip

theorem skipMaybeExponent_append {exponent rest : List Char} (he : IsExponent exponent)
    (h : EndsNumber rest) : skipMaybeExponent (exponent ++ rest) = .ok rest := by
  obtain rfl | ⟨letter, hletter, sign, hsign, digits, hdigits, rfl⟩ := he
  · rw [List.nil_append]
    cases rest with
    | nil => rfl
    | cons c cs =>
      obtain ⟨-, -, he, hE⟩ := h c rfl
      exact if_neg (by simp [he, hE])
  · simp only [List.mem_cons, List.not_mem_nil, or_false] at hletter
    rw [List.cons_append, List.append_assoc, skipMaybeExponent, if_pos hletter]
    exact skipExponent_append hsign hdigits h.endsNumeral

theorem skipFraction_append {fraction exponent rest : List Char} (hf : IsFraction fraction)
    (he : IsExponent exponent) (h : EndsNumber rest) :
    skipFraction (fraction ++ (exponent ++ rest)) = .ok rest := by
  obtain rfl | ⟨places, hplaces, rfl⟩ := hf
  · rw [List.nil_append, ← skipMaybeExponent_append he h]
    unfold skipFraction
    split
    · next heq => exact absurd heq (exponent_ne_point he h _)
    · rfl
  · have hends := endsNumeral_exponent he h
    rw [List.cons_append, skipFraction, leadingDigits_append hplaces.2 hends, if_neg hplaces.1,
      afterDigits_append hplaces.2 hends]
    exact skipMaybeExponent_append he h

/-- **Numbers** are stepped over, whatever their value. -/
theorem skipNumber_append {cs rest : List Char} (hcs : IsUnsigned cs) (h : EndsNumber rest) :
    skipNumber (cs ++ rest) = .ok rest := by
  obtain ⟨whole, fraction, exponent, ⟨⟨hne, hdigits⟩, hzero⟩, hf, he, rfl⟩ := hcs
  obtain ⟨d, ds, rfl⟩ := List.exists_cons_of_ne_nil hne
  have hends := endsNumeral_fraction hf he h
  rw [List.append_assoc, List.append_assoc]
  by_cases hd : d = '0'
  · obtain rfl : ds = [] := (List.cons.inj (hzero (congrArg some hd))).2
    rw [List.cons_append, List.nil_append, skipNumber, if_pos hd,
      if_pos (leadingDigits_eq_nil_iff.mpr hends)]
    exact skipFraction_append hf he h
  · have hds : ∀ c ∈ ds, Decimal.isDigit c = true := fun c hc => hdigits c (.tail d hc)
    rw [List.cons_append, skipNumber, if_neg hd, if_pos (hdigits d List.mem_cons_self),
      afterDigits_append hds hends]
    exact skipFraction_append hf he h

/-! ### Numbers that are read -/

/-- A number with a fraction or an exponent is no natural number, whatever its value is. -/
theorem finishReal_ne_natural {negative : Bool} {n m : Nat} {e : Int} {cs rest : List Char} :
    finishReal negative n e cs ≠ .ok (.natural m, rest) := by
  unfold finishReal
  split <;> nofun

theorem readExponent_ne_natural {negative : Bool} {n m : Nat} {start : Int}
    {cs rest : List Char} : readExponent negative n start cs ≠ .ok (.natural m, rest) := by
  unfold readExponent
  dsimp only
  intro h
  split at h
  · cases h
  · -- with a plus, with a minus, and without a sign
    split at h
    all_goals
      split at h
      · cases h
      · split at h
        · exact finishReal_ne_natural h
        · split at h <;> cases h

theorem readPlaces_ne_natural {negative : Bool} {n m : Nat} {e : Int} {cs rest : List Char} :
    readPlaces negative n e cs ≠ .ok (.natural m, rest) := by
  unfold readPlaces
  dsimp only
  intro h
  split at h
  · cases h
  · cases h
  · unfold readMaybeExponent at h
    split at h
    · split at h
      · exact readExponent_ne_natural h
      · exact finishReal_ne_natural h
    · exact finishReal_ne_natural h

/-- Digits that neither a point nor an exponent follows are a whole number. -/
private theorem readFraction_endsNumber (n : Nat) {rest : List Char} (h : EndsNumber rest) :
    readFraction false n [] rest = .ok (.natural n, rest) := by
  unfold readFraction
  split
  · exact absurd rfl (h '.' rfl).2.1
  · next c cs _ =>
    obtain ⟨-, -, he, hE⟩ := h c rfl
    rw [if_neg (by simp [he, hE])]
    rfl
  · rfl

/-- Nothing but digits make a natural number, and they all have to fit. -/
theorem readFraction_eq_natural {negative : Bool} {n m : Nat} {extra cs rest : List Char}
    (hends : Decimal.EndsNumeral cs)
    (h : readFraction negative n extra cs = .ok (.natural m, rest)) :
    negative = false ∧ extra = [] ∧ m = n ∧ rest = cs ∧ EndsNumber cs := by
  have hwhole (h : readFraction.whole negative n extra cs = .ok (.natural m, rest)) :
      negative = false ∧ extra = [] ∧ m = n ∧ rest = cs := by
    unfold readFraction.whole at h
    split at h
    · exact absurd h finishReal_ne_natural
    · next hextra =>
      split at h
      · next hnegative =>
        cases h
        exact ⟨by simpa using hnegative, by simpa using hextra, rfl, rfl⟩
      · split at h <;> cases h
  unfold readFraction at h
  split at h
  · exact absurd h readPlaces_ne_natural
  · next c cs hpoint =>
    split at h
    · exact absurd h readExponent_ne_natural
    · next hletter =>
      obtain ⟨hnegative, hextra, hm, hrest⟩ := hwhole h
      refine ⟨hnegative, hextra, hm, hrest, ?_⟩
      intro c' hc'
      obtain rfl := Option.some.inj hc'
      rw [not_or] at hletter
      exact ⟨hends c rfl, fun hc => hpoint hc, hletter.1, hletter.2⟩
  · obtain ⟨hnegative, hextra, hm, hrest⟩ := hwhole h
    exact ⟨hnegative, hextra, hm, hrest, nofun⟩

/-- Appending digits makes no number smaller. -/
private theorem le_foldl_digits (n : Nat) (ds : List Char) :
    n ≤ ds.foldl (fun n d => n * 10 + Decimal.digitValue d) n := by
  induction ds generalizing n with
  | nil => exact Nat.le_refl n
  | cons d ds ih =>
    have h := ih (n * 10 + Decimal.digitValue d)
    rw [List.foldl_cons]
    omega

/-- All digits are collected as long as the number stays below the limit. -/
private theorem collect_eq {n : Nat} {ds : List Char}
    (h : ds.foldl (fun n d => n * 10 + Decimal.digitValue d) n < significandLimit) :
    collect n ds = (ds.foldl (fun n d => n * 10 + Decimal.digitValue d) n, []) := by
  induction ds generalizing n with
  | nil => rfl
  | cons d ds ih =>
    rw [List.foldl_cons] at h ⊢
    have hle := le_foldl_digits (n * 10 + Decimal.digitValue d) ds
    rw [collect, if_neg (by omega), ih h]

/-- Digits that all fit amount to the number that they write. -/
theorem collect_eq_nil {n m : Nat} {ds : List Char} (hn : n < significandLimit)
    (h : collect n ds = (m, [])) :
    ds.foldl (fun n d => n * 10 + Decimal.digitValue d) n = m ∧ m < significandLimit := by
  induction ds generalizing n with
  | nil =>
    cases h
    exact ⟨rfl, hn⟩
  | cons d ds ih =>
    rw [collect] at h
    split at h
    · cases h
    · next hlt => exact ih (Nat.lt_of_not_le hlt) h

/-- **Natural numbers** are read off whole numbers that fit in 64 bits. -/
theorem readNumber_eq_natural_iff {negative : Bool} {n : Nat} {cs rest : List Char} :
    readNumber negative cs = .ok (.natural n, rest) ↔
      negative = false ∧ ∃ digits, IsWhole digits ∧ Decimal.value digits = n ∧ n < UInt64.size ∧
        EndsNumber rest ∧ cs = digits ++ rest := by
  constructor
  · intro h
    unfold readNumber at h
    split at h
    · cases h
    · next c tail =>
      split at h
      · next hzero =>
        split at h
        · next hlead =>
          obtain ⟨hnegative, -, rfl, rfl, hends⟩ :=
            readFraction_eq_natural (leadingDigits_eq_nil_iff.mp hlead) h
          have hwhole : IsWhole ['0'] := by decide
          refine ⟨hnegative, ['0'], hwhole, rfl, by decide, hends, ?_⟩
          rw [hzero]
          rfl
        · cases h
      · next hzero =>
        split at h
        · next hdigit =>
          obtain ⟨hnegative, hextra, hn, rfl, hends⟩ :=
            readFraction_eq_natural (endsNumeral_afterDigits _) h
          -- no digit is left over, so all of them are in the number
          have hcollect : collect 0 (leadingDigits (c :: tail)) = (n, []) :=
            Prod.ext hn.symm hextra
          obtain ⟨hvalue, hlt⟩ := collect_eq_nil (by decide) hcollect
          have hlead : leadingDigits (c :: tail) = c :: leadingDigits tail :=
            List.takeWhile_cons_of_pos hdigit
          refine ⟨hnegative, leadingDigits (c :: tail), ⟨⟨?_, ?_⟩, ?_⟩, hvalue, hlt, hends, ?_⟩
          · rw [hlead]
            exact List.cons_ne_nil _ _
          · exact fun d hd => List.mem_takeWhile_imp hd
          · rw [hlead]
            exact fun hhead => absurd (Option.some.inj hhead) hzero
          · exact (List.takeWhile_append_dropWhile (p := Decimal.isDigit)).symm
        · cases h
  · rintro ⟨rfl, digits, ⟨⟨hne, hdigits⟩, hzero⟩, rfl, hlt, hends, rfl⟩
    obtain ⟨d, ds, rfl⟩ := List.exists_cons_of_ne_nil hne
    by_cases hd : d = '0'
    · obtain ⟨rfl, rfl⟩ := List.cons.inj (hzero (congrArg some hd))
      rw [List.cons_append, List.nil_append, readNumber, if_pos rfl,
        if_pos (leadingDigits_eq_nil_iff.mpr hends.endsNumeral)]
      exact readFraction_endsNumber 0 hends
    · have hlead := leadingDigits_append hdigits hends.endsNumeral
      have hafter := afterDigits_append hdigits hends.endsNumeral
      rw [List.cons_append] at hlead hafter ⊢
      rw [readNumber, if_neg hd, if_pos (hdigits d List.mem_cons_self), hlead, hafter,
        collect_eq hlt]
      exact readFraction_endsNumber _ hends

end Gateway.Json
