import Gateway.Json.Skip
import Gateway.Proofs.Json.Scalars

/-!
# Skipped values

`skipFrom` keeps the lists and objects that are open on a stack, where the grammar nests phrases.
Both meet in one induction over the phrases: whatever stands on the stack and whatever comes behind
it, a phrase is stepped over and leaves the stack as it was (`Derives.skipped`). So values of any
form and any depth are stepped over, and nothing behind them is (`skipValue_append`).
-/

namespace Gateway.Json

/-! ### Blanks and what follows them -/

theorem skipBlanks_append_cons {blanks : List Char} (h : IsBlanks blanks) {c : Char}
    (hc : isBlank c = false) (cs : List Char) : skipBlanks (blanks ++ c :: cs) = c :: cs := by
  rw [skipBlanks_append h, skipBlanks, List.dropWhile_cons_of_neg (by simp [hc])]

theorem endsNumber_cons {c : Char} (hdigit : Decimal.isDigit c = false)
    (h : c ≠ '.' ∧ c ≠ 'e' ∧ c ≠ 'E') (cs : List Char) : EndsNumber (c :: cs) := by
  intro c' hc'
  obtain rfl := Option.some.inj hc'
  exact ⟨hdigit, h⟩

theorem endsNumber_blanks {blanks rest : List Char} (h : IsBlanks blanks)
    (hrest : EndsNumber rest) : EndsNumber (blanks ++ rest) := by
  cases blanks with
  | nil => exact hrest
  | cons c cs =>
    have hc : isBlank c = true := h c List.mem_cons_self
    simp only [isBlank, Bool.or_eq_true, beq_iff_eq] at hc
    obtain ((rfl | rfl) | rfl) | rfl := hc <;> exact endsNumber_cons rfl (by decide) _

/-- Numbers end in front of separators. -/
theorem endsNumber_separator {separator : List Char} (h : IsSeparator false separator)
    (cs : List Char) : EndsNumber (separator ++ cs) := by
  obtain ⟨blanks, blanks', hblanks, -, rfl⟩ := h
  rw [List.append_assoc]
  exact endsNumber_blanks hblanks (endsNumber_cons rfl (by decide) _)

/-- A value ends where an element or the bracket follows. -/
theorem Derives.endsNumber_elements {cs : List Char} (h : Derives (.elements false) cs)
    (rest : List Char) : EndsNumber (cs ++ ']' :: rest) := by
  cases h with
  | lastElement hblanks => exact endsNumber_blanks hblanks (endsNumber_cons rfl (by decide) _)
  | element hseparator =>
    rw [List.append_assoc]
    exact endsNumber_separator hseparator _

/-- A value ends where a member or the bracket follows. -/
theorem Derives.endsNumber_members {ms : List Member} {cs : List Char}
    (h : Derives (.members false ms) cs) (rest : List Char) : EndsNumber (cs ++ '}' :: rest) := by
  cases h with
  | lastMember hblanks => exact endsNumber_blanks hblanks (endsNumber_cons rfl (by decide) _)
  | member hseparator =>
    rw [List.append_assoc]
    exact endsNumber_separator hseparator _

/-! ### The beginning of a value -/

/-- A character that a value can begin with: it is no blank and closes nothing. -/
def Opens (c : Char) : Prop := isBlank c = false ∧ c ≠ ']'

theorem opens_of_isDigit {c : Char} (h : Decimal.isDigit c = true) : Opens c := by
  have hne (d : Char) (hd : Decimal.isDigit d = false) : c ≠ d := Decimal.ne_of_isDigit h hd
  refine ⟨?_, hne ']' rfl⟩
  simp [isBlank, hne ' ' rfl, hne '\n' rfl, hne '\t' rfl, hne '\r' rfl]

theorem IsUnsigned.exists_cons {cs : List Char} (h : IsUnsigned cs) :
    ∃ d ds, cs = d :: ds ∧ Decimal.isDigit d = true := by
  obtain ⟨whole, fraction, exponent, ⟨⟨hne, hdigits⟩, -⟩, -, -, rfl⟩ := h
  obtain ⟨d, ds, rfl⟩ := List.exists_cons_of_ne_nil hne
  exact ⟨d, _, rfl, hdigits d List.mem_cons_self⟩

/-- Values are not empty. -/
theorem Derives.exists_cons {cs : List Char} (h : Derives .value cs) :
    ∃ c tail, cs = c :: tail ∧ Opens c := by
  cases h with
  | word h =>
    simp only [words, List.mem_cons, List.not_mem_nil, or_false] at h
    obtain rfl | rfl | rfl := h <;> exact ⟨_, _, rfl, rfl, by decide⟩
  | number h =>
    obtain h | ⟨digits, -, rfl⟩ := h
    · obtain ⟨d, ds, rfl, hd⟩ := h.exists_cons
      exact ⟨d, ds, rfl, opens_of_isDigit hd⟩
    · exact ⟨_, _, rfl, rfl, by decide⟩
  | string => exact ⟨_, _, rfl, rfl, by decide⟩
  | list => exact ⟨_, _, rfl, rfl, by decide⟩
  | object => exact ⟨_, _, rfl, rfl, by decide⟩

/-- Blanks in front of a value are no part of it. -/
theorem Derives.skipBlanks {cs blanks : List Char} (h : Derives .value cs)
    (hblanks : IsBlanks blanks) (rest : List Char) :
    skipBlanks (blanks ++ (cs ++ rest)) = cs ++ rest := by
  obtain ⟨c, tail, rfl, hc⟩ := h.exists_cons
  exact skipBlanks_append_cons hblanks hc.1 _

/-! ### Words, numbers, strings and keys -/

theorem skipScalar_word {cs : List Char} (h : cs ∈ words) (rest : List Char) :
    skipScalar (cs ++ rest) = .ok rest := by
  simp only [words, List.mem_cons, List.not_mem_nil, or_false] at h
  obtain rfl | rfl | rfl := h <;> exact readWord_eq_ok_iff.mpr rfl

theorem skipScalar_number {cs rest : List Char} (h : IsNumber cs) (hends : EndsNumber rest) :
    skipScalar (cs ++ rest) = .ok rest := by
  obtain h | ⟨digits, h, rfl⟩ := h
  · have hskip := skipNumber_append h hends
    obtain ⟨d, ds, rfl, hd⟩ := h.exists_cons
    rw [List.cons_append] at hskip ⊢
    rw [skipScalar, if_pos hd, hskip]
    -- a digit begins neither a word nor a string, and is no sign
    all_goals exact Decimal.ne_of_isDigit hd rfl
  · exact skipNumber_append h hends

/-- Keys are stepped over with their colons. -/
theorem skipKey_append {blanks name blanks' : List Char} (hblanks : IsBlanks blanks)
    (hname : IsBody name) (hblanks' : IsBlanks blanks') (rest : List Char) :
    skipKey (blanks ++ '"' :: (name ++ '"' :: (blanks' ++ ':' :: rest))) = .ok rest := by
  rw [skipKey, skipBlanks_append_cons hblanks rfl]
  simp only [skipString_append hname, skipBlanks_append_cons hblanks' rfl (c := ':')]

/-! ### The steps of the stack -/

section Steps

variable {frames : List Frame} {cs rest : List Char}

theorem skipFrom_value_list (h : skipBlanks cs = '[' :: rest) :
    skipFrom .value frames cs = skipFrom (.entry .list) frames rest := by
  rw [skipFrom]
  split
  · next heq =>
    cases h.symm.trans heq
    rfl
  · next heq => cases h.symm.trans heq
  · next hlist _ => exact absurd h (hlist rest)

theorem skipFrom_value_object (h : skipBlanks cs = '{' :: rest) :
    skipFrom .value frames cs = skipFrom (.entry .object) frames rest := by
  rw [skipFrom]
  split
  · next heq => cases h.symm.trans heq
  · next heq =>
    cases h.symm.trans heq
    rfl
  · next _ hobject => exact absurd h (hobject rest)

theorem skipFrom_value_scalar (h : skipScalar (skipBlanks cs) = .ok rest) :
    skipFrom .value frames cs = skipFrom .next frames rest := by
  rw [skipFrom]
  split
  · next heq =>
    rw [heq] at h
    cases h
  · next heq =>
    rw [heq] at h
    cases h
  · split
    · next heq => cases h.symm.trans heq
    · next heq =>
      cases h.symm.trans heq
      rfl

/-- A frame is closed before anything stands in it. -/
theorem skipFrom_entry_close {frame : Frame} (h : skipBlanks cs = frame.close :: rest) :
    skipFrom (.entry frame) frames cs = skipFrom .next frames rest := by
  rw [skipFrom]
  split
  · next heq => cases h.symm.trans heq
  · next heq =>
    cases h.symm.trans heq
    exact if_pos rfl

theorem skipFrom_entry_list {c : Char} (h : skipBlanks cs = c :: rest) (hc : c ≠ ']') :
    skipFrom (.entry .list) frames cs = skipFrom .value (.list :: frames) cs := by
  conv => lhs; rw [skipFrom]
  split
  · next heq => cases h.symm.trans heq
  · next heq =>
    cases h.symm.trans heq
    exact if_neg hc

theorem skipFrom_entry_object {after : List Char} (h : skipBlanks cs = '"' :: rest)
    (hkey : skipKey ('"' :: rest) = .ok after) :
    skipFrom (.entry .object) frames cs = skipFrom .value (.object :: frames) after := by
  conv => lhs; rw [skipFrom]
  split
  · next heq => cases h.symm.trans heq
  · next heq =>
    cases h.symm.trans heq
    rw [if_neg (by decide)]
    dsimp only
    split
    · next heq => cases hkey.symm.trans heq
    · next heq =>
      cases hkey.symm.trans heq
      rfl

theorem skipFrom_next_nil : skipFrom .next [] cs = .ok cs := by
  rw [skipFrom]

/-- The innermost frame is closed. -/
theorem skipFrom_next_close {frame : Frame} (h : skipBlanks cs = frame.close :: rest) :
    skipFrom .next (frame :: frames) cs = skipFrom .next frames rest := by
  conv => lhs; rw [skipFrom]
  split
  · next heq => cases h.symm.trans heq
  · next heq =>
    cases h.symm.trans heq
    exact if_pos rfl

theorem skipFrom_next_list (h : skipBlanks cs = ',' :: rest) :
    skipFrom .next (.list :: frames) cs = skipFrom .value (.list :: frames) rest := by
  conv => lhs; rw [skipFrom]
  split
  · next heq => cases h.symm.trans heq
  · next heq =>
    cases h.symm.trans heq
    rfl

theorem skipFrom_next_object {after : List Char} (h : skipBlanks cs = ',' :: rest)
    (hkey : skipKey rest = .ok after) :
    skipFrom .next (.object :: frames) cs = skipFrom .value (.object :: frames) after := by
  conv => lhs; rw [skipFrom]
  split
  · next heq => cases h.symm.trans heq
  · next heq =>
    cases h.symm.trans heq
    rw [if_neg (by decide), if_pos rfl]
    dsimp only
    split
    · next heq => cases hkey.symm.trans heq
    · next heq =>
      cases hkey.symm.trans heq
      rfl

end Steps

/-! ### Phrases are stepped over -/

/-- The rest of a frame is stepped over: its entries, or what may follow an entry. -/
def skipRest (frame : Frame) (first : Bool) (frames : List Frame) (cs : List Char) :
    Except Fault (List Char) :=
  if first then skipFrom (.entry frame) frames cs else skipFrom .next (frame :: frames) cs

/-- A frame ends with its bracket. -/
theorem skipRest_blanks {blanks : List Char} (h : IsBlanks blanks) (frame : Frame) (first : Bool)
    (frames : List Frame) (rest : List Char) :
    skipRest frame first frames (blanks ++ frame.close :: rest) = skipFrom .next frames rest := by
  have hclose : skipBlanks (blanks ++ frame.close :: rest) = frame.close :: rest :=
    skipBlanks_append_cons h (by cases frame <;> rfl) rest
  cases first with
  | true => exact skipFrom_entry_close hclose
  | false => exact skipFrom_next_close hclose

/-- An element begins with its value, with blanks at most in front of it. -/
theorem skipRest_element {first : Bool} {separator cs : List Char}
    (h : IsSeparator first separator) (hcs : Derives .value cs) (frames : List Frame)
    (rest : List Char) :
    ∃ blanks, IsBlanks blanks ∧
      skipRest .list first frames (separator ++ (cs ++ rest)) =
        skipFrom .value (.list :: frames) (blanks ++ (cs ++ rest)) := by
  cases first with
  | true =>
    obtain ⟨c, tail, rfl, hc⟩ := hcs.exists_cons
    exact ⟨separator, h, skipFrom_entry_list (skipBlanks_append_cons h hc.1 _) hc.2⟩
  | false =>
    obtain ⟨blanks, blanks', hblanks, hblanks', rfl⟩ := h
    refine ⟨blanks', hblanks', ?_⟩
    rw [List.append_assoc]
    exact skipFrom_next_list (skipBlanks_append_cons hblanks rfl _)

/-- A member begins with its name. -/
theorem skipRest_member {first : Bool} {separator name blanks : List Char}
    (h : IsSeparator first separator) (hname : IsBody name) (hblanks : IsBlanks blanks)
    (frames : List Frame) (rest : List Char) :
    skipRest .object first frames (separator ++ '"' :: (name ++ '"' :: (blanks ++ ':' :: rest))) =
      skipFrom .value (.object :: frames) rest := by
  cases first with
  | true =>
    exact skipFrom_entry_object (skipBlanks_append_cons h rfl _)
      (skipKey_append isBlanks_nil hname hblanks rest)
  | false =>
    obtain ⟨front, back, hfront, hback, rfl⟩ := h
    rw [List.append_assoc]
    exact skipFrom_next_object (skipBlanks_append_cons hfront rfl _)
      (skipKey_append hback hname hblanks rest)

/-- What it is to step over a phrase, whatever is open around it and whatever follows it. -/
def Skipped : Phrase → List Char → Prop
  | .value, cs => ∀ blanks frames rest, IsBlanks blanks → (IsNumber cs → EndsNumber rest) →
      skipFrom .value frames (blanks ++ (cs ++ rest)) = skipFrom .next frames rest
  | .elements first, cs => ∀ frames rest,
      skipRest .list first frames (cs ++ ']' :: rest) = skipFrom .next frames rest
  | .members first _, cs => ∀ frames rest,
      skipRest .object first frames (cs ++ '}' :: rest) = skipFrom .next frames rest

/-- **Phrases are stepped over**, by induction on how they are built. -/
theorem Derives.skipped {phrase : Phrase} {cs : List Char} (h : Derives phrase cs) :
    Skipped phrase cs := by
  induction h with
  | word h =>
    intro blanks frames rest hblanks _
    refine skipFrom_value_scalar ?_
    rw [Derives.skipBlanks (.word h) hblanks]
    exact skipScalar_word h rest
  | number h =>
    intro blanks frames rest hblanks hends
    refine skipFrom_value_scalar ?_
    rw [Derives.skipBlanks (.number h) hblanks]
    exact skipScalar_number h (hends h)
  | string h =>
    intro blanks frames rest hblanks _
    refine skipFrom_value_scalar ?_
    rw [Derives.skipBlanks (.string h) hblanks, List.cons_append, List.append_assoc]
    exact skipString_append h rest
  | list _ ih =>
    intro blanks frames rest hblanks _
    rw [List.cons_append, List.append_assoc,
      skipFrom_value_list (skipBlanks_append_cons hblanks rfl _)]
    exact ih frames rest
  | object _ ih =>
    intro blanks frames rest hblanks _
    rw [List.cons_append, List.append_assoc,
      skipFrom_value_object (skipBlanks_append_cons hblanks rfl _)]
    exact ih frames rest
  | lastElement h =>
    intro frames rest
    exact skipRest_blanks h .list _ frames rest
  | element hseparator hvalue hrest ihvalue ihrest =>
    intro frames rest
    rw [List.append_assoc, List.append_assoc]
    obtain ⟨blanks, hblanks, hskip⟩ := skipRest_element hseparator hvalue frames _
    rw [hskip, ihvalue blanks _ _ hblanks fun _ => hrest.endsNumber_elements rest]
    exact ihrest frames rest
  | lastMember h =>
    intro frames rest
    exact skipRest_blanks h .object _ frames rest
  | member hseparator hname hblanks hblanks' hvalue hrest ihvalue ihrest =>
    intro frames rest
    simp only [List.append_assoc, List.cons_append]
    rw [skipRest_member hseparator hname hblanks,
      ihvalue _ _ _ hblanks' fun _ => hrest.endsNumber_members rest]
    exact ihrest frames rest

/-- **Values are stepped over** up to where they end. -/
theorem skipValue_append {blanks cs rest : List Char} (hblanks : IsBlanks blanks)
    (h : Derives .value cs) (hends : IsNumber cs → EndsNumber rest) :
    skipValue (blanks ++ (cs ++ rest)) = .ok rest := by
  rw [skipValue, h.skipped blanks [] rest hblanks hends, skipFrom_next_nil]

/-- **A value ends in one place.** Two values at the beginning of one text are the same. -/
theorem Derives.eq_of_append_eq {cs cs' rest rest' : List Char} (h : Derives .value cs)
    (h' : Derives .value cs') (hends : IsNumber cs → EndsNumber rest)
    (hends' : IsNumber cs' → EndsNumber rest') (heq : cs ++ rest = cs' ++ rest') :
    cs = cs' ∧ rest = rest' := by
  have hskip := skipValue_append isBlanks_nil h hends
  rw [heq, skipValue_append isBlanks_nil h' hends'] at hskip
  obtain rfl := Except.ok.inj hskip
  exact ⟨List.append_cancel_right heq, rfl⟩

end Gateway.Json
