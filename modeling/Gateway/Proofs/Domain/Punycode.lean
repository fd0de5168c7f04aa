import Gateway.Domain.Punycode
import Mathlib.Data.Char
import Mathlib.Data.List.InsertIdx
import Mathlib.Data.List.TakeWhile

/-!
# Punycode is read back

The insertions that make a text are found from the last one on: it puts in the rightmost of the
largest characters, so that all others are smaller or, if equal, further to the left. Hence each
insertion lies ahead of the cursor behind the one before (`Cursor.precedes_after`), the steps to it
lead to it (`Cursor.target_stepsTo`), and reading the numbers makes the insertions again
(`insert?_insertions`). So the text comes back from its written form (`decode?_encode`). What is
read from any code has the ASCII characters of that code alone (`mem_of_decode?`).
-/

namespace Gateway.Domain.Punycode

/-! ### The characters of numerals -/

/-- What holds of all digits holds of the characters of some numbers. -/
theorem forall_mem_numerals {P : Char → Prop} (h : ∀ d < 36, P (digit d)) (at_ : Cursor)
    (length : Nat) (ins : List (Nat × Char)) : ∀ c ∈ numerals at_ length ins, P c := by
  have hnumeral (bias place n : Nat) : ∀ c ∈ numeral bias place n, P c := by
    induction n using Nat.strongRecOn generalizing place with
    | _ n ih =>
      have hpos := threshold_pos bias place
      have hle := threshold_le bias place
      rw [numeral]
      split
      · exact List.forall_mem_singleton.mpr (h n (by omega))
      · have hrest : (n - threshold bias place) % (36 - threshold bias place) <
            36 - threshold bias place := Nat.mod_lt _ (by omega)
        have hless : (n - threshold bias place) / (36 - threshold bias place) < n :=
          Nat.lt_of_le_of_lt (Nat.div_le_self _ _) (by omega)
        exact List.forall_mem_cons.mpr ⟨h _ (by omega), ih _ hless _⟩
  induction ins generalizing at_ length with
  | nil => exact fun _ hc => absurd hc List.not_mem_nil
  | cons i ins ih => exact List.forall_mem_append.mpr ⟨hnumeral _ _ _, ih _ _⟩

/-- What holds of digits, of the hyphen and of the ASCII characters of a text holds of all
characters of its Punycode. -/
theorem forall_mem_encode {P : Char → Prop} (hdigit : ∀ d < 36, P (digit d)) (hhyphen : P '-')
    {cs : List Char} (h : ∀ c ∈ cs.filter isAscii, P c) : ∀ c ∈ encode cs, P c := by
  refine List.forall_mem_append.mpr ⟨?_, forall_mem_numerals hdigit _ _ _⟩
  split
  · exact fun _ hc => absurd hc List.not_mem_nil
  · exact List.forall_mem_append.mpr ⟨h, List.forall_mem_singleton.mpr hhyphen⟩

/-! ### The last insertion -/

theorem eq_nil_of_lastLargest? {cs : List Char} (h : lastLargest? cs = none) : cs = [] := by
  cases cs with
  | nil => rfl
  | cons c cs =>
    rw [lastLargest?] at h
    split at h
    · cases h
    · split at h <;> cases h

/-- No character in front of the rightmost of the largest is larger, and all behind it are
smaller. -/
theorem exists_of_lastLargest? {cs : List Char} {place : Nat} {top : Char}
    (h : lastLargest? cs = some (place, top)) :
    ∃ front back, cs = front ++ top :: back ∧ front.length = place ∧ (∀ c ∈ front, c ≤ top) ∧
      ∀ c ∈ back, c < top := by
  induction cs generalizing place top with
  | nil => cases h
  | cons c cs ih =>
    rw [lastLargest?] at h
    cases hrest : lastLargest? cs with
    | none =>
      rw [hrest] at h
      cases h
      obtain rfl := eq_nil_of_lastLargest? hrest
      exact ⟨[], [], rfl, rfl, List.forall_mem_nil _, List.forall_mem_nil _⟩
    | some found =>
      obtain ⟨i, t⟩ := found
      obtain ⟨front, back, rfl, rfl, hfront, hback⟩ := ih hrest
      rw [hrest] at h
      dsimp only at h
      split at h
      · next hle =>
        cases h
        exact ⟨c :: front, back, rfl, rfl, List.forall_mem_cons.mpr ⟨hle, hfront⟩, hback⟩
      · next hlt =>
        cases h
        have hlt : t < c := not_le.mp hlt
        refine ⟨[], front ++ t :: back, rfl, rfl, List.forall_mem_nil _,
          List.forall_mem_append.mpr ⟨?_, ?_⟩⟩
        · exact fun d hd => lt_of_le_of_lt (hfront d hd) hlt
        · exact List.forall_mem_cons.mpr ⟨hlt, fun d hd => lt_trans (hback d hd) hlt⟩

theorem eraseIdx_append_cons (front back : List Char) (c : Char) :
    (front ++ c :: back).eraseIdx front.length = front ++ back := by
  induction front with
  | nil => rfl
  | cons d front ih => exact congrArg (d :: ·) ih

theorem insertIdx_append (front back : List Char) (c : Char) :
    (front ++ back).insertIdx front.length c = front ++ c :: back := by
  induction front with
  | nil => rfl
  | cons d front ih => exact congrArg (d :: ·) ih

/-- Without the rightmost of the largest characters, the next one of them is smaller or further to
the left. -/
theorem lt_of_lastLargest?_eraseIdx {cs : List Char} {place place' : Nat} {top top' : Char}
    (h : lastLargest? cs = some (place, top))
    (h' : lastLargest? (cs.eraseIdx place) = some (place', top')) :
    top' < top ∨ top' = top ∧ place' < place := by
  obtain ⟨front, back, rfl, rfl, hfront, hback⟩ := exists_of_lastLargest? h
  rw [eraseIdx_append_cons] at h'
  obtain ⟨front', back', hsame, rfl, -, -⟩ := exists_of_lastLargest? h'
  rcases List.append_eq_append_iff.mp hsame with ⟨mid, rfl, hback'⟩ | ⟨mid, rfl, hmid⟩
  · -- it stands behind the place
    have hmem : top' ∈ back := by
      rw [hback']
      exact List.mem_append_right _ List.mem_cons_self
    exact .inl (hback top' hmem)
  · cases mid with
    | nil =>
      obtain rfl : top' :: back' = back := hmid
      exact .inl (hback top' List.mem_cons_self)
    | cons d mid =>
      obtain ⟨rfl, -⟩ := List.cons.inj hmid
      rcases lt_or_eq_of_le (hfront top' (List.mem_append_right _ List.mem_cons_self)) with h | h
      · exact .inl h
      · exact .inr ⟨h, by simp⟩

theorem insertions_nil : insertions [] = [] := by
  rw [insertions]
  split
  · rfl
  · next hsome => cases hsome

/-- The insertions of a text are those of the text without its last one, and that one. -/
theorem insertions_of_lastLargest? {cs : List Char} {place : Nat} {top : Char}
    (h : lastLargest? cs = some (place, top)) :
    insertions cs =
      if isAscii top then [] else insertions (cs.eraseIdx place) ++ [(place, top)] := by
  rw [insertions]
  split
  · next hnone => cases h.symm.trans hnone
  · next hsome =>
    cases h.symm.trans hsome
    rfl

/-! ### Cursors -/

namespace Cursor

/-- The cursor behind some insertions into a text of a length. -/
def after (at_ : Cursor) (length : Nat) : List (Nat × Char) → Cursor
  | [] => at_
  | (place, c) :: ins =>
    (at_.behind length (at_.stepsTo length place c.toNat) place c.toNat).after (length + 1) ins

/-- A cursor passes some insertions and then others. -/
theorem after_append (at_ : Cursor) (length : Nat) (ins ins' : List (Nat × Char)) :
    at_.after length (ins ++ ins') = (at_.after length ins).after (length + ins.length) ins' := by
  induction ins generalizing at_ length with
  | nil => rfl
  | cons i ins ih =>
    rw [List.cons_append, after, after, ih, List.length_cons, Nat.add_right_comm, Nat.add_assoc]

/-- An insertion into a text of a length lies ahead of a cursor. -/
structure Precedes (at_ : Cursor) (length place code : Nat) : Prop where
  /-- The text has the place. -/
  place_le : place ≤ length
  /-- The code point has not been passed. -/
  code_le : at_.code ≤ code
  /-- For this code point, the place has not been passed. -/
  steps_le : at_.place ≤ (code - at_.code) * (length + 1) + place

/-- The steps to an insertion lead to it. -/
theorem target_stepsTo {at_ : Cursor} {length place code : Nat}
    (h : at_.Precedes length place code) :
    at_.target length (at_.stepsTo length place code) = (place, code) := by
  obtain ⟨hplace, hcode, hsteps⟩ := h
  have hsum : at_.place + at_.stepsTo length place code =
      place + (length + 1) * (code - at_.code) := by
    rw [stepsTo, Nat.add_sub_of_le hsteps, Nat.add_comm, Nat.mul_comm]
  rw [target, hsum, Nat.add_mul_mod_self_left, Nat.mod_eq_of_lt (Nat.lt_succ_of_le hplace),
    Nat.add_mul_div_left _ _ (Nat.succ_pos length), Nat.div_eq_of_lt (Nat.lt_succ_of_le hplace),
    Nat.zero_add, Nat.add_sub_of_le hcode]

end Cursor

theorem numerals_append (at_ : Cursor) (length : Nat) (ins ins' : List (Nat × Char)) :
    numerals at_ length (ins ++ ins') =
      numerals at_ length ins ++
        numerals (at_.after length ins) (length + ins.length) ins' := by
  induction ins generalizing at_ length with
  | nil => rfl
  | cons i ins ih =>
    rw [List.cons_append, numerals, numerals, ih, List.append_assoc, Cursor.after,
      List.length_cons, Nat.add_right_comm, Nat.add_assoc]

/-! ### Reading -/

theorem numeral_ne_nil (bias place n : Nat) : numeral bias place n ≠ [] := by
  rw [numeral]
  split <;> exact List.cons_ne_nil _ _

/-- An insertion that lies ahead is made when its number is read. -/
theorem insert?_numeral {at_ : Cursor} {text : List Char} {place : Nat} {c : Char}
    (h : at_.Precedes text.length place c.toNat) (rest : List Char) :
    let steps := at_.stepsTo text.length place c.toNat
    insert? at_ text (numeral at_.bias 36 steps ++ rest) =
      insert? (at_.behind text.length steps place c.toNat) (text.insertIdx place c) rest := by
  intro steps
  have hne : (numeral at_.bias 36 steps ++ rest).isEmpty = false :=
    List.isEmpty_eq_false_iff.mpr (List.append_ne_nil_of_left_ne_nil (numeral_ne_nil _ _ _) _)
  have hread := number?_numeral at_.bias 36 1 steps rest
  have hchar : char? c.toNat = some c := (if_pos c.valid).trans (congrArg some c.ofNat_toNat)
  rw [insert?, if_neg (by rw [hne]; exact Bool.false_ne_true)]
  split
  · next hnone => cases hread.symm.trans hnone
  · next found rest' hsome =>
    rw [hread, Nat.mul_one] at hsome
    cases hsome
    rw [Cursor.target_stepsTo h]
    dsimp only
    rw [hchar]

/-! ### The way back -/

/-- If the largest character is in ASCII, all are. -/
theorem filter_of_lastLargest? {cs : List Char} {place : Nat} {top : Char}
    (h : lastLargest? cs = some (place, top)) (hascii : isAscii top = true) :
    cs.filter isAscii = cs := by
  obtain ⟨front, back, rfl, -, hfront, hback⟩ := exists_of_lastLargest? h
  have hbelow {c : Char} (hc : c ≤ top) : isAscii c = true :=
    decide_eq_true (lt_of_le_of_lt (show c.toNat ≤ top.toNat from hc) (of_decide_eq_true hascii))
  refine List.filter_eq_self.mpr (List.forall_mem_append.mpr ⟨fun c hc => hbelow (hfront c hc), ?_⟩)
  exact List.forall_mem_cons.mpr ⟨hascii, fun c hc => hbelow (le_of_lt (hback c hc))⟩

/-- Erasing a character that is not in ASCII leaves those that are. -/
theorem filter_eraseIdx {cs : List Char} {place : Nat} {top : Char}
    (h : lastLargest? cs = some (place, top)) (hcoded : ¬ isAscii top = true) :
    (cs.eraseIdx place).filter isAscii = cs.filter isAscii := by
  obtain ⟨front, back, rfl, rfl, -, -⟩ := exists_of_lastLargest? h
  rw [eraseIdx_append_cons, List.filter_append, List.filter_append, List.filter_cons_of_neg hcoded]

/-- What is not inserted into a text is its ASCII characters. -/
theorem length_insertions (cs : List Char) :
    (cs.filter isAscii).length + (insertions cs).length = cs.length := by
  induction cs using insertions.induct with
  | case1 cs hnone =>
    obtain rfl := eq_nil_of_lastLargest? hnone
    rw [insertions_nil]
    rfl
  | case2 cs place top h hascii =>
    rw [insertions_of_lastLargest? h, if_pos hascii, filter_of_lastLargest? h hascii]
    rfl
  | case3 cs place top h hcoded ih =>
    rw [filter_eraseIdx h hcoded, List.length_eraseIdx_of_lt (lt_of_lastLargest? h)] at ih
    have hlt := lt_of_lastLargest? h
    rw [insertions_of_lastLargest? h, if_neg hcoded, List.length_append, List.length_singleton]
    omega

namespace Cursor

/-- The cursor behind all insertions of a text. -/
def behindAll (cs : List Char) : Cursor := start.after (cs.filter isAscii).length (insertions cs)

/-- The last insertion is that of the largest character. -/
theorem behindAll_of_lastLargest? {cs : List Char} {place : Nat} {top : Char}
    (h : lastLargest? cs = some (place, top)) (hcoded : ¬ isAscii top = true) :
    let rest := cs.eraseIdx place
    behindAll cs = (behindAll rest).behind rest.length
      ((behindAll rest).stepsTo rest.length place top.toNat) place top.toNat := by
  intro rest
  rw [behindAll, insertions_of_lastLargest? h, if_neg hcoded, after_append,
    ← filter_eraseIdx h hcoded, length_insertions]
  rfl

/-- The last insertion of a text lies ahead of the cursor behind all others. -/
theorem precedes_behindAll {cs : List Char} {place : Nat} {top : Char}
    (h : lastLargest? cs = some (place, top)) (hcoded : ¬ isAscii top = true) :
    (behindAll (cs.eraseIdx place)).Precedes (cs.eraseIdx place).length place top.toNat := by
  have hplace : place ≤ (cs.eraseIdx place).length := by
    rw [List.length_eraseIdx_of_lt (lt_of_lastLargest? h)]
    exact Nat.le_sub_one_of_lt (lt_of_lastLargest? h)
  have hstart (hnone : insertions (cs.eraseIdx place) = []) :
      (behindAll (cs.eraseIdx place)).Precedes (cs.eraseIdx place).length place top.toNat := by
    rw [behindAll, hnone]
    exact ⟨hplace, Nat.le_of_not_lt fun hlt => hcoded (decide_eq_true hlt), Nat.zero_le _⟩
  cases hlast : lastLargest? (cs.eraseIdx place) with
  | none =>
    refine hstart ?_
    rw [eq_nil_of_lastLargest? hlast, insertions_nil]
  | some found =>
    obtain ⟨place', top'⟩ := found
    by_cases hascii : isAscii top' = true
    · exact hstart ((insertions_of_lastLargest? hlast).trans (if_pos hascii))
    · rw [behindAll_of_lastLargest? hlast hascii]
      have hplace' := lt_of_lastLargest? hlast
      rcases lt_of_lastLargest?_eraseIdx h hlast with hlt | ⟨rfl, hlt⟩
      · have hlt : top'.toNat < top.toNat := hlt
        refine ⟨hplace, Nat.le_of_lt hlt, ?_⟩
        calc place' + 1 ≤ (cs.eraseIdx place).length + 1 := by omega
          _ ≤ (top.toNat - top'.toNat) * ((cs.eraseIdx place).length + 1) :=
            Nat.le_mul_of_pos_left _ (Nat.sub_pos_of_lt hlt)
          _ ≤ _ := Nat.le_add_right _ _
      · exact ⟨hplace, Nat.le_refl _, Nat.le_add_left_of_le hlt⟩

end Cursor

/-- The numbers of the insertions of a text make it from its ASCII characters, whatever follows
them. -/
theorem insert?_insertions (cs rest : List Char) :
    insert? .start (cs.filter isAscii)
        (numerals .start (cs.filter isAscii).length (insertions cs) ++ rest) =
      insert? (.behindAll cs) cs rest := by
  induction cs using insertions.induct generalizing rest with
  | case1 cs hnone =>
    obtain rfl := eq_nil_of_lastLargest? hnone
    rw [Cursor.behindAll, insertions_nil]
    rfl
  | case2 cs place top h hascii =>
    have hnone : insertions cs = [] := (insertions_of_lastLargest? h).trans (if_pos hascii)
    rw [Cursor.behindAll, hnone, filter_of_lastLargest? h hascii]
    rfl
  | case3 cs place top h hcoded ih =>
    -- the last number is read behind those of the text without the last insertion
    have hinsert : (cs.eraseIdx place).insertIdx place top = cs := by
      obtain ⟨front, back, rfl, rfl, -, -⟩ := exists_of_lastLargest? h
      rw [eraseIdx_append_cons, insertIdx_append]
    have hlast := insert?_numeral (Cursor.precedes_behindAll h hcoded) rest
    dsimp only at hlast
    rw [hinsert, ← Cursor.behindAll_of_lastLargest? h hcoded] at hlast
    rw [insertions_of_lastLargest? h, if_neg hcoded, ← filter_eraseIdx h hcoded, numerals_append,
      length_insertions, List.append_assoc, ih, ← Cursor.behindAll, ← hlast]
    rw [numerals, numerals, List.append_nil]

/-- A text comes back from the numbers of its insertions. -/
theorem insert?_numerals (cs : List Char) :
    insert? .start (cs.filter isAscii)
      (numerals .start (cs.filter isAscii).length (insertions cs)) = some cs := by
  have hread := insert?_insertions cs []
  rw [List.append_nil] at hread
  rw [hread, insert?]
  rfl

/-- A text without hyphens has nothing in front of one. -/
theorem parts_of_not_mem {cs : List Char} (h : '-' ∉ cs) : parts cs = ([], cs) := by
  have hbehind : (cs.reverse.takeWhile (· ≠ '-')).reverse = cs := by
    have hall : cs.reverse.takeWhile (· ≠ '-') = cs.reverse :=
      List.takeWhile_eq_self_iff.mpr fun c hc =>
        decide_eq_true fun hhyphen => h (hhyphen ▸ List.mem_reverse.mp hc)
    rw [hall, List.reverse_reverse]
  rw [parts, hbehind, Nat.sub_self]
  rfl

/-- A text is cut at the last hyphen. -/
theorem parts_append {front behind : List Char} (hne : front ≠ []) (h : '-' ∉ behind) :
    parts (front ++ '-' :: behind) = (front, behind) := by
  have hbehind :
      ((front ++ '-' :: behind).reverse.takeWhile (· ≠ '-')).reverse = behind := by
    have hall : ∀ c ∈ behind.reverse, decide (c ≠ '-') = true := fun c hc =>
      decide_eq_true fun hhyphen => h (hhyphen ▸ List.mem_reverse.mp hc)
    rw [List.reverse_append, List.reverse_cons, List.append_assoc,
      List.takeWhile_append_of_pos hall, List.singleton_append,
      List.takeWhile_cons_of_neg (by decide), List.append_nil, List.reverse_reverse]
  have hfront : (front ++ '-' :: behind).length - behind.length - 1 = front.length := by
    rw [List.length_append, List.length_cons]
    omega
  rw [parts, hbehind, hfront, List.take_left]
  exact if_neg (by simpa using hne)

/-- The numbers of a text stand behind the last hyphen of its written form. -/
theorem parts_encode (cs : List Char) :
    parts (encode cs) =
      (cs.filter isAscii, numerals .start (cs.filter isAscii).length (insertions cs)) := by
  have hdigit : ∀ d < 36, digit d ≠ '-' := by decide
  have hhyphen : '-' ∉ numerals .start (cs.filter isAscii).length (insertions cs) := fun hmem =>
    forall_mem_numerals (P := (· ≠ '-')) hdigit _ _ _ _ hmem rfl
  by_cases hempty : cs.filter isAscii = []
  · have hencode : encode cs = numerals .start (cs.filter isAscii).length (insertions cs) := by
      rw [encode, hempty]
      rfl
    rw [hencode, parts_of_not_mem hhyphen, hempty]
  · have hencode : encode cs = cs.filter isAscii ++
        '-' :: numerals .start (cs.filter isAscii).length (insertions cs) := by
      rw [encode, if_neg (by simpa using hempty), List.append_assoc, List.singleton_append]
    rw [hencode, parts_append hempty hhyphen]

/-- **Punycode is read back.** -/
theorem decode?_encode (cs : List Char) : decode? (encode cs) = some cs := by
  rw [decode?, parts_encode]
  exact insert?_numerals cs

/-! ### Characters of what is read -/

theorem toNat_of_char? {code : Nat} {c : Char} (h : char? code = some c) : c.toNat = code := by
  unfold char? at h
  split at h
  · next hvalid =>
    cases h
    rw [Char.ofNat, dif_pos hvalid]
    exact BitVec.toNat_ofNatLT ..
  · cases h

/-- Insertions are of characters outside ASCII. -/
theorem mem_of_insert? {at_ : Cursor} {text cs out : List Char} (hcode : 128 ≤ at_.code)
    (h : insert? at_ text cs = some out) {c : Char} (hc : c ∈ out) (hascii : isAscii c = true) :
    c ∈ text := by
  fun_induction insert? at_ text cs with
  | case1 at_ text cs _ =>
    cases h
    exact hc
  | case2 | case3 => cases h
  | case4 at_ text cs _ steps rest _ place code htarget d hd ih =>
    have hle : 128 ≤ code := by
      have hsnd : (at_.target text.length steps).2 = code := congrArg Prod.snd htarget
      exact hsnd ▸ Nat.le_add_right_of_le hcode
    refine (List.eq_or_mem_of_mem_insertIdx (ih hle h)).resolve_left ?_
    rintro rfl
    have hlt : c.toNat < 128 := of_decide_eq_true hascii
    rw [toNat_of_char? hd] at hlt
    omega

/-- The ASCII characters of a text stand in every code for it. -/
theorem mem_of_decode? {code out : List Char} (h : decode? code = some out) {c : Char}
    (hc : c ∈ out) (hascii : isAscii c = true) : c ∈ code := by
  have hfront : c ∈ (parts code).1 := mem_of_insert? (Nat.le_refl 128) h hc hascii
  unfold parts at hfront
  dsimp only at hfront
  split at hfront
  · exact absurd hfront List.not_mem_nil
  · exact List.mem_of_mem_take hfront

end Gateway.Domain.Punycode
