import Gateway.Text.Utf8

/-!
# Text that was written and text that was read

Every reader gives back text that was written (`stringLossy_ofString`, `wellFormedFront_encode`),
because its first step over such text reads the first character (`encode_cons`). So what was
written begins with an ASCII byte only if the text begins with that character.

The other way round, a step that reads a character finds the bytes that the character is written as
(`eq_encodeChar_of_next`). So bytes that are read are those of the text that is read
(`eq_ofString_of_string?`, `eq_ofString_of_stringLossy`), and what the well-formed front leaves
begins with no character (`eq_append_wellFormedFront`).
-/

namespace Gateway.Utf8

/-- The bytes of two texts follow each other. -/
theorem ofString_append (s t : String) : ofString (s ++ t) = ofString s ++ ofString t := by
  simp [ofString, encode]

/-! ### Steps of the readers -/

section Steps

variable {b : UInt8} {rest r : Bytes} {c : Char}

theorem decodeLossy_cons_of_next (h : next b rest = (some c, r)) :
    decodeLossy (b :: rest) = c :: decodeLossy r := by
  rw [decodeLossy]
  split
  · next heq _ =>
    cases h.symm.trans heq
    rfl
  · next heq _ => cases h.symm.trans heq

theorem wellFormedFront_cons_of_next (h : next b rest = (some c, r)) :
    wellFormedFront (b :: rest) = (c :: (wellFormedFront r).1, (wellFormedFront r).2) := by
  rw [wellFormedFront]
  split
  · next heq _ =>
    cases h.symm.trans heq
    rfl
  · next heq _ => cases h.symm.trans heq

/-- Bytes that begin with no character are not read at all. -/
theorem decode?_cons_of_next_none (h : next b rest = (none, r)) : decode? (b :: rest) = none := by
  rw [decode?]
  split
  · next heq _ => cases h.symm.trans heq
  · rfl

theorem decodeLossy_cons_of_next_none (h : next b rest = (none, r)) :
    decodeLossy (b :: rest) = '\uFFFD' :: decodeLossy r := by
  rw [decodeLossy]
  split
  · next heq _ => cases h.symm.trans heq
  · next heq _ =>
    cases h.symm.trans heq
    rfl

theorem wellFormedFront_cons_of_next_none (h : next b rest = (none, r)) :
    wellFormedFront (b :: rest) = ([], b :: rest) := by
  rw [wellFormedFront]
  split
  · next heq _ => cases h.symm.trans heq
  · rfl

end Steps

/-! ### Text that was written -/

/-- The first step over text that was written, with other bytes behind it, reads its first
character. -/
theorem encode_cons_append (c : Char) (cs : List Char) (bs : Bytes) :
    ∃ b rest, encode (c :: cs) ++ bs = b :: rest ∧ next b rest = (some c, encode cs ++ bs) := by
  obtain ⟨b, tail, hb, hnext⟩ := next_encodeChar c (encode cs ++ bs)
  exact ⟨b, tail ++ (encode cs ++ bs), by simp [encode, ← List.cons_append, ← hb], hnext⟩

/-- The first character of a text is read from the front of its bytes. -/
theorem encode_cons (c : Char) (cs : List Char) :
    ∃ b rest, encode (c :: cs) = b :: rest ∧ next b rest = (some c, encode cs) := by
  simpa using encode_cons_append c cs []

/-- A first byte that is ASCII is the first character. -/
theorem eq_ofNat_of_encode_cons {c : Char} {cs : List Char} {b : UInt8} {rest : Bytes}
    (h : encode (c :: cs) = b :: rest) (hb : b.toNat < 0x80) : c = Char.ofNat b.toNat := by
  obtain ⟨b', rest', h', hn⟩ := encode_cons c cs
  obtain ⟨rfl, rfl⟩ := List.cons.inj (h.symm.trans h')
  unfold next at hn
  rw [if_pos hb] at hn
  exact (Option.some.inj (congrArg Prod.fst hn)).symm

/-- Nothing that was written is replaced. -/
theorem stringLossy_ofString (s : String) : stringLossy (ofString s) = s := by
  have hlossy (cs : List Char) : decodeLossy (encode cs) = cs := by
    induction cs with
    | nil => simp [encode, decodeLossy]
    | cons c cs ih =>
      obtain ⟨b, rest, hb, hn⟩ := encode_cons c cs
      rw [hb, decodeLossy_cons_of_next hn, ih]
  rw [stringLossy, ofString, hlossy, String.ofList_toList]

/-- Different texts have different bytes. -/
theorem ofString_injective : Function.Injective ofString := fun s t h => by
  rw [← stringLossy_ofString s, h, stringLossy_ofString]

/-- All of what was written is well-formed. -/
theorem wellFormedFront_encode (cs : List Char) : wellFormedFront (encode cs) = (cs, []) := by
  induction cs with
  | nil => simp [encode, wellFormedFront]
  | cons c cs ih =>
    obtain ⟨b, rest, hb, hn⟩ := encode_cons c cs
    rw [hb, wellFormedFront_cons_of_next hn, ih]

/-! ### Text that was read -/

private theorem toNat_ofNat_of_valid {n : Nat} (h : n.isValidChar) : (Char.ofNat n).toNat = n := by
  unfold Char.ofNat
  rw [dif_pos h]
  unfold Char.ofNatAux Char.toNat
  simp

private theorem within_iff {lo hi : Nat} {b : UInt8} :
    within lo hi b = true ↔ lo ≤ b.toNat ∧ b.toNat ≤ hi := by
  simp [within]

private theorem encodeChar_of_two {b c : UInt8} (hb : 0xC2 ≤ b.toNat ∧ b.toNat ≤ 0xDF)
    (hc : isTail c = true) :
    encodeChar (Char.ofNat ((b.toNat - 0xC0) * 64 + tail c)) = [b, c] := by
  have hc := within_iff.mp hc
  unfold encodeChar tail
  rw [toNat_ofNat_of_valid (.inl (by omega))]
  generalize hv : (b.toNat - 0xC0) * 64 + (c.toNat - 0x80) = v
  dsimp only
  rw [if_neg (by omega), if_pos (by omega), show 0xC0 + v / 64 = b.toNat by omega,
    show 0x80 + v % 64 = c.toNat by omega, UInt8.ofNat_toNat, UInt8.ofNat_toNat]

private theorem encodeChar_of_three {b c d : UInt8} (hb : 0xE0 ≤ b.toNat ∧ b.toNat ≤ 0xEF)
    (hc : within (if b.toNat = 0xE0 then 0xA0 else 0x80) (if b.toNat = 0xED then 0x9F else 0xBF) c =
      true) (hd : isTail d = true) :
    encodeChar (Char.ofNat ((b.toNat - 0xE0) * 4096 + tail c * 64 + tail d)) = [b, c, d] := by
  have hc := within_iff.mp hc
  have hd := within_iff.mp hd
  -- the bounds keep out what fewer bytes write, and the surrogates
  have hbounds : 0x80 ≤ c.toNat ∧ c.toNat ≤ 0xBF ∧ (b.toNat = 0xE0 → 0xA0 ≤ c.toNat) ∧
      (b.toNat = 0xED → c.toNat ≤ 0x9F) := by
    split at hc <;> split at hc <;> omega
  clear hc
  unfold encodeChar tail
  rw [toNat_ofNat_of_valid (by unfold Nat.isValidChar; omega)]
  generalize hv : (b.toNat - 0xE0) * 4096 + (c.toNat - 0x80) * 64 + (d.toNat - 0x80) = v
  dsimp only
  rw [if_neg (by omega), if_neg (by omega), if_pos (by omega),
    show 0xE0 + v / 4096 = b.toNat by omega, show 0x80 + v / 64 % 64 = c.toNat by omega,
    show 0x80 + v % 64 = d.toNat by omega, UInt8.ofNat_toNat, UInt8.ofNat_toNat, UInt8.ofNat_toNat]

private theorem encodeChar_of_four {b c d e : UInt8} (hb : 0xF0 ≤ b.toNat ∧ b.toNat ≤ 0xF4)
    (hc : within (if b.toNat = 0xF0 then 0x90 else 0x80) (if b.toNat = 0xF4 then 0x8F else 0xBF) c =
      true) (hd : isTail d = true) (he : isTail e = true) :
    encodeChar (Char.ofNat
      ((b.toNat - 0xF0) * 262144 + tail c * 4096 + tail d * 64 + tail e)) = [b, c, d, e] := by
  have hc := within_iff.mp hc
  have hd := within_iff.mp hd
  have he := within_iff.mp he
  have hbounds : 0x80 ≤ c.toNat ∧ c.toNat ≤ 0xBF ∧ (b.toNat = 0xF0 → 0x90 ≤ c.toNat) ∧
      (b.toNat = 0xF4 → c.toNat ≤ 0x8F) := by
    split at hc <;> split at hc <;> omega
  clear hc
  unfold encodeChar tail
  rw [toNat_ofNat_of_valid (.inr (by omega))]
  generalize hv : (b.toNat - 0xF0) * 262144 + (c.toNat - 0x80) * 4096 + (d.toNat - 0x80) * 64 +
    (e.toNat - 0x80) = v
  dsimp only
  rw [if_neg (by omega), if_neg (by omega), if_neg (by omega),
    show 0xF0 + v / 262144 = b.toNat by omega, show 0x80 + v / 4096 % 64 = c.toNat by omega,
    show 0x80 + v / 64 % 64 = d.toNat by omega, show 0x80 + v % 64 = e.toNat by omega,
    UInt8.ofNat_toNat, UInt8.ofNat_toNat, UInt8.ofNat_toNat, UInt8.ofNat_toNat]

/-- **A character that is read** was written there. -/
theorem eq_encodeChar_of_next {b : UInt8} {rest r : Bytes} {c : Char}
    (h : next b rest = (some c, r)) : b :: rest = encodeChar c ++ r := by
  have hresult {n : Nat} {rest' front : Bytes} (hrest : b :: rest = front ++ rest')
      (hfront : encodeChar (Char.ofNat n) = front)
      (h : (some (Char.ofNat n), rest') = (some c, r)) : b :: rest = encodeChar c ++ r := by
    obtain ⟨hc, rfl⟩ := Prod.mk.inj h
    rw [← Option.some.inj hc, hfront, hrest]
  unfold next at h
  dsimp only at h
  split at h
  · next hb =>
    have hsplit : b :: rest = [b] ++ rest := rfl
    refine hresult hsplit ?_ h
    unfold encodeChar
    rw [toNat_ofNat_of_valid (.inl (by omega))]
    dsimp only
    rw [if_pos hb, UInt8.ofNat_toNat]
  split at h
  · next hb =>
    split at h
    · split at h
      · next hc => exact hresult rfl (encodeChar_of_two hb hc) h
      · cases h
    · cases h
  split at h
  · next hb =>
    -- the bounds of the second byte are conditions that should not be split
    generalize hlo : (if b.toNat = 0xE0 then 0xA0 else 0x80) = lo,
      hhi : (if b.toNat = 0xED then 0x9F else 0xBF) = hi at h
    split at h
    · split at h
      · next hc =>
        rw [← hlo, ← hhi] at hc
        split at h
        · split at h
          · next hd => exact hresult rfl (encodeChar_of_three hb hc hd) h
          · cases h
        · cases h
      · cases h
    · cases h
  split at h
  · next hb =>
    generalize hlo : (if b.toNat = 0xF0 then 0x90 else 0x80) = lo,
      hhi : (if b.toNat = 0xF4 then 0x8F else 0xBF) = hi at h
    split at h
    · split at h
      · next hc =>
        rw [← hlo, ← hhi] at hc
        split at h
        · split at h
          · next hd =>
            split at h
            · split at h
              · next he => exact hresult rfl (encodeChar_of_four hb hc hd he) h
              · cases h
            · cases h
          · cases h
        · cases h
      · cases h
    · cases h
  · cases h

/-- A text that is read was written there. -/
theorem eq_encode_of_decode? {bs : Bytes} {cs : List Char} (h : decode? bs = some cs) :
    bs = encode cs := by
  induction bs using decode?.induct generalizing cs with
  | case1 =>
    rw [decode?] at h
    obtain rfl := Option.some.inj h
    rfl
  | case2 b rest c r hle hnext ih =>
    rw [decode?_cons_of_next hnext] at h
    obtain ⟨cs', hcs', rfl⟩ := Option.map_eq_some_iff.mp h
    rw [eq_encodeChar_of_next hnext, ih hcs']
    rfl
  | case3 b rest r hle hnext => cases (decode?_cons_of_next_none hnext).symm.trans h

/-- Bytes that are read as a text are the bytes of that text. -/
theorem eq_ofString_of_string? {bs : Bytes} {s : String} (h : string? bs = some s) :
    bs = ofString s := by
  obtain ⟨cs, hcs, rfl⟩ := Option.map_eq_some_iff.mp h
  rw [ofString, String.toList_ofList]
  exact eq_encode_of_decode? hcs

/-- A text without replacement characters was written as it is. -/
theorem eq_encode_of_decodeLossy {bs : Bytes} (h : '\uFFFD' ∉ decodeLossy bs) :
    bs = encode (decodeLossy bs) := by
  induction bs using decodeLossy.induct with
  | case1 =>
    rw [decodeLossy]
    rfl
  | case2 b rest c r hle hnext ih =>
    rw [decodeLossy_cons_of_next hnext] at h ⊢
    have hrest : r = encode (decodeLossy r) := ih fun hmem => h (List.mem_cons_of_mem _ hmem)
    calc b :: rest = encodeChar c ++ r := eq_encodeChar_of_next hnext
      _ = encodeChar c ++ encode (decodeLossy r) := by rw [← hrest]
  | case3 b rest r hle hnext ih =>
    rw [decodeLossy_cons_of_next_none hnext] at h
    exact absurd List.mem_cons_self h

/-- Bytes that are read leniently, and none of them replaced, are the bytes of the text. -/
theorem eq_ofString_of_stringLossy {bs : Bytes} {s : String} (h : stringLossy bs = s)
    (hs : '\uFFFD' ∉ s.toList) : bs = ofString s := by
  obtain rfl := h
  rw [stringLossy, String.toList_ofList] at hs
  rw [ofString, stringLossy, String.toList_ofList]
  exact eq_encode_of_decodeLossy hs

/-! ### Text in front of other bytes -/

/-- The first part of some bytes is no character. -/
def BeginsIllFormed (bs : Bytes) : Prop := ∃ b rest r, bs = b :: rest ∧ next b rest = (none, r)

/-- **The well-formed front** is what was written in front of nothing, or of an ill-formed part. -/
theorem eq_append_wellFormedFront (bs : Bytes) :
    bs = encode (wellFormedFront bs).1 ++ (wellFormedFront bs).2 ∧
      ((wellFormedFront bs).2 = [] ∨ BeginsIllFormed (wellFormedFront bs).2) := by
  induction bs using wellFormedFront.induct with
  | case1 =>
    rw [wellFormedFront]
    exact ⟨rfl, .inl rfl⟩
  | case2 b rest c r hle hnext ih =>
    rw [wellFormedFront_cons_of_next hnext]
    refine ⟨?_, ih.2⟩
    calc b :: rest = encodeChar c ++ r := eq_encodeChar_of_next hnext
      _ = encodeChar c ++ (encode (wellFormedFront r).1 ++ (wellFormedFront r).2) := by
        rw [← ih.1]
      _ = _ := (List.append_assoc _ _ _).symm
  | case3 b rest r hle hnext =>
    rw [wellFormedFront_cons_of_next_none hnext]
    exact ⟨rfl, .inr ⟨b, rest, r, rfl, hnext⟩⟩

/-- Text in front of an ill-formed part is not read as a whole. -/
theorem decode?_append_of_beginsIllFormed (cs : List Char) {bs : Bytes} (h : BeginsIllFormed bs) :
    decode? (encode cs ++ bs) = none := by
  induction cs with
  | nil =>
    obtain ⟨b, rest, r, rfl, hnext⟩ := h
    exact decode?_cons_of_next_none hnext
  | cons c cs ih =>
    obtain ⟨b, rest, hb, hnext⟩ := encode_cons_append c cs bs
    rw [hb, decode?_cons_of_next hnext, ih]
    rfl

end Gateway.Utf8
