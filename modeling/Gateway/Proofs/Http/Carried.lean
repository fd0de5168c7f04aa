import Gateway.Proofs.Http.Target

/-!
# Paths that targets carry

Nothing in a target is decoded, so a request can be for a path only if the path stands in a target
as it is. `IsPathCharacter` says which characters may: all that are visible, but for five, and for
some readers the delete character. A path that begins with a slash is carried by some target exactly
if it has no other characters and is not longer than targets may be (`exists_target_iff`), and then
it is a target by itself.
-/

namespace Gateway.Http.Target

/-- Whether a character may stand in the path of a target. -/
def IsPathCharacter (d : Dialect) (c : Char) : Prop :=
  0x20 < c.toNat ∧ (c.toNat ≠ 0x7F ∨ d = .lenient) ∧ c ∉ ['#', '<', '>', '?', '\x60']

instance (d : Dialect) (c : Char) : Decidable (IsPathCharacter d c) :=
  inferInstanceAs (Decidable (_ ∧ _ ∧ _))

/-- A text that may stand in a target as its path, as far as its characters are concerned. -/
def HasPathCharacters (d : Dialect) (path : String) : Prop :=
  ∀ c ∈ path.toList, IsPathCharacter d c

instance (d : Dialect) (path : String) : Decidable (HasPathCharacters d path) :=
  List.decidableBAll (IsPathCharacter d) path.toList

/-- The delete character stands in paths for some readers and not for others. -/
example : HasPathCharacters .lenient "/\x7F" ∧ ¬ HasPathCharacters .strict "/\x7F" := by decide

variable {d : Dialect}

/-! ### Bytes of characters -/

/-- Characters outside ASCII are written in bytes outside ASCII. -/
theorem le_of_mem_encodeChar {c : Char} (hc : 0x80 ≤ c.toNat) {b : UInt8}
    (hb : b ∈ Utf8.encodeChar c) : 0x80 ≤ b.toNat := by
  have hbyte {n : Nat} (hlow : 0x80 ≤ n) (hhigh : n < 0x100) : 0x80 ≤ (UInt8.ofNat n).toNat := by
    rwa [UInt8.toNat_ofNat_of_lt' hhigh]
  have hlarge : c.toNat < 0x110000 := by
    rcases c.valid with hlt | ⟨-, hlt⟩
    · exact Nat.lt_trans hlt (by decide)
    · exact hlt
  simp only [Utf8.encodeChar, if_neg (Nat.not_lt.mpr hc)] at hb
  split at hb
  · simp only [List.mem_cons, List.not_mem_nil, or_false] at hb
    rcases hb with rfl | rfl <;> exact hbyte (by omega) (by omega)
  split at hb
  · simp only [List.mem_cons, List.not_mem_nil, or_false] at hb
    rcases hb with rfl | rfl | rfl <;> exact hbyte (by omega) (by omega)
  · simp only [List.mem_cons, List.not_mem_nil, or_false] at hb
    rcases hb with rfl | rfl | rfl | rfl <;> exact hbyte (by omega) (by omega)

theorem toNat_byte {c : Char} (hc : c.toNat < 0x80) : (byte c).toNat = c.toNat :=
  UInt8.toNat_ofNat_of_lt' (Nat.lt_trans hc (by decide))

/-- The bytes of ASCII characters are told apart. -/
theorem byte_inj {c d : Char} (hc : c.toNat < 0x80) (hd : d.toNat < 0x80) :
    byte c = byte d ↔ c = d := by
  refine ⟨fun h => Char.toNat_inj.mp ?_, congrArg byte⟩
  rw [← toNat_byte hc, ← toNat_byte hd, h]

/-- The characters that are visible and stand in no path. -/
private theorem forall_mem_excluded {c : Char} (hc : c ∈ "#<>?\x60".toList) : c.toNat < 0x80 := by
  have hall : ("#<>?\x60".toList.all fun c => decide (c.toNat < 0x80)) = true := by decide
  exact of_decide_eq_true (List.all_eq_true.mp hall c hc)

/-- For characters in ASCII, the table of bytes is the class of characters. -/
theorem isPathByte_byte {c : Char} (hc : c.toNat < 0x80) :
    isPathByte d (byte c) = true ↔ IsPathCharacter d c := by
  have hexcluded : ("#<>?\x60".toList.map byte).contains (byte c) = true ↔
      c ∈ ['#', '<', '>', '?', '\x60'] := by
    rw [List.contains_iff_mem, List.mem_map]
    constructor
    · rintro ⟨d, hd, hbyte⟩
      rw [← (byte_inj (forall_mem_excluded hd) hc).mp hbyte]
      exact hd
    · exact fun hmem => ⟨c, hmem, rfl⟩
  rw [isPathByte, isVisible, toNat_byte hc, IsPathCharacter, ← hexcluded]
  simp only [Bool.and_eq_true, Bool.or_eq_true, decide_eq_true_eq, Bool.not_eq_true',
    Bool.not_eq_true, and_assoc]

/-- No byte of a longer encoding is refused in a path. -/
theorem isPathByte_of_le {b : UInt8} (hb : 0x80 ≤ b.toNat) : isPathByte d b = true := by
  have hnot : ("#<>?\x60".toList.map byte).contains b = false := by
    rw [Bool.eq_false_iff, Ne, List.contains_iff_mem, List.mem_map]
    rintro ⟨c, hc, rfl⟩
    rw [toNat_byte (forall_mem_excluded hc)] at hb
    exact Nat.not_lt.mpr hb (forall_mem_excluded hc)
  rw [isPathByte, isVisible, hnot, Bool.not_false, Bool.and_true, Bool.and_eq_true,
    Bool.or_eq_true, decide_eq_true_eq, decide_eq_true_eq]
  exact ⟨by omega, .inl (by omega)⟩

/-- A character stands in a path exactly if the bytes of its encoding do. -/
theorem all_encodeChar_iff (d : Dialect) (c : Char) :
    (Utf8.encodeChar c).all (isPathByte d) = true ↔ IsPathCharacter d c := by
  by_cases hc : c.toNat < 0x80
  · have hchar : Utf8.encodeChar c = [byte c] := if_pos hc
    rw [hchar, List.all_cons, List.all_nil, Bool.and_true, isPathByte_byte hc]
  · -- outside ASCII no character is excluded
    have hle := Nat.le_of_not_lt hc
    refine iff_of_true ?_ ⟨by omega, .inl (by omega), fun hmem => hc (forall_mem_excluded hmem)⟩
    exact List.all_eq_true.mpr fun b hb => isPathByte_of_le (le_of_mem_encodeChar hle hb)

/-- **Characters and bytes of paths** say the same of a text. -/
theorem all_isPathByte_iff (d : Dialect) (path : String) :
    (Utf8.ofString path).all (isPathByte d) = true ↔ HasPathCharacters d path := by
  rw [Utf8.ofString, Utf8.encode, List.all_flatMap, List.all_eq_true]
  exact forall₂_congr fun c _ => all_encodeChar_iff d c

/-! ### What is read -/

/-- A path that is read has no other characters, and is no longer than what it is read from, but
for the slash that stands for nothing. -/
theorem of_pathOf? {bs : Bytes} {path : String} (h : pathOf? d bs = .ok path) :
    HasPathCharacters d path ∧ (Utf8.ofString path).length ≤ max 1 bs.length := by
  unfold pathOf? at h
  extract_lets at h
  split at h
  · next text _ htext _ =>
    split at h
    · next hall =>
      have hbytes : pathBytes bs = Utf8.ofString text := Utf8.eq_ofString_of_string? htext
      cases h
      split
      · exact ⟨(all_isPathByte_iff d "/").mp (by cases d <;> decide), Nat.le_max_left _ _⟩
      · rw [← all_isPathByte_iff, ← hbytes]
        refine ⟨(Bool.and_eq_true_iff.mp hall).1, Nat.le_trans ?_ (Nat.le_max_right _ _)⟩
        exact ((List.takeWhile_sublist _).trans (List.takeWhile_sublist _)).length_le
    · cases h
  · cases h

/-- What follows a scheme is no longer than the whole. -/
theorem length_le_of_behindScheme? {bs behind : Bytes} (h : behindScheme? bs = .ok (some behind)) :
    behind.length ≤ bs.length := by
  have hdrop (cs : Bytes) (n : Nat) : (cs.drop n).length ≤ cs.length :=
    (List.drop_sublist n cs).length_le
  unfold behindScheme? at h
  split at h
  · cases h
    exact hdrop bs 7
  split at h
  · cases h
    exact hdrop bs 8
  split at h
  · cases h
  dsimp only at h
  split at h
  · split at h
    · cases h
    · cases h
      exact (hdrop _ 3).trans (List.dropWhile_sublist _).length_le
  · cases h

/-- What follows an authority is no longer than the whole. -/
theorem length_le_of_authorityOf? {bs authority rest : Bytes}
    (h : authorityOf? bs = .ok (authority, rest)) : rest.length ≤ bs.length := by
  unfold authorityOf? at h
  split at h
  · cases h
  · obtain ⟨seen, -, h⟩ := exists_ok_of_bind h
    split at h
    · cases h
    · cases h
      exact (List.dropWhile_sublist _).length_le

/-- The path of a full target has the characters of paths, and is no longer than the target or a
single slash. -/
theorem of_ofFullBytes? {bs : Bytes} {t : Target} (h : ofFullBytes? d bs = .ok t) :
    HasPathCharacters d t.path ∧ (Utf8.ofString t.path).length ≤ max 1 bs.length := by
  unfold ofFullBytes? at h
  obtain ⟨found, hfound, h⟩ := exists_ok_of_bind h
  cases found with
  | none =>
    obtain ⟨⟨authority, rest⟩, hauthority, h⟩ := exists_ok_of_bind h
    dsimp only at h
    split at h
    · cases h
      exact ⟨nofun, Nat.zero_le _⟩
    · cases h
  | some behind =>
    obtain ⟨⟨authority, rest⟩, hauthority, h⟩ := exists_ok_of_bind h
    dsimp only at h
    split at h
    · cases h
    obtain ⟨path, hpath, h⟩ := exists_ok_of_bind h
    cases h
    have hrest := (length_le_of_authorityOf? hauthority).trans (length_le_of_behindScheme? hfound)
    exact (of_pathOf? hpath).imp_right fun hlength => hlength.trans (by omega)

/-- **Paths of targets** have no other characters, and are not too long. -/
theorem of_ofBytes? {bs : Bytes} {t : Target} (h : ofBytes? d bs = .ok t) :
    HasPathCharacters d t.path ∧ (Utf8.ofString t.path).length ≤ maxLength := by
  unfold ofBytes? at h
  split at h
  · cases h
  next hlength =>
  have hshort {path : String} (hpath : HasPathCharacters d path ∧
      (Utf8.ofString path).length ≤ max 1 bs.length) :
      HasPathCharacters d path ∧ (Utf8.ofString path).length ≤ maxLength :=
    hpath.imp_right fun hle => hle.trans (max_le (by decide) (Nat.le_of_not_lt hlength))
  split at h
  · cases h
  · -- a single byte
    split at h
    · cases h
      exact ⟨(all_isPathByte_iff d "/").mp (by cases d <;> decide), by decide⟩
    split at h
    · cases h
      exact ⟨(all_isPathByte_iff d "*").mp (by cases d <;> decide), by decide⟩
    split at h
    · cases h
    · cases h
      exact ⟨nofun, Nat.zero_le _⟩
    · cases h
  · split at h
    · obtain ⟨path, hpath, rfl⟩ := exists_ok_of_map h
      exact hshort (of_pathOf? hpath)
    · exact hshort (of_ofFullBytes? h)

/-! ### What can be read -/

/-- **Texts of such characters are targets**, each for itself. -/
theorem ofBytes?_ofString {path : String} (hslash : path.toList.head? = some '/')
    (hpath : HasPathCharacters d path) (hlength : (Utf8.ofString path).length ≤ maxLength) :
    ofBytes? d (Utf8.ofString path) = .ok ⟨none, path⟩ := by
  obtain ⟨rest, hrest⟩ := List.head?_eq_some_iff.mp hslash
  have hbytes : Utf8.ofString path = byte '/' :: Utf8.encode rest := by
    rw [Utf8.ofString, hrest]
    rfl
  have hall := (all_isPathByte_iff d path).mpr hpath
  -- neither a query nor a fragment ends the path
  have hstop {b : UInt8} (hb : isPathByte d b = false) :
      (Utf8.ofString path).takeWhile (· ≠ b) = Utf8.ofString path ∧
        (Utf8.ofString path).dropWhile (· ≠ b) = [] := by
    have hne : ∀ x ∈ Utf8.ofString path, decide (x ≠ b) = true := by
      intro x hx
      refine decide_eq_true ?_
      rintro rfl
      exact absurd (List.all_eq_true.mp hall x hx) (Bool.eq_false_iff.mp hb)
    exact ⟨List.takeWhile_eq_self_iff.mpr hne, List.dropWhile_eq_nil_iff.mpr hne⟩
  have hempty : path.isEmpty = false := by
    rw [Bool.eq_false_iff, Ne, String.isEmpty_iff]
    rintro rfl
    cases hrest
  have hquery : Utf8.string? [] = some "" := Utf8.string?_ofString ""
  have hread : pathOf? d (Utf8.ofString path) = .ok path := by
    obtain ⟨hfragment, -⟩ := hstop (b := byte '#') (by cases d <;> decide)
    obtain ⟨hmark, hnone⟩ := hstop (b := byte '?') (by cases d <;> decide)
    rw [pathOf?]
    simp only [hfragment, hmark, hnone, List.drop_nil, Utf8.string?_ofString, hquery, hall,
      List.all_nil, Bool.and_self, if_true, hempty, Bool.false_eq_true, if_false]
  unfold ofBytes?
  rw [if_neg (Nat.not_lt.mpr hlength)]
  rw [hbytes] at hread ⊢
  cases hcodes : Utf8.encode rest with
  | nil =>
    rw [hcodes] at hbytes
    obtain rfl : path = "/" := Utf8.ofString_injective hbytes
    rfl
  | cons b bs =>
    rw [hcodes] at hread
    simp only [if_true, hread]
    rfl

/-- **Paths that targets carry** are those of such characters that are not too long. -/
theorem exists_target_iff {path : String} (hslash : path.toList.head? = some '/') :
    (∃ bs t, ofBytes? d bs = .ok t ∧ t.path = path) ↔
      HasPathCharacters d path ∧ (Utf8.ofString path).length ≤ maxLength := by
  constructor
  · rintro ⟨bs, t, ht, rfl⟩
    exact of_ofBytes? ht
  · rintro ⟨hpath, hlength⟩
    exact ⟨_, _, ofBytes?_ofString hslash hpath hlength, rfl⟩

end Gateway.Http.Target
