import Gateway.Proofs.Domain.Names

/-!
# ASCII forms are read again

The ASCII form of a name is a name as well. Each of its labels stands for the label that it was
written from (`Label.isKept_toAscii`): one in ASCII for itself, and Punycode for what it encodes.
But more Punycode may be written than is read, so a form is read again, and then is kept as it is,
exactly if none of its labels has too much of it (`toAscii?_eq_self_iff`).
-/

namespace Gateway.Domain

/-! ### Labels -/

namespace Label

/-- A label that is read has no dots if its text has none, and begins as Punycode does only if it
has other characters than ASCII. -/
theorem of_ofText? {text label : List Char} (h : ofText? text = some label) (hdot : '.' ∉ text) :
    '.' ∉ label ∧ (isAscii label = true → ¬ codedMark <+: label) := by
  unfold ofText? at h
  split at h
  · next code hcode =>
    unfold ofCoded? at h
    split at h
    · obtain ⟨hread, hcoded⟩ := Option.filter_eq_some_iff.mp h
      rw [Bool.not_eq_true'] at hcoded
      refine ⟨fun hmem => hdot ?_, fun hascii => absurd hascii (Bool.eq_false_iff.mp hcoded)⟩
      rw [Text.after?_eq_some_iff.mp hcode]
      exact List.mem_append_right _ (Punycode.mem_of_decode? hread hmem (by decide))
    · cases h
  · next hnone =>
    split at h
    · cases h
      refine ⟨hdot, fun _ hmark => ?_⟩
      obtain ⟨code, hcode⟩ := hmark
      cases hnone.symm.trans (Text.after?_eq_some_iff.mpr hcode.symm)
    · cases h

/-- Writing a label in ASCII brings no dot into it. -/
theorem dot_not_mem_toAscii {label : List Char} (hdot : '.' ∉ label) : '.' ∉ toAscii label := by
  unfold toAscii
  split
  · exact hdot
  · have hdigit : ∀ d < 36, Punycode.digit d ≠ '.' := by decide
    have hcode : ∀ c ∈ Punycode.encode label, c ≠ '.' :=
      Punycode.forall_mem_encode hdigit (by decide) fun c hc hceq =>
        hdot (hceq ▸ (List.mem_filter.mp hc).1)
    refine List.not_mem_append (by decide) fun hmem => hcode _ hmem rfl

/-- A label is what its written form stands for, unless that is more Punycode than is read. -/
theorem isKept_toAscii {label : List Char} (hlabel : isLabel label = true) (hdot : '.' ∉ label)
    (hmark : isAscii label = true → ¬ codedMark <+: label)
    (hlimit : ∀ code, toAscii label = codedMark ++ code → code.length ≤ maxCoded) :
    IsKept (toAscii label) label := by
  have hplain := isPlain_toAscii hlabel
  cases hascii : isAscii label with
  | true =>
    have hwritten : toAscii label = label := if_pos hascii
    rw [hwritten] at hplain ⊢
    exact isKept_of_isPlain hplain hdot (hmark hascii)
  | false =>
    have hwritten : toAscii label = codedMark ++ Punycode.encode label :=
      if_neg (Bool.eq_false_iff.mp hascii)
    have hcode : isAscii (Punycode.encode label) = true := by
      rw [hwritten] at hplain
      exact isAscii_of_isPlain (isPlain_append.mp hplain).2
    refine ⟨hplain, dot_not_mem_toAscii hdot, ?_, hlabel, rfl⟩
    have hread : ofCoded? (Punycode.encode label) = some label := by
      rw [ofCoded?, hcode, decide_eq_true (hlimit _ hwritten), Punycode.decode?_encode]
      exact if_pos (congrArg not hascii)
    rw [hwritten, ofText?, Text.after?_eq_some_iff.mpr rfl]
    exact hread

end Label

/-! ### Names -/

/-- No label of a name has more Punycode than is read. -/
def IsReadable (name : List Char) : Prop :=
  ∀ label ∈ Text.split '.' name, ∀ code, label = Label.codedMark ++ code →
    code.length ≤ Label.maxCoded

/-- A list is read if each of its elements is. -/
theorem map_eq_of_mapM {α β : Type} {f : α → Option β} {xs : List α} {ys : List β}
    (h : xs.mapM f = some ys) : xs.map f = ys.map some := by
  induction xs generalizing ys with
  | nil =>
    cases h
    rfl
  | cons x xs ih =>
    rw [List.mapM_cons] at h
    obtain ⟨y, hy, h⟩ := Option.bind_eq_some_iff.mp h
    obtain ⟨ys, hys, h⟩ := Option.bind_eq_some_iff.mp h
    cases h
    rw [List.map_cons, hy, ih hys, List.map_cons]

/-- The labels of a name in ASCII form, and the text that they are read from. -/
theorem exists_labels_of_toAscii? {cs name : List Char} (h : toAscii? cs = some name) :
    ∃ text labels, plainText? cs = some text ∧
      (Text.split '.' text).map Label.ofText? = labels.map some ∧
      (∀ l ∈ labels, Label.isLabel l = true) ∧ isConsistent labels = true ∧
      name = Text.join '.' (labels.map Label.toAscii) := by
  unfold toAscii? labels? at h
  cases htext : plainText? cs with
  | none =>
    rw [htext] at h
    cases h
  | some text =>
    rw [htext] at h
    dsimp only at h
    cases hlabels : (Text.split '.' text).mapM Label.ofText? with
    | none =>
      rw [hlabels] at h
      cases h
    | some labels =>
      rw [hlabels] at h
      dsimp only at h
      split at h
      · next hall =>
        cases h
        obtain ⟨hall, hdirections⟩ := Bool.and_eq_true_iff.mp hall
        exact ⟨text, labels, rfl, map_eq_of_mapM hlabels, List.all_eq_true.mp hall, hdirections,
          rfl⟩
      · cases h

/-- A plain name is read only if none of its labels has too much Punycode. -/
theorem isReadable_of_toAscii? {cs name : List Char} (hplain : IsPlain cs)
    (h : toAscii? cs = some name) : IsReadable cs := by
  obtain ⟨text, labels, htext, hread, -⟩ := exists_labels_of_toAscii? h
  obtain rfl := Option.some.inj ((plainText?_of_isPlain hplain).symm.trans htext)
  rintro t ht code rfl
  obtain ⟨label, -, hlabel⟩ := List.mem_map.mp (hread ▸ List.mem_map_of_mem ht)
  rw [Label.ofText?, Text.after?_eq_some_iff.mpr rfl] at hlabel
  dsimp only at hlabel
  unfold Label.ofCoded? at hlabel
  split at hlabel
  · next hcode => exact of_decide_eq_true (Bool.and_eq_true_iff.mp hcode).2
  · cases hlabel

/-- **ASCII forms are kept** as they are, if they can be read. -/
theorem toAscii?_eq_self_iff {cs name : List Char} (h : toAscii? cs = some name) :
    toAscii? name = some name ↔ IsReadable name := by
  refine ⟨isReadable_of_toAscii? (isPlain_toAscii? h), fun hreadable => ?_⟩
  obtain ⟨text, labels, -, hread, hlabels, hdirections, rfl⟩ := exists_labels_of_toAscii? h
  have hforms : ∀ l ∈ labels, '.' ∉ l ∧ (Label.isAscii l = true → ¬ Label.codedMark <+: l) := by
    intro l hl
    obtain ⟨t, ht, htl⟩ := List.mem_map.mp (hread.symm ▸ List.mem_map_of_mem (f := some) hl)
    exact Label.of_ofText? htl (Text.not_mem_of_mem_split ht)
  have hne : labels.map Label.toAscii ≠ [] := by
    intro hnil
    obtain rfl := List.map_eq_nil_iff.mp hnil
    exact Text.split_ne_nil _ _ (List.map_eq_nil_iff.mp hread)
  have hdots : ∀ t ∈ labels.map Label.toAscii, '.' ∉ t :=
    List.forall_mem_map.mpr fun l hl => Label.dot_not_mem_toAscii (hforms l hl).1
  refine toAscii?_join hne (List.forall₂_map_left_iff.mpr (List.forall₂_same.mpr fun l hl => ?_))
    hdirections
  refine Label.isKept_toAscii (hlabels l hl) (hforms l hl).1 (hforms l hl).2 (hreadable _ ?_)
  rw [Text.split_join hne hdots]
  exact List.mem_map_of_mem hl

end Gateway.Domain
