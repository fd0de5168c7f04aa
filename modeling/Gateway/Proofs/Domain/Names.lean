import Gateway.Proofs.Url.Visible
import Mathlib.Data.List.Forall2

/-!
# Domain names in normal form

A name of plain characters is kept as it is, if each of its labels is: one that does not begin as
Punycode does is its own label, and one that does must be the ASCII form of the label that it stands
for (`Label.IsKept`). Where all labels are of ASCII characters they fit together in any case, as
none of them is written from right to left. So names are kept that are made of kept labels
(`toAscii?_join`), among them those of the domain name system in small letters
(`toAscii?_of_isDnsName`).
-/

namespace Gateway

namespace Text

/-- What holds of all ranges of a table holds of the ones that are made from its characters. -/
theorem forall_mem_ranges {P : Nat × Nat → Bool} {table : List Char}
    (h : (rangesFrom 0 (numbersIn table)).all P = true) :
    ∀ r ∈ ranges (String.ofList table), P r = true := by
  rw [ranges, hexNumbers, String.toList_ofList]
  exact fun r hr => List.all_eq_true.mp h r (List.mem_toArray.mp hr)

/-- A character below all ranges of a table is in none of them. -/
theorem isWithin_of_lt {rs : Array (Nat × Nat)} {bound : Nat}
    (h : ∀ r ∈ rs, decide (bound ≤ r.1) = true) {c : Char} (hc : c.toNat < bound) :
    isWithin rs c = false := by
  refine Array.any_eq_false'.mpr fun r hr hwithin => ?_
  have hle : bound ≤ r.1 := of_decide_eq_true (h r hr)
  have hlow : r.1 ≤ c.toNat := of_decide_eq_true (Bool.and_eq_true_iff.mp hwithin).1
  omega

end Text

namespace Domain

/-! ### Characters -/

theorem toNat_lt_of_isPlain {c : Char} (h : isPlain c = true) : c.toNat < 0x80 := by
  rw [isPlain, isAllowedAscii, Bool.and_eq_true, Bool.and_eq_true, Bool.and_eq_true] at h
  have hlt : c.toNat < 0x7F := of_decide_eq_true h.1.1.2
  omega

/-- A plain character stands for itself. -/
theorem plain?_of_isPlain {c : Char} (h : isPlain c = true) : plain? c = some [c] := by
  have hascii := toNat_lt_of_isPlain h
  rw [isPlain, Bool.and_eq_true, Bool.not_eq_true'] at h
  have hlower : c.toLower = c := dif_neg (of_decide_eq_false h.2)
  rw [plain?, if_pos hascii, hlower]

theorem isValid_of_isPlain {c : Char} (h : isPlain c = true) : isValid c = true := by
  rw [isValid, if_pos (toNat_lt_of_isPlain h)]
  exact h

set_option maxRecDepth 20000 in
/-- The table of marks begins behind ASCII. -/
theorem le_of_mem_markRanges : ∀ r ∈ markRanges, decide (0x80 ≤ r.1) = true := by
  unfold markRanges
  exact Text.forall_mem_ranges (by decide +kernel)

/-- No mark is an ASCII character. -/
theorem isMark_of_lt {c : Char} (h : c.toNat < 0x80) : isMark c = false :=
  Text.isWithin_of_lt le_of_mem_markRanges h

/-- Joiners are no ASCII characters. -/
theorem joinersFit_of_isPlain {cs : List Char} (h : IsPlain cs) (before : List Char) :
    joinersFit before cs = true := by
  induction cs generalizing before with
  | nil => rfl
  | cons c cs ih =>
    obtain ⟨hc, hcs⟩ := List.forall_mem_cons.mp h
    have hjoiner {d : Char} (hd : isPlain d = false) : (c == d) = false := by
      refine beq_eq_false_iff_ne.mpr ?_
      rintro rfl
      cases hc.symm.trans hd
    unfold joinersFit
    simp only [hjoiner (d := '\u200D') (by decide), hjoiner (d := '\u200C') (by decide), ih hcs]
    rfl

/-- No ASCII character is written from right to left. -/
theorem isRightToLeft_of_lt {c : Char} (h : c.toNat < 0x80) :
    (Direction.of c).isRightToLeft = false := by
  rw [Direction.of, if_pos h]
  split
  · rfl
  · split
    · rfl
    · rfl

/-! ### Labels -/

theorem composed_of_isPlain {cs : List Char} (h : IsPlain cs) : composed cs = cs :=
  if_pos (List.all_eq_true.mpr fun c hc => decide_eq_true (toNat_lt_of_isPlain (h c hc)))

namespace Label

theorem isAscii_of_isPlain {cs : List Char} (h : IsPlain cs) : isAscii cs = true :=
  List.all_eq_true.mpr fun c hc => decide_eq_true (toNat_lt_of_isPlain (h c hc))

/-- Plain texts are labels as they stand. -/
theorem isLabel_of_isPlain {cs : List Char} (h : IsPlain cs) : isLabel cs = true := by
  have hvalid : cs.all isValid = true :=
    List.all_eq_true.mpr fun c hc => isValid_of_isPlain (h c hc)
  have hmark : cs.head?.any isMark = false := by
    cases cs with
    | nil => rfl
    | cons c cs =>
      rw [List.head?_cons, Option.any_some]
      exact isMark_of_lt (toNat_lt_of_isPlain (h c List.mem_cons_self))
  rw [isLabel, hvalid, composed_of_isPlain h, beq_self_eq_true, hmark, joinersFit_of_isPlain h]
  rfl

/-- A text in ASCII that is the written form of the label that it stands for. -/
structure IsKept (text label : List Char) : Prop where
  /-- The text is made of plain characters. -/
  plain : IsPlain text
  /-- It is one label. -/
  dot : '.' ∉ text
  /-- It stands for the label. -/
  reads : ofText? text = some label
  /-- The label is one. -/
  isLabel : Label.isLabel label = true
  /-- It is written as the text. -/
  writes : toAscii label = text

/-- A plain text that does not begin as Punycode does is its own label. -/
theorem isKept_of_isPlain {text : List Char} (h : IsPlain text) (hdot : '.' ∉ text)
    (hmark : ¬ codedMark <+: text) : IsKept text text where
  plain := h
  dot := hdot
  reads := by
    have hafter : Text.after? codedMark text = none := by
      refine Option.eq_none_iff_forall_ne_some.mpr fun code hcode => hmark ?_
      exact ⟨code, (Text.after?_eq_some_iff.mp hcode).symm⟩
    rw [ofText?, hafter]
    exact if_pos (Bool.or_eq_true_iff.mpr (.inl (isAscii_of_isPlain h)))
  isLabel := isLabel_of_isPlain h
  writes := if_pos (isAscii_of_isPlain h)

end Label

/-! ### Names -/

theorem plainText?_of_isPlain {cs : List Char} (h : IsPlain cs) : plainText? cs = some cs := by
  have hmap : cs.mapM plain? = some (cs.map fun c => [c]) := by
    induction cs with
    | nil => rfl
    | cons c cs ih =>
      obtain ⟨hc, hcs⟩ := List.forall_mem_cons.mp h
      rw [List.mapM_cons, plain?_of_isPlain hc, ih hcs]
      rfl
  have hflatten : (cs.map fun c => [c]).flatten = cs := by
    rw [← List.flatMap_def, List.flatMap_singleton']
  rw [plainText?, hmap, Option.map_some, hflatten, composed_of_isPlain h]

/-- Labels of plain characters fit together. -/
theorem isConsistent_of_isPlain {labels : List (List Char)} (h : ∀ l ∈ labels, IsPlain l) :
    isConsistent labels = true := by
  have hnone : ((labels.map fun l => l.map Direction.of).any
      fun ds => ds.any Direction.isRightToLeft) = false := by
    rw [List.any_map]
    refine List.any_eq_false.mpr fun l hl hany => ?_
    obtain ⟨d, hd, hright⟩ := List.any_eq_true.mp hany
    obtain ⟨c, hc, rfl⟩ := List.mem_map.mp hd
    cases hright.symm.trans (isRightToLeft_of_lt (toNat_lt_of_isPlain (h l hl c hc)))
  rw [isConsistent, hnone]
  rfl

/-- What holds of kept labels holds of lists of them. -/
theorem of_forall₂_isKept {texts labels : List (List Char)}
    (h : List.Forall₂ Label.IsKept texts labels) :
    (∀ p ∈ texts, IsPlain p) ∧ (∀ p ∈ texts, '.' ∉ p) ∧
      texts.mapM Label.ofText? = some labels ∧ labels.all Label.isLabel = true ∧
      labels.map Label.toAscii = texts := by
  induction h with
  | nil => exact ⟨nofun, nofun, rfl, rfl, rfl⟩
  | cons hlabel _ ih =>
    obtain ⟨hplain, hdots, hreads, hlabels, hwrites⟩ := ih
    refine ⟨List.forall_mem_cons.mpr ⟨hlabel.plain, hplain⟩,
      List.forall_mem_cons.mpr ⟨hlabel.dot, hdots⟩, ?_, ?_, ?_⟩
    · rw [List.mapM_cons, hlabel.reads, hreads]
      rfl
    · rw [List.all_cons, hlabel.isLabel, hlabels]
      rfl
    · rw [List.map_cons, hlabel.writes, hwrites]

/-- A name is kept if its labels are. -/
theorem toAscii?_join {texts labels : List (List Char)} (hne : texts ≠ [])
    (h : List.Forall₂ Label.IsKept texts labels) (hdirections : isConsistent labels = true) :
    toAscii? (Text.join '.' texts) = some (Text.join '.' texts) := by
  obtain ⟨hplain, hdots, hreads, hlabels, hwrites⟩ := of_forall₂_isKept h
  have hname : IsPlain (Text.join '.' texts) := Text.forall_mem_join (by decide) hplain
  rw [toAscii?, labels?, plainText?_of_isPlain hname]
  dsimp only
  rw [Text.split_join hne hdots, hreads]
  dsimp only
  rw [hlabels, hdirections, hwrites]
  rfl

/-- A plain name without Punycode is its own ASCII form. -/
theorem toAscii?_of_isPlain {name : List Char} (h : IsPlain name)
    (hmark : ∀ label ∈ Text.split '.' name, ¬ Label.codedMark <+: label) :
    toAscii? name = some name := by
  have hlabels : ∀ label ∈ Text.split '.' name, IsPlain label := fun label hlabel c hc =>
    h c (Text.mem_of_mem_split hlabel hc)
  have hkept : List.Forall₂ Label.IsKept (Text.split '.' name) (Text.split '.' name) :=
    List.forall₂_same.mpr fun label hlabel => Label.isKept_of_isPlain (hlabels label hlabel)
      (Text.not_mem_of_mem_split hlabel) (hmark label hlabel)
  have hname := toAscii?_join (Text.split_ne_nil '.' name) hkept (isConsistent_of_isPlain hlabels)
  rwa [Text.join_split] at hname

/-! ### Names of the domain name system -/

/-- The characters of such names: small letters, digits and the hyphen. -/
def isHostCharacter (c : Char) : Bool := c.isLower || c.isDigit || c == '-'

/-- Small letters, digits and the hyphen are plain, and none of them is the dot. -/
theorem isPlain_of_isHostCharacter {c : Char} (h : isHostCharacter c = true) :
    isPlain c = true ∧ c ≠ '.' := by
  have hlt : c.toNat < 0x80 := by
    rw [isHostCharacter, Bool.or_eq_true, Bool.or_eq_true] at h
    rcases h with (h | h) | h
    · have hle : c.toNat ≤ 0x7A := of_decide_eq_true (Bool.and_eq_true_iff.mp h).2
      omega
    · have hle : c.toNat ≤ 0x39 := of_decide_eq_true (Bool.and_eq_true_iff.mp h).2
      omega
    · rw [eq_of_beq h]
      decide
  have hall : ∀ n < 0x80, isHostCharacter (Char.ofNat n) = true →
      isPlain (Char.ofNat n) = true ∧ Char.ofNat n ≠ '.' := by decide
  have hchar := hall c.toNat hlt
  rw [Char.ofNat_toNat] at hchar
  exact hchar h

/-- A label of such a name, and what it stands for. One that begins as Punycode does is the ASCII
form of the label that it stands for. -/
inductive IsDnsLabel : List Char → List Char → Prop
  | plain {text : List Char} (hchars : ∀ c ∈ text, isHostCharacter c = true)
    (hmark : ¬ Label.codedMark <+: text) : IsDnsLabel text text
  | coded {text label : List Char} (hchars : ∀ c ∈ text, isHostCharacter c = true)
    (hreads : Label.ofText? text = some label) (hlabel : Label.isLabel label = true)
    (hwrites : Label.toAscii label = text) : IsDnsLabel text label

/-- Labels of the domain name system are kept as they stand. -/
theorem IsDnsLabel.isKept {text label : List Char} (h : IsDnsLabel text label) :
    Label.IsKept text label := by
  have hdot {text : List Char} (hchars : ∀ c ∈ text, isHostCharacter c = true) : '.' ∉ text :=
    fun hmem => (isPlain_of_isHostCharacter (hchars _ hmem)).2 rfl
  cases h with
  | plain hchars hmark =>
    exact Label.isKept_of_isPlain (fun c hc => (isPlain_of_isHostCharacter (hchars c hc)).1)
      (hdot hchars) hmark
  | coded hchars hreads hlabel hwrites =>
    exact ⟨fun c hc => (isPlain_of_isHostCharacter (hchars c hc)).1, hdot hchars, hreads, hlabel,
      hwrites⟩

/-- A name of the domain name system in small letters: labels with dots between them that fit
together. -/
def IsDnsName (name : List Char) : Prop :=
  ∃ texts labels, texts ≠ [] ∧ name = Text.join '.' texts ∧
    List.Forall₂ IsDnsLabel texts labels ∧ isConsistent labels = true

/-- **Names of the domain name system are kept** as they stand. -/
theorem toAscii?_of_isDnsName {name : List Char} (h : IsDnsName name) :
    toAscii? name = some name := by
  obtain ⟨texts, labels, hne, rfl, hlabels, hdirections⟩ := h
  exact toAscii?_join hne (hlabels.imp fun _ _ => IsDnsLabel.isKept) hdirections

end Domain

end Gateway
