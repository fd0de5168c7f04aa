/-!
# Letter case, blanks and separators

The comparisons that ignore letter case look at the letters `A` to `Z` alone; the blanks that
are trimmed from both ends of an entry are all characters of the Unicode property
`White_Space`. Separated lists are cut with `split` and put together with `join`, and
`join_split` says that cutting loses nothing.
-/

namespace Gateway.Text

/-! ### Letter case -/

/-- A text with the letters `A` to `Z` made small. -/
def lower (cs : List Char) : List Char := cs.map Char.toLower

/-- Whether two texts agree up to the case of the letters `A` to `Z`. -/
def sameLetters (a b : List Char) : Bool := lower a == lower b

/-- Whether two strings agree up to the case of the letters `A` to `Z`. -/
def sameIgnoringCase (a b : String) : Bool := sameLetters a.toList b.toList

theorem sameLetters_iff {a b : List Char} : sameLetters a b = true ↔ lower a = lower b := by
  simp [sameLetters]

/-- Texts are the same in any case if they are in lower case. -/
theorem sameIgnoringCase_iff {a b : String} :
    sameIgnoringCase a b = true ↔ lower a.toList = lower b.toList := sameLetters_iff

/-! ### Blanks -/

/-- The characters of the Unicode property `White_Space`. -/
def isBlank (c : Char) : Bool :=
  let n := c.toNat
  (0x09 ≤ n && n ≤ 0x0D) || n == 0x20 || n == 0x85 || n == 0xA0 || n == 0x1680 ||
    (0x2000 ≤ n && n ≤ 0x200A) || n == 0x2028 || n == 0x2029 || n == 0x202F || n == 0x205F ||
    n == 0x3000

/-- A text without the blanks at its end. -/
def trimEnd (cs : List Char) : List Char :=
  (cs.reverse.dropWhile isBlank).reverse

/-- A text without the blanks at its two ends. -/
def trim (cs : List Char) : List Char := trimEnd (cs.dropWhile isBlank)

/-! ### Separators -/

/-- The pieces between the separators; always at least one. -/
def split (sep : Char) : List Char → List (List Char)
  | [] => [[]]
  | c :: cs =>
    if c = sep then [] :: split sep cs
    else
      match split sep cs with
      | [] => [[c]]
      | p :: ps => (c :: p) :: ps

/-- The pieces with a separator between each two of them. -/
def join (sep : Char) : List (List Char) → List Char
  | [] => []
  | [p] => p
  | p :: ps => p ++ sep :: join sep ps

theorem split_ne_nil (sep : Char) (cs : List Char) : split sep cs ≠ [] := by
  cases cs with
  | nil => simp [split]
  | cons c cs =>
    unfold split
    split
    · simp
    · split <;> simp

/-- Cutting a text at its separators loses nothing. -/
theorem join_split (sep : Char) (cs : List Char) : join sep (split sep cs) = cs := by
  induction cs with
  | nil => rfl
  | cons c cs ih =>
    unfold split
    have hne := split_ne_nil sep cs
    split
    · next h =>
      subst h
      cases hs : split c cs with
      | nil => exact absurd hs hne
      | cons p ps =>
        rw [hs] at ih
        simp [join, ih]
    · cases hs : split sep cs with
      | nil => exact absurd hs hne
      | cons p ps =>
        rw [hs] at ih
        cases ps with
        | nil => simpa [join] using ih
        | cons q qs => simpa [join] using ih

/-- No piece holds a separator. -/
theorem not_mem_of_mem_split {sep : Char} {cs p : List Char} (h : p ∈ split sep cs) :
    sep ∉ p := by
  induction cs generalizing p with
  | nil => simp_all [split]
  | cons c cs ih =>
    unfold split at h
    split at h
    · rcases List.mem_cons.1 h with rfl | h
      · simp
      · exact ih h
    · next hc =>
      cases hs : split sep cs with
      | nil => exact absurd hs (split_ne_nil sep cs)
      | cons q qs =>
        rw [hs] at h ih
        rcases List.mem_cons.1 h with rfl | h
        · have hnot : sep ∉ q := ih (by simp)
          simp [hnot, Ne.symm hc]
        · exact ih (List.mem_cons_of_mem _ h)

theorem mem_of_mem_split {sep : Char} {cs p : List Char} (hp : p ∈ split sep cs) {c : Char}
    (hc : c ∈ p) : c ∈ cs := by
  induction cs generalizing p with
  | nil =>
    obtain rfl := List.mem_singleton.mp hp
    exact hc
  | cons d cs ih =>
    unfold split at hp
    split at hp
    · rcases List.mem_cons.mp hp with rfl | hp
      · cases hc
      · exact .tail d (ih hp hc)
    · cases hs : split sep cs with
      | nil => exact absurd hs (split_ne_nil sep cs)
      | cons q qs =>
        rw [hs] at hp ih
        rcases List.mem_cons.mp hp with rfl | hp
        · rcases List.mem_cons.mp hc with rfl | hc
          · exact List.mem_cons_self
          · exact .tail d (ih List.mem_cons_self hc)
        · exact .tail d (ih (.tail q hp) hc)

/-- A text without separators is one piece. -/
theorem split_eq_singleton {sep : Char} {p : List Char} (h : sep ∉ p) : split sep p = [p] := by
  induction p with
  | nil => rfl
  | cons c cs ih =>
    simp only [List.mem_cons, not_or] at h
    simp [split, Ne.symm h.1, ih h.2]

/-- What stands in front of the first separator is the first piece. -/
theorem split_append {sep : Char} {p : List Char} (h : sep ∉ p) (cs : List Char) :
    split sep (p ++ sep :: cs) = p :: split sep cs := by
  induction p with
  | nil => simp [split]
  | cons c p ih =>
    simp only [List.mem_cons, not_or] at h
    simp [split, Ne.symm h.1, ih h.2]

/-- Pieces without separators come back from the text they were joined to. -/
theorem split_join {sep : Char} {ps : List (List Char)} (hne : ps ≠ [])
    (h : ∀ p ∈ ps, sep ∉ p) : split sep (join sep ps) = ps := by
  induction ps with
  | nil => exact absurd rfl hne
  | cons p ps ih =>
    have hp : sep ∉ p := h p (by simp)
    cases ps with
    | nil => exact split_eq_singleton hp
    | cons q qs =>
      have hrest := ih (by simp) fun p hp => h p (List.mem_cons_of_mem _ hp)
      change split sep (p ++ sep :: join sep (q :: qs)) = _
      rw [split_append hp, hrest]

/-- Cuts a string at its separators. -/
def splitString (sep : Char) (s : String) : List String :=
  (split sep s.toList).map String.ofList

/-- Joins strings with a separator between each two of them. -/
def joinStrings (sep : Char) (ss : List String) : String :=
  String.ofList (join sep (ss.map String.toList))

/-- A string without the blanks at its two ends. -/
def trimString (s : String) : String := String.ofList (trim s.toList)

/-- The parts of a text before and behind a separator, the first one. -/
def cutAt? (sep : Char) (cs : List Char) : Option (List Char × List Char) :=
  match cs.dropWhile (· ≠ sep) with
  | [] => none
  | _ :: behind => some (cs.takeWhile (· ≠ sep), behind)

/-- The parts of a text before and behind a separator, the last one. -/
def cutAtLast? (sep : Char) (cs : List Char) : Option (List Char × List Char) :=
  (cutAt? sep cs.reverse).map fun (behind, front) => (front.reverse, behind.reverse)

theorem cutAt?_cons (sep c : Char) (cs : List Char) :
    cutAt? sep (c :: cs) =
      if c = sep then some ([], cs)
      else (cutAt? sep cs).map fun (front, behind) => (c :: front, behind) := by
  unfold cutAt?
  by_cases hc : c = sep
  · simp [hc]
  · rw [List.dropWhile_cons_of_pos (by simpa using hc),
      List.takeWhile_cons_of_pos (by simpa using hc), if_neg hc]
    cases cs.dropWhile (· ≠ sep) with
    | nil => rfl
    | cons d behind => rfl

/-- A text is cut exactly if the separator stands in it. -/
theorem cutAt?_eq_none_iff {sep : Char} {cs : List Char} : cutAt? sep cs = none ↔ sep ∉ cs := by
  induction cs with
  | nil => simp [cutAt?]
  | cons c cs ih =>
    rw [cutAt?_cons]
    by_cases hc : c = sep
    · simp [hc]
    · simp [hc, ih, Ne.symm hc]

/-- A text is cut at its first separator. -/
theorem cutAt?_eq_some_iff {sep : Char} {cs front behind : List Char} :
    cutAt? sep cs = some (front, behind) ↔ cs = front ++ sep :: behind ∧ sep ∉ front := by
  induction cs generalizing front with
  | nil => simp [cutAt?]
  | cons c cs ih =>
    rw [cutAt?_cons]
    by_cases hc : c = sep
    · subst hc
      cases front with
      | nil => simp
      | cons d front => simp +contextual [eq_comm]
    · rw [if_neg hc, Option.map_eq_some_iff]
      constructor
      · rintro ⟨⟨inner, rest⟩, hcut, hpair⟩
        cases hpair
        obtain ⟨rfl, hinner⟩ := ih.mp hcut
        exact ⟨rfl, by simp [hinner, Ne.symm hc]⟩
      · rintro ⟨hcs, hfront⟩
        cases front with
        | nil => exact absurd (List.cons.inj hcs).1 hc
        | cons d front =>
          obtain ⟨rfl, rfl⟩ := List.cons.inj hcs
          exact ⟨(front, behind), ih.mpr ⟨rfl, fun hmem => hfront (.tail c hmem)⟩, rfl⟩

theorem cutAtLast?_eq_none_iff {sep : Char} {cs : List Char} :
    cutAtLast? sep cs = none ↔ sep ∉ cs := by
  rw [cutAtLast?, Option.map_eq_none_iff, cutAt?_eq_none_iff, List.mem_reverse]

/-- A text is cut at its last separator. -/
theorem cutAtLast?_eq_some_iff {sep : Char} {cs front behind : List Char} :
    cutAtLast? sep cs = some (front, behind) ↔ cs = front ++ sep :: behind ∧ sep ∉ behind := by
  have hreverse : cutAtLast? sep cs = some (front, behind) ↔
      cutAt? sep cs.reverse = some (behind.reverse, front.reverse) := by
    rw [cutAtLast?, Option.map_eq_some_iff]
    constructor
    · rintro ⟨⟨rest, inner⟩, hcut, hpair⟩
      cases hpair
      simpa using hcut
    · exact fun hcut => ⟨_, hcut, by simp⟩
  rw [hreverse, cutAt?_eq_some_iff, List.reverse_eq_iff, List.mem_reverse]
  simp

/-! ### Beginnings -/

/-- What follows `front` in a text that begins with it. -/
def after? (front : List Char) (cs : List Char) : Option (List Char) :=
  match front, cs with
  | [], cs => some cs
  | _ :: _, [] => none
  | f :: fs, c :: cs => if f = c then after? fs cs else none

/-- What follows a front is what is left when the front is taken off. -/
theorem after?_eq_some_iff {front cs rest : List Char} :
    after? front cs = some rest ↔ cs = front ++ rest := by
  induction front generalizing cs with
  | nil => simp [after?]
  | cons f fs ih =>
    cases cs with
    | nil => simp [after?]
    | cons c cs =>
      by_cases h : f = c
      · subst h
        simp [after?, ih]
      · simp [after?, h, Ne.symm h]

end Gateway.Text
