import Gateway.Toml.Text
import Gateway.Proofs.Text.Numerals

/-!
# TOML strings that were written

A string is written in one of four ways. Those between double quotes bear any text, as what cannot
stand for itself is escaped; those between apostrophes bear some texts only (`Style.Bears`).
Whatever a style bears is read back from it (`readText_write`), and `writeText` never chooses a
style that does not bear the text at hand (`Traits.bears_style`). So every text is read back:
`readText_writeText`.

In the long styles a run of quotes is read at once, also when the last of them close the string
(`TakesRuns`). The reader is therefore followed with the quotes that were just written in front.
-/

namespace Gateway.Toml

/-! ### Escapes -/

/-- The four digits of an escape are read back. -/
private theorem hexValue?_upper {n : Nat} (h : n < 65536) :
    hexValue? 0 (writeChar.upper (Text.hexDigits 4 n)) = some n := by
  have hdigit (m : Nat) : Text.hexValue? (Text.hexDigit m).toUpper = some (m % 16) := by
    have hm : m % 16 < 16 := Nat.mod_lt _ (by decide)
    unfold Text.hexDigit
    generalize m % 16 = k at hm
    decide +revert
  rw [Text.hexDigits_four h]
  simp only [writeChar.upper, List.map_cons, List.map_nil, hexValue?, hdigit, Option.some.injEq]
  omega

/-- A control character is read back from its number. -/
private theorem readEscape_hexDigits {c : Char} (h : c.toNat ≤ 0x1F ∨ c.toNat = 0x7F)
    (cs : List Char) :
    readEscape ('u' :: (writeChar.upper (Text.hexDigits 4 c.toNat) ++ cs)) = some (c, cs) := by
  have hn : c.toNat < 65536 := by omega
  have hlength : (writeChar.upper (Text.hexDigits 4 c.toNat)).length = 4 := by
    simp [writeChar.upper, Text.hexDigits_four hn]
  simp only [readEscape, readCodePoint, List.take_append_of_le_length (Nat.le_of_eq hlength.symm),
    List.take_of_length_le (Nat.le_of_eq hlength), hexValue?_upper hn, hlength]
  rw [if_neg (by decide), if_pos (by omega), Char.ofNat_toNat,
    List.drop_left' hlength]

/-- How a character may come to stand in a string between double quotes: as itself, or as an
escape that is read back. -/
private inductive IsWritten (c : Char) : List Char → Prop
  | plain (h : isBasicChar c = true) : IsWritten c [c]
  | escape {cs : List Char} (h : ∀ rest, readEscape (cs ++ rest) = some (c, rest)) :
    IsWritten c ('\\' :: cs)

/-- What is neither a control character nor special stands for itself. -/
private theorem isBasicChar_of {c : Char} (hquote : c ≠ '"') (hslash : c ≠ '\\')
    (hc : ¬ (c.toNat ≤ 0x1F ∨ c.toNat = 0x7F)) : isBasicChar c = true := by
  have hline : isLineChar c = true := by
    simp only [isLineChar, Bool.or_eq_true, Bool.and_eq_true, decide_eq_true_eq]
    omega
  simp [isBasicChar, hline, hquote, hslash]

/-- Characters are written as themselves or as escapes, but for quotes and line feeds in long
strings. -/
private theorem isWritten_writeChar (long : Bool) (before : Nat) (c : Char) :
    IsWritten c (writeChar long before c) ∨
      long = true ∧ (c = '"' ∧ before < 2 ∨ c = '\n') ∧ writeChar long before c = [c] := by
  unfold writeChar
  split
  · next h =>
    subst h
    split
    · next h => exact .inr ⟨h.1, .inl ⟨rfl, h.2⟩, rfl⟩
    · exact .inl (.escape fun _ => rfl)
  split
  · next h =>
    subst h
    exact .inl (.escape fun _ => rfl)
  split
  · next h =>
    subst h
    exact .inl (.escape fun _ => rfl)
  split
  · next h =>
    subst h
    exact .inl (.escape fun _ => rfl)
  split
  · next h =>
    subst h
    split
    · next h => exact .inr ⟨h, .inr rfl, rfl⟩
    · exact .inl (.escape fun _ => rfl)
  split
  · next h =>
    subst h
    exact .inl (.escape fun _ => rfl)
  split
  · next h =>
    subst h
    exact .inl (.escape fun _ => rfl)
  split
  · next h => exact .inl (.escape (readEscape_hexDigits h))
  · next hquote hslash _ _ _ _ _ hc => exact .inl (.plain (isBasicChar_of hquote hslash hc))

/-! ### Strings of one line -/

/-- A character is read back, whatever string follows. -/
private theorem readBasic_isWritten {c : Char} {w cs s rest : List Char} (hw : IsWritten c w)
    (h : readBasic cs = some (s, rest)) : readBasic (w ++ cs) = some (c :: s, rest) := by
  cases hw with
  | plain hc =>
    have hquote : c ≠ '"' := by
      rintro rfl
      exact absurd hc (by decide)
    have hslash : c ≠ '\\' := by
      rintro rfl
      exact absurd hc (by decide)
    change readBasic (c :: cs) = _
    rw [readBasic, if_neg hquote, if_neg hslash, if_pos hc, h]
    rfl
  | escape he =>
    change readBasic ('\\' :: (_ ++ cs)) = _
    rw [readBasic, if_neg (by decide), if_pos rfl]
    split
    · next heq => cases (he cs).symm.trans heq
    · next heq =>
      cases (he cs).symm.trans heq
      rw [h]
      rfl

/-- A text that is written between double quotes is read back. -/
theorem readBasic_writeChars (before : Nat) (s rest : List Char) :
    readBasic (writeChars false before s ++ '"' :: rest) = some (s, rest) := by
  induction s generalizing before with
  | nil =>
    change readBasic ('"' :: rest) = _
    rw [readBasic, if_pos rfl]
  | cons c s ih =>
    rw [writeChars, List.append_assoc]
    rcases isWritten_writeChar false before c with hw | ⟨hlong, -⟩
    · exact readBasic_isWritten hw (ih _)
    · cases hlong

/-- A text that is written between apostrophes is read back. -/
theorem readLiteral_append {s : List Char} (hs : ∀ c ∈ s, isLiteralChar c = true)
    (rest : List Char) : readLiteral (s ++ '\'' :: rest) = some (s, rest) := by
  induction s with
  | nil => rfl
  | cons c s ih =>
    obtain ⟨hc, hs⟩ := List.forall_mem_cons.mp hs
    have hquote : c ≠ '\'' := by
      rintro rfl
      exact absurd hc (by decide)
    rw [List.cons_append, readLiteral, if_neg hquote, if_pos hc, ih hs]
    rfl

/-! ### Runs of quotes -/

/-- A text that does not begin with a quote. -/
def EndsRun (quote : Char) (rest : List Char) : Prop := ∀ c ∈ rest.head?, c ≠ quote

theorem run_replicate {quote : Char} {rest : List Char} (h : EndsRun quote rest) (n : Nat) :
    run quote (List.replicate n quote ++ rest) = n := by
  have hrest : rest.takeWhile (· = quote) = [] := by
    cases rest with
    | nil => rfl
    | cons c cs => exact List.takeWhile_cons_of_neg (by simpa using h c rfl)
  unfold run
  rw [List.takeWhile_append_of_pos, hrest, List.append_nil, List.length_replicate]
  intro c hc
  simpa using List.eq_of_mem_replicate hc

theorem dropWhile_replicate {quote : Char} {rest : List Char} (h : EndsRun quote rest) (n : Nat) :
    (List.replicate n quote ++ rest).dropWhile (· = quote) = rest := by
  rw [List.dropWhile_append_of_pos]
  · cases rest with
    | nil => rfl
    | cons c cs => exact List.dropWhile_cons_of_neg (by simpa using h c rfl)
  · intro c hc
    simpa using List.eq_of_mem_replicate hc

/-- Up to two quotes in front of the closing ones belong to the string. -/
theorem close_eq {n : Nat} (h : n ≤ 2) (quote : Char) (rest : List Char) :
    close quote (n + 3) rest = some (List.replicate n quote, rest) := by
  have hinside : min n 2 = n := Nat.min_eq_left h
  simp [close, hinside]

/-- A quote behind a run of quotes makes the run longer. -/
theorem replicate_append_cons (quote : Char) (n : Nat) (cs : List Char) :
    List.replicate n quote ++ quote :: cs = List.replicate (n + 1) quote ++ cs := by
  rw [List.replicate_succ', List.append_assoc]
  rfl

/-- Quotes in front of the closing ones, all in one run. -/
private theorem replicate_append_closing (quote : Char) (n : Nat) (rest : List Char) :
    List.replicate n quote ++ quote :: quote :: quote :: rest =
      quote :: (List.replicate (n + 2) quote ++ rest) := by
  rw [replicate_append_cons, replicate_append_cons, replicate_append_cons]
  rfl

/-- How a reader of strings of several lines treats a quote: the run of quotes that it begins is
read at once. It closes the string if it is long enough, and belongs to it otherwise. -/
def TakesRuns (quote : Char) (read : List Char → Option (List Char × List Char)) : Prop :=
  ∀ cs, read (quote :: cs) =
    if 3 ≤ run quote cs + 1 then close quote (run quote cs + 1) (cs.dropWhile (· = quote))
    else (read (cs.dropWhile (· = quote))).map fun r =>
      (List.replicate (run quote cs + 1) quote ++ r.1, r.2)

namespace TakesRuns

variable {quote : Char} {read : List Char → Option (List Char × List Char)} {n : Nat}

/-- Fewer than three quotes belong to the string. -/
theorem read_quotes (hread : TakesRuns quote read) (hn : n ≤ 2) {cs s rest : List Char}
    (hcs : EndsRun quote cs) (h : read cs = some (s, rest)) :
    read (List.replicate n quote ++ cs) = some (List.replicate n quote ++ s, rest) := by
  cases n with
  | zero => exact h
  | succ n =>
    rw [List.replicate_succ, List.cons_append, hread, run_replicate hcs, dropWhile_replicate hcs,
      if_neg (by omega), h]
    rfl

/-- The closing quotes are the last three of their run. -/
theorem read_closing (hread : TakesRuns quote read) (hn : n ≤ 2) {rest : List Char}
    (h : EndsRun quote rest) :
    read (List.replicate n quote ++ quote :: quote :: quote :: rest) =
      some (List.replicate n quote, rest) := by
  rw [replicate_append_closing, hread, run_replicate h, dropWhile_replicate h, if_pos (by omega),
    close_eq hn]

end TakesRuns

/-! ### Strings of several lines, between double quotes -/

/-- Strings between three double quotes take runs of two. -/
private theorem takesRuns_readLongBasic : TakesRuns '"' readLongBasic := by
  intro cs
  rw [readLongBasic.eq_def]
  rfl

/-- One round of the reader at any other character that stands for itself. -/
private theorem readLongBasic_plain {c : Char} (h : c = '\n' ∨ isBasicChar c = true)
    (cs : List Char) :
    readLongBasic (c :: cs) = (readLongBasic cs).map fun r => (c :: r.1, r.2) := by
  have hne {d : Char} (hd : (d = '\n' ∨ isBasicChar d = true) → False) : c ≠ d := by
    rintro rfl
    exact hd h
  rw [readLongBasic.eq_def]
  simp only [if_neg (hne (d := '"') (by decide)), if_neg (hne (d := '\\') (by decide)),
    if_neg (hne (d := '\r') (by decide)), if_pos h]

/-- An escape does not begin with the end of a line. -/
private theorem afterNewline?_of_readEscape {cs rest : List Char} {c : Char}
    (h : readEscape cs = some (c, rest)) : afterNewline? (skipSpaces cs) = none := by
  -- each escape fixes the first character, and none of them is a space or a line end
  unfold readEscape at h
  split at h
  case h_10 => cases h
  all_goals rfl

/-- One round of the reader at an escape. -/
private theorem readLongBasic_escape {cs after s rest : List Char} {e : Char}
    (he : readEscape cs = some (e, after)) (h : readLongBasic after = some (s, rest)) :
    readLongBasic ('\\' :: cs) = some (e :: s, rest) := by
  rw [readLongBasic.eq_def]
  simp only [if_neg (show '\\' ≠ '"' by decide), if_true, afterNewline?_of_readEscape he]
  split
  · next heq => cases he.symm.trans heq
  · next heq =>
    cases he.symm.trans heq
    rw [h]
    rfl

/-- A character is read back, whatever string follows. -/
private theorem readLongBasic_isWritten {c : Char} {w cs s rest : List Char} (hw : IsWritten c w)
    (h : readLongBasic cs = some (s, rest)) : readLongBasic (w ++ cs) = some (c :: s, rest) := by
  cases hw with
  | plain hc =>
    change readLongBasic (c :: cs) = _
    rw [readLongBasic_plain (.inr hc), h]
    rfl
  | escape he => exact readLongBasic_escape (he cs) h

/-- What is written as itself or as an escape begins neither with a quote nor with the end of a
line. -/
private theorem IsWritten.head? {c : Char} {w : List Char} (hw : IsWritten c w) (cs : List Char) :
    ∀ d ∈ (w ++ cs).head?, d ≠ '"' ∧ d ≠ '\n' ∧ d ≠ '\r' := by
  intro d hd
  cases hw with
  | plain hc =>
    obtain rfl := Option.some.inj hd
    refine ⟨?_, ?_, ?_⟩ <;> rintro rfl <;> exact absurd hc (by decide)
  | escape he =>
    obtain rfl := Option.some.inj hd
    decide

private theorem IsWritten.endsRun {c : Char} {w : List Char} (hw : IsWritten c w)
    (cs : List Char) : EndsRun '"' (w ++ cs) := fun d hd => (hw.head? cs d hd).1

/-- **Long strings are read back**, with the quotes in front that were just written. -/
theorem readLongBasic_writeChars {n : Nat} (hn : n ≤ 2) (s : List Char) {rest : List Char}
    (h : EndsRun '"' rest) :
    readLongBasic (List.replicate n '"' ++ (writeChars true n s ++ '"' :: '"' :: '"' :: rest)) =
      some (List.replicate n '"' ++ s, rest) := by
  -- `n` is how many quotes were just written, which `writeChars` keeps below three
  induction s generalizing n with
  | nil =>
    rw [List.append_nil]
    exact takesRuns_readLongBasic.read_closing hn h
  | cons c s ih =>
    rw [writeChars, List.append_assoc]
    rcases isWritten_writeChar true n c with hw | ⟨-, ⟨rfl, hlt⟩ | rfl, hw⟩
    · -- the run of quotes ends in front of the character
      have hafter : quotesAfter true n c = 0 := by
        refine if_neg fun hc => ?_
        have hplain : writeChar true n c = ['"'] := by
          simp [writeChar, hc.1, hc.2.2]
        rw [hplain] at hw
        exact hw.endsRun [] '"' rfl rfl
      rw [hafter]
      have hs := ih (Nat.zero_le 2)
      exact takesRuns_readLongBasic.read_quotes hn (hw.endsRun _) (readLongBasic_isWritten hw hs)
    · -- the run of quotes goes on
      have hafter : quotesAfter true n '"' = n + 1 := if_pos ⟨rfl, rfl, hlt⟩
      rw [hw, hafter, List.singleton_append, replicate_append_cons, replicate_append_cons]
      exact ih hlt
    · -- a line feed stands for itself
      have hs := ih (Nat.zero_le 2)
      have hline :
          readLongBasic ('\n' :: (writeChars true 0 s ++ '"' :: '"' :: '"' :: rest)) =
            some ('\n' :: s, rest) := by
        rw [readLongBasic_plain (.inl rfl)]
        exact congrArg (Option.map _) hs
      refine takesRuns_readLongBasic.read_quotes hn (fun c hc => ?_) hline
      obtain rfl := Option.some.inj hc
      decide

/-! ### Strings of several lines, between apostrophes -/

private theorem takesRuns_readLongLiteral : TakesRuns '\'' readLongLiteral := by
  intro cs
  rw [readLongLiteral.eq_def]
  rfl

/-- One round of the reader at any other character. -/
private theorem readLongLiteral_plain {c : Char} (h : c = '\n' ∨ isLiteralChar c = true)
    (cs : List Char) :
    readLongLiteral (c :: cs) = (readLongLiteral cs).map fun r => (c :: r.1, r.2) := by
  have hne {d : Char} (hd : (d = '\n' ∨ isLiteralChar d = true) → False) : c ≠ d := by
    rintro rfl
    exact hd h
  rw [readLongLiteral.eq_def]
  simp only [if_neg (hne (d := '\'') (by decide)), if_neg (hne (d := '\r') (by decide)), if_pos h]

theorem le_longestRun (c : Char) (before : Nat) (s : List Char) :
    before ≤ longestRun c before s := by
  induction s generalizing before with
  | nil => exact Nat.le_refl _
  | cons d s ih =>
    rw [longestRun]
    split
    · exact Nat.le_of_succ_le (ih (before + 1))
    · exact Nat.le_max_left _ _

/-- **Long strings are read back**, with the apostrophes in front that were just written, as long as
no three of them come together. -/
theorem readLongLiteral_append {n : Nat} {s : List Char} (hrun : longestRun '\'' n s ≤ 2)
    (hs : ∀ c ∈ s, c = '\'' ∨ c = '\n' ∨ isLiteralChar c = true) {rest : List Char}
    (h : EndsRun '\'' rest) :
    readLongLiteral (List.replicate n '\'' ++ (s ++ '\'' :: '\'' :: '\'' :: rest)) =
      some (List.replicate n '\'' ++ s, rest) := by
  have hn : n ≤ 2 := Nat.le_trans (le_longestRun _ n s) hrun
  induction s generalizing n with
  | nil =>
    rw [List.append_nil]
    exact takesRuns_readLongLiteral.read_closing hn h
  | cons c s ih =>
    obtain ⟨hc, htail⟩ := List.forall_mem_cons.mp hs
    rw [longestRun] at hrun
    by_cases hquote : c = '\''
    · -- the run of apostrophes goes on
      subst hquote
      rw [if_pos rfl] at hrun
      rw [List.cons_append, replicate_append_cons, replicate_append_cons]
      exact ih hrun htail (Nat.le_trans (le_longestRun _ _ s) hrun)
    · -- the run of apostrophes ends in front of the character
      rw [if_neg hquote] at hrun
      have hplain := hc.resolve_left hquote
      have hrest := ih (Nat.le_trans (Nat.le_max_right _ _) hrun) htail (Nat.zero_le 2)
      have hline : readLongLiteral (c :: (s ++ '\'' :: '\'' :: '\'' :: rest)) =
          some (c :: s, rest) := by
        rw [readLongLiteral_plain hplain]
        exact congrArg (Option.map _) hrest
      refine takesRuns_readLongLiteral.read_quotes hn (fun d hd => ?_) hline
      obtain rfl := Option.some.inj hd
      exact hquote

/-! ### The choice of a style -/

/-- The texts that can be written in a style. -/
def Style.Bears (s : List Char) : Style → Prop
  | .basic | .longBasic => True
  | .literal => ∀ c ∈ s, isLiteralChar c = true
  | .longLiteral =>
    longestRun '\'' 0 s ≤ 2 ∧ ∀ c ∈ s, c = '\'' ∨ c = '\n' ∨ isLiteralChar c = true

/-- What is no control character may stand between apostrophes, but for these and line feeds. -/
private theorem isLiteralChar_of {c : Char} (h : isControl c = false) (hquote : c ≠ '\'')
    (hline : c ≠ '\n') : isLiteralChar c = true := by
  simp only [isControl, Bool.or_eq_false_iff, Bool.and_eq_false_iff, decide_eq_false_iff_not,
    bne_eq_false_iff_eq, beq_eq_false_iff_ne] at h
  obtain ⟨hlow, hdel⟩ := h
  have hc : isLineChar c = true := by
    simp only [isLineChar, Bool.or_eq_true, Bool.and_eq_true, decide_eq_true_eq, beq_iff_eq]
    rcases hlow with (hlow | htab) | hfeed
    · omega
    · exact .inl (.inl htab)
    · exact absurd hfeed hline
  simp [isLiteralChar, hc, hquote]

/-- A text without apostrophes has no run of them. -/
private theorem ne_of_longestRun {c : Char} {s : List Char} (h : longestRun c 0 s = 0) :
    ∀ d ∈ s, d ≠ c := by
  induction s with
  | nil => exact fun _ hd => absurd hd List.not_mem_nil
  | cons d s ih =>
    rw [longestRun] at h
    have hd : d ≠ c := by
      intro hd
      rw [if_pos hd] at h
      have hle := le_longestRun c (0 + 1) s
      omega
    rw [if_neg hd, Nat.zero_max] at h
    exact List.forall_mem_cons.mpr ⟨hd, ih h⟩

/-- **The style that is chosen bears the text.** -/
theorem Traits.bears_style (s : List Char) : (Traits.of s).style.Bears s := by
  have hcontrol (h : (!(Traits.of s).hasControl) = true) : ∀ c ∈ s, isControl c = false := by
    simpa [Traits.of] using h
  unfold Traits.style
  split
  · trivial
  split
  · next h =>
    simp only [Bool.and_eq_true, beq_iff_eq] at h
    obtain ⟨⟨hcs, happ⟩, hline⟩ := h
    have hline : ∀ c ∈ s, c ≠ '\n' := by simpa [Traits.of] using hline
    exact fun c hc =>
      isLiteralChar_of (hcontrol hcs c hc) (ne_of_longestRun happ c hc) (hline c hc)
  split
  · trivial
  split
  · next h =>
    simp only [Bool.and_eq_true, decide_eq_true_eq] at h
    obtain ⟨hcs, happ⟩ := h
    refine ⟨happ, fun c hc => ?_⟩
    by_cases hquote : c = '\''
    · exact .inl hquote
    · by_cases hline : c = '\n'
      · exact .inr (.inl hline)
      · exact .inr (.inr (isLiteralChar_of (hcontrol hcs c hc) hquote hline))
  split <;> trivial

/-! ### Whole strings -/

/-- One quote, or an empty string, does not open a string of several lines. -/
private theorem readText_basic {cs : List Char} (h : ∀ rest, cs ≠ '"' :: '"' :: rest) :
    readText ('"' :: cs) = readBasic cs := by
  unfold readText
  split
  · next heq =>
    cases heq
    exact absurd rfl (h _)
  · next heq =>
    cases heq
    rfl
  · next heq => cases heq
  · next heq => cases heq
  · next hne _ _ => exact absurd rfl (hne cs)

/-- One apostrophe opens a literal string, unless two more follow. -/
private theorem readText_literal {cs : List Char} (h : ∀ rest, cs ≠ '\'' :: '\'' :: rest) :
    readText ('\'' :: cs) = readLiteral cs := by
  unfold readText
  split
  · next heq => cases heq
  · next heq => cases heq
  · next heq =>
    cases heq
    exact absurd rfl (h _)
  · next heq =>
    cases heq
    rfl
  · next hne => exact absurd rfl (hne cs)

/-- The line end behind the opening quotes is passed; if there is none, none is passed. -/
private theorem afterNewline?_opening {s body : List Char}
    (h : '\n' ∉ s → ∀ c ∈ body.head?, c ≠ '\n' ∧ c ≠ '\r') :
    (afterNewline? (opening s ++ body)).getD (opening s ++ body) = body := by
  unfold opening
  split
  · rfl
  · next hline =>
    have hline : '\n' ∉ s := by simpa using hline
    have hnone : afterNewline? body = none := by
      unfold afterNewline?
      split
      · exact absurd rfl (h hline _ rfl).1
      · exact absurd rfl (h hline _ rfl).2
      · rfl
    rw [List.nil_append, hnone]
    rfl

/-- What is written for a text without line feeds does not begin with the end of a line. -/
private theorem head?_writeChars {s : List Char} (h : '\n' ∉ s) (rest : List Char) :
    ∀ d ∈ (writeChars true 0 s ++ '"' :: rest).head?, d ≠ '\n' ∧ d ≠ '\r' := by
  intro d hd
  cases s with
  | nil =>
    obtain rfl := Option.some.inj hd
    decide
  | cons c s =>
    have hc : c ≠ '\n' := fun hc => h (hc ▸ List.mem_cons_self)
    rw [writeChars, List.append_assoc] at hd
    rcases isWritten_writeChar true 0 c with hw | ⟨-, ⟨rfl, -⟩ | hline, hw⟩
    · exact (hw.head? _ d hd).2
    · rw [hw] at hd
      obtain rfl := Option.some.inj hd
      decide
    · exact absurd hline hc

/-- What a style bears is read back from it, up to the end of the line. -/
theorem readText_write {style : Style} {s : List Char} (h : style.Bears s) (rest : List Char) :
    readText (style.write s ++ '\n' :: rest) = some (s, '\n' :: rest) := by
  have hends (quote : Char) (hquote : '\n' ≠ quote) : EndsRun quote ('\n' :: rest) := by
    intro c hc
    obtain rfl := Option.some.inj hc
    exact hquote
  cases style with
  | basic =>
    have hread := readBasic_writeChars 0 s ('\n' :: rest)
    have hsplit : Style.basic.write s ++ '\n' :: rest =
        '"' :: (writeChars false 0 s ++ '"' :: '\n' :: rest) := by
      simp [Style.write]
    rw [hsplit, readText_basic, hread]
    intro after hafter
    cases s with
    | nil => cases hafter
    | cons c s =>
      rw [writeChars, List.append_assoc] at hafter
      rcases isWritten_writeChar false 0 c with hw | ⟨hlong, -⟩
      · exact hw.endsRun _ '"' (congrArg List.head? hafter) rfl
      · cases hlong
  | literal =>
    have hsplit : Style.literal.write s ++ '\n' :: rest =
        '\'' :: (s ++ '\'' :: '\n' :: rest) := by
      simp [Style.write]
    rw [hsplit, readText_literal, readLiteral_append h]
    intro after hafter
    cases s with
    | nil => cases hafter
    | cons c s =>
      obtain ⟨rfl, -⟩ := List.cons.inj hafter
      exact absurd (h _ List.mem_cons_self) (by decide)
  | longBasic =>
    have hsplit : Style.longBasic.write s ++ '\n' :: rest = '"' :: '"' :: '"' ::
        (opening s ++ (writeChars true 0 s ++ '"' :: '"' :: '"' :: '\n' :: rest)) := by
      simp [Style.write]
    have hread := readLongBasic_writeChars (Nat.zero_le 2) s (hends '"' (by decide))
    rw [hsplit, readText, afterNewline?_opening fun hline => head?_writeChars hline _]
    exact hread
  | longLiteral =>
    obtain ⟨hrun, hs⟩ := h
    have hsplit : Style.longLiteral.write s ++ '\n' :: rest = '\'' :: '\'' :: '\'' ::
        (opening s ++ (s ++ '\'' :: '\'' :: '\'' :: '\n' :: rest)) := by
      simp [Style.write]
    have hread := readLongLiteral_append hrun hs (hends '\'' (by decide))
    rw [hsplit, readText, afterNewline?_opening]
    · exact hread
    · intro hline d hd
      cases s with
      | nil =>
        obtain rfl := Option.some.inj hd
        decide
      | cons c s =>
        obtain rfl := Option.some.inj hd
        have hc : c ≠ '\n' := fun hc => hline (hc ▸ List.mem_cons_self)
        refine ⟨hc, ?_⟩
        rintro rfl
        exact absurd (hs _ List.mem_cons_self) (by decide)

/-- **Texts are read back**, whatever characters they hold, up to the end of the line. -/
theorem readText_writeText (s rest : List Char) :
    readText (writeText s ++ '\n' :: rest) = some (s, '\n' :: rest) :=
  readText_write (Traits.bears_style s) rest

end Gateway.Toml
