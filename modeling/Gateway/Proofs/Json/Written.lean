import Gateway.Json.Number
import Gateway.Json.Text
import Gateway.Proofs.Text.Numerals

/-!
# JSON values that were written

What `writeString` makes of a text is read back by `readString`, whatever characters the text
holds and whatever follows it: `readString_write`. It stays on one line: `not_mem_writeString`. A
number that is written needs something behind it that does not go on with it: `EndsNumber`.
-/

namespace Gateway.Json

/-! ### Strings -/

/-- An escape that is read stands for its character. -/
theorem readString_escape {cs after s rest : List Char} {e : Char}
    (he : readEscape cs = .ok (e, after)) (hs : readString after = .ok (s, rest)) :
    readString ('\\' :: cs) = .ok (e :: s, rest) := by
  rw [readString, if_neg (by decide), if_pos rfl]
  split
  · next heq => rw [he] at heq; cases heq
  · next heq =>
    rw [he] at heq
    cases heq
    simp only [hs]

/-- A character that needs no escape stands for itself. -/
theorem readString_plain {c : Char} {cs s rest : List Char} (hq : c ≠ '"')
    (hb : c ≠ '\\') (hc : ¬ c.toNat < 0x20) (hs : readString cs = .ok (s, rest)) :
    readString (c :: cs) = .ok (c :: s, rest) := by
  rw [readString, if_neg hq, if_neg hb, if_neg hc]
  simp only [hs]

/-- The four digits of an escape are read back. -/
private theorem readHex_hexDigits {n : Nat} (h : n < 65536) (cs : List Char) :
    readHex (Text.hexDigits 4 n ++ cs) = .ok (n, cs) := by
  rw [Text.hexDigits_four h]
  simp only [List.cons_append, List.nil_append, readHex, Text.hexValue?_hexDigit]
  have hn : ((n / 4096 % 16 * 16 + n / 256 % 16) * 16 + n / 16 % 16) * 16 + n % 16 = n := by omega
  rw [hn]

/-- A control character is read back from its number. -/
private theorem readEscape_hexDigits {c : Char} (h : c.toNat < 0x20) (cs : List Char) :
    readEscape ('u' :: (Text.hexDigits 4 c.toNat ++ cs)) = .ok (c, cs) := by
  simp only [readEscape, readHex_hexDigits (show c.toNat < 65536 by omega)]
  rw [if_neg (by omega), if_neg (by omega), Char.ofNat_toNat]

/-- A character that is written is read back, escaped or not. -/
theorem readString_writeChar (c : Char) {cs s rest : List Char}
    (hs : readString cs = .ok (s, rest)) :
    readString (writeChar c ++ cs) = .ok (c :: s, rest) := by
  unfold writeChar
  split
  · next h =>
    subst h
    exact readString_escape rfl hs
  split
  · next h =>
    subst h
    exact readString_escape rfl hs
  split
  · next h =>
    subst h
    exact readString_escape rfl hs
  split
  · next h =>
    subst h
    exact readString_escape rfl hs
  split
  · next h =>
    subst h
    exact readString_escape rfl hs
  split
  · next h =>
    subst h
    exact readString_escape rfl hs
  split
  · next h =>
    subst h
    exact readString_escape rfl hs
  split
  · next h => exact readString_escape (readEscape_hexDigits h cs) hs
  · next hq hb _ _ _ _ _ hc => exact readString_plain hq hb hc hs

/-- **Strings are read back.** The reader of strings, which begins behind the opening quote, gives
the text that was written and what follows the closing quote. -/
theorem readString_write (s rest : List Char) :
    readString ((writeString s).tail ++ rest) = .ok (s, rest) := by
  induction s with
  | nil =>
    change readString ('"' :: rest) = _
    rw [readString, if_pos rfl]
  | cons c s ih =>
    have hsplit : (writeString (c :: s)).tail ++ rest =
        writeChar c ++ ((writeString s).tail ++ rest) := by
      simp [writeString]
    rw [hsplit]
    exact readString_writeChar c ih

theorem writeString_eq_cons (s : List Char) : writeString s = '"' :: (writeString s).tail := rfl

/-- Line feeds are written as escapes, so that a string never leaves its line. -/
theorem not_mem_writeString (s : List Char) : '\n' ∉ writeString s := by
  have hdigit (n : Nat) : '\n' ≠ Text.hexDigit n := by
    intro h
    have hvalue := Text.hexValue?_hexDigit n
    rw [← h] at hvalue
    cases hvalue
  have hchar (c : Char) : '\n' ∉ writeChar c := by
    unfold writeChar
    split
    · decide
    split
    · decide
    split
    · decide
    split
    · decide
    split
    · decide
    split
    · decide
    split
    · decide
    split
    · next h => simp [Text.hexDigits_four (show c.toNat < 65536 by omega), hdigit]
    · next hnewline _ _ _ => simpa using Ne.symm hnewline
  simp [writeString, hchar]

/-! ### Numbers -/

/-- A text that cannot go on a whole number. -/
def EndsNumber (rest : List Char) : Prop :=
  ∀ c ∈ rest.head?, Decimal.isDigit c = false ∧ c ≠ '.' ∧ c ≠ 'e' ∧ c ≠ 'E'

theorem EndsNumber.endsNumeral {rest : List Char} (h : EndsNumber rest) :
    Decimal.EndsNumeral rest := fun c hc => (h c hc).1

end Gateway.Json
