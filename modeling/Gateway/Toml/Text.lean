import Gateway.Text.Ranges

/-!
# Strings of TOML documents

A string is written in one of four ways: between single or triple quotes, and with double quotes,
which admit escapes, or with apostrophes, which do not. Each reader takes the text behind the
opening quotes and gives the string and what follows the closing ones.

`writeText` chooses the way in which a string is written, by what it holds.
-/

namespace Gateway.Toml

/-- What a reader makes of a text: a value and the rest of the text, if it can read one. -/
abbrev Read (α : Type) := Option (α × List Char)

/-! ### Characters -/

/-- Whether a character may stand in any line: a tab or anything but a control character. -/
def isLineChar (c : Char) : Bool :=
  c == '\t' || (0x20 ≤ c.toNat && c.toNat ≤ 0x7E) || 0x80 ≤ c.toNat

/-- Whether a character stands for itself between double quotes. -/
def isBasicChar (c : Char) : Bool := isLineChar c && c != '"' && c != '\\'

/-- Whether a character may stand between apostrophes. -/
def isLiteralChar (c : Char) : Bool := isLineChar c && c != '\''

/-- Whether a character is a space or a tab. -/
def isSpace (c : Char) : Bool := c == ' ' || c == '\t'

/-- A text without the spaces and tabs at its beginning. -/
def skipSpaces (cs : List Char) : List Char := cs.dropWhile isSpace

/-- What follows the line end at the beginning of a text. -/
def afterNewline? : List Char → Option (List Char)
  | '\n' :: rest => some rest
  | '\r' :: '\n' :: rest => some rest
  | _ => none

/-- A text without the spaces, tabs and line ends at its beginning. -/
def skipLines : List Char → List Char
  | ' ' :: rest => skipLines rest
  | '\t' :: rest => skipLines rest
  | '\n' :: rest => skipLines rest
  | '\r' :: '\n' :: rest => skipLines rest
  | cs => cs

/-! ### Escapes -/

/-- The value of some hexadecimal digits. -/
def hexValue? (n : Nat) : List Char → Option Nat
  | [] => some n
  | c :: cs =>
    match Text.hexValue? c with
    | some d => hexValue? (n * 16 + d) cs
    | none => none

/-- Reads a character that is given by its number, in `digits` digits. -/
def readCodePoint (digits : Nat) (cs : List Char) : Read Char :=
  if (cs.take digits).length < digits then none
  else
    match hexValue? 0 (cs.take digits) with
    | none => none
    | some n =>
      if n < 0xD800 ∨ (0xDFFF < n ∧ n < 0x110000) then some (Char.ofNat n, cs.drop digits)
      else none

/-- Reads what follows the backslash of an escape. -/
def readEscape : List Char → Read Char
  | 'b' :: rest => some ('\x08', rest)
  | 'f' :: rest => some ('\x0c', rest)
  | 'n' :: rest => some ('\n', rest)
  | 'r' :: rest => some ('\r', rest)
  | 't' :: rest => some ('\t', rest)
  | '"' :: rest => some ('"', rest)
  | '\\' :: rest => some ('\\', rest)
  | 'u' :: rest => readCodePoint 4 rest
  | 'U' :: rest => readCodePoint 8 rest
  | _ => none

theorem length_readCodePoint_le {digits : Nat} {cs rest : List Char} {c : Char}
    (h : readCodePoint digits cs = some (c, rest)) : rest.length ≤ cs.length := by
  unfold readCodePoint at h
  split at h
  · cases h
  · split at h
    · cases h
    · split at h
      · simp only [Option.some.injEq, Prod.mk.injEq] at h
        rw [← h.2, List.length_drop]
        omega
      · cases h

/-- An escape is not empty. -/
theorem length_readEscape {cs rest : List Char} {c : Char}
    (h : readEscape cs = some (c, rest)) : rest.length < cs.length := by
  unfold readEscape at h
  split at h
  case h_8 =>
    have hcode := length_readCodePoint_le h
    simp only [List.length_cons]
    omega
  case h_9 =>
    have hcode := length_readCodePoint_le h
    simp only [List.length_cons]
    omega
  case h_10 => cases h
  all_goals
    cases h
    simp

/-! ### Strings of one line -/

/-- Reads a string between double quotes. -/
def readBasic (cs : List Char) : Read (List Char) :=
  match cs with
  | [] => none
  | c :: rest =>
    if c = '"' then some ([], rest)
    else if c = '\\' then
      match h : readEscape rest with
      | none => none
      | some (e, rest) =>
        have _hescape := length_readEscape h
        (readBasic rest).map fun r => (e :: r.1, r.2)
    else if isBasicChar c then (readBasic rest).map fun r => (c :: r.1, r.2)
    else none
termination_by cs.length
decreasing_by all_goals (simp only [List.length_cons]; omega)

/-- Reads a string between apostrophes. -/
def readLiteral : List Char → Read (List Char)
  | [] => none
  | c :: rest =>
    if c = '\'' then some ([], rest)
    else if isLiteralChar c then (readLiteral rest).map fun r => (c :: r.1, r.2)
    else none

/-! ### Strings of several lines -/

/-- How many times a character stands at the beginning of a text. -/
def run (c : Char) (cs : List Char) : Nat := (cs.takeWhile (· = c)).length

/-- Closes a string at a run of `n` quotes in front of a text, of which three close the string
and up to two more belong to it. Gives these, and the quotes in front of the rest. -/
def close (quote : Char) (n : Nat) (rest : List Char) : Read (List Char) :=
  let inside := min (n - 3) 2
  some (List.replicate inside quote, List.replicate (n - 3 - inside) quote ++ rest)

theorem length_skipLines_le (cs : List Char) : (skipLines cs).length ≤ cs.length := by
  fun_induction skipLines cs
  case case5 => exact Nat.le_refl _
  all_goals
    simp only [List.length_cons]
    omega

theorem length_skipLines_lt (c : Char) (rest : List Char) :
    (skipLines rest).length < (c :: rest).length :=
  Nat.lt_succ_of_le (length_skipLines_le rest)

private theorem length_dropWhile_cons (c : Char) (rest : List Char) :
    (rest.dropWhile (· = c)).length < (c :: rest).length := by
  have hdrop : (rest.dropWhile (· = c)).length ≤ rest.length :=
    (List.dropWhile_sublist _).length_le
  simp only [List.length_cons]
  omega

/-- Reads a string between triple double quotes, past the line end that may follow the opening
ones. A backslash at the end of a line joins it to the next text. -/
def readLongBasic (cs : List Char) : Read (List Char) :=
  match cs with
  | [] => none
  | c :: rest =>
    if c = '"' then
      let n := run '"' rest + 1
      let after := rest.dropWhile (· = '"')
      if 3 ≤ n then close '"' n after
      else
        have _hdrop := length_dropWhile_cons '"' rest
        (readLongBasic after).map fun r => (List.replicate n '"' ++ r.1, r.2)
    else if c = '\\' then
      match afterNewline? (skipSpaces rest) with
      | some _ =>
        have _hlines := length_skipLines_lt c rest
        readLongBasic (skipLines rest)
      | none =>
        match h : readEscape rest with
        | none => none
        | some (e, rest) =>
          have _hescape := length_readEscape h
          (readLongBasic rest).map fun r => (e :: r.1, r.2)
    else if c = '\r' then
      match rest with
      | '\n' :: rest => (readLongBasic rest).map fun r => ('\n' :: r.1, r.2)
      | _ => none
    else if c = '\n' ∨ isBasicChar c then (readLongBasic rest).map fun r => (c :: r.1, r.2)
    else none
termination_by cs.length
decreasing_by all_goals (simp_all only [List.length_cons]; try omega)

/-- Reads a string between triple apostrophes, past the line end that may follow the opening
ones. -/
def readLongLiteral (cs : List Char) : Read (List Char) :=
  match cs with
  | [] => none
  | c :: rest =>
    if c = '\'' then
      let n := run '\'' rest + 1
      let after := rest.dropWhile (· = '\'')
      if 3 ≤ n then close '\'' n after
      else
        have _hdrop := length_dropWhile_cons '\'' rest
        (readLongLiteral after).map fun r => (List.replicate n '\'' ++ r.1, r.2)
    else if c = '\r' then
      match rest with
      | '\n' :: rest => (readLongLiteral rest).map fun r => ('\n' :: r.1, r.2)
      | _ => none
    else if c = '\n' ∨ isLiteralChar c then
      (readLongLiteral rest).map fun r => (c :: r.1, r.2)
    else none
termination_by cs.length
decreasing_by all_goals (simp_all only [List.length_cons]; try omega)

/-- Reads a string with its quotes. -/
def readText (cs : List Char) : Read (List Char) :=
  match cs with
  | '"' :: '"' :: '"' :: rest => readLongBasic ((afterNewline? rest).getD rest)
  | '"' :: rest => readBasic rest
  | '\'' :: '\'' :: '\'' :: rest => readLongLiteral ((afterNewline? rest).getD rest)
  | '\'' :: rest => readLiteral rest
  | _ => none

/-! ### Writing -/

/-- What decides how a string is written. -/
structure Traits where
  /-- The longest run of apostrophes. -/
  apostrophes : Nat
  /-- The longest run of double quotes. -/
  quotes : Nat
  /-- Whether there is a backslash. -/
  hasBackslash : Bool
  /-- Whether there is a line feed. -/
  hasNewline : Bool
  /-- Whether there is a control character other than tabs and line feeds. -/
  hasControl : Bool
  deriving DecidableEq, Repr

/-- The longest run of a character, given how many of them came just before. -/
def longestRun (c : Char) (before : Nat) : List Char → Nat
  | [] => before
  | d :: ds => if d = c then longestRun c (before + 1) ds else max before (longestRun c 0 ds)

/-- Whether a character can only be written as an escape. -/
def isControl (c : Char) : Bool :=
  (c.toNat ≤ 0x1F && c != '\t' && c != '\n') || c.toNat == 0x7F

/-- The traits of a string. -/
def Traits.of (s : List Char) : Traits where
  apostrophes := longestRun '\'' 0 s
  quotes := longestRun '"' 0 s
  hasBackslash := s.any (· == '\\')
  hasNewline := s.any (· == '\n')
  hasControl := s.any isControl

/-- The ways to write a string. -/
inductive Style where
  | basic
  | literal
  | longBasic
  | longLiteral
  deriving DecidableEq, Repr

/-- How a string is written: without escapes as long as there is a way, preferably with double
quotes and on one line. -/
def Traits.style (t : Traits) : Style :=
  if !t.hasControl && !t.hasBackslash && t.quotes == 0 && !t.hasNewline then .basic
  else if !t.hasControl && t.apostrophes == 0 && !t.hasNewline then .literal
  else if !t.hasControl && !t.hasBackslash && t.quotes ≤ 2 then .longBasic
  else if !t.hasControl && t.apostrophes ≤ 2 then .longLiteral
  else if t.hasNewline then .longBasic
  else .basic

/-- A character between double quotes, after `before` double quotes that were written as they
are. In a long string up to two quotes and line feeds stand for themselves. -/
def writeChar (long : Bool) (before : Nat) (c : Char) : List Char :=
  if c = '"' then if long ∧ before < 2 then ['"'] else ['\\', '"']
  else if c = '\\' then ['\\', '\\']
  else if c = '\x08' then ['\\', 'b']
  else if c = '\t' then ['\\', 't']
  else if c = '\n' then if long then ['\n'] else ['\\', 'n']
  else if c = '\x0c' then ['\\', 'f']
  else if c = '\r' then ['\\', 'r']
  else if c.toNat ≤ 0x1F ∨ c.toNat = 0x7F then '\\' :: 'u' :: upper (Text.hexDigits 4 c.toNat)
  else [c]
where
  /-- Hexadecimal digits with capital letters. -/
  upper (ds : List Char) : List Char := ds.map Char.toUpper

/-- How many double quotes were written as they are up to the end of a character. -/
def quotesAfter (long : Bool) (before : Nat) (c : Char) : Nat :=
  if c = '"' ∧ long ∧ before < 2 then before + 1 else 0

/-- A string between double quotes, less the quotes. -/
def writeChars (long : Bool) (before : Nat) : List Char → List Char
  | [] => []
  | c :: cs => writeChar long before c ++ writeChars long (quotesAfter long before c) cs

/-- The line end behind the opening quotes of a long string that has several lines. -/
def opening (s : List Char) : List Char := if s.any (· == '\n') then ['\n'] else []

/-- A string as it is written in some way. -/
def Style.write (style : Style) (s : List Char) : List Char :=
  match style with
  | .basic => '"' :: writeChars false 0 s ++ ['"']
  | .literal => '\'' :: s ++ ['\'']
  | .longBasic => '"' :: '"' :: '"' :: opening s ++ writeChars true 0 s ++ ['"', '"', '"']
  | .longLiteral => '\'' :: '\'' :: '\'' :: opening s ++ s ++ ['\'', '\'', '\'']

/-- A string with its quotes. -/
def writeText (s : List Char) : List Char := (Traits.of s).style.write s

end Gateway.Toml
