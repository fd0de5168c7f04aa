import Gateway.Proofs.Json.Written
import Mathlib.Data.List.TakeWhile

/-!
# The grammar of JSON texts

What a JSON text is, without any reader: blanks, strings, numbers, and values built from them. A
string stands between its quotes as a body, in which every character is written as it is or as an
escape (`IsBody`). Escapes are in 16-bit codes, so a body can hold half of a pair of surrogates, and
then it spells no text (`Spells`).

Values, the elements of lists and the members of objects need each other, and are one family of
phrases (`Derives`). The members of an object are a list, in their order, of names and values as
they are written; the blanks between them are not part of it (`IsObjectText`).
-/

namespace Gateway.Json

/-! ### Blanks -/

/-- Nothing but blanks. -/
def IsBlanks (cs : List Char) : Prop := ∀ c ∈ cs, isBlank c = true

instance (cs : List Char) : Decidable (IsBlanks cs) := List.decidableBAll _ cs

theorem isBlanks_nil : IsBlanks [] := nofun

theorem skipBlanks_append {blanks : List Char} (h : IsBlanks blanks) (cs : List Char) :
    skipBlanks (blanks ++ cs) = skipBlanks cs := List.dropWhile_append_of_pos h

theorem skipBlanks_eq_nil_iff {cs : List Char} : skipBlanks cs = [] ↔ IsBlanks cs :=
  List.dropWhile_eq_nil_iff

/-! ### Strings -/

/-- The characters that may follow a backslash, and what they stand for. -/
def escapes : List (Char × Char) :=
  [('"', '"'), ('\\', '\\'), ('/', '/'), ('b', '\x08'), ('f', '\x0c'), ('n', '\n'), ('r', '\r'),
    ('t', '\t')]

/-- Four hexadecimal digits write a code. -/
inductive IsCode : Nat → List Char → Prop
  | mk {a b c d : Char} {k l m n : Nat} (ha : Text.hexValue? a = some k)
    (hb : Text.hexValue? b = some l) (hc : Text.hexValue? c = some m)
    (hd : Text.hexValue? d = some n) : IsCode (((k * 16 + l) * 16 + m) * 16 + n) [a, b, c, d]

/-- What may stand in a string in one piece: a character that is neither a quote, a backslash nor a
control character, or an escape. -/
inductive IsUnit : List Char → Prop
  | plain {c : Char} (hquote : c ≠ '"') (hbackslash : c ≠ '\\') (hcontrol : ¬ c.toNat < 0x20) :
    IsUnit [c]
  | escape {c e : Char} (h : (c, e) ∈ escapes) : IsUnit ['\\', c]
  | code {n : Nat} {digits : List Char} (h : IsCode n digits) : IsUnit ('\\' :: 'u' :: digits)

/-- The body of a string. -/
inductive IsBody : List Char → Prop
  | nil : IsBody []
  | cons {unit body : List Char} (hunit : IsUnit unit) (hbody : IsBody body) :
    IsBody (unit ++ body)

/-- Whether a code is the first half of a pair of surrogates. -/
def IsHigh (n : Nat) : Prop := 0xD800 ≤ n ∧ n ≤ 0xDBFF

/-- Whether a code is the second half of a pair of surrogates. -/
def IsLow (n : Nat) : Prop := 0xDC00 ≤ n ∧ n ≤ 0xDFFF

/-- The character that a pair of surrogates stands for. -/
def joined (high low : Nat) : Char :=
  Char.ofNat ((high - 0xD800) * 1024 + (low - 0xDC00) + 0x10000)

/-- What follows a backslash stands for a character. Two codes that are a pair of surrogates stand
for one character together, and half of a pair stands for none. -/
inductive IsEscape : Char → List Char → Prop
  | letter {c e : Char} (h : (c, e) ∈ escapes) : IsEscape e [c]
  | code {n : Nat} {digits : List Char} (hcode : IsCode n digits) (hhigh : ¬ IsHigh n)
    (hlow : ¬ IsLow n) : IsEscape (Char.ofNat n) ('u' :: digits)
  | pair {high low : Nat} {digits digits' : List Char} (hcode : IsCode high digits)
    (hcode' : IsCode low digits') (hhigh : IsHigh high) (hlow : IsLow low) :
    IsEscape (joined high low) ('u' :: (digits ++ '\\' :: 'u' :: digits'))

/-- A body spells a text: what is written as it is, and what the escapes stand for. -/
inductive Spells : List Char → List Char → Prop
  | nil : Spells [] []
  | plain {c : Char} {body text : List Char} (hquote : c ≠ '"') (hbackslash : c ≠ '\\')
    (hcontrol : ¬ c.toNat < 0x20) (h : Spells body text) : Spells (c :: body) (c :: text)
  | escape {c : Char} {unit body text : List Char} (hunit : IsEscape c unit)
    (h : Spells body text) : Spells ('\\' :: (unit ++ body)) (c :: text)

/-! ### Numbers -/

/-- At least one digit. -/
def IsDigits (cs : List Char) : Prop := cs ≠ [] ∧ ∀ c ∈ cs, Decimal.isDigit c = true

instance (cs : List Char) : Decidable (IsDigits cs) :=
  decidable_of_iff (cs ≠ [] ∧ cs.all Decimal.isDigit = true)
    (and_congr_right fun _ => List.all_eq_true)

/-- A whole number: a zero alone, or digits of which the first is none. -/
def IsWhole (cs : List Char) : Prop := IsDigits cs ∧ (cs.head? = some '0' → cs = ['0'])

instance (cs : List Char) : Decidable (IsWhole cs) :=
  inferInstanceAs (Decidable (IsDigits cs ∧ (cs.head? = some '0' → cs = ['0'])))

/-- Decimal places, if there are any. -/
def IsFraction (cs : List Char) : Prop := cs = [] ∨ ∃ places, IsDigits places ∧ cs = '.' :: places

/-- An exponent, if there is one. -/
def IsExponent (cs : List Char) : Prop :=
  cs = [] ∨ ∃ letter ∈ ['e', 'E'], ∃ sign ∈ [[], ['+'], ['-']], ∃ digits, IsDigits digits ∧
    cs = letter :: (sign ++ digits)

/-- A number without a sign. -/
def IsUnsigned (cs : List Char) : Prop :=
  ∃ whole fraction exponent, IsWhole whole ∧ IsFraction fraction ∧ IsExponent exponent ∧
    cs = whole ++ (fraction ++ exponent)

/-- A number. -/
def IsNumber (cs : List Char) : Prop :=
  IsUnsigned cs ∨ ∃ digits, IsUnsigned digits ∧ cs = '-' :: digits

/-! ### Values -/

/-- The word that stands for nothing. -/
def null : List Char := ['n', 'u', 'l', 'l']

/-- The words that are values. -/
def words : List (List Char) := [null, ['t', 'r', 'u', 'e'], ['f', 'a', 'l', 's', 'e']]

/-- A member of an object, as it is written: the body of its name, and its value. -/
structure Member where
  /-- What stands between the quotes of the name. -/
  name : List Char
  /-- The value, without blanks around it. -/
  value : List Char
  deriving DecidableEq

/-- What stands in front of an element or a member: blanks, with a comma among them unless it is the
first one. -/
def IsSeparator (first : Bool) (cs : List Char) : Prop :=
  if first then IsBlanks cs
  else ∃ blanks blanks', IsBlanks blanks ∧ IsBlanks blanks' ∧ cs = blanks ++ ',' :: blanks'

/-- The kinds of phrases. -/
inductive Phrase where
  /-- A value, without blanks around it. -/
  | value
  /-- The rest of a list up to its bracket; `first` if no element stands before. -/
  | elements (first : Bool)
  /-- The rest of an object up to its bracket, with the members that stand there. -/
  | members (first : Bool) (ms : List Member)

/-- Some characters are a phrase. -/
inductive Derives : Phrase → List Char → Prop
  | word {cs : List Char} (h : cs ∈ words) : Derives .value cs
  | number {cs : List Char} (h : IsNumber cs) : Derives .value cs
  | string {body : List Char} (h : IsBody body) : Derives .value ('"' :: (body ++ ['"']))
  | list {cs : List Char} (h : Derives (.elements true) cs) : Derives .value ('[' :: (cs ++ [']']))
  | object {ms : List Member} {cs : List Char} (h : Derives (.members true ms) cs) :
    Derives .value ('{' :: (cs ++ ['}']))
  | lastElement {first : Bool} {blanks : List Char} (h : IsBlanks blanks) :
    Derives (.elements first) blanks
  | element {first : Bool} {separator cs rest : List Char}
    (hseparator : IsSeparator first separator) (hvalue : Derives .value cs)
    (hrest : Derives (.elements false) rest) :
    Derives (.elements first) (separator ++ (cs ++ rest))
  | lastMember {first : Bool} {blanks : List Char} (h : IsBlanks blanks) :
    Derives (.members first []) blanks
  | member {first : Bool} {m : Member} {ms : List Member}
    {separator blanks blanks' rest : List Char} (hseparator : IsSeparator first separator)
    (hname : IsBody m.name) (hblanks : IsBlanks blanks) (hblanks' : IsBlanks blanks')
    (hvalue : Derives .value m.value) (hrest : Derives (.members false ms) rest) :
    Derives (.members first (m :: ms))
      (separator ++ '"' :: (m.name ++ '"' :: (blanks ++ ':' :: (blanks' ++ (m.value ++ rest)))))

/-- A text is an object with some members, in their order. -/
def IsObjectText (ms : List Member) (text : List Char) : Prop :=
  ∃ front cs back, IsBlanks front ∧ Derives (.members true ms) cs ∧ IsBlanks back ∧
    text = front ++ '{' :: (cs ++ '}' :: back)

end Gateway.Json
