import Gateway.Text.Ranges
import Gateway.Text.Utf8

/-!
# Percent escapes

A character that may not stand in a part of an address is written as the bytes of its UTF-8 form,
each as a percent sign and two capital hexadecimal digits. Control characters and all characters
outside ASCII are escaped everywhere; each part has further characters of its own. A percent sign
is never escaped, so that what is escaped already stays as it is.
-/

namespace Gateway.Url

/-- The escape of a byte. -/
def escapedByte (b : UInt8) : List Char :=
  '%' :: (Text.hexDigits 2 b.toNat).map Char.toUpper

/-- Whether a character is escaped in every part of an address. -/
def isAlwaysEscaped (c : Char) : Bool := c.toNat < 0x20 || 0x7F ≤ c.toNat

/-- A text in which the characters that are escaped everywhere, and those of a part's own, are
escaped. -/
def escape (own : Char → Bool) (cs : List Char) : List Char :=
  cs.flatMap fun c =>
    if isAlwaysEscaped c || own c then (Utf8.encodeChar c).flatMap escapedByte else [c]

/-- The bytes of a text whose escapes are undone. -/
def unescape : List Char → Bytes
  | '%' :: a :: b :: cs =>
    match Text.hexValue? a, Text.hexValue? b with
    | some x, some y => UInt8.ofNat (x * 16 + y) :: unescape cs
    | _, _ => Utf8.encodeChar '%' ++ unescape (a :: b :: cs)
  | c :: cs => Utf8.encodeChar c ++ unescape cs
  | [] => []

/-! ### The characters of each part -/

/-- What is escaped in a host that is not looked up: nothing of its own. -/
def inHost (_ : Char) : Bool := false

/-- What is escaped in a fragment. -/
def inFragment (c : Char) : Bool := [' ', '"', '<', '>', '\x60'].contains c

/-- What is escaped in a query; with `web` also the apostrophe. -/
def inQuery (web : Bool) (c : Char) : Bool :=
  [' ', '"', '#', '<', '>'].contains c || (web && c == '\'')

/-- What is escaped in a path. -/
def inPath (c : Char) : Bool := inFragment c || ['#', '?', '{', '}'].contains c

/-- What is escaped in a user name or password. -/
def inUser (c : Char) : Bool :=
  inPath c || ['/', ':', ';', '=', '@', '[', '\\', ']', '^', '|'].contains c

end Gateway.Url
