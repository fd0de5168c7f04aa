import Gateway.Domain.Composition
import Gateway.Domain.Direction
import Gateway.Domain.Joining
import Gateway.Domain.Mapping
import Gateway.Domain.Punycode
import Gateway.Text.Ascii

/-!
# Labels of domain names

A label is a text of characters that stand for themselves, in composed form. Where it is written
in ASCII, a label with other characters is its Punycode behind `xn--`. `ofText?` reads a label in
either form and `toAscii` writes it.
-/

namespace Gateway.Domain.Label

/-- What a label in Punycode begins with. -/
def codedMark : List Char := ['x', 'n', '-', '-']

/-- The most characters of a label that is written in Punycode. -/
def maxPlain : Nat := 1000

/-- The most characters of Punycode that are read. -/
def maxCoded : Nat := 2000

/-- Whether a text holds ASCII characters alone. -/
def isAscii (cs : List Char) : Bool := cs.all Punycode.isAscii

/-- The label that Punycode stands for. It has characters outside ASCII, as a label without any is
not written so. -/
def ofCoded? (code : List Char) : Option (List Char) :=
  if isAscii code && code.length ≤ maxCoded then
    (Punycode.decode? code).filter fun label => !isAscii label
  else none

/-- The label that a text stands for. -/
def ofText? (cs : List Char) : Option (List Char) :=
  match Text.after? codedMark cs with
  | some code => ofCoded? code
  | none => if isAscii cs || cs.length ≤ maxPlain then some cs else none

/-- Whether a text is a label: all its characters stand for themselves, it is composed, begins
with no mark, and its joiners stand where they may. -/
def isLabel (cs : List Char) : Bool :=
  cs.all isValid && composed cs == cs && !(cs.head?.any isMark) && joinersFit [] cs

/-- The written form of a label. -/
def toAscii (label : List Char) : List Char :=
  if isAscii label then label else codedMark ++ Punycode.encode label

end Gateway.Domain.Label
