import Gateway.Domain.Label

/-!
# Domain names in ASCII

A domain name is a text of labels with dots between them. `toAscii?` brings a name into the form
in which names are compared and sent: in small letters, with Punycode for the labels that hold
other characters than ASCII. Labels may be empty and of any length.
-/

namespace Gateway.Domain

/-- The text that stands for a name: each character replaced, and the whole composed. -/
def plainText? (cs : List Char) : Option (List Char) :=
  (cs.mapM plain?).map fun parts => composed parts.flatten

/-- The labels of a name. -/
def labels? (cs : List Char) : Option (List (List Char)) :=
  match plainText? cs with
  | none => none
  | some text => (Text.split '.' text).mapM Label.ofText?

/-- Whether the labels of a name fit together: where one of them is written from right to left,
each keeps to its direction. -/
def isConsistent (labels : List (List Char)) : Bool :=
  let directions := labels.map fun l => l.map Direction.of
  !(directions.any fun ds => ds.any Direction.isRightToLeft) ||
    directions.all Direction.isConsistent

/-- The ASCII form of a name, if it is one. -/
def toAscii? (cs : List Char) : Option (List Char) :=
  match labels? cs with
  | none => none
  | some labels =>
    if labels.all Label.isLabel && isConsistent labels then
      some (Text.join '.' (labels.map Label.toAscii))
    else none

end Gateway.Domain
