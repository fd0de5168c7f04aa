import Gateway.Text.Ascii
import Gateway.Url.Percent

/-!
# Paths of addresses

A path is a list of segments with a slash in front of each. A segment that is one dot stands for
nothing, and one of two dots takes back the segment before it, where a dot may also be written as
its escape. A segment that names a drive, such as `C:`, is not taken back.
-/

namespace Gateway.Url

/-- Whether a segment is one dot. -/
def isDot (seg : List Char) : Bool := seg = ['.'] || Text.lower seg = ['%', '2', 'e']

/-- Whether a segment is two dots. -/
def isDoubleDot (seg : List Char) : Bool :=
  [['.', '.'], ['%', '2', 'e', '.'], ['.', '%', '2', 'e'],
    ['%', '2', 'e', '%', '2', 'e']].contains (Text.lower seg)

/-- Whether a text is a letter and a colon or a bar. -/
def isDrive : List Char → Bool
  | [a, b] => a.isAlpha && (b == ':' || b == '|')
  | _ => false

/-- Whether a segment begins with a drive that ends there. -/
def beginsWithDrive (seg : List Char) : Bool :=
  isDrive (seg.take 2) &&
    match seg.drop 2 with
    | [] => true
    | c :: _ => ['/', '\\', '?', '#'].contains c

/-- The segments with one more, where the last one is in front. -/
def addSegment (stack : List (List Char)) (seg : List Char) : List (List Char) :=
  if isDoubleDot seg then
    match stack with
    | [] => []
    | top :: rest => if beginsWithDrive top then stack else rest
  else if isDot seg then stack
  else escape inPath seg :: stack

/-- The segments of a path whose dots have been followed. A path that ends in dots ends in a
slash. -/
def followDots (segs : List (List Char)) : List (List Char) :=
  let stack := segs.foldl addSegment []
  match segs.getLast? with
  | some last => (if isDot last || isDoubleDot last then [] :: stack else stack).reverse
  | none => []

/-- The path of some segments. -/
def pathText (segs : List (List Char)) : List Char := segs.flatMap fun seg => '/' :: seg

end Gateway.Url
