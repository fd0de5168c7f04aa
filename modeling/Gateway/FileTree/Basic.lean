import Gateway.Text.Utf8

/-!
# File trees

A file tree holds files, directories and symbolic links below a root directory. `FileTree.walk`
follows a path to the place it names, through directories and links; on top of it stand reading a
file and creating one where nothing is. Creating never touches what is there:
`find?_insert_of_ne` and `create_eq_ok_iff` say so.
-/

namespace Gateway

/-- The name of an entry within its directory. -/
abbrev FileTree.Name := Bytes

/-- A place in a tree: the names on the way from the root. -/
abbrev FileTree.Place := List FileTree.Name

/-- What a tree holds at a place. -/
inductive FileTree.Entry where
  /-- A regular file. -/
  | file (content : Bytes)
  /-- A directory; what it holds stands at places of its own. -/
  | directory
  /-- A symbolic link to a path. -/
  | link (target : Bytes)
  deriving DecidableEq, Repr

/-- The entries of a tree by their places; the root is a directory without an entry. -/
structure FileTree where
  /-- The entries; of several at one place the first counts. -/
  entries : List (FileTree.Place × FileTree.Entry)
  deriving DecidableEq, Repr

namespace FileTree

/-- Why an operation on a tree fails. -/
inductive Problem where
  /-- A name on the path is missing. -/
  | notFound
  /-- Something is where a file is to be created. -/
  | alreadyExists
  /-- The path goes on behind what is no directory. -/
  | notDirectory
  /-- A directory is where a file is wanted. -/
  | isDirectory
  /-- The path, or a name on it, is too long. -/
  | nameTooLong
  /-- The path leads through too many links. -/
  | tooManyLinks
  /-- The path holds a byte of zero. -/
  | holdsNul
  /-- The file is read as text and is no well-formed UTF-8. -/
  | notText
  deriving DecidableEq, Repr

/-- The wording of a problem. -/
def Problem.message : Problem → String
  | notFound => "No such file or directory (os error 2)"
  | alreadyExists => "File exists (os error 17)"
  | notDirectory => "Not a directory (os error 20)"
  | isDirectory => "Is a directory (os error 21)"
  | nameTooLong => "File name too long (os error 36)"
  | tooManyLinks => "Too many levels of symbolic links (os error 40)"
  | holdsNul => "file name contained an unexpected NUL byte"
  | notText => "stream did not contain valid UTF-8"

/-! ### Entries -/

/-- The tree that holds nothing. -/
def empty : FileTree := ⟨[]⟩

/-- The entry at a place. -/
def find? (t : FileTree) (p : Place) : Option Entry :=
  if p = [] then some .directory else t.entries.lookup p

/-- The tree with one more entry, in the place of one that was there. -/
def insert (t : FileTree) (p : Place) (e : Entry) : FileTree :=
  ⟨(t.entries.filter fun q => !decide (q.1 = p)) ++ [(p, e)]⟩

/-- The tree without what lies at or below a place. -/
def erase (t : FileTree) (p : Place) : FileTree :=
  ⟨t.entries.filter fun q => !p.isPrefixOf q.1⟩

private theorem lookup_filter_ne {l : List (Place × Entry)} {p q : Place} (h : q ≠ p) :
    (l.filter fun r => !decide (r.1 = p)).lookup q = l.lookup q := by
  induction l with
  | nil => rfl
  | cons r l ih =>
    obtain ⟨a, e⟩ := r
    by_cases ha : a = p
    · subst ha
      have hne : (q == a) = false := by simpa using h
      simp [List.lookup_cons, hne, ih]
    · simp [ha, List.lookup_cons, ih]

private theorem lookup_filter_self {l : List (Place × Entry)} {p : Place} :
    (l.filter fun r => !decide (r.1 = p)).lookup p = none := by
  induction l with
  | nil => rfl
  | cons r l ih =>
    obtain ⟨a, e⟩ := r
    by_cases ha : a = p
    · simp [ha, ih]
    · have hne : (p == a) = false := by simpa using Ne.symm ha
      simp [ha, List.lookup_cons, hne, ih]

/-- An inserted entry is found at its place. -/
theorem find?_insert_self (t : FileTree) {p : Place} (e : Entry) (h : p ≠ []) :
    (t.insert p e).find? p = some e := by
  simp [find?, insert, h, List.lookup_append, lookup_filter_self]

/-- Inserting changes nothing elsewhere. -/
theorem find?_insert_of_ne (t : FileTree) {p q : Place} (e : Entry) (h : q ≠ p) :
    (t.insert p e).find? q = t.find? q := by
  by_cases hq : q = []
  · simp [find?, hq]
  · have hne : (q == p) = false := by simpa using h
    simp [find?, insert, hq, List.lookup_append, lookup_filter_ne h, List.lookup_cons, hne]

/-! ### Paths -/

/-- The byte between the names of a path. -/
def slash : UInt8 := 0x2F

/-- The name of the directory itself. -/
def here : Name := [0x2E]

/-- The name of the directory above. -/
def above : Name := [0x2E, 0x2E]

/-- The pieces between the slashes of a path. -/
def pieces : Bytes → List Name
  | [] => [[]]
  | b :: bs =>
    if b = slash then [] :: pieces bs
    else
      match pieces bs with
      | [] => [[b]]
      | p :: ps => (b :: p) :: ps

/-- Whether a path ends with a slash, and so names a directory. -/
def endsWithSlash (path : Bytes) : Bool := path.getLast? == some slash

/-- The names on a path. A slash at the end counts as the name of the directory itself. -/
def names (path : Bytes) : List Name :=
  (pieces path).filter (· ≠ []) ++ if endsWithSlash path then [here] else []

/-- Where a path starts from: the root if it begins with a slash, else `at`. -/
def startOf (place : Place) (path : Bytes) : Place :=
  if path.head? = some slash then [] else place

/-- How many links one path may lead through. -/
def linkLimit : Nat := 40

/-- How long a name may be. -/
def nameLimit : Nat := 255

/-- How long a path may be. -/
def pathLimit : Nat := 4095

/-- Follows names from a directory. The result is a place, and the entry there if there is one;
its directory exists. A link in the last place is followed only if `follow` is set. -/
def walkFrom (t : FileTree) (follow : Bool) (links : Nat) (place : Place) (ns : List Name) :
    Except Problem (Place × Option Entry) :=
  match ns with
  | [] => .ok (place, some .directory)
  | n :: rest =>
    if n = here then walkFrom t follow links place rest
    else if n = above then walkFrom t follow links place.dropLast rest
    else if nameLimit < n.length then .error .nameTooLong
    else
      let p := place ++ [n]
      match t.find? p with
      | none => if rest = [] then .ok (p, none) else .error .notFound
      | some .directory => walkFrom t follow links p rest
      | some (.file content) =>
        if rest = [] then .ok (p, some (.file content)) else .error .notDirectory
      | some (.link target) =>
        if rest = [] ∧ follow = false then .ok (p, some (.link target))
        else
          match links with
          | 0 => .error .tooManyLinks
          | links + 1 => walkFrom t follow links (startOf place target) (names target ++ rest)
termination_by (links, ns.length)

/-- Why a path is refused before it is followed. -/
def fault? (path : Bytes) : Option Problem :=
  if (0 : UInt8) ∈ path then some .holdsNul
  else if path = [] then some .notFound
  else if pathLimit < path.length then some .nameTooLong
  else none

/-- Follows a path from the root. -/
def walk (t : FileTree) (path : Bytes) : Except Problem (Place × Option Entry) :=
  match fault? path with
  | some problem => .error problem
  | none => walkFrom t true linkLimit [] (names path)

/-! ### Reading and creating -/

/-- The bytes of the file that a path names. -/
def read (t : FileTree) (path : Bytes) : Except Problem Bytes :=
  match t.walk path with
  | .error problem => .error problem
  | .ok (_, none) => .error .notFound
  | .ok (_, some (.file content)) => .ok content
  | .ok (_, some _) => .error .isDirectory

/-- The text of the file that a path names. -/
def readText (t : FileTree) (path : Bytes) : Except Problem String :=
  match t.read path with
  | .error problem => .error problem
  | .ok content =>
    match Utf8.string? content with
    | some text => .ok text
    | none => .error .notText

/-- The bytes of the regular file that a path names, through links or not. -/
def regular? (t : FileTree) (path : Bytes) : Option Bytes :=
  match t.walk path with
  | .ok (_, some (.file content)) => some content
  | _ => none

/-- Whether a path names a regular file, through links or not. -/
def isRegular (t : FileTree) (path : Bytes) : Bool := (t.regular? path).isSome

/-- The place where a path would put a new entry. Whatever is there already is in the way, a
link as well; so is a slash at the end, which only a directory may have. -/
def freePlace (t : FileTree) (path : Bytes) : Except Problem Place :=
  match fault? path with
  | some problem => .error problem
  | none =>
    let ns := (pieces path).filter (· ≠ [])
    match ns.getLast? with
    | none => .error .alreadyExists
    | some n =>
      match walkFrom t true linkLimit [] (ns.dropLast ++ [here]) with
      | .error problem => .error problem
      | .ok (place, _) =>
        if n = here ∨ n = above then .error .alreadyExists
        else if endsWithSlash path then .error .isDirectory
        else if nameLimit < n.length then .error .nameTooLong
        else
          match t.find? (place ++ [n]) with
          | none => .ok (place ++ [n])
          | some _ => .error .alreadyExists

/-- Creates a file where nothing is. A file that is created holds all of the content: that it cannot
be written or brought to disk once it is there is not among the problems. -/
def create (t : FileTree) (path : Bytes) (content : Bytes) : Except Problem FileTree :=
  match t.freePlace path with
  | .ok p => .ok (t.insert p (.file content))
  | .error problem => .error problem

/-- Nothing is at a free place. -/
theorem find?_eq_none_of_freePlace {t : FileTree} {path : Bytes} {p : Place}
    (h : t.freePlace path = .ok p) : t.find? p = none := by
  unfold freePlace at h
  split at h
  · cases h
  dsimp only at h
  split at h
  · cases h
  split at h
  · cases h
  split at h
  · cases h
  split at h
  · cases h
  split at h
  · cases h
  split at h
  · next heq =>
    cases h
    exact heq
  · cases h

theorem ne_nil_of_freePlace {t : FileTree} {path : Bytes} {p : Place}
    (h : t.freePlace path = .ok p) : p ≠ [] := by
  rintro rfl
  have hfree := find?_eq_none_of_freePlace h
  simp [find?] at hfree

/-- Creating adds one file where there was no entry. -/
theorem create_eq_ok_iff {t t' : FileTree} {path content : Bytes} :
    t.create path content = .ok t' ↔
      ∃ p, t.freePlace path = .ok p ∧ t.find? p = none ∧ t' = t.insert p (.file content) := by
  unfold create
  constructor
  · intro h
    split at h
    · next p hp =>
      cases h
      exact ⟨p, hp, find?_eq_none_of_freePlace hp, rfl⟩
    · cases h
  · rintro ⟨p, hp, -, rfl⟩
    rw [hp]

end FileTree

end Gateway
