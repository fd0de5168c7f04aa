import Gateway.FileTree.Basic

/-!
# Ways to files

A path names a file if there is a way to it: its names lead from the root through directories, and
through links to where they point, to the place of the file. `FileTree.Way` says so without a
search, one rule for each kind of name, and counts the links. What `FileTree.walkFrom` finds is
exactly what some way with few enough links leads to (`walkFrom_eq_ok_iff`), so a path names a
regular file just if it is one that is read (`regular?_eq_some_iff`).
-/

namespace Gateway.FileTree

variable {t : FileTree}

/-- A name that an entry of a directory can have. -/
structure IsEntryName (n : Name) : Prop where
  /-- It is not that of the directory itself. -/
  ne_here : n ≠ here
  /-- It is not that of the directory above. -/
  ne_above : n ≠ above
  /-- It is not too long. -/
  length_le : n.length ≤ 255

instance (n : Name) : Decidable (IsEntryName n) :=
  decidable_of_iff (n ≠ here ∧ n ≠ above ∧ n.length ≤ 255)
    ⟨fun ⟨hhere, habove, hlength⟩ => ⟨hhere, habove, hlength⟩,
      fun ⟨hhere, habove, hlength⟩ => ⟨hhere, habove, hlength⟩⟩

/-- The names lead from a place to another one, where the entry is, through so many links. -/
inductive Way (t : FileTree) : Place → List Name → Nat → Place → Entry → Prop
  /-- Where no name is left, the directory is reached. -/
  | arrived (p : Place) : Way t p [] 0 p .directory
  /-- The directory itself leads nowhere else. -/
  | here {p q : Place} {rest : List Name} {links : Nat} {e : Entry}
    (way : Way t p rest links q e) : Way t p (here :: rest) links q e
  /-- The directory above; the root is above itself. -/
  | above {p q : Place} {rest : List Name} {links : Nat} {e : Entry}
    (way : Way t p.dropLast rest links q e) : Way t p (above :: rest) links q e
  /-- A directory is gone into. -/
  | directory {p q : Place} {n : Name} {rest : List Name} {links : Nat} {e : Entry}
    (name : IsEntryName n) (found : t.find? (p ++ [n]) = some .directory)
    (way : Way t (p ++ [n]) rest links q e) : Way t p (n :: rest) links q e
  /-- A file is at the end. -/
  | file {p : Place} {n : Name} {content : Bytes} (name : IsEntryName n)
    (found : t.find? (p ++ [n]) = some (.file content)) :
    Way t p [n] 0 (p ++ [n]) (.file content)
  /-- A link puts its own names in front of the others. -/
  | link {p q : Place} {n : Name} {target : Bytes} {rest : List Name} {links : Nat} {e : Entry}
    (name : IsEntryName n) (found : t.find? (p ++ [n]) = some (.link target))
    (way : Way t (startOf p target) (names target ++ rest) links q e) :
    Way t p (n :: rest) (links + 1) q e

/-- A walk looks up a name of an entry. -/
private theorem walkFrom_cons {n : Name} (hn : IsEntryName n) (links : Nat) (p : Place)
    (rest : List Name) :
    walkFrom t true links p (n :: rest) =
      match t.find? (p ++ [n]) with
      | none => if rest = [] then .ok (p ++ [n], none) else .error .notFound
      | some .directory => walkFrom t true links (p ++ [n]) rest
      | some (.file content) =>
        if rest = [] then .ok (p ++ [n], some (.file content)) else .error .notDirectory
      | some (.link target) =>
        match links with
        | 0 => .error .tooManyLinks
        | links + 1 => walkFrom t true links (startOf p target) (names target ++ rest) := by
  have hlong : ¬ nameLimit < n.length := Nat.not_lt.mpr hn.length_le
  rw [walkFrom, if_neg hn.ne_here, if_neg hn.ne_above, if_neg hlong]
  dsimp only
  cases t.find? (p ++ [n]) with
  | none => rfl
  | some entry =>
    cases entry with
    | directory => rfl
    | file content => rfl
    | link target => exact if_neg fun h => Bool.false_ne_true h.2.symm

/-- A way with few enough links is found. -/
theorem Way.walkFrom_eq {p q : Place} {ns : List Name} {used : Nat} {e : Entry}
    (h : t.Way p ns used q e) {links : Nat} (hlinks : used ≤ links) :
    walkFrom t true links p ns = .ok (q, some e) := by
  induction h generalizing links with
  | arrived p => rw [walkFrom]
  | here way ih =>
    rw [walkFrom, if_pos rfl]
    exact ih hlinks
  | above way ih =>
    rw [walkFrom, if_neg (by decide), if_pos rfl]
    exact ih hlinks
  | directory name found way ih =>
    rw [walkFrom_cons name, found]
    exact ih hlinks
  | file name found =>
    rw [walkFrom_cons name, found]
    exact if_pos rfl
  | link name found way ih =>
    obtain ⟨left, rfl⟩ : ∃ left, links = left + 1 :=
      Nat.exists_eq_add_one.mpr (Nat.zero_lt_of_lt hlinks)
    rw [walkFrom_cons name, found]
    exact ih (Nat.le_of_succ_le_succ hlinks)

/-- What a walk finds is at the end of a way. -/
theorem exists_way_of_walkFrom {links : Nat} {p q : Place} {ns : List Name} {e : Entry}
    (h : walkFrom t true links p ns = .ok (q, some e)) :
    ∃ used ≤ links, t.Way p ns used q e := by
  -- a link may put any number of names in front, but there are fewer links then
  induction links using Nat.strongRecOn generalizing p ns with
  | ind links ihlinks =>
    induction ns generalizing p with
    | nil =>
      rw [walkFrom] at h
      cases h
      exact ⟨0, Nat.zero_le _, .arrived _⟩
    | cons n rest ihnames =>
      by_cases hhere : n = here
      · subst hhere
        rw [walkFrom, if_pos rfl] at h
        obtain ⟨used, hused, way⟩ := ihnames h
        exact ⟨used, hused, .here way⟩
      by_cases habove : n = above
      · subst habove
        rw [walkFrom, if_neg hhere, if_pos rfl] at h
        obtain ⟨used, hused, way⟩ := ihnames h
        exact ⟨used, hused, .above way⟩
      by_cases hlong : nameLimit < n.length
      · rw [walkFrom, if_neg hhere, if_neg habove, if_pos hlong] at h
        cases h
      have hn : IsEntryName n := ⟨hhere, habove, Nat.not_lt.mp hlong⟩
      cases hfound : t.find? (p ++ [n]) with
      | none =>
        rw [walkFrom_cons hn, hfound] at h
        dsimp only at h
        split at h <;> cases h
      | some entry =>
        rw [walkFrom_cons hn, hfound] at h
        cases entry with
        | directory =>
          obtain ⟨used, hused, way⟩ := ihnames h
          exact ⟨used, hused, .directory hn hfound way⟩
        | file content =>
          dsimp only at h
          split at h
          · next hrest =>
            cases h
            subst hrest
            exact ⟨0, Nat.zero_le _, .file hn hfound⟩
          · cases h
        | link target =>
          cases links with
          | zero => cases h
          | succ left =>
            obtain ⟨used, hused, way⟩ := ihlinks left (Nat.lt_succ_self left) h
            exact ⟨used + 1, Nat.succ_le_succ hused, .link hn hfound way⟩

/-- **Walks find what ways lead to**, as long as there are links left. -/
theorem walkFrom_eq_ok_iff {links : Nat} {p q : Place} {ns : List Name} {e : Entry} :
    walkFrom t true links p ns = .ok (q, some e) ↔ ∃ used ≤ links, t.Way p ns used q e := by
  constructor
  · exact exists_way_of_walkFrom
  · rintro ⟨used, hused, way⟩
    exact way.walkFrom_eq hused

/-- A path names a regular file: it can be a path at all, and there is a way from the root to the
file, through links or not. -/
structure NamesFile (t : FileTree) (path content : Bytes) : Prop where
  /-- It has no byte that ends a text. -/
  noNul : (0 : UInt8) ∉ path
  /-- It is not empty. -/
  ne_nil : path ≠ []
  /-- It is not too long. -/
  length_le : path.length ≤ 4095
  /-- There is a way to the file. -/
  exists_way : ∃ links ≤ 40, ∃ q, t.Way [] (names path) links q (.file content)

/-- A path can be walked if it holds no byte of zero and is neither empty nor too long. -/
private theorem fault?_eq_none_iff {path : Bytes} :
    fault? path = none ↔ (0 : UInt8) ∉ path ∧ path ≠ [] ∧ path.length ≤ 4095 := by
  unfold fault?
  rw [← Nat.not_lt, show (4095 : Nat) = pathLimit from rfl]
  by_cases hnul : (0 : UInt8) ∈ path <;> by_cases hnil : path = [] <;>
    by_cases hlong : pathLimit < path.length <;> simp [hnul, hnil, hlong]

/-- **Regular files are read exactly by their names.** -/
theorem regular?_eq_some_iff {path content : Bytes} :
    t.regular? path = some content ↔ t.NamesFile path content := by
  have hwalk : t.regular? path = some content ↔
      ∃ q, t.walk path = .ok (q, some (.file content)) := by
    unfold regular?
    constructor
    · intro h
      split at h
      · next q content' hq =>
        obtain rfl := Option.some.inj h
        exact ⟨q, hq⟩
      · cases h
    · rintro ⟨q, hq⟩
      rw [hq]
  rw [hwalk]
  unfold walk
  constructor
  · rintro ⟨q, hq⟩
    split at hq
    · cases hq
    next hfault =>
    obtain ⟨hnul, hnil, hlength⟩ := fault?_eq_none_iff.mp hfault
    obtain ⟨used, hused, way⟩ := walkFrom_eq_ok_iff.mp hq
    exact ⟨hnul, hnil, hlength, used, hused, q, way⟩
  · rintro ⟨hnul, hnil, hlength, used, hused, q, way⟩
    rw [fault?_eq_none_iff.mpr ⟨hnul, hnil, hlength⟩]
    exact ⟨q, walkFrom_eq_ok_iff.mpr ⟨used, hused, way⟩⟩

/-- A path names one file at most. -/
theorem NamesFile.unique {path content content' : Bytes} (h : t.NamesFile path content)
    (h' : t.NamesFile path content') : content = content' :=
  Option.some.inj ((regular?_eq_some_iff.mpr h).symm.trans (regular?_eq_some_iff.mpr h'))

end Gateway.FileTree
