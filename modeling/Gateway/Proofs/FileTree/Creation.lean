import Gateway.FileTree.Basic

/-!
# Files that were created

A walk goes on behind a name as `enter?` says: into the directory of that name, or to where a link
leads. Files that are added to a tree are in nobody's way: in a tree that grew by them
(`GrowsFrom`), walks pass through the same directories and links as before (`walkFrom_append_here`).

A path leads to a place if its last name is one in a directory that is reached (`LeadsTo`); a file
is created there if nothing is (`freePlace_eq_ok_iff`). The path of a file that was created leads to
that file (`LeadsTo.walk`), and what was written under a path is read back under it
(`readText_of_create`).
-/

namespace Gateway.FileTree

/-! ### One name of a walk -/

/-- How a walk goes on behind a name that more names follow: the links that may still be followed,
the place that was reached, and the names that a link puts in front of the others. -/
def enter? (t : FileTree) (links : Nat) (place : Place) (n : Name) :
    Option (Nat × Place × List Name) :=
  if n = here then some (links, place, [])
  else if n = above then some (links, place.dropLast, [])
  else if nameLimit < n.length then none
  else
    match t.find? (place ++ [n]), links with
    | some .directory, links => some (links, place ++ [n], [])
    | some (.link target), links + 1 => some (links, startOf place target, names target)
    | _, _ => none

/-- A name through which a walk goes on is replaced by what it leads to. -/
theorem walkFrom_of_enter? {t : FileTree} {links left : Nat} {place next : Place} {n : Name}
    {front : List Name} (h : t.enter? links place n = some (left, next, front))
    (rest : List Name) :
    walkFrom t true links place (n :: rest) = walkFrom t true left next (front ++ rest) := by
  unfold enter? at h
  rw [walkFrom]
  split at h
  · next hhere =>
    cases h
    rw [if_pos hhere, List.nil_append]
  next hhere =>
  rw [if_neg hhere]
  split at h
  · next habove =>
    cases h
    rw [if_pos habove, List.nil_append]
  next habove =>
  rw [if_neg habove]
  split at h
  · cases h
  next hlong =>
  rw [if_neg hlong]
  split at h
  · next hp =>
    cases h
    simp only [hp, List.nil_append]
  · next hp =>
    cases h
    simp only [hp, Bool.true_eq_false, and_false, if_false]
  · cases h

/-- A walk that succeeds goes on behind all names but the last. -/
theorem enter?_of_walkFrom {t : FileTree} {links : Nat} {place : Place} {n : Name}
    {rest : List Name} (hrest : rest ≠ []) {r : Place × Option Entry}
    (h : walkFrom t true links place (n :: rest) = .ok r) :
    ∃ left next front, t.enter? links place n = some (left, next, front) := by
  unfold enter?
  rw [walkFrom] at h
  by_cases hhere : n = here
  · exact ⟨links, place, [], if_pos hhere⟩
  rw [if_neg hhere] at h ⊢
  by_cases habove : n = above
  · exact ⟨links, place.dropLast, [], if_pos habove⟩
  rw [if_neg habove] at h ⊢
  by_cases hlong : nameLimit < n.length
  · rw [if_pos hlong] at h
    cases h
  rw [if_neg hlong] at h ⊢
  cases hp : t.find? (place ++ [n]) with
  | none =>
    simp only [hp, if_neg hrest] at h
    cases h
  | some e =>
    cases e with
    | file content =>
      simp only [hp, if_neg hrest] at h
      cases h
    | directory => exact ⟨links, place ++ [n], [], rfl⟩
    | link target =>
      cases links with
      | zero =>
        simp only [hp, hrest, false_and, if_false] at h
        cases h
      | succ links => exact ⟨links, startOf place target, names target, rfl⟩

/-- Names that put others in front use up a link. -/
theorem lt_or_eq_of_enter? {t : FileTree} {links left : Nat} {place next : Place} {n : Name}
    {front : List Name} (h : t.enter? links place n = some (left, next, front)) :
    left < links ∨ left = links ∧ front = [] := by
  unfold enter? at h
  split at h
  · cases h
    exact .inr ⟨rfl, rfl⟩
  split at h
  · cases h
    exact .inr ⟨rfl, rfl⟩
  split at h
  · cases h
  split at h
  · cases h
    exact .inr ⟨rfl, rfl⟩
  · cases h
    exact .inl (Nat.lt_succ_self _)
  · cases h

/-! ### Trees that grow -/

/-- A tree is another one with files added to it. -/
def GrowsFrom (t' t : FileTree) : Prop :=
  ∀ p, t'.find? p = t.find? p ∨ t.find? p = none ∧ ∃ content, t'.find? p = some (.file content)

namespace GrowsFrom

variable {t t' t'' : FileTree}

theorem refl (t : FileTree) : GrowsFrom t t := fun _ => .inl rfl

/-- What was there stays as it was. -/
theorem find?_eq_some (h : GrowsFrom t' t) {p : Place} {e : Entry} (hp : t.find? p = some e) :
    t'.find? p = some e := by
  rcases h p with heq | ⟨hnone, -⟩
  · exact heq.trans hp
  · cases hp.symm.trans hnone

theorem find?_eq_none (h : GrowsFrom t' t) {p : Place} (hp : t'.find? p = none) :
    t.find? p = none := by
  rcases h p with heq | ⟨hnone, -⟩
  · exact heq.symm.trans hp
  · exact hnone

theorem trans (h : GrowsFrom t'' t') (h' : GrowsFrom t' t) : GrowsFrom t'' t := by
  intro p
  rcases h p with heq | ⟨hnone, hfile⟩
  · rw [heq]
    exact h' p
  · exact .inr ⟨h'.find?_eq_none hnone, hfile⟩

theorem insert {p : Place} (hp : t.find? p = none) (content : Bytes) :
    GrowsFrom (t.insert p (.file content)) t := by
  intro q
  by_cases hq : q = p
  · subst hq
    have hne : q ≠ [] := by
      rintro rfl
      cases hp
    exact .inr ⟨hp, content, find?_insert_self t _ hne⟩
  · exact .inl (find?_insert_of_ne t _ hq)

/-- Files lead nowhere, so a walk goes on behind a name as before. -/
theorem enter?_eq (h : GrowsFrom t' t) (links : Nat) (place : Place) (n : Name) :
    t'.enter? links place n = t.enter? links place n := by
  unfold enter?
  rcases h (place ++ [n]) with heq | ⟨hnone, content, hfile⟩
  · rw [heq]
  · rw [hnone, hfile]

end GrowsFrom

/-- **Ways are kept.** A walk that reaches a directory reaches it as well in a tree in which walks
go on alike behind every name, and goes on from there alike. -/
theorem walkFrom_append_here {t t' : FileTree}
    (ht : ∀ links place n, t'.enter? links place n = t.enter? links place n) {links : Nat}
    {place last : Place} {ns : List Name} {entry : Option Entry}
    (hw : walkFrom t true links place (ns ++ [here]) = .ok (last, entry)) :
    ∃ left, ∀ rest,
      walkFrom t' true links place (ns ++ rest) = walkFrom t' true left last rest := by
  -- a link may put any number of names in front, but there are fewer links then
  induction links using Nat.strongRecOn generalizing place ns with
  | ind links ihlinks =>
    induction ns generalizing place with
    | nil =>
      rw [List.nil_append, walkFrom, if_pos rfl, walkFrom] at hw
      cases hw
      exact ⟨links, fun _ => rfl⟩
    | cons n ns ihnames =>
      have hne : ns ++ [here] ≠ [] := by simp
      obtain ⟨left, next, front, henter⟩ := enter?_of_walkFrom hne hw
      rw [List.cons_append, walkFrom_of_enter? henter, ← List.append_assoc] at hw
      have hgo (rest : List Name) : walkFrom t' true links place (n :: ns ++ rest) =
          walkFrom t' true left next (front ++ ns ++ rest) := by
        rw [List.cons_append, walkFrom_of_enter? ((ht _ _ _).trans henter), List.append_assoc]
      have hnext : ∃ left', ∀ rest, walkFrom t' true left next (front ++ ns ++ rest) =
          walkFrom t' true left' last rest := by
        rcases lt_or_eq_of_enter? henter with hlt | ⟨rfl, rfl⟩
        · exact ihlinks left hlt hw
        · exact ihnames hw
      obtain ⟨left', hleft'⟩ := hnext
      exact ⟨left', fun rest => (hgo rest).trans (hleft' rest)⟩

/-! ### Places that paths lead to -/

/-- A path leads to a place: to that of its last name, in the directory that the names before it
reach. -/
structure LeadsTo (t : FileTree) (path : Bytes) (p : Place) : Prop where
  fault?_eq : fault? path = none
  noSlash : endsWithSlash path = false
  exists_way : ∃ ns n place entry, (pieces path).filter (· ≠ []) = ns ++ [n] ∧
    walkFrom t true linkLimit [] (ns ++ [here]) = .ok (place, entry) ∧
    n ≠ here ∧ n ≠ above ∧ ¬ nameLimit < n.length ∧ p = place ++ [n]

/-- A file is created where a path leads to and nothing is. -/
theorem freePlace_eq_ok_iff {t : FileTree} {path : Bytes} {p : Place} :
    t.freePlace path = .ok p ↔ t.LeadsTo path p ∧ t.find? p = none := by
  constructor
  · intro hfree
    refine ⟨?_, find?_eq_none_of_freePlace hfree⟩
    unfold freePlace at hfree
    split at hfree
    · cases hfree
    next hfault =>
    dsimp only at hfree
    split at hfree
    · cases hfree
    next n hlast =>
    split at hfree
    · cases hfree
    next place entry hway =>
    split at hfree
    · cases hfree
    next hdots =>
    split at hfree
    · cases hfree
    next hslash =>
    split at hfree
    · cases hfree
    next hlong =>
    split at hfree
    · cases hfree
      obtain ⟨ns, hns⟩ := List.getLast?_eq_some_iff.mp hlast
      rw [hns, List.dropLast_concat] at hway
      exact ⟨hfault, Bool.eq_false_iff.mpr hslash, ns, n, place, entry, hns, hway,
        fun h => hdots (.inl h), fun h => hdots (.inr h), hlong, rfl⟩
    · cases hfree
  · rintro ⟨⟨hfault, hslash, ns, n, place, entry, hns, hway, hhere, habove, hlong, rfl⟩, hnone⟩
    unfold freePlace
    simp only [hfault, hns, List.getLast?_concat, List.dropLast_concat, hway, hhere, habove,
      or_self, if_false, hslash, Bool.false_eq_true, hlong, hnone]

namespace LeadsTo

variable {t t' : FileTree} {path : Bytes} {p : Place}

/-- Where names lead to the same places, so do paths. -/
theorem of_enter?_eq (h : t.LeadsTo path p)
    (ht : ∀ links place n, t'.enter? links place n = t.enter? links place n) :
    t'.LeadsTo path p := by
  obtain ⟨hfault, hslash, ns, n, place, entry, hns, hway, hname⟩ := h
  obtain ⟨left, hgo⟩ := walkFrom_append_here ht hway
  have hway' : walkFrom t' true linkLimit [] (ns ++ [here]) = .ok (place, some .directory) := by
    rw [hgo, walkFrom, if_pos rfl, walkFrom]
  exact ⟨hfault, hslash, ns, n, place, _, hns, hway', hname⟩

/-- Paths lead to the same places before and after files were added. -/
theorem iff_of_growsFrom (h : GrowsFrom t' t) : t'.LeadsTo path p ↔ t.LeadsTo path p :=
  ⟨fun hp => hp.of_enter?_eq fun links place n => (h.enter?_eq links place n).symm,
    fun hp => hp.of_enter?_eq h.enter?_eq⟩

/-- **Paths lead to the files at their places**, or to free places. -/
theorem walk (h : t.LeadsTo path p) {entry : Option Entry} (hp : t.find? p = entry)
    (hentry : entry = none ∨ ∃ content, entry = some (.file content)) :
    t.walk path = .ok (p, entry) := by
  obtain ⟨hfault, hslash, ns, n, place, _, hns, hway, hhere, habove, hlong, rfl⟩ := h
  have hnames : names path = ns ++ [n] := by
    rw [names, hns, hslash, if_neg Bool.false_ne_true, List.append_nil]
  obtain ⟨left, hgo⟩ := walkFrom_append_here (fun _ _ _ => rfl) hway
  unfold FileTree.walk
  simp only [hfault]
  rw [hnames, hgo, walkFrom, if_neg hhere, if_neg habove, if_neg hlong]
  rcases hentry with rfl | ⟨content, rfl⟩
  · simp only [hp, if_true]
  · simp only [hp, if_true]

theorem walk_file (h : t.LeadsTo path p) {content : Bytes}
    (hp : t.find? p = some (.file content)) : t.walk path = .ok (p, some (.file content)) :=
  h.walk hp (.inr ⟨content, rfl⟩)

theorem readText (h : t.LeadsTo path p) {text : String}
    (hp : t.find? p = some (.file (Utf8.ofString text))) : t.readText path = .ok text := by
  simp only [FileTree.readText, read, h.walk_file hp, Utf8.string?_ofString]

end LeadsTo

/-! ### The new file -/

/-- The path of a file that was created leads to it. -/
theorem leadsTo_of_create {t t' : FileTree} {path content : Bytes}
    (h : t.create path content = .ok t') :
    ∃ p, t'.LeadsTo path p ∧ t'.find? p = some (.file content) := by
  obtain ⟨p, hfree, hp, rfl⟩ := create_eq_ok_iff.mp h
  have hleads := (freePlace_eq_ok_iff.mp hfree).1
  exact ⟨p, (LeadsTo.iff_of_growsFrom (.insert hp content)).mpr hleads,
    find?_insert_self t _ (ne_nil_of_freePlace hfree)⟩

/-- A path under which a file was created names a regular file. -/
theorem isRegular_of_create {t t' : FileTree} {path content : Bytes}
    (h : t.create path content = .ok t') : t'.isRegular path = true := by
  obtain ⟨p, hleads, hp⟩ := leadsTo_of_create h
  simp only [isRegular, regular?, hleads.walk_file hp, Option.isSome_some]

/-- **What was written is read back.** -/
theorem readText_of_create {t t' : FileTree} {path : Bytes} {text : String}
    (h : t.create path (Utf8.ofString text) = .ok t') : t'.readText path = .ok text := by
  obtain ⟨p, hleads, hp⟩ := leadsTo_of_create h
  exact hleads.readText hp

end Gateway.FileTree
