import Mathlib.Data.List.TakeWhile
import Gateway.Http.Target
import Gateway.Proofs.Text.Utf8
import Gateway.Proofs.Url.Visible

/-!
# Queries of targets

A query does not change what a target is read as: a target that is read with a query behind it is
read as the same without it (`Target.ofBytes?_of_query`). The readers stop at the question mark or
in front of it, so each of them comes to the same on the text before the question mark.
-/

namespace Gateway.Http.Target

section Stops

variable {p : UInt8 → Bool} {b : UInt8} {front back : Bytes}

private theorem takeWhile_append_cons (hb : p b = false) :
    (front ++ b :: back).takeWhile p = front.takeWhile p := by
  rw [List.takeWhile_append]
  split
  · next hall =>
    rw [List.takeWhile_cons_of_neg (Bool.eq_false_iff.mp hb), List.append_nil]
    exact ((List.takeWhile_prefix p).eq_of_length hall).symm
  · rfl

private theorem dropWhile_append_cons (hb : p b = false) :
    (front ++ b :: back).dropWhile p = front.dropWhile p ++ b :: back := by
  rw [List.dropWhile_append]
  split
  · next hnil =>
    rw [List.isEmpty_iff.mp hnil, List.dropWhile_cons_of_neg (Bool.eq_false_iff.mp hb)]
    rfl
  · rfl

/-- More than the front is taken. -/
private theorem mem_take_append_cons {n : Nat} (h : front.length < n) :
    b ∈ (front ++ b :: back).take n := by
  obtain ⟨m, rfl⟩ := Nat.exists_eq_add_of_lt h
  rw [List.take_append, Nat.add_assoc, Nat.add_sub_cancel_left, List.take_succ_cons]
  exact List.mem_append_right _ List.mem_cons_self

end Stops

variable {d : Dialect} {front query : Bytes}

/-! ### Paths -/

/-- The bytes of the path in a target that is a path: those in front of a query and a fragment. -/
def pathBytes (bs : Bytes) : Bytes := (bs.takeWhile (· ≠ byte '#')).takeWhile (· ≠ byte '?')

/-- Paths are texts, and nothing in them is decoded. -/
theorem pathBytes_of_pathOf? {bs : Bytes} {path : String} (h : pathOf? d bs = .ok path) :
    Utf8.ofString path = pathBytes bs ∨ pathBytes bs = [] := by
  unfold pathOf? at h
  extract_lets at h
  split at h
  · next text _ htext _ =>
    split at h
    · have htext : pathBytes bs = Utf8.ofString text := Utf8.eq_ofString_of_string? htext
      cases h
      split
      · next hempty =>
        rw [htext, String.isEmpty_iff.mp hempty]
        exact .inr rfl
      · exact .inl htext.symm
    · cases h
  · cases h

/-- What stands in front of a fragment, with and without a query. -/
private theorem takeWhile_query (front query : Bytes) (p : UInt8 → Bool) :
    ∃ query', (front ++ query).takeWhile p = front.takeWhile p ++ query' ∧
      (query' = [] ∨ query' = query.takeWhile p) := by
  rw [List.takeWhile_append]
  split
  · next hall =>
    refine ⟨query.takeWhile p, ?_, .inr rfl⟩
    rw [(List.takeWhile_prefix p).eq_of_length hall]
  · exact ⟨[], (List.append_nil _).symm, .inl rfl⟩

/-- A query does not change the path in front of it. -/
theorem pathOf?_of_query (hfront : byte '?' ∉ front) {path : String}
    (h : pathOf? d (front ++ byte '?' :: query) = .ok path) : pathOf? d front = .ok path := by
  obtain ⟨whole, hdef⟩ : ∃ whole, front.takeWhile (· ≠ byte '#') = whole := ⟨_, rfl⟩
  have hwhole : ∀ b ∈ whole, decide (b ≠ byte '?') = true := fun b hb =>
    decide_eq_true fun hbyte => hfront (hbyte ▸ (List.takeWhile_prefix _).subset (hdef ▸ hb))
  -- without a query the path is all of what stands in front of the fragment
  have hpath : whole.takeWhile (· ≠ byte '?') = whole := List.takeWhile_eq_self_iff.mpr hwhole
  have hquery : whole.dropWhile (· ≠ byte '?') = [] := List.dropWhile_eq_nil_iff.mpr hwhole
  obtain ⟨query', hsplit, hquery'⟩ := takeWhile_query front (byte '?' :: query) (· ≠ byte '#')
  have hpath' : (whole ++ query').takeWhile (· ≠ byte '?') = whole := by
    rcases hquery' with rfl | rfl
    · rw [List.append_nil, hpath]
    · rw [List.takeWhile_cons_of_pos (by decide)]
      exact (takeWhile_append_cons (by decide)).trans hpath
  unfold pathOf? at h ⊢
  rw [hsplit] at h
  simp only [hdef, hpath', hpath, hquery] at h ⊢
  have hempty : Utf8.string? [] = some "" := Utf8.string?_ofString ""
  rw [List.drop_nil, hempty]
  split at h
  · next text _ htext _ =>
    split at h
    · next hbytes =>
      rw [Bool.and_eq_true] at hbytes
      simp only [htext, hbytes.1, List.all_nil, Bool.and_self, if_true]
      exact h
    · cases h
  · cases h

/-! ### Authorities -/

/-- The question mark ends an authority, and what follows is not looked at. -/
theorem authorityOf?_of_query {authority rest : Bytes} (hne : front ≠ [])
    (h : authorityOf? (front ++ byte '?' :: query) = .ok (authority, rest)) :
    ∃ rest', authorityOf? front = .ok (authority, rest') ∧ rest = rest' ++ byte '?' :: query ∧
      rest' <:+ front := by
  let p (b : UInt8) : Bool := !(['/', '?', '#'].map byte).contains b
  have htake : (front ++ byte '?' :: query).takeWhile p = front.takeWhile p :=
    takeWhile_append_cons (by decide)
  have hdrop : (front ++ byte '?' :: query).dropWhile p =
      front.dropWhile p ++ byte '?' :: query := dropWhile_append_cons (by decide)
  have hfull : (front ++ byte '?' :: query).isEmpty = false := by simp
  have hempty : front.isEmpty = false := by simpa using hne
  unfold authorityOf? at h ⊢
  simp only [hfull, hempty, Bool.false_eq_true, if_false] at h ⊢
  rw [htake, hdrop] at h
  obtain ⟨s, hs, h⟩ := exists_ok_of_bind h
  split at h
  · cases h
  · next hgood =>
    cases h
    refine ⟨front.dropWhile p, ?_, rfl, List.dropWhile_suffix p⟩
    rw [hs]
    exact if_neg hgood

/-- There is no authority in front of a question mark. -/
theorem eq_nil_of_authorityOf?_query {authority rest : Bytes}
    (h : authorityOf? (byte '?' :: query) = .ok (authority, rest)) :
    authority = [] ∧ rest = byte '?' :: query := by
  let p (b : UInt8) : Bool := !(['/', '?', '#'].map byte).contains b
  have htake : (byte '?' :: query).takeWhile p = [] := List.takeWhile_cons_of_neg (by decide)
  have hdrop : (byte '?' :: query).dropWhile p = byte '?' :: query :=
    List.dropWhile_cons_of_neg (by decide)
  unfold authorityOf? at h
  simp only [List.isEmpty_cons, Bool.false_eq_true, if_false] at h
  rw [htake, hdrop] at h
  obtain ⟨s, -, h⟩ := exists_ok_of_bind h
  split at h
  · cases h
  · cases h
    exact ⟨rfl, rfl⟩

/-! ### Schemes -/

theorem length_le_of_beginsWith {scheme : String} {bs : Bytes} (h : beginsWith scheme bs = true) :
    scheme.length ≤ bs.length := by
  have hlen := congrArg List.length (beq_iff_eq.mp h)
  rw [List.length_map, List.length_take, String.length_toList] at hlen
  omega

/-- A query does not change what a target begins with. -/
theorem beginsWith_append_query {scheme : String} (hscheme : '?' ∉ scheme.toList) :
    beginsWith scheme (front ++ byte '?' :: query) = true ↔ beginsWith scheme front = true := by
  unfold beginsWith
  by_cases hlength : scheme.length ≤ front.length
  · rw [List.take_append_of_le_length hlength]
  · -- the question mark would be part of the scheme
    refine iff_of_false (fun h => ?_) (fun h => ?_)
    · refine hscheme ?_
      rw [← beq_iff_eq.mp h]
      exact List.mem_map.mpr ⟨byte '?', mem_take_append_cons (not_le.mp hlength), by decide⟩
    · exact hlength (length_le_of_beginsWith h)

/-- A scheme ends in front of the question mark, unless there is no text between them. -/
theorem behindScheme?_of_query (hfront : byte '?' ∉ front) {behind : Bytes}
    (h : behindScheme? (front ++ byte '?' :: query) = .ok (some behind)) :
    behind = byte '?' :: query ∨
      ∃ behind', behindScheme? front = .ok (some behind') ∧
        behind = behind' ++ byte '?' :: query ∧ byte '?' ∉ behind' ∧ 1 < front.length := by
  have hdropped (n : Nat) : byte '?' ∉ front.drop n := fun hmem =>
    hfront (List.mem_of_mem_drop hmem)
  unfold behindScheme? at h ⊢
  split at h
  · next hhttp =>
    have hhttp := (beginsWith_append_query (by decide)).mp hhttp
    have hlength : 7 ≤ front.length := length_le_of_beginsWith hhttp
    cases h
    exact .inr ⟨front.drop 7, if_pos hhttp, List.drop_append_of_le_length hlength, hdropped 7,
      by omega⟩
  next hhttp =>
  rw [beginsWith_append_query (by decide)] at hhttp
  split at h
  · next hhttps =>
    have hhttps := (beginsWith_append_query (by decide)).mp hhttps
    have hlength : 8 ≤ front.length := length_le_of_beginsWith hhttps
    cases h
    refine .inr ⟨front.drop 8, ?_, List.drop_append_of_le_length hlength, hdropped 8, by omega⟩
    rw [if_neg hhttp, if_pos hhttps]
  next hhttps =>
  rw [beginsWith_append_query (by decide)] at hhttps
  split at h
  · cases h
  have hstop : isSchemeByte (byte '?') = false := by decide
  simp only [takeWhile_append_cons hstop, dropWhile_append_cons hstop] at h
  split at h
  · next hslashes =>
    split at h
    · cases h
    · next hlong =>
      cases h
      -- the slashes are all in front of the question mark
      have hlength : 3 ≤ (front.dropWhile isSchemeByte).length := by
        by_contra hshort
        have hmem : byte '?' ∈ (front.dropWhile isSchemeByte ++ byte '?' :: query).take 3 :=
          mem_take_append_cons (not_le.mp hshort)
        rw [hslashes] at hmem
        exact absurd hmem (by decide)
      have hle := (List.dropWhile_sublist isSchemeByte (l := front)).length_le
      rw [List.take_append_of_le_length hlength] at hslashes
      rw [List.drop_append_of_le_length hlength]
      by_cases hthree : front.length ≤ 3
      · refine .inl ?_
        rw [List.drop_of_length_le (by omega), List.nil_append]
      · refine .inr ⟨_, ?_, rfl, fun hmem => hfront ?_, by omega⟩
        · rw [if_neg hhttp, if_neg hhttps, if_neg hthree]
          simp only [hslashes, if_true]
          exact if_neg hlong
        · exact (List.dropWhile_sublist _).subset (List.mem_of_mem_drop hmem)
  · cases h

/-! ### Targets -/

/-- A target with an authority and a query is read as the one in front of the query. -/
theorem ofFullBytes?_of_query (hfront : byte '?' ∉ front) {t : Target}
    (h : ofFullBytes? d (front ++ byte '?' :: query) = .ok t) :
    ofFullBytes? d front = .ok t ∧ 1 < front.length := by
  unfold ofFullBytes? at h ⊢
  obtain ⟨found, hfound, h⟩ := exists_ok_of_bind h
  cases found with
  | none =>
    -- an authority alone has no query
    obtain ⟨⟨authority, rest⟩, hauthority, h⟩ := exists_ok_of_bind h
    have hrest : rest.isEmpty = false := by
      by_cases hne : front = []
      · subst hne
        rw [(eq_nil_of_authorityOf?_query hauthority).2]
        rfl
      · obtain ⟨rest', -, rfl, -⟩ := authorityOf?_of_query hne hauthority
        simp
    simp only [hrest, Bool.false_eq_true, if_false] at h
    cases h
  | some behind =>
    obtain ⟨⟨authority, rest⟩, hauthority, h⟩ := exists_ok_of_bind h
    dsimp only at h
    split at h
    · cases h
    next hsome =>
    obtain ⟨path, hpath, h⟩ := exists_ok_of_bind h
    cases h
    rcases behindScheme?_of_query hfront hfound with rfl | ⟨behind', hfound', rfl, hmark, hlength⟩
    · rw [(eq_nil_of_authorityOf?_query hauthority).1] at hsome
      exact absurd rfl hsome
    · have hne : behind' ≠ [] := by
        rintro rfl
        rw [(eq_nil_of_authorityOf?_query hauthority).1] at hsome
        exact absurd rfl hsome
      obtain ⟨rest', hauthority', rfl, hsuffix⟩ := authorityOf?_of_query hne hauthority
      have hpath' := pathOf?_of_query (fun hmem => hmark (hsuffix.subset hmem)) hpath
      refine ⟨?_, hlength⟩
      simp only [hfound', hauthority', hpath', bind, Except.bind, if_neg hsome]

/-- **Queries do not matter.** A target with a query is read as the target in front of it. -/
theorem ofBytes?_of_query (hfront : byte '?' ∉ front) {t : Target}
    (h : ofBytes? d (front ++ byte '?' :: query) = .ok t) : ofBytes? d front = .ok t := by
  unfold ofBytes? at h ⊢
  split at h
  · cases h
  next hlength =>
  rw [List.length_append] at hlength
  rw [if_neg (by omega)]
  have hfull : ofFullBytes? d (front ++ byte '?' :: query) = .ok t →
      ofFullBytes? d front = .ok t ∧ 1 < front.length := ofFullBytes?_of_query hfront
  have hpath : (pathOf? d (front ++ byte '?' :: query)).map (Target.mk none) = .ok t →
      (pathOf? d front).map (Target.mk none) = .ok t := by
    intro h
    obtain ⟨path, hpath, rfl⟩ := exists_ok_of_map h
    rw [pathOf?_of_query hfront hpath]
    rfl
  match front with
  | [] =>
    -- a query alone is no target
    cases query with
    | nil => cases h
    | cons c query => exact absurd (hfull h).2 (by decide)
  | [b] =>
    dsimp only [List.cons_append, List.nil_append] at h ⊢
    split at h
    · next hslash =>
      subst hslash
      have hroot : pathOf? d [byte '/'] = .ok "/" := by cases d <;> decide +kernel
      have h := hpath h
      rw [hroot] at h
      rw [if_pos rfl]
      exact h
    · exact absurd (hfull h).2 (Nat.lt_irrefl 1)
  | b :: c :: front =>
    dsimp only [List.cons_append] at h ⊢
    split at h
    · next hslash =>
      rw [if_pos hslash]
      exact hpath h
    · next hslash =>
      rw [if_neg hslash]
      exact (hfull h).1

/-- The path of a target that begins with a slash stands in the target as it is. -/
theorem path_of_ofBytes?_slash {bs : Bytes} {t : Target} (h : ofBytes? d (byte '/' :: bs) = .ok t) :
    Utf8.ofString t.path = pathBytes (byte '/' :: bs) := by
  have hbytes : pathBytes (byte '/' :: bs) ≠ [] := by
    unfold pathBytes
    rw [List.takeWhile_cons_of_pos (by decide), List.takeWhile_cons_of_pos (by decide)]
    exact List.cons_ne_nil _ _
  unfold ofBytes? at h
  split at h
  · cases h
  cases bs with
  | nil =>
    cases h
    decide
  | cons b bs =>
    obtain ⟨path, hpath, rfl⟩ := exists_ok_of_map h
    exact (pathBytes_of_pathOf? hpath).resolve_right hbytes

end Gateway.Http.Target
