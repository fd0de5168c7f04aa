import Gateway.Proofs.Server.Policy
import Mathlib.Data.List.Forall2
import Mathlib.Data.List.TakeWhile

/-!
# What the entries of a policy amount to

A policy is written as entries between semicolons. `OriginPolicy.Judges` says what a list of entries
amounts to, without any text that they are cut from, and `OriginPolicy.judges_iff` says that this is
what is made of them. The two entries that stand for a whole policy are no addresses, as they have
no colon (`OriginPolicy.normal?_of_standsForPolicy`), and the normal form of an origin has one; so
neither can be taken for the other.
-/

namespace Gateway

/-! ### Texts between blanks -/

namespace Text

/-- What is left of a text without the blanks at its two ends. -/
structure Trims (cs trimmed : List Char) : Prop where
  /-- Only blanks are left out, at the ends. -/
  around : ∃ front back, cs = front ++ trimmed ++ back ∧ ∀ c ∈ front ++ back, isBlank c = true
  /-- What is left has no blank at its beginning. -/
  head : ∀ c, trimmed.head? = some c → isBlank c = false
  /-- What is left has no blank at its end. -/
  last : ∀ c, trimmed.getLast? = some c → isBlank c = false

theorem isBlank_of_head?_dropWhile {cs : List Char} {c : Char}
    (h : (cs.dropWhile isBlank).head? = some c) : isBlank c = false := by
  have hfirst := List.head?_dropWhile_not isBlank cs
  rwa [h] at hfirst

/-- Trimming takes the blanks off both ends, and nothing else. -/
theorem trims_trim (cs : List Char) : Trims cs (trim cs) := by
  obtain ⟨inner, hinner⟩ : ∃ inner, inner = cs.dropWhile isBlank := ⟨_, rfl⟩
  obtain ⟨back, hback⟩ : ∃ back, back = (inner.reverse.takeWhile isBlank).reverse := ⟨_, rfl⟩
  have htrim : trim cs = trimEnd inner := by rw [hinner, trim]
  have hsplit : inner = trimEnd inner ++ back := by
    rw [hback, trimEnd, ← List.reverse_append, List.takeWhile_append_dropWhile,
      List.reverse_reverse]
  rw [htrim]
  refine ⟨⟨cs.takeWhile isBlank, back, ?_, ?_⟩, fun c hc => ?_, fun c hc => ?_⟩
  · rw [List.append_assoc, ← hsplit, hinner, List.takeWhile_append_dropWhile]
  · refine List.forall_mem_append.mpr ⟨fun c hc => (List.mem_takeWhile_imp hc), fun c hc => ?_⟩
    rw [hback, List.mem_reverse] at hc
    exact List.mem_takeWhile_imp hc
  · have hhead : inner.head? = some c := by
      rw [hsplit, List.head?_append, hc]
      rfl
    exact isBlank_of_head?_dropWhile (hinner ▸ hhead)
  · rw [trimEnd, List.getLast?_reverse] at hc
    exact isBlank_of_head?_dropWhile hc

end Text

/-! ### Bare origins -/

/-- A text without a colon is no address. -/
theorem Url.ofText?_of_not_mem {cs : List Char} (h : ':' ∉ cs) : ofText? cs = .error .relative := by
  have hclean : ∀ c ∈ clean cs, c ∈ cs := by
    intro c hc
    have hinner := List.mem_reverse.mp (List.mem_filter.mp hc).1
    exact (List.dropWhile_sublist _).mem
      (List.mem_reverse.mp ((List.dropWhile_sublist _).mem hinner))
  have hcut : Scheme.cut? (clean cs) = none := by
    unfold Scheme.cut?
    split
    · rfl
    · split
      · split
        · next rest hrest =>
          have hcolon : ':' ∈ (clean cs).dropWhile Scheme.isLater := hrest ▸ List.mem_cons_self
          exact absurd (hclean _ ((List.dropWhile_sublist _).mem hcolon)) h
        · rfl
      · rfl
  unfold ofText?
  rw [hcut]

namespace Origin

/-- The form of an origin of the web: a scheme and a host, and a port if it is not the scheme's
own. -/
def IsBare (origin : String) : Prop :=
  ∃ scheme own host port, (scheme, own) ∈ webSchemes ∧ Host.IsBareText host ∧ port ≠ some own ∧
    origin.toList = scheme.toList ++ "://".toList ++ (host ++ Authority.portText port)

/-- The normal form of an entry is a bare origin. -/
theorem isBare_of_normal? {entry origin : String} (h : normal? entry = some origin) :
    IsBare origin := by
  obtain ⟨scheme, own, front, host, port, hscheme, hhost, hport, rfl⟩ := exists_of_normal? h
  refine ⟨scheme, own, host.toString.toList, port, hscheme, Host.isBareText_of_ofWebText? hhost,
    hport, ?_⟩
  rw [String.toList_append, String.toList_append, Authority.toList_hostAndPort rfl]

theorem colon_mem_of_isBare {origin : String} (h : IsBare origin) : ':' ∈ origin.toList := by
  obtain ⟨scheme, own, host, port, -, -, -, horigin⟩ := h
  rw [horigin]
  exact List.mem_append_left _ (List.mem_append_right _ (by decide))

end Origin

/-! ### Entries -/

namespace OriginPolicy

/-- An entry that stands for a whole policy. -/
def StandsForPolicy (entry : String) : Prop :=
  entry = "*" ∨ Text.sameIgnoringCase entry "sop" = true

instance : DecidablePred StandsForPolicy := fun entry =>
  inferInstanceAs (Decidable (entry = "*" ∨ Text.sameIgnoringCase entry "sop" = true))

/-- What entries amount to; `value` is the text that a fault shows. -/
inductive Judges (value : String) : List String → Except Fault OriginPolicy → Prop
  /-- The asterisk alone allows any origin. -/
  | any : Judges value ["*"] (.ok .any)
  /-- The word alone, in any case, allows the same origin. -/
  | sameOrigin {entry : String} (h : Text.sameIgnoringCase entry "sop" = true) :
    Judges value [entry] (.ok .sameOrigin)
  /-- An entry that stands for a policy stands beside others. -/
  | combined {entries : List String} (hmore : 1 < entries.length)
    (h : ∃ entry ∈ entries, StandsForPolicy entry) :
    Judges value entries (.error (.combined value))
  /-- The first entry that is no origin is the one that is shown. -/
  | notOrigin {front back : List String} {entry : String}
    (hsimple : ∀ e ∈ front ++ entry :: back, ¬ StandsForPolicy e)
    (hfront : ∀ e ∈ front, (Origin.normal? e).isSome = true)
    (hentry : Origin.normal? entry = none) :
    Judges value (front ++ entry :: back) (.error (.notOrigin entry))
  /-- Every entry has its origin on the list, in the same place. -/
  | listed {entries origins : List String} (hsimple : ∀ e ∈ entries, ¬ StandsForPolicy e)
    (h : entries.map Origin.normal? = origins.map some) :
    Judges value entries (.ok (.listed origins))

/-- An entry stands for a policy exactly if it is read as one. -/
theorem not_standsForPolicy_iff {entry : String} :
    ¬ StandsForPolicy entry ↔ ofEntry? entry = none := by
  unfold ofEntry? StandsForPolicy
  split
  · next hall => simp [hall]
  · next hall =>
    split
    · next hsame => simp [hsame]
    · next hsame => simp [hall, hsame]

/-- If entries have no normal forms, the first that has none is shown. -/
theorem normals?_eq_error {entries : List String} {fault : Fault}
    (h : normals? entries = .error fault) :
    ∃ front entry back, entries = front ++ entry :: back ∧
      (∀ e ∈ front, (Origin.normal? e).isSome = true) ∧ Origin.normal? entry = none ∧
      fault = .notOrigin entry := by
  induction entries with
  | nil => cases h
  | cons entry entries ih =>
    rw [normals?] at h
    cases hentry : Origin.normal? entry with
    | none =>
      rw [hentry] at h
      cases h
      exact ⟨[], entry, entries, rfl, fun e he => absurd he List.not_mem_nil, hentry, rfl⟩
    | some origin =>
      rw [hentry] at h
      cases hrest : normals? entries with
      | ok origins =>
        simp only [hrest] at h
        cases h
      | error fault' =>
        simp only [hrest] at h
        cases h
        obtain ⟨front, bad, back, rfl, hfront, hbad, hfault⟩ := ih hrest
        refine ⟨entry :: front, bad, back, rfl, ?_, hbad, hfault⟩
        exact List.forall_mem_cons.mpr ⟨Option.isSome_of_eq_some hentry, hfront⟩

/-- The first entry without a normal form is shown, whatever stands behind it. -/
theorem normals?_eq_of_bad {front back : List String} {entry : String}
    (hfront : ∀ e ∈ front, (Origin.normal? e).isSome = true)
    (hentry : Origin.normal? entry = none) :
    normals? (front ++ entry :: back) = .error (.notOrigin entry) := by
  induction front with
  | nil => rw [List.nil_append, normals?, hentry]
  | cons e front ih =>
    obtain ⟨he, hfront⟩ := List.forall_mem_cons.mp hfront
    obtain ⟨origin, horigin⟩ := Option.isSome_iff_exists.mp he
    rw [List.cons_append, normals?, horigin]
    dsimp only
    rw [ih hfront]
    rfl

/-- What is made of the entries of a text. -/
def ofEntries? (value : String) (entries : List String) : Except Fault OriginPolicy :=
  match entries.findSome? ofEntry? with
  | some policy => if 1 < entries.length then .error (.combined value) else .ok policy
  | none => (normals? entries).map listed

theorem ofString?_eq (value : String) : ofString? value = ofEntries? value (entries value) := rfl

theorem findSome?_ofEntry?_eq_none_iff {entries : List String} :
    entries.findSome? ofEntry? = none ↔ ∀ e ∈ entries, ¬ StandsForPolicy e := by
  rw [List.findSome?_eq_none_iff]
  exact forall₂_congr fun e _ => not_standsForPolicy_iff.symm

/-- One entry that stands for a policy amounts to that policy. -/
theorem judges_of_ofEntry? {value entry : String} {policy : OriginPolicy}
    (h : ofEntry? entry = some policy) : Judges value [entry] (.ok policy) := by
  unfold ofEntry? at h
  split at h
  · next hall =>
    subst hall
    cases h
    exact .any
  split at h
  · next hsame =>
    cases h
    exact .sameOrigin hsame
  · cases h

/-- What is made of entries is what they amount to. -/
theorem judges_ofEntries? (value : String) (entries : List String) :
    Judges value entries (ofEntries? value entries) := by
  unfold ofEntries?
  split
  · next policy hpolicy =>
    obtain ⟨front, entry, back, rfl, hentry, -⟩ := List.findSome?_eq_some_iff.mp hpolicy
    split
    · next hmore =>
      refine .combined hmore ⟨entry, by simp, ?_⟩
      by_contra hsimple
      cases (not_standsForPolicy_iff.mp hsimple).symm.trans hentry
    · next hone =>
      -- the entry is the only one
      have hlength : front.length = 0 ∧ back.length = 0 := by
        simp only [List.length_append, List.length_cons] at hone
        omega
      obtain rfl := List.eq_nil_of_length_eq_zero hlength.1
      obtain rfl := List.eq_nil_of_length_eq_zero hlength.2
      exact judges_of_ofEntry? hentry
  · next hfixed =>
    have hsimple := findSome?_ofEntry?_eq_none_iff.mp hfixed
    cases hnormals : normals? entries with
    | ok origins => exact .listed hsimple (normals?_eq_ok_iff.mp hnormals)
    | error fault =>
      obtain ⟨front, entry, back, rfl, hfront, hentry, rfl⟩ := normals?_eq_error hnormals
      exact .notOrigin hsimple hfront hentry

/-- Entries amount to nothing but what is made of them. -/
theorem Judges.ofEntries?_eq {value : String} {entries : List String}
    {result : Except Fault OriginPolicy} (h : Judges value entries result) :
    ofEntries? value entries = result := by
  unfold ofEntries?
  cases h with
  | any => rfl
  | @sameOrigin entry h =>
    have hne : entry ≠ "*" := by
      rintro rfl
      exact absurd h (by decide)
    have hentry : ofEntry? entry = some .sameOrigin := by
      unfold ofEntry?
      rw [if_neg hne, if_pos h]
    rw [List.findSome?_cons, hentry]
    rfl
  | combined hmore h =>
    cases hfixed : entries.findSome? ofEntry? with
    | none =>
      obtain ⟨entry, hmem, hentry⟩ := h
      exact absurd hentry (findSome?_ofEntry?_eq_none_iff.mp hfixed entry hmem)
    | some policy => exact if_pos hmore
  | notOrigin hsimple hfront hentry =>
    rw [findSome?_ofEntry?_eq_none_iff.mpr hsimple]
    dsimp only
    rw [normals?_eq_of_bad hfront hentry]
    rfl
  | listed hsimple h =>
    rw [findSome?_ofEntry?_eq_none_iff.mpr hsimple]
    dsimp only
    rw [normals?_eq_ok_iff.mpr h]
    rfl

/-- **Entries amount to one thing**, and that is what is made of them. -/
theorem judges_iff {value : String} {entries : List String}
    {result : Except Fault OriginPolicy} :
    Judges value entries result ↔ ofEntries? value entries = result :=
  ⟨Judges.ofEntries?_eq, fun h => h ▸ judges_ofEntries? value entries⟩

/-- Texts without semicolons are the entries of the text that they are joined to. -/
theorem entries_joinStrings {origins : List String} (hne : origins ≠ [])
    (h : ∀ o ∈ origins, ';' ∉ o.toList) :
    entries (Text.joinStrings ';' origins) = origins.map Text.trimString := by
  have hmap : origins.map String.toList ≠ [] := by simpa using hne
  have hpieces : ∀ p ∈ origins.map String.toList, ';' ∉ p := by simpa using h
  unfold entries Text.splitString Text.joinStrings
  rw [String.toList_ofList, Text.split_join hmap hpieces, List.map_map, List.map_map]
  refine List.map_congr_left fun o _ => ?_
  simp

/-- An entry that stands for a policy has no colon. -/
theorem colon_not_mem_of_standsForPolicy {entry : String} (h : StandsForPolicy entry) :
    ':' ∉ entry.toList := by
  rcases h with rfl | h
  · decide
  · intro hmem
    have hlower : ':' ∈ Text.lower entry.toList := List.mem_map.mpr ⟨':', hmem, by decide⟩
    rw [Text.sameIgnoringCase_iff.mp h] at hlower
    exact absurd hlower (by decide)

/-- An entry that stands for a policy is no origin. -/
theorem normal?_of_standsForPolicy {entry : String} (h : StandsForPolicy entry) :
    Origin.normal? entry = none := by
  unfold Origin.normal? Url.ofString?
  rw [Url.ofText?_of_not_mem (colon_not_mem_of_standsForPolicy h)]

/-- The entries of a text are what stands between its semicolons, without the blanks around it. -/
def AreEntries (value : String) (entries : List String) : Prop :=
  ∃ pieces : List String, pieces ≠ [] ∧ (∀ p ∈ pieces, ';' ∉ p.toList) ∧
    value = Text.joinStrings ';' pieces ∧
    List.Forall₂ (fun p e : String => Text.Trims p.toList e.toList) pieces entries

/-- The entries of a value are its parts between semicolons, trimmed. -/
theorem areEntries_entries (value : String) : AreEntries value (entries value) := by
  have htoList : (Text.splitString ';' value).map String.toList = Text.split ';' value.toList := by
    rw [Text.splitString, List.map_map]
    exact (List.map_congr_left fun p _ => String.toList_ofList).trans (List.map_id _)
  refine ⟨Text.splitString ';' value, ?_, fun p hp => ?_, ?_, ?_⟩
  · intro h
    rw [h] at htoList
    exact Text.split_ne_nil _ _ htoList.symm
  · exact Text.not_mem_of_mem_split (htoList ▸ List.mem_map_of_mem hp)
  · rw [Text.joinStrings, htoList, Text.join_split, String.ofList_toList]
  · refine List.forall₂_map_right_iff.mpr (List.forall₂_same.mpr fun p _ => ?_)
    rw [Text.trimString, String.toList_ofList]
    exact Text.trims_trim p.toList

/-! ### Judgements -/

section

variable {value : String} {es : List String}

/-- Any origin is allowed by the asterisk alone. -/
theorem judges_any_iff : Judges value es (.ok .any) ↔ es = ["*"] := by
  refine ⟨fun h => ?_, fun h => h ▸ .any⟩
  cases h
  rfl

/-- The same origin is allowed by its word alone, in any case. -/
theorem judges_sameOrigin_iff :
    Judges value es (.ok .sameOrigin) ↔
      ∃ e, es = [e] ∧ Text.sameIgnoringCase e "sop" = true := by
  constructor
  · intro h
    cases h with
    | @sameOrigin entry h => exact ⟨entry, rfl, h⟩
  · rintro ⟨e, rfl, h⟩
    exact .sameOrigin h

/-- Several entries are refused as a whole if one of them stands for a policy. -/
theorem judges_combined_iff {shown : String} :
    Judges value es (.error (.combined shown)) ↔
      shown = value ∧ 1 < es.length ∧ ∃ e ∈ es, StandsForPolicy e := by
  constructor
  · intro h
    cases h with
    | combined hmore h => exact ⟨rfl, hmore, h⟩
  · rintro ⟨rfl, hmore, h⟩
    exact .combined hmore h

/-- Entries that are origins stand for no policy. -/
theorem judges_listed_iff {origins : List String} :
    Judges value es (.ok (.listed origins)) ↔ es.map Origin.normal? = origins.map some := by
  refine ⟨fun h => ?_, fun h => .listed (fun e he hpolicy => ?_) h⟩
  · cases h with
    | listed hsimple h => exact h
  · have hmem : none ∈ origins.map some := by
      rw [← h]
      exact List.mem_map.mpr ⟨e, he, normal?_of_standsForPolicy hpolicy⟩
    obtain ⟨origin, -, horigin⟩ := List.mem_map.mp hmem
    cases horigin

/-- A value lists the normal forms of its entries, if all of them have one. -/
theorem ofString?_eq_listed_iff {origins : List String} :
    ofString? value = .ok (.listed origins) ↔
      (entries value).map Origin.normal? = origins.map some :=
  judges_iff.symm.trans judges_listed_iff

/-- An entry is shown as no origin if it is the first without a normal form and none stands for a
policy. -/
theorem judges_notOrigin_iff {shown : String} :
    Judges value es (.error (.notOrigin shown)) ↔
      (∀ e ∈ es, ¬ StandsForPolicy e) ∧ ∃ front back, es = front ++ shown :: back ∧
        (∀ e ∈ front, (Origin.normal? e).isSome = true) ∧ Origin.normal? shown = none := by
  constructor
  · intro h
    cases h with
    | notOrigin hsimple hfront hentry => exact ⟨hsimple, _, _, rfl, hfront, hentry⟩
  · rintro ⟨hsimple, front, back, rfl, hfront, hentry⟩
    exact .notOrigin hsimple hfront hentry

end

end OriginPolicy

end Gateway
