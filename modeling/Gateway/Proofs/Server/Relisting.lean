import Gateway.Proofs.Domain.Forms
import Gateway.Proofs.Server.Listing

/-!
# Lists that are read again

The origins of a list are in normal form, and most often they are what is listed for them when they
are taken as the entries of a policy. There are two exceptions. A host may have a semicolon in it,
which then stands between two entries; and the ASCII form of a name may have more Punycode than is
read. Without these the list is kept as it is (`OriginPolicy.ofString?_joinStrings_iff`).

Which origins a list allows is up to letter case, and does not depend on where a request was sent
to.
-/

namespace Gateway

/-! ### Joined texts -/

namespace Text

theorem isBlank_of_isVisible {cs : List Char} (h : IsVisible cs) : ∀ c ∈ cs, isBlank c = false := by
  intro c hc
  obtain ⟨hlow, hhigh⟩ := h c hc
  unfold isBlank
  simp only [Bool.or_eq_false_iff, Bool.and_eq_false_iff, decide_eq_false_iff_not,
    beq_eq_false_iff_ne]
  omega

/-- A visible text has no blanks at its ends. -/
theorem trim_of_isVisible {cs : List Char} (h : IsVisible cs) : trim cs = cs := by
  have hback : ∀ c ∈ cs.reverse, isBlank c = false := fun c hc =>
    isBlank_of_isVisible h c (List.mem_reverse.mp hc)
  rw [trim, Url.dropWhile_eq_self (isBlank_of_isVisible h), trimEnd, Url.dropWhile_eq_self hback,
    List.reverse_reverse]

/-- A text has one piece more than separators. -/
theorem length_split (sep : Char) (cs : List Char) : (split sep cs).length = cs.count sep + 1 := by
  induction cs with
  | nil => rfl
  | cons c cs ih =>
    unfold split
    by_cases hc : c = sep
    · rw [if_pos hc, List.length_cons, ih, hc, List.count_cons_self]
    · rw [if_neg hc, List.count_cons_of_ne hc, ← ih]
      cases hs : split sep cs with
      | nil => exact absurd hs (split_ne_nil sep cs)
      | cons p ps => rfl

/-- The separators of a joined text are those between its pieces and those in them. -/
theorem count_join (sep : Char) {ps : List (List Char)} (h : ps ≠ []) :
    (join sep ps).count sep + 1 = ps.length + ps.flatten.count sep := by
  induction ps with
  | nil => exact absurd rfl h
  | cons p ps ih =>
    rw [List.flatten_cons, List.count_append, List.length_cons]
    cases ps with
    | nil =>
      change p.count sep + 1 = _
      rw [List.flatten_nil, List.count_nil, List.length_nil]
      omega
    | cons q qs =>
      have hrest := ih (List.cons_ne_nil q qs)
      change (p ++ sep :: join sep (q :: qs)).count sep + 1 = _
      rw [List.count_append, List.count_cons_self]
      omega

end Text

/-! ### Origins -/

namespace Origin

/-- The host that is written in an origin. -/
def HasHost (origin : String) (host : List Char) : Prop :=
  ∃ scheme own port, (scheme, own) ∈ webSchemes ∧ Host.IsBareText host ∧
    origin.toList = scheme.toList ++ "://".toList ++ (host ++ Authority.portText port)

/-- An origin has one host. -/
theorem HasHost.unique {origin : String} {host host' : List Char} (h : HasHost origin host)
    (h' : HasHost origin host') : host = host' := by
  obtain ⟨scheme, own, port, hscheme, hbare, horigin⟩ := h
  obtain ⟨scheme', own', port', hscheme', hbare', horigin'⟩ := h'
  have hcut := Scheme.cut?_web hscheme (host ++ Authority.portText port)
  rw [← horigin, horigin', Scheme.cut?_web hscheme'] at hcut
  have hrest : host' ++ Authority.portText port' = host ++ Authority.portText port := by
    simpa using congrArg (Option.map Prod.snd) hcut
  have hparts := congrArg Text.hostAndPort hrest
  rw [hostAndPort_append_portText hbare.isEnclosed,
    hostAndPort_append_portText hbare'.isEnclosed] at hparts
  exact (congrArg Prod.fst hparts).symm

/-- The host of an origin can be read. -/
def IsReadable (origin : String) : Prop := ∃ host, HasHost origin host ∧ Domain.IsReadable host

/-- **An origin is its own normal form** if its host can be read. -/
theorem normal?_eq_self_iff {entry origin : String} (h : normal? entry = some origin) :
    normal? origin = some origin ↔ IsReadable origin := by
  obtain ⟨scheme, own, front, host, port, hscheme, hfront, hport, horigin⟩ := exists_of_normal? h
  have hweb := Host.isWeb_of_ofWebText? hfront
  have hwritten : origin.toList = scheme.toList ++ "://".toList ++
      (host.toString.toList ++ Authority.portText port) := by
    rw [horigin, String.toList_append, String.toList_append, Authority.toList_hostAndPort rfl]
  have hhas : HasHost origin host.toString.toList :=
    ⟨scheme, own, port, hscheme, hweb.isBareText, hwritten⟩
  have hself := normal?_parts hscheme Authority.isUserInfo_none hweb.isBareText.isPart port hwritten
  constructor
  · intro hkept
    obtain ⟨host', hread, -⟩ := Option.map_eq_some_iff.mp (hself.symm.trans hkept)
    exact ⟨_, hhas, hweb.isReadable (ok_of_toOption hread)⟩
  · rintro ⟨host', hhas', hreadable⟩
    obtain rfl := hhas'.unique hhas
    rw [hself, hweb.ofWebText?_toString hreadable, horigin, if_neg hport]
    rfl

end Origin

/-! ### Lists -/

namespace OriginPolicy

/-- There is one entry more than there are semicolons. -/
theorem length_entries (value : String) :
    (entries value).length = value.toList.count ';' + 1 := by
  rw [entries, Text.splitString, List.length_map, List.length_map, Text.length_split]

/-- Origins that are joined to a text with as many entries have no semicolons. -/
theorem not_mem_of_length_entries {origins : List String} (hne : origins ≠ [])
    (h : (entries (Text.joinStrings ';' origins)).length = origins.length) :
    ∀ o ∈ origins, ';' ∉ o.toList := by
  have hpieces : origins.map String.toList ≠ [] := by simpa using hne
  have hcount := Text.count_join ';' hpieces
  rw [length_entries, Text.joinStrings, String.toList_ofList, hcount, List.length_map] at h
  have hnone : ';' ∉ (origins.map String.toList).flatten := List.count_eq_zero.mp (by omega)
  intro o ho hmem
  exact hnone (List.mem_flatten.mpr ⟨o.toList, List.mem_map_of_mem ho, hmem⟩)

/-- A list is what is made of its origins, joined to one text, if none of them has a semicolon and
their hosts can be read. -/
theorem ofString?_joinStrings_iff {value : String} {origins : List String}
    (h : ofString? value = .ok (.listed origins)) :
    ofString? (Text.joinStrings ';' origins) = .ok (.listed origins) ↔
      ∀ o ∈ origins, ';' ∉ o.toList ∧ Origin.IsReadable o := by
  obtain ⟨hne, hnormal⟩ := exists_of_ofString? h
  have htrim : origins.map Text.trimString = origins := by
    refine (List.map_congr_left fun o ho => ?_).trans (List.map_id origins)
    obtain ⟨entry, hentry⟩ := hnormal o ho
    rw [Text.trimString, Text.trim_of_isVisible (Origin.isVisible_of_normal? hentry),
      String.ofList_toList, id]
  rw [ofString?_eq_listed_iff]
  constructor
  · intro hmap
    have hclean : ∀ o ∈ origins, ';' ∉ o.toList := by
      refine not_mem_of_length_entries hne ?_
      simpa using congrArg List.length hmap
    rw [entries_joinStrings hne hclean, htrim] at hmap
    intro o ho
    obtain ⟨entry, hentry⟩ := hnormal o ho
    exact ⟨hclean o ho, (Origin.normal?_eq_self_iff hentry).mp (List.map_inj_left.mp hmap o ho)⟩
  · intro hkept
    rw [entries_joinStrings hne fun o ho => (hkept o ho).1, htrim]
    refine List.map_congr_left fun o ho => ?_
    obtain ⟨entry, hentry⟩ := hnormal o ho
    exact (Origin.normal?_eq_self_iff hentry).mpr (hkept o ho).2

/-- **A list is read again** from its origins, joined to one text, exactly if none of them has a
semicolon and their hosts can be read. An origin is allowed by a list, wherever the request was sent
to, exactly if it is on the list up to letter case. -/
theorem lists_again {value : String} {origins : List String}
    (h : ofString? value = .ok (.listed origins)) :
    (ofString? (Text.joinStrings ';' origins) = .ok (.listed origins) ↔
      ∀ o ∈ origins, ';' ∉ o.toList ∧ Origin.IsReadable o) ∧
    ∀ other host, (listed origins).allows other host = true ↔
      ∃ o ∈ origins, Text.lower other.toList = Text.lower o.toList := by
  refine ⟨ofString?_joinStrings_iff h, fun other host => ?_⟩
  rw [allows, List.any_eq_true]
  refine exists_congr fun o => and_congr_right fun _ => ?_
  rw [Text.sameIgnoringCase_iff, eq_comm]

theorem lists_again_addresses :
    let origins := ["http://[::1]", "https://[2001:db8::2]:8443"]
    ofString? "HTTP://[0:0::1]:80/; https://[2001:DB8::2]:8443" = .ok (.listed origins) ∧
    ofString? "http://[::1];https://[2001:db8::2]:8443" = .ok (.listed origins) ∧
    (listed origins).allows "HTTPS://[2001:DB8::2]:8443" none = true ∧
    (listed origins).allows "https://[2001:db8::2]" none = false := by
  intro origins
  have hlisted : ofString? "HTTP://[0:0::1]:80/; https://[2001:DB8::2]:8443" =
      .ok (.listed origins) := by decide +kernel
  have hreadable (scheme : String) (own : UInt16) (ip : Ipv6) (port : Option UInt16)
      (hscheme : (scheme, own) ∈ Origin.webSchemes) {o : String}
      (ho : o.toList = scheme.toList ++ "://".toList ++
        ('[' :: ip.toText ++ [']'] ++ Authority.portText port)) : Origin.IsReadable o :=
    ⟨_, ⟨scheme, own, port, hscheme, .inr ⟨ip, rfl⟩, ho⟩, Host.isReadable_v6 ip⟩
  have hkept : ∀ o ∈ origins, ';' ∉ o.toList ∧ Origin.IsReadable o := by
    refine List.forall_mem_cons.mpr ⟨⟨by decide, ?_⟩, List.forall_mem_singleton.mpr ⟨by decide, ?_⟩⟩
    · exact hreadable "http" 80 ⟨[0, 0, 0, 0, 0, 0, 0, 1], rfl⟩ none (by decide) (by decide +kernel)
    · exact hreadable "https" 443 ⟨[0x2001, 0xDB8, 0, 0, 0, 0, 0, 2], rfl⟩ (some 8443) (by decide)
        (by decide +kernel)
  obtain ⟨hagain, hallows⟩ := lists_again hlisted
  refine ⟨hlisted, hagain.mpr hkept, (hallows _ _).mpr ?_, Bool.eq_false_iff.mpr fun hother => ?_⟩
  · exact ⟨"https://[2001:db8::2]:8443", by decide, by decide⟩
  · obtain ⟨o, ho, hsame⟩ := (hallows _ _).mp hother
    revert o
    decide

/-- A semicolon that is written as an escape gets into a host, where it is taken for the end of an
entry. -/
theorem semicolon_splits_origin :
    ofString? "http://a%3Bb" = .ok (.listed ["http://a;b"]) ∧
      ofString? (Text.joinStrings ';' ["http://a;b"]) = .error (.notOrigin "b") := by
  have hnormal (entry : String) {cs : List Char} (hpart : Host.IsPart cs) {host : Host}
      (hhost : Host.ofWebText? cs = .ok host)
      (hentry : entry.toList = "http".toList ++ "://".toList ++ (cs ++ Authority.portText none)) :
      Origin.normal? entry = some ("http" ++ "://" ++ (host.toString ++ "")) := by
    have hparts := Origin.normal?_parts (by decide : ("http", 80) ∈ Origin.webSchemes)
      Authority.isUserInfo_none hpart none hentry
    rw [hhost] at hparts
    exact hparts
  have hescaped : Host.ofWebText? "a%3Bb".toList = .ok (.name "a;b") := by
    have hname : Domain.toAscii? "a;b".toList = some "a;b".toList :=
      Domain.toAscii?_of_isPlain (by decide) (by decide)
    have hdecoded : Utf8.decode? (Url.unescape "a%3Bb".toList) = some "a;b".toList := by
      decide +kernel
    rw [Host.ofWebText?]
    · rw [hdecoded, Option.bind_some, hname]
      exact if_neg (by decide)
    · exact fun rest hbracket => absurd (List.cons.inj hbracket).1 (by decide)
  have hfront : Host.ofWebText? "a".toList = .ok (.name "a") :=
    Host.ofWebText?_of_isPlain (by decide) (by decide) (by decide) (by decide)
  constructor
  · have hpart : Host.IsPart "a%3Bb".toList :=
      ⟨by decide, by decide, forall_mem_of_all (by decide), .inl (forall_mem_of_all (by decide))⟩
    have hentries : entries "http://a%3Bb" = ["http://a%3Bb"] := by decide
    rw [ofString?_eq_listed_iff, hentries]
    exact congrArg (fun o => [o]) (hnormal _ hpart hescaped (by decide))
  · have hpart : Host.IsPart "a".toList := (Host.isBareText_of_ofWebText? hfront).isPart
    have hentries : entries (Text.joinStrings ';' ["http://a;b"]) = ["http://a", "b"] := by decide
    have hnone : Origin.normal? "b" = none := by
      unfold Origin.normal? Url.ofString?
      rw [Url.ofText?_of_not_mem (by decide)]
    have hsome := Option.isSome_of_eq_some (hnormal "http://a" hpart hfront (by decide))
    have hjudged : Judges (Text.joinStrings ';' ["http://a;b"])
        (entries (Text.joinStrings ';' ["http://a;b"])) (.error (.notOrigin "b")) := by
      rw [hentries]
      exact judges_notOrigin_iff.mpr
        ⟨by decide, ["http://a"], [], rfl, List.forall_mem_singleton.mpr hsome, hnone⟩
    exact judges_iff.mp hjudged

end OriginPolicy

end Gateway
