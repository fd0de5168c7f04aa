import Gateway.Proofs.Server.Entries
import Gateway.Proofs.Url.Canonical

/-!
# Requests from their own origin

The policy for requests from their own origin compares two texts: the host and port of the origin,
put together again, and the host that the request was sent to. As the text of the request is cut in
only one way, the comparison holds of the host and of the port (`Origin.isAt_iff`), so no origin of
another host or port is let pass (`OriginPolicy.allows_only_same_authority`).

The other way round, an origin that is written as the request's own address is let pass, as reading
keeps canonical hosts as they are (`OriginPolicy.allows_own_authority`). There is one exception: a
port that is the scheme's own is lost when the origin is read, and then missed in the text of the
request (`OriginPolicy.refuses_own_port`).
-/

namespace Gateway

/-- The host that an address names, and its port, if one is given that is not the scheme's own. -/
def Url.Names (u : Url) (host : Host) (port : Option UInt16) : Prop :=
  ∃ a, u.authority = some a ∧ a.host = some host ∧ a.port = port

namespace Url.Names

variable {u : Url} {host : Host} {port : Option UInt16}

theorem host_eq (h : u.Names host port) : u.host = some host := by
  obtain ⟨a, ha, hhost, -⟩ := h
  rw [Url.host, ha, Option.bind_some, hhost]

/-- The host of an origin that is read has its colons in brackets. -/
theorem isEnclosed {s : String} (h : u.Names host port) (hu : Url.ofString? s = .ok u) :
    Host.IsEnclosed host.toString.toList := by
  obtain ⟨a, ha, hhost, -⟩ := h
  obtain ⟨front, hfront⟩ := (Url.parts_of_ofText? hu ha).1 host hhost
  split at hfront
  · exact (Host.isBareText_of_ofWebText? hfront).isEnclosed
  · exact Host.isEnclosed_of_ofText? hfront

/-- A port that is read is never the one of the scheme. -/
theorem port_ne {s : String} (h : u.Names host port) (hu : Url.ofString? s = .ok u) :
    ∀ p, port = some p → (Scheme.kind u.scheme).port? ≠ some p := by
  obtain ⟨a, ha, -, rfl⟩ := h
  exact (Url.parts_of_ofText? hu ha).2

end Url.Names

/-- Whether a text names a host and a port: what stands in front of its last colon outside brackets
is the host, up to letter case, and what stands behind it is the numeral of the port. -/
def Text.Addresses (text : String) (host : Host) (port : Option UInt16) : Prop :=
  Text.lower (Text.hostAndPort text.toList).1 = Text.lower host.toString.toList ∧
    (Text.hostAndPort text.toList).2 = port.map fun p => Decimal.digits p.toNat

/-- A text names one host, up to letter case, and one port. -/
theorem Text.Addresses.unique {text : String} {host host' : Host} {port port' : Option UInt16}
    (h : Text.Addresses text host port) (h' : Text.Addresses text host' port') :
    Text.lower host.toString.toList = Text.lower host'.toString.toList ∧ port = port' := by
  refine ⟨h.1.symm.trans h'.1, ?_⟩
  refine Option.map_injective (fun p q hpq => ?_) (h.2.symm.trans h'.2)
  have hvalue := congrArg Decimal.value hpq
  rw [Decimal.value_digits, Decimal.value_digits] at hvalue
  exact UInt16.toNat_inj.mp hvalue

namespace Origin

/-- An origin is at a place if it names its host and its port. -/
theorem isAt_iff {origin text : String} :
    isAt origin text = true ↔ ∃ u host port, Url.ofString? origin = .ok u ∧ u.Names host port ∧
      Text.Addresses text host port := by
  constructor
  · intro h
    unfold isAt at h
    split at h
    · cases h
    next u hu =>
    split at h
    · cases h
    next a ha =>
    obtain ⟨hsome, hsame⟩ := Bool.and_eq_true_iff.mp h
    obtain ⟨host, hhost⟩ := Option.isSome_iff_exists.mp hsome
    have hnames : u.Names host a.port := ⟨a, ha, hhost, rfl⟩
    refine ⟨u, host, a.port, hu, hnames, ?_⟩
    rw [Text.sameIgnoringCase, Authority.toList_hostAndPort hhost] at hsame
    exact (sameLetters_portText_iff (hnames.isEnclosed hu) a.port).mp hsame
  · rintro ⟨u, host, port, hu, hnames, haddresses⟩
    have hsame := (sameLetters_portText_iff (hnames.isEnclosed hu) port).mpr haddresses
    obtain ⟨a, ha, hhost, rfl⟩ := hnames
    unfold isAt
    rw [hu]
    dsimp only
    rw [ha]
    dsimp only
    rw [hhost, Text.sameIgnoringCase, Authority.toList_hostAndPort hhost, hsame]
    rfl

/-- An origin of nothing but a host and a port is at the place that these are, unless it writes the
port that is its scheme's own. -/
theorem isAt_bare_iff {scheme : String} {own : UInt16} (hscheme : (scheme, own) ∈ webSchemes)
    {cs : List Char} {host : Host} (hhost : Host.ofWebText? cs = .ok host)
    (hcs : host.toString.toList = cs) (port : Option UInt16) {text : String}
    (htext : Text.sameLetters (cs ++ Authority.portText port) text.toList = true) :
    isAt (scheme ++ "://" ++ String.ofList (cs ++ Authority.portText port)) text = true ↔
      port ≠ some own := by
  have hbare : Host.IsBareText cs := hcs ▸ Host.isBareText_of_ofWebText? hhost
  obtain ⟨hname, hport⟩ := (sameLetters_portText_iff hbare.isEnclosed port).mp htext
  have hread := Url.ofText?_bare hscheme hbare hhost port
  have horigin : (scheme ++ "://" ++ String.ofList (cs ++ Authority.portText port)).toList =
      scheme.toList ++ "://".toList ++ (cs ++ Authority.portText port) := by
    rw [String.toList_append, String.toList_append,
      String.toList_ofList (l := cs ++ Authority.portText port)]
  rw [← horigin] at hread
  constructor
  · -- the port of the address that was read is the one that the text names
    intro hat
    obtain ⟨u, host', port', hu, ⟨a, ha, -, rfl⟩, -, hport'⟩ := isAt_iff.mp hat
    obtain rfl := Except.ok.inj (hu.symm.trans hread)
    obtain rfl := Option.some.inj ha
    rintro rfl
    rw [hport] at hport'
    simp at hport'
  · intro hne
    refine isAt_iff.mpr ⟨_, host, port, hread, ⟨_, rfl, rfl, if_neg hne⟩, ?_, hport⟩
    rw [hname, hcs]

end Origin

namespace OriginPolicy

/-- An origin is the same if it is at the host that the request is sent to. -/
theorem sameOrigin_allows_iff {origin : String} {host : Option String} :
    sameOrigin.allows origin host = true ↔
      ∃ text, host = some text ∧ Origin.isAt origin text = true := by
  cases host with
  | none => exact ⟨nofun, fun ⟨_, h, _⟩ => nomatch h⟩
  | some text => exact ⟨fun h => ⟨text, rfl, h⟩, fun ⟨_, h, hat⟩ => Option.some.inj h ▸ hat⟩

/-- **No foreign origin is let pass.** An origin is allowed exactly if it is an absolute address
with a host, and the request was sent to a text that names this host and the address's own port. So
two origins that are allowed to requests for one text have one host, up to letter case, and one
port. Without a text nothing is allowed. An origin that is no absolute address, as `null`, which is
written for an opaque one, or that has no host, is never allowed. -/
theorem allows_only_same_authority (origin : String) (host : Option String) :
    (sameOrigin.allows origin host = true ↔
      ∃ text u h port, host = some text ∧ Url.ofString? origin = .ok u ∧ u.Names h port ∧
        (∀ p, port = some p → (Scheme.kind u.scheme).port? ≠ some p) ∧
        Text.Addresses text h port) ∧
    (∀ other, sameOrigin.allows origin host = true → sameOrigin.allows other host = true →
      ∃ u u' h h' port, Url.ofString? origin = .ok u ∧ Url.ofString? other = .ok u' ∧
        u.Names h port ∧ u'.Names h' port ∧
        Text.lower h.toString.toList = Text.lower h'.toString.toList) ∧
    sameOrigin.allows origin none = false ∧
    sameOrigin.allows "null" host = false ∧
    (∀ fault, Url.ofString? origin = .error fault → sameOrigin.allows origin host = false) ∧
    ∀ u, Url.ofString? origin = .ok u → u.host = none →
      sameOrigin.allows origin host = false := by
  have hiff (origin : String) : sameOrigin.allows origin host = true ↔
      ∃ text u h port, host = some text ∧ Url.ofString? origin = .ok u ∧ u.Names h port ∧
        (∀ p, port = some p → (Scheme.kind u.scheme).port? ≠ some p) ∧
        Text.Addresses text h port := by
    rw [sameOrigin_allows_iff]
    constructor
    · rintro ⟨text, rfl, hat⟩
      obtain ⟨u, h, port, hu, hnames, haddresses⟩ := Origin.isAt_iff.mp hat
      exact ⟨text, u, h, port, rfl, hu, hnames, hnames.port_ne hu, haddresses⟩
    · rintro ⟨text, u, h, port, rfl, hu, hnames, -, haddresses⟩
      exact ⟨text, rfl, Origin.isAt_iff.mpr ⟨u, h, port, hu, hnames, haddresses⟩⟩
  have hrelative {origin : String} {fault : UrlFault}
      (hfault : Url.ofString? origin = .error fault) :
      sameOrigin.allows origin host = false := by
    refine Bool.eq_false_iff.mpr fun hallows => ?_
    obtain ⟨-, u, -, -, -, hu, -⟩ := (hiff origin).mp hallows
    cases hfault.symm.trans hu
  refine ⟨hiff origin, fun other horigin hother => ?_, rfl,
    hrelative (Url.ofText?_of_not_mem (by decide)), fun fault => hrelative, fun u hu hnone => ?_⟩
  · obtain ⟨text, u, h, port, htext, hu, hnames, -, haddresses⟩ := (hiff origin).mp horigin
    obtain ⟨text', u', h', port', htext', hu', hnames', -, haddresses'⟩ := (hiff other).mp hother
    obtain rfl := Option.some.inj (htext.symm.trans htext')
    obtain ⟨hsame, rfl⟩ := haddresses.unique haddresses'
    exact ⟨u, u', h, h', port, hu, hu', hnames, hnames', hsame⟩
  · refine Bool.eq_false_iff.mpr fun hallows => ?_
    obtain ⟨-, u', h, port, -, hu', hnames, -⟩ := (hiff origin).mp hallows
    obtain rfl := Except.ok.inj (hu.symm.trans hu')
    cases hnone.symm.trans hnames.host_eq

/-! ### The own origin -/

/-- **Requests from their own origin pass**, whatever the scheme and the host are and in every
letter case, unless the origin writes a port that is its scheme's own. -/
theorem allows_own_authority {scheme : String} {own : UInt16}
    (hscheme : (scheme, own) ∈ Origin.webSchemes) {host : List Char}
    (hhost : Host.IsCanonical host) (port : Option UInt16) {text : String}
    (htext : Text.sameLetters (host ++ Authority.portText port) text.toList = true) :
    sameOrigin.allows (scheme ++ "://" ++ String.ofList (host ++ Authority.portText port))
      (some text) = true ↔ port ≠ some own := by
  obtain ⟨host', hread, hwritten⟩ := hhost.exists_ofWebText?
  exact Origin.isAt_bare_iff hscheme hread hwritten port htext

private theorem isCanonical_gateway : Host.IsCanonical "gw.example.com".toList := by
  have hlabel {text : List Char} (hchars : text.all Domain.isHostCharacter = true)
      (hmark : ¬ Domain.Label.codedMark <+: text) : Domain.IsDnsLabel text text :=
    .plain (List.all_eq_true.mp hchars) hmark
  refine .name (by decide) ⟨["gw".toList, "example".toList, "com".toList], _, by decide, by decide,
    .cons (hlabel ?_ ?_) (.cons (hlabel ?_ ?_) (.cons (hlabel ?_ ?_) .nil)), by decide⟩ (by decide)
  all_goals decide

theorem allows_own_authority_capitals :
    sameOrigin.allows "https://gw.example.com:8443" (some "GW.Example.COM:8443") = true := by
  have htext : Text.sameLetters ("gw.example.com".toList ++ Authority.portText (some 8443))
      "GW.Example.COM:8443".toList = true := by decide +kernel
  have horigin : "https" ++ "://" ++
      String.ofList ("gw.example.com".toList ++ Authority.portText (some 8443)) =
      "https://gw.example.com:8443" := by decide +kernel
  have hallows := (allows_own_authority (by decide : ("https", 443) ∈ Origin.webSchemes)
    isCanonical_gateway (some 8443) htext).mpr (by decide)
  exact horigin ▸ hallows

/-- An origin that writes the port of its scheme is refused at its own host. -/
theorem refuses_own_port :
    sameOrigin.allows "https://gw.example.com:443" (some "gw.example.com:443") = false := by
  have htext : Text.sameLetters ("gw.example.com".toList ++ Authority.portText (some 443))
      "gw.example.com:443".toList = true := by decide +kernel
  have horigin : "https" ++ "://" ++
      String.ofList ("gw.example.com".toList ++ Authority.portText (some 443)) =
      "https://gw.example.com:443" := by decide +kernel
  obtain ⟨host, hread, hwritten⟩ := isCanonical_gateway.exists_ofWebText?
  have hat := Origin.isAt_bare_iff (by decide : ("https", 443) ∈ Origin.webSchemes) hread hwritten
    (some 443) htext
  rw [horigin] at hat
  refine Bool.eq_false_iff.mpr fun hallows => ?_
  obtain ⟨text, hsome, hthere⟩ := sameOrigin_allows_iff.mp hallows
  exact hat.mp (Option.some.inj hsome ▸ hthere) rfl

end OriginPolicy

end Gateway
