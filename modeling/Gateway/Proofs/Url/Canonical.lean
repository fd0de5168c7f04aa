import Gateway.Proofs.Domain.Forms
import Gateway.Proofs.Ip.V6
import Gateway.Proofs.Url.Authority

/-!
# Addresses in canonical form

A host in canonical form is a domain name in small letters, an address of version 4, or one of
version 6 in brackets (`Host.IsCanonical`). Reading one gives a host that is written as the same
text (`Host.IsCanonical.exists_ofWebText?`).

An address of a scheme of the web that has nothing behind its host and port is read part by part:
whether it is an address at all is up to the host, and only a port that is the scheme's own is left
out (`Url.ofText?_parts`). So one that is nothing but a canonical host and maybe a port is read as
these (`Url.ofText?_bare`).
-/

namespace Gateway

/-! ### Texts without escapes -/

/-- A text without percent signs has no escapes. -/
theorem Url.unescape_of_not_mem {cs : List Char} (h : '%' ∉ cs) :
    unescape cs = Utf8.encode cs := by
  induction cs with
  | nil => rfl
  | cons c cs ih =>
    obtain ⟨hc, hcs⟩ := not_or.mp (mt List.mem_cons.mpr h)
    rw [unescape, ih hcs]
    · rfl
    · rintro a b rest rfl
      exact absurd rfl hc

namespace Host

/-- The name that a plain text writes is the text. -/
theorem bind_unescape_of_isPlain {cs : List Char} (h : Domain.IsPlain cs) :
    (Utf8.decode? (Url.unescape cs)).bind Domain.toAscii? = Domain.toAscii? cs := by
  rw [Url.unescape_of_not_mem (Domain.not_mem_of_isPlain h (by decide)), Utf8.decode?_encode,
    Option.bind_some]

theorem ne_bracket_of_isPlain {cs : List Char} (h : Domain.IsPlain cs) (rest : List Char) :
    cs ≠ '[' :: rest := by
  rintro rfl
  exact absurd (h _ List.mem_cons_self) (by decide)

/-- A name that is kept as it is is the host, unless it ends in a number. -/
theorem ofWebText?_of_toAscii? {cs : List Char} (hne : cs ≠ [])
    (h : Domain.toAscii? cs = some cs) :
    ofWebText? cs =
      if endsInNumber cs then
        match ((pieces cs).mapM number?).bind ofNumbers? with
        | some ip => .ok (.v4 ip)
        | none => .error .ipv4
      else .ok (.name (String.ofList cs)) := by
  have hplain := Domain.isPlain_toAscii? h
  rw [ofWebText?]
  · rw [bind_unescape_of_isPlain hplain, h]
    exact if_neg (by simpa using hne)
  · exact ne_bracket_of_isPlain hplain

/-- A plain name without Punycode is the host, unless it ends in a number. -/
theorem ofWebText?_of_isPlain {cs : List Char} (hne : cs ≠ []) (hplain : Domain.IsPlain cs)
    (hmark : ∀ label ∈ Text.split '.' cs, ¬ Domain.Label.codedMark <+: label)
    (hnumber : endsInNumber cs = false) : ofWebText? cs = .ok (.name (String.ofList cs)) := by
  rw [ofWebText?_of_toAscii? hne (Domain.toAscii?_of_isPlain hplain hmark), hnumber]
  rfl

/-- A plain text without an ASCII form is no host. -/
theorem ofWebText?_of_toAscii?_eq_none {cs : List Char} (hplain : Domain.IsPlain cs)
    (h : Domain.toAscii? cs = none) : ofWebText? cs = .error .domain := by
  rw [ofWebText?]
  · rw [bind_unescape_of_isPlain hplain, h]
  · exact ne_bracket_of_isPlain hplain

/-! ### Addresses of version 4 -/

theorem hexValue?_digit (n : Nat) : Text.hexValue? (Decimal.digit n) = some (n % 10) := by
  have h : n % 10 < 10 := Nat.mod_lt _ (by decide)
  unfold Decimal.digit
  generalize n % 10 = m at h
  decide +revert

theorem inBase_append_digit {cs : List Char} {m : Nat} (h : number?.inBase 10 cs = some m)
    (n : Nat) : number?.inBase 10 (cs ++ [Decimal.digit n]) = some (m * 10 + n % 10) := by
  unfold number?.inBase at h ⊢
  rw [List.foldl_append, h, List.foldl_cons, List.foldl_nil, Option.bind_some, hexValue?_digit]
  exact if_pos (Nat.mod_lt _ (by decide))

/-- The decimal digits of a number are read as that number. -/
theorem inBase_digits (n : Nat) : number?.inBase 10 (Decimal.digits n) = some n := by
  induction n using Decimal.digits.induct with
  | case1 n hn =>
    rw [Decimal.digits, if_pos hn]
    have hzero : number?.inBase 10 [] = some 0 := rfl
    have hdigit := inBase_append_digit hzero n
    rwa [Nat.zero_mul, Nat.zero_add, Nat.mod_eq_of_lt hn] at hdigit
  | case2 n hn ih =>
    rw [Decimal.digits, if_neg hn, inBase_append_digit ih]
    exact congrArg some (Nat.div_add_mod' n 10)

/-- A numeral that begins with no zero, or is one, is decimal. -/
theorem number?_digits (n : Nat) : number? (Decimal.digits n) = some n := by
  by_cases hn : n = 0
  · subst hn
    rw [Decimal.digits_zero]
    rfl
  · obtain ⟨c, cs, hcs, -, hc⟩ := Decimal.digits_eq_cons hn
    have hdigits := inBase_digits n
    rw [hcs] at hdigits ⊢
    -- the numerals to other bases begin with a zero
    have hzero (rest : List Char) : c :: cs ≠ '0' :: rest := fun h => hc (List.cons.inj h).1
    rw [number?, hdigits]
    · exact List.cons_ne_nil c cs
    · exact fun _ => hzero _
    · exact fun _ => hzero _
    · exact fun _ _ => hzero _

/-- Four octets are an address, with nothing left for the last one to fill. -/
theorem ofNumbers?_octets (ip : Ipv4) : ofNumbers? (ip.octets.map UInt8.toNat) = some ip := by
  obtain ⟨a, b, c, d⟩ := ip
  have ha := a.toNat_lt
  have hb := b.toNat_lt
  have hc := c.toNat_lt
  have hd := d.toNat_lt
  have hoctet {o : UInt8} {n : Nat} (h : n % 256 = o.toNat) : UInt8.ofNat n = o :=
    UInt8.toNat_inj.mp (UInt8.toNat_ofNat'.trans h)
  have hfits : 4 ≤ 4 ∧ [a.toNat, b.toNat, c.toNat].all (· ≤ 255) = true ∧
      d.toNat < Nat.pow 256 1 := by
    refine ⟨Nat.le_refl _, ?_, hd⟩
    simp only [List.all_cons, List.all_nil, Bool.and_true, Bool.and_eq_true, decide_eq_true_eq]
    omega
  refine (if_pos hfits).trans (congrArg some ?_)
  change Ipv4.ofNat ((((0 * 256 + a.toNat) * 256 + b.toNat) * 256 + c.toNat) * 256 + d.toNat) = _
  rw [Ipv4.ofNat, hoctet (o := a) (by omega), hoctet (o := b) (by omega),
    hoctet (o := c) (by omega), hoctet (o := d) (by omega)]

/-- The texts of the octets of an address. -/
def octetTexts (ip : Ipv4) : List (List Char) := ip.octets.map fun o => Decimal.digits o.toNat

theorem dot_not_mem_of_mem_octetTexts {ip : Ipv4} {p : List Char} (h : p ∈ octetTexts ip) :
    '.' ∉ p := by
  obtain ⟨o, -, rfl⟩ := List.mem_map.mp h
  exact Ipv4.dot_not_mem_digits _

theorem toAscii?_toText (ip : Ipv4) : Domain.toAscii? ip.toText = some ip.toText := by
  have hkept : List.Forall₂ Domain.Label.IsKept (octetTexts ip) (octetTexts ip) := by
    refine List.forall₂_same.mpr fun p hp => ?_
    have hdot := dot_not_mem_of_mem_octetTexts hp
    obtain ⟨o, -, rfl⟩ := List.mem_map.mp hp
    refine Domain.Label.isKept_of_isPlain (Domain.isPlain_digits _) hdot ?_
    rintro ⟨rest, hrest⟩
    have hmem : 'x' ∈ Decimal.digits o.toNat := hrest ▸ List.mem_cons_self
    exact absurd (Decimal.isDigit_of_mem_digits hmem) (by decide)
  refine Domain.toAscii?_join (List.cons_ne_nil _ _) hkept ?_
  refine Domain.isConsistent_of_isPlain fun p hp => ?_
  obtain ⟨o, -, rfl⟩ := List.mem_map.mp hp
  exact Domain.isPlain_digits _

theorem pieces_toText (ip : Ipv4) : pieces ip.toText = octetTexts ip := by
  have hsplit : Text.split '.' ip.toText = octetTexts ip :=
    Text.split_join (List.cons_ne_nil _ _) fun p => dot_not_mem_of_mem_octetTexts
  rw [pieces, hsplit]
  refine if_neg fun hlast => ?_
  exact Decimal.digits_ne_nil _ (Option.some.inj hlast)

/-- The text of an address ends in a number. -/
theorem endsInNumber_toText (ip : Ipv4) : endsInNumber ip.toText = true := by
  have hlast : (octetTexts ip).getLast? = some (Decimal.digits ip.d.toNat) := rfl
  have hdigits : (Decimal.digits ip.d.toNat).all Decimal.isDigit = true :=
    List.all_eq_true.mpr fun _ => Decimal.isDigit_of_mem_digits
  rw [endsInNumber, pieces_toText, hlast]
  dsimp only
  rw [hdigits, decide_eq_true (Decimal.digits_ne_nil _)]
  rfl

/-- An address of version 4 is read from its own text. -/
theorem ofWebText?_v4 (ip : Ipv4) : ofWebText? ip.toText = .ok (.v4 ip) := by
  have hnumbers : (octetTexts ip).mapM number? = some (ip.octets.map UInt8.toNat) := by
    simp only [octetTexts, Ipv4.octets, List.map_cons, List.map_nil, List.mapM_cons, List.mapM_nil,
      number?_digits]
    rfl
  rw [ofWebText?_of_toAscii? ip.toText_ne_nil (toAscii?_toText ip),
    if_pos (endsInNumber_toText ip), pieces_toText, hnumbers, Option.bind_some, ofNumbers?_octets]

/-! ### Addresses of version 6 -/

/-- An address of version 6 is read from its own text, in brackets. -/
theorem ofWebText?_v6 (ip : Ipv6) : ofWebText? ('[' :: ip.toText ++ [']']) = .ok (.v6 ip) := by
  change bracketed? (ip.toText ++ [']']) = _
  simp only [bracketed?, List.reverse_append, List.reverse_singleton, List.singleton_append,
    List.reverse_reverse, Ipv6.ofText?_toText]

/-! ### Canonical hosts -/

/-- A host in canonical form. A name whose last label is a number is none, as an address would be
meant. -/
inductive IsCanonical : List Char → Prop
  | name {text : List Char} (hne : text ≠ []) (hname : Domain.IsDnsName text)
    (hnumber : endsInNumber text = false) : IsCanonical text
  | v4 (ip : Ipv4) : IsCanonical ip.toText
  | v6 (ip : Ipv6) : IsCanonical ('[' :: ip.toText ++ [']'])

/-- A host in canonical form is read, and is written as it was. -/
theorem IsCanonical.exists_ofWebText? {text : List Char} (h : IsCanonical text) :
    ∃ host, ofWebText? text = .ok host ∧ host.toString.toList = text := by
  cases h with
  | name hne hname hnumber =>
    refine ⟨.name (String.ofList text), ?_, String.toList_ofList⟩
    rw [ofWebText?_of_toAscii? hne (Domain.toAscii?_of_isDnsName hname), hnumber]
    rfl
  | v4 ip => exact ⟨.v4 ip, ofWebText?_v4 ip, String.toList_ofList⟩
  | v6 ip => exact ⟨.v6 ip, ofWebText?_v6 ip, toList_toString_v6 ip⟩

/-! ### Hosts that are read again -/

theorem isReadable_v6 (ip : Ipv6) : Domain.IsReadable ('[' :: ip.toText ++ [']']) := by
  have hdigit (n : Nat) : Text.hexDigit n ≠ '.' := by
    have h : n % 16 < 16 := Nat.mod_lt _ (by decide)
    unfold Text.hexDigit
    generalize n % 16 = m at h
    decide +revert
  have hdot : '.' ∉ '[' :: ip.toText ++ [']'] := by
    refine List.not_mem_append (List.not_mem_cons_of_ne_of_not_mem (by decide) ?_) (by decide)
    exact fun hmem => ip.forall_mem_toText (P := (· ≠ '.')) (by decide) hdigit _ hmem rfl
  intro label hlabel code hcode
  rw [Text.split_eq_singleton hdot, List.mem_singleton] at hlabel
  -- what is written begins with a bracket, and Punycode with a letter
  exact absurd (List.cons.inj (hlabel.symm.trans hcode)).1 (by decide)

/-- A host is read again only if it is no name with more Punycode than is read. -/
theorem IsWeb.isReadable {host host' : Host} (h : IsWeb host)
    (hread : ofWebText? host.toString.toList = .ok host') :
    Domain.IsReadable host.toString.toList := by
  cases h with
  | v6 ip =>
    rw [toList_toString_v6]
    exact isReadable_v6 ip
  | v4 ip =>
    rw [toString, String.toList_ofList]
    exact Domain.isReadable_of_toAscii? ip.isPlain_toText (toAscii?_toText ip)
  | @name text domain hdomain hne hnumber =>
    have hplain := Domain.isPlain_toAscii? hdomain
    rw [toString, String.toList_ofList] at hread ⊢
    cases hform : Domain.toAscii? domain with
    | none => cases hread.symm.trans (ofWebText?_of_toAscii?_eq_none hplain hform)
    | some form => exact Domain.isReadable_of_toAscii? hplain hform

/-- **A host is read again** from what it is written as, and as the same, unless it is a name with
more Punycode than is read. -/
theorem IsWeb.ofWebText?_toString {host : Host} (h : IsWeb host)
    (hreadable : Domain.IsReadable host.toString.toList) :
    ofWebText? host.toString.toList = .ok host := by
  cases h with
  | v6 ip =>
    rw [toList_toString_v6]
    exact ofWebText?_v6 ip
  | v4 ip =>
    rw [toString, String.toList_ofList]
    exact ofWebText?_v4 ip
  | @name text domain hdomain hne hnumber =>
    rw [toString, String.toList_ofList] at hreadable ⊢
    rw [ofWebText?_of_toAscii? hne ((Domain.toAscii?_eq_self_iff hdomain).mpr hreadable), hnumber]
    rfl

end Host

/-! ### The parts of an address -/

namespace Host

/-- A text that can stand for a host in an address, whether or not it is one: visible characters
without separators, and colons and brackets only as in `IsEnclosed`. -/
structure IsPart (cs : List Char) : Prop where
  /-- There is something. -/
  ne_nil : cs ≠ []
  /-- It is read as it is. -/
  isVisible : Text.IsVisible cs
  /-- No other part of an address begins in it. -/
  not_mem : ∀ c ∈ ['/', '\\', '?', '#', '@'], c ∉ cs
  /-- No port begins in it. -/
  isEnclosed : IsEnclosed cs

theorem IsBareText.isPart {cs : List Char} (h : IsBareText cs) : IsPart cs := by
  refine ⟨?_, h.isVisible, fun c hc hmem => ?_, h.isEnclosed⟩
  · rcases h with ⟨hne, -⟩ | ⟨ip, rfl⟩
    · exact hne
    · exact List.cons_ne_nil _ _
  · have hother : Domain.isPlain c = false ∧ c ∉ [':', '[', ']'] := by
      have hall : ∀ c ∈ ['/', '\\', '?', '#', '@'],
          Domain.isPlain c = false ∧ c ∉ [':', '[', ']'] := forall_mem_of_all (by decide)
      exact hall c hc
    rcases h with ⟨-, hplain⟩ | ⟨ip, rfl⟩
    · exact Domain.not_mem_of_isPlain hplain hother.1 hmem
    · rcases List.mem_append.mp hmem with hmem | hmem
      · rcases List.mem_cons.mp hmem with rfl | hmem
        · exact hother.2 (by decide)
        · rcases ip.isPlain_or_of_mem_toText c hmem with hplain | rfl
          · cases hother.1.symm.trans hplain
          · exact hother.2 (by decide)
      · obtain rfl := List.mem_singleton.mp hmem
        exact hother.2 (by decide)

/-- A port has no separators either. -/
theorem IsPart.not_mem_portText {cs : List Char} (h : IsPart cs) (port : Option UInt16) :
    ∀ c ∈ ['/', '\\', '?', '#', '@'], c ∉ cs ++ Authority.portText port := by
  intro c hc hmem
  rcases List.mem_append.mp hmem with hmem | hmem
  · exact h.not_mem c hc hmem
  · have hother : Domain.isPlain c = false ∧ c ≠ ':' := by
      have hall : ∀ c ∈ ['/', '\\', '?', '#', '@'], Domain.isPlain c = false ∧ c ≠ ':' :=
        forall_mem_of_all (by decide)
      exact hall c hc
    cases port with
    | none => exact List.not_mem_nil hmem
    | some p =>
      rcases List.mem_cons.mp hmem with hcolon | hmem
      · exact hother.2 hcolon
      · exact Domain.not_mem_of_isPlain (Domain.isPlain_digits p.toNat) hother.1 hmem

end Host

namespace Authority

/-- What has neither a colon nor a bracket stands in the host. -/
theorem cutHost_append {front : List Char} (h : ∀ c ∈ front, c ≠ ':' ∧ c ≠ '[' ∧ c ≠ ']')
    (rest : List Char) :
    cutHost false (front ++ rest) = (front ++ (cutHost false rest).1, (cutHost false rest).2) := by
  induction front with
  | nil => rfl
  | cons c front ih =>
    obtain ⟨⟨hcolon, hopening, hclosing⟩, hfront⟩ := List.forall_mem_cons.mp h
    rw [List.cons_append, cutHost, if_neg fun hc => hcolon hc.1]
    dsimp only
    rw [if_neg hopening, if_neg hclosing, ih hfront]
    rfl

/-- A colon between brackets does not end a host. -/
theorem cutHost_inside {inner : List Char} (h : ∀ c ∈ inner, c ≠ '[' ∧ c ≠ ']')
    (rest : List Char) :
    cutHost true (inner ++ ']' :: rest) =
      (inner ++ ']' :: (cutHost false rest).1, (cutHost false rest).2) := by
  induction inner with
  | nil => rfl
  | cons c inner ih =>
    obtain ⟨⟨hopening, hclosing⟩, hinner⟩ := List.forall_mem_cons.mp h
    rw [List.cons_append, cutHost, if_neg fun hc => absurd hc.2 (by decide)]
    dsimp only
    rw [if_neg hopening, if_neg hclosing, ih hinner]
    rfl

/-- The host is what stands in front of the port. -/
theorem cutHost_portText {host : List Char} (h : Host.IsEnclosed host) (port : Option UInt16) :
    cutHost false (host ++ portText port) = (host, portText port) := by
  have hport : cutHost false (portText port) = ([], portText port) := by
    cases port with
    | none => rfl
    | some p => rfl
  rcases h with hplain | ⟨inner, rfl, hinner⟩
  · rw [cutHost_append hplain, hport, List.append_nil]
  · rw [List.append_assoc, List.singleton_append, List.cons_append, cutHost,
      if_neg fun hc => absurd hc.1 (by decide)]
    dsimp only
    rw [if_pos rfl, cutHost_inside hinner, hport]
    rfl

/-- A port is read, and left out if it is the scheme's own. -/
theorem portAfter?_portText (own : UInt16) (port : Option UInt16) :
    portAfter? (.web own) (portText port) =
      .ok (if port = some own then none else port, []) := by
  cases port with
  | none => rfl
  | some p =>
    have hle : p.toNat ≤ 65535 := Nat.le_of_lt_succ p.toNat_lt
    have hends : Decimal.EndsNumeral [] := nofun
    have htake := Decimal.takeWhile_digits_append p.toNat hends
    have hdrop := Decimal.dropWhile_digits_append p.toNat hends
    rw [List.append_nil] at htake hdrop
    have hport : portOf? (Decimal.digits p.toNat) = some p := by
      rw [portOf?, Decimal.value_digits, if_pos hle, UInt16.ofNat_toNat]
    change portAfter? (.web own) (':' :: Decimal.digits p.toNat) = _
    simp only [portAfter?, htake, hdrop, hport, Decimal.digits_ne_nil, false_or, Scheme.Kind.port?,
      Option.some.injEq, eq_comm (a := own)]

end Authority

namespace Url

theorem dropWhile_eq_self {p : Char → Bool} {cs : List Char} (h : ∀ c ∈ cs, p c = false) :
    cs.dropWhile p = cs := by
  cases cs with
  | nil => rfl
  | cons c cs => exact List.dropWhile_cons_of_neg (by simp [h c List.mem_cons_self])

theorem clean_of_isVisible {cs : List Char} (h : Text.IsVisible cs) : clean cs = cs := by
  have hend : ∀ c ∈ cs, decide (c.toNat ≤ 0x20) = false := fun c hc =>
    decide_eq_false (Nat.not_le_of_lt (h c hc).1)
  have hend' : ∀ c ∈ cs.reverse, decide (c.toNat ≤ 0x20) = false := fun c hc =>
    hend c (List.mem_reverse.mp hc)
  rw [clean]
  dsimp only
  rw [dropWhile_eq_self hend, dropWhile_eq_self hend', List.reverse_reverse]
  refine List.filter_eq_self.mpr fun c hc => decide_eq_true fun hbreak => ?_
  have hlow : 0x20 < c.toNat := (h c hc).1
  have hall : ['\t', '\n', '\r'].all (·.toNat ≤ 0x20) = true := by decide
  have hle : c.toNat ≤ 0x20 := of_decide_eq_true (List.all_eq_true.mp hall c hbreak)
  omega

theorem cut_of_not_mem {sep : Char} {cs : List Char} (h : sep ∉ cs) :
    cut sep cs = (cs, none) := by
  rw [cut, Text.cutAt?_eq_none_iff.mpr h]

end Url

/-! ### Whole addresses -/

/-- The scheme of an address is what stands in front of its colon. -/
theorem Scheme.cut?_append {cs : List Char} (hhead : cs.head?.any Char.isAlpha = true)
    (h : ∀ c ∈ cs, isLater c = true) (hlower : Text.lower cs = cs) (rest : List Char) :
    cut? (cs ++ ':' :: rest) = some (String.ofList cs, rest) := by
  have htake : (cs ++ ':' :: rest).takeWhile isLater = cs := by
    rw [List.takeWhile_append_of_pos h, List.takeWhile_cons_of_neg (by decide), List.append_nil]
  have hdrop : (cs ++ ':' :: rest).dropWhile isLater = ':' :: rest := by
    rw [List.dropWhile_append_of_pos h, List.dropWhile_cons_of_neg (by decide)]
  cases cs with
  | nil => cases hhead
  | cons c cs =>
    unfold cut?
    rw [htake, hdrop, hlower]
    exact if_pos hhead

theorem Scheme.cut?_web {scheme : String} {own : UInt16}
    (h : (scheme, own) ∈ Origin.webSchemes) (rest : List Char) :
    cut? (scheme.toList ++ "://".toList ++ rest) = some (scheme, '/' :: '/' :: rest) := by
  have hall : ∀ s ∈ Origin.webSchemes, s.1.toList.head?.any Char.isAlpha = true ∧
      s.1.toList.all isLater = true ∧ Text.lower s.1.toList = s.1.toList := by decide
  obtain ⟨hhead, hlater, hlower⟩ := hall _ h
  have happend := cut?_append hhead (List.all_eq_true.mp hlater) hlower ('/' :: '/' :: rest)
  rw [String.ofList_toList] at happend
  rw [List.append_assoc]
  exact happend

namespace Authority

/-- A user name and a password as they stand in front of a host. -/
def userText (info : Option (List Char)) : List Char := info.elim [] (· ++ ['@'])

/-- An authority as it is written. -/
def textOf (info : Option (List Char)) (host : List Char) (port : Option UInt16) : List Char :=
  userText info ++ (host ++ portText port)

/-- The user name and the password that are read there. -/
def usersOf (info : Option (List Char)) : String × String := info.elim ("", "") userOf

/-- What can stand in front of a host: visible characters, and no separators but those of hosts and
ports. -/
def IsUserInfo (info : Option (List Char)) : Prop :=
  ∀ cs ∈ info, Text.IsVisible cs ∧ ∀ c ∈ ['/', '\\', '?', '#'], c ∉ cs

theorem isUserInfo_none : IsUserInfo none := nofun

theorem forall_mem_userText {info : Option (List Char)} (h : IsUserInfo info) :
    Text.IsVisible (userText info) ∧ ∀ c ∈ ['/', '\\', '?', '#'], c ∉ userText info := by
  cases info with
  | none => exact ⟨by decide, fun c _ => List.not_mem_nil⟩
  | some cs =>
    obtain ⟨hvisible, hcs⟩ := h cs rfl
    have hsign : ∀ c ∈ ['/', '\\', '?', '#'], c ∉ ['@'] := forall_mem_of_all (by decide)
    exact ⟨Text.isVisible_append.mpr ⟨hvisible, by decide⟩,
      fun c hc => List.not_mem_append (hcs c hc) (hsign c hc)⟩

variable {info : Option (List Char)} {cs : List Char}

/-- An authority is read part by part. It is one if its host is. -/
theorem ofText?_parts (hpart : Host.IsPart cs) (own : UInt16) (port : Option UInt16) :
    ofText? (.web own) true (textOf info cs port) =
      (Host.ofWebText? cs).map fun host =>
        (⟨(usersOf info).1, (usersOf info).2, some host,
          if port = some own then none else port⟩, []) := by
  have hread : hostOf? (.web own) cs = (Host.ofWebText? cs).map some := by
    rw [hostOf?, if_neg (by simpa using hpart.ne_nil)]
    rfl
  have hsign : '@' ∉ cs ++ portText port := hpart.not_mem_portText port '@' (by decide)
  unfold ofText?
  extract_lets go
  have hgo (user password : String) : go (user, password, cs ++ portText port) =
      (Host.ofWebText? cs).map fun host =>
        (⟨user, password, some host, if port = some own then none else port⟩, []) := by
    simp only [go, cutHost_portText hpart.isEnclosed, hread]
    cases Host.ofWebText? cs with
    | error fault => rfl
    | ok host =>
      simp only [Except.map, ok_bind, portAfter?_portText]
      rfl
  cases info with
  | none =>
    have hcut : Text.cutAtLast? '@' (textOf none cs port) = none :=
      Text.cutAtLast?_eq_none_iff.mpr hsign
    rw [hcut]
    exact hgo "" ""
  | some info =>
    have hcut : Text.cutAtLast? '@' (textOf (some info) cs port) =
        some (info, cs ++ portText port) :=
      Text.cutAtLast?_eq_some_iff.mpr ⟨List.append_assoc info ['@'] _, hsign⟩
    rw [hcut]
    cases info with
    | nil =>
      dsimp only
      rw [Bool.not_true, Bool.and_false, if_neg Bool.false_ne_true]
      exact hgo "" ""
    | cons c info => exact hgo _ _

end Authority

namespace Url

variable {info : Option (List Char)} {cs : List Char} {host : Host} {port : Option UInt16}

/-- The characters of an authority. -/
theorem not_mem_authority (hinfo : Authority.IsUserInfo info) (hpart : Host.IsPart cs)
    (port : Option UInt16) :
    ∀ c ∈ ['/', '\\', '?', '#'], c ∉ Authority.textOf info cs port := by
  intro c hc
  have hall : ∀ c ∈ ['/', '\\', '?', '#'], c ∈ ['/', '\\', '?', '#', '@'] :=
    forall_mem_of_all (by decide)
  exact List.not_mem_append ((Authority.forall_mem_userText hinfo).2 c hc)
    (hpart.not_mem_portText port c (hall c hc))

theorem not_slash_of_mem (hinfo : Authority.IsUserInfo info) (hpart : Host.IsPart cs) :
    ∀ c ∈ Authority.textOf info cs port, (c == '/' || c == '\\') = false := by
  have hnot := not_mem_authority hinfo hpart port
  intro c hc
  rw [Bool.or_eq_false_iff, beq_eq_false_iff_ne, beq_eq_false_iff_ne]
  constructor
  · rintro rfl
    exact hnot '/' (by decide) hc
  · rintro rfl
    exact hnot '\\' (by decide) hc

/-- A text without slashes is the authority, with the empty path behind it. -/
theorem behindSlashes_parts (hinfo : Authority.IsUserInfo info) (hpart : Host.IsPart cs)
    (own : UInt16) (port : Option UInt16) :
    behindSlashes (.web own) true (Authority.textOf info cs port) =
      (Host.ofWebText? cs).map fun host =>
        (⟨(Authority.usersOf info).1, (Authority.usersOf info).2, some host,
          if port = some own then none else port⟩, [[]]) := by
  unfold behindSlashes
  extract_lets isSlash front path
  have hslash : ∀ c ∈ Authority.textOf info cs port, isSlash c = false :=
    not_slash_of_mem hinfo hpart
  have hfront : front = Authority.textOf info cs port :=
    List.takeWhile_eq_self_iff.mpr fun c hc => congrArg not (hslash c hc)
  have hpath : path = [] :=
    List.dropWhile_eq_nil_iff.mpr fun c hc => congrArg not (hslash c hc)
  rw [hfront, hpath, List.isEmpty_nil, Bool.and_true, Authority.ofText?_parts hpart]
  cases Host.ofWebText? cs with
  | error fault => rfl
  | ok host => rfl

/-- **An address of a scheme of the web** is read part by part, if nothing follows the host and the
port. It is one if its host is. -/
theorem ofText?_parts {scheme : String} {own : UInt16}
    (hscheme : (scheme, own) ∈ Origin.webSchemes) (hinfo : Authority.IsUserInfo info)
    (hpart : Host.IsPart cs) (port : Option UInt16) :
    ofText? (scheme.toList ++ "://".toList ++ Authority.textOf info cs port) =
      (Host.ofWebText? cs).map fun host =>
        ⟨scheme, some ⟨(Authority.usersOf info).1, (Authority.usersOf info).2, some host,
          if port = some own then none else port⟩, "/", none, none⟩ := by
  have hvisible : Text.IsVisible
      (scheme.toList ++ "://".toList ++ Authority.textOf info cs port) := by
    have hall : ∀ s ∈ Origin.webSchemes, Text.IsVisible (s.1.toList ++ "://".toList) := by decide
    exact Text.isVisible_append.mpr ⟨hall _ hscheme, Text.isVisible_append.mpr
      ⟨(Authority.forall_mem_userText hinfo).1,
        Text.isVisible_append.mpr ⟨hpart.isVisible, Authority.isVisible_portText port⟩⟩⟩
  have hslashes : ('/' :: '/' :: Authority.textOf info cs port).dropWhile
      (fun c => c == '/' || c == '\\') = Authority.textOf info cs port :=
    dropWhile_eq_self (not_slash_of_mem hinfo hpart)
  have hnot {d : Char} (hd : d ∈ ['/', '\\', '?', '#']) (hslash : d ≠ '/') :
      d ∉ '/' :: '/' :: Authority.textOf info cs port :=
    List.not_mem_cons_of_ne_of_not_mem hslash
      (List.not_mem_cons_of_ne_of_not_mem hslash (not_mem_authority hinfo hpart port d hd))
  have hnumber := hnot (d := '#') (by decide) (by decide)
  have hmark := hnot (d := '?') (by decide) (by decide)
  rw [ofText?, clean_of_isVisible hvisible, Scheme.cut?_web hscheme]
  simp only [cut_of_not_mem hnumber, cut_of_not_mem hmark, Origin.kind_of_mem_webSchemes hscheme,
    ofRest, hslashes, Option.isNone_none, Bool.and_self, behindSlashes_parts hinfo hpart]
  cases Host.ofWebText? cs with
  | error fault => rfl
  | ok host => rfl

/-- An address of nothing but a host and a port is read as these. -/
theorem ofText?_bare {scheme : String} {own : UInt16}
    (hscheme : (scheme, own) ∈ Origin.webSchemes) (hbare : Host.IsBareText cs)
    (hhost : Host.ofWebText? cs = .ok host) (port : Option UInt16) :
    ofText? (scheme.toList ++ "://".toList ++ (cs ++ Authority.portText port)) =
      .ok ⟨scheme, some ⟨"", "", some host, if port = some own then none else port⟩, "/", none,
        none⟩ := by
  have hread := ofText?_parts hscheme Authority.isUserInfo_none hbare.isPart port
  rwa [hhost] at hread

end Url

end Gateway
