import Gateway.Proofs.Text.Numerals
import Gateway.Proofs.Url.Visible

/-!
# Hosts with ports, as texts

A host with a port behind it is one text, and can be cut into the two again: at the last colon
outside brackets (`Text.hostAndPort`). No host of an address has a colon outside brackets, whatever
its scheme is: where hosts are looked up a name is made of plain characters, elsewhere colons and
brackets are refused, and an address of version 6 is enclosed (`Host.isEnclosed_of_ofText?`). So
cutting gives back what was put together (`hostAndPort_append_portText`), in every letter case.
-/

namespace Gateway

namespace Text

/-! ### Letter case -/

theorem toNat_toLower {c : Char} (h : c.isUpper = true) : c.toLower.toNat = c.toNat + 0x20 := by
  have hc : c.val ≥ 'A'.val ∧ c.val ≤ 'Z'.val := of_decide_eq_true h
  have hle : c.toNat ≤ 0x5A := hc.2
  have hlower : c.toLower.toNat = (c.val + 0x20).toNat := congrArg Char.toNat (dif_pos hc)
  rw [hlower, UInt32.toNat_add]
  change (c.toNat + 0x20) % 0x100000000 = _
  omega

theorem toLower_of_not_isUpper {c : Char} (h : c.isUpper = false) : c.toLower = c :=
  dif_neg (of_decide_eq_false h)

/-- Characters that are not letters are their own small forms, and that of no other. -/
theorem toLower_eq_iff {c d : Char} (hd : d.isAlpha = false) : c.toLower = d ↔ c = d := by
  obtain ⟨hupper, hlower⟩ := Bool.or_eq_false_iff.mp hd
  cases hc : c.isUpper with
  | false => rw [toLower_of_not_isUpper hc]
  | true =>
    constructor
    · rintro rfl
      have hval := toNat_toLower hc
      have hbetween : 0x41 ≤ c.toNat ∧ c.toNat ≤ 0x5A := of_decide_eq_true hc
      have hleast : 0x61 ≤ c.toLower.toNat := by omega
      have hmost : c.toLower.toNat ≤ 0x7A := by omega
      have hsmall : c.toLower.isLower = true :=
        Bool.and_eq_true_iff.mpr ⟨decide_eq_true hleast, decide_eq_true hmost⟩
      cases hsmall.symm.trans hlower
    · rintro rfl
      cases hc.symm.trans hupper

/-- Texts without letters have no other case. -/
theorem lower_eq_iff {cs ds : List Char} (h : ∀ d ∈ ds, d.isAlpha = false) :
    lower cs = ds ↔ cs = ds := by
  induction ds generalizing cs with
  | nil => exact List.map_eq_nil_iff
  | cons d ds ih =>
    obtain ⟨hd, hds⟩ := List.forall_mem_cons.mp h
    cases cs with
    | nil => exact ⟨nofun, nofun⟩
    | cons c cs => rw [lower, List.map_cons, List.cons.injEq, toLower_eq_iff hd, List.cons.injEq,
        ← lower, ih hds]

/-! ### The last colon -/

/-- The parts of a text in front of and behind its last colon outside brackets. `inBrackets` says
whether the text begins inside of them. -/
def lastColon? (inBrackets : Bool) : List Char → Option (List Char × List Char)
  | [] => none
  | c :: cs =>
    let within := if c = '[' then true else if c = ']' then false else inBrackets
    match lastColon? within cs with
    | some (front, behind) => some (c :: front, behind)
    | none => if c = ':' ∧ !inBrackets then some ([], cs) else none

/-- The host and the port that a text names; the port is what stands behind the last colon outside
brackets. -/
def hostAndPort (cs : List Char) : List Char × Option (List Char) :=
  match lastColon? false cs with
  | some (host, port) => (host, some port)
  | none => (cs, none)

theorem eq_append_of_lastColon? {inBrackets : Bool} {cs front behind : List Char}
    (h : lastColon? inBrackets cs = some (front, behind)) : cs = front ++ ':' :: behind := by
  induction cs generalizing inBrackets front with
  | nil => cases h
  | cons c cs ih =>
    rw [lastColon?] at h
    split at h
    · next hlater =>
      cases h
      rw [ih hlater, List.cons_append]
    · split at h
      · next hcolon =>
        cases h
        rw [hcolon.1, List.nil_append]
      · cases h

/-- Letter case does not move colons and brackets. -/
theorem lastColon?_lower (inBrackets : Bool) (cs : List Char) :
    lastColon? inBrackets (lower cs) =
      (lastColon? inBrackets cs).map fun p => (lower p.1, lower p.2) := by
  induction cs generalizing inBrackets with
  | nil => rfl
  | cons c cs ih =>
    have hcolon : c.toLower = ':' ↔ c = ':' := toLower_eq_iff (by decide)
    have hopening : c.toLower = '[' ↔ c = '[' := toLower_eq_iff (by decide)
    have hclosing : c.toLower = ']' ↔ c = ']' := toLower_eq_iff (by decide)
    change lastColon? inBrackets (c.toLower :: lower cs) = _
    rw [lastColon?, lastColon?]
    simp only [hcolon, hopening, hclosing, ih]
    split
    · next hlater =>
      obtain ⟨p, hp, hpair⟩ := Option.map_eq_some_iff.mp hlater
      rw [hp]
      cases hpair
      rfl
    · next hlater =>
      rw [Option.map_eq_none_iff.mp hlater]
      dsimp only
      split
      · rfl
      · rfl

/-- Characters that are no colons and brackets are passed over. -/
theorem lastColon?_append {front : List Char} (h : ∀ c ∈ front, c ≠ ':' ∧ c ≠ '[' ∧ c ≠ ']')
    (inBrackets : Bool) (rest : List Char) :
    lastColon? inBrackets (front ++ rest) =
      (lastColon? inBrackets rest).map fun p => (front ++ p.1, p.2) := by
  induction front with
  | nil => exact Option.map_id'.symm
  | cons c front ih =>
    obtain ⟨⟨hcolon, hopening, hclosing⟩, hfront⟩ := List.forall_mem_cons.mp h
    rw [List.cons_append, lastColon?]
    rw [if_neg hopening, if_neg hclosing, ih hfront]
    cases lastColon? inBrackets rest with
    | none => exact if_neg fun hc => hcolon hc.1
    | some p => rfl

/-- What stands in brackets is passed over. -/
theorem lastColon?_inside {inner : List Char} (h : ∀ c ∈ inner, c ≠ '[' ∧ c ≠ ']')
    (rest : List Char) :
    lastColon? true (inner ++ ']' :: rest) =
      (lastColon? false rest).map fun p => (inner ++ ']' :: p.1, p.2) := by
  induction inner with
  | nil =>
    rw [List.nil_append, lastColon?]
    rw [if_neg (by decide), if_pos rfl]
    cases lastColon? false rest with
    | none => exact if_neg (by decide)
    | some p => rfl
  | cons c inner ih =>
    obtain ⟨⟨hopening, hclosing⟩, hinner⟩ := List.forall_mem_cons.mp h
    rw [List.cons_append, lastColon?]
    rw [if_neg hopening, if_neg hclosing, ih hinner]
    cases lastColon? false rest with
    | none => exact if_neg fun hc => absurd hc.2 (by decide)
    | some p => rfl

/-- Cutting loses nothing. -/
theorem append_hostAndPort (cs : List Char) :
    (hostAndPort cs).1 ++ (hostAndPort cs).2.elim [] (':' :: ·) = cs := by
  unfold hostAndPort
  split
  · next host port hcut => exact (eq_append_of_lastColon? hcut).symm
  · exact List.append_nil cs

/-- Where a text is cut does not depend on its case. -/
theorem hostAndPort_lower (cs : List Char) :
    hostAndPort (lower cs) = (lower (hostAndPort cs).1, (hostAndPort cs).2.map lower) := by
  unfold hostAndPort
  rw [lastColon?_lower]
  cases lastColon? false cs with
  | none => rfl
  | some p => rfl

end Text

/-! ### Hosts -/

namespace Host

/-- The form of the host of any address: its colons and brackets are none, or those of an address in
brackets. -/
def IsEnclosed (cs : List Char) : Prop :=
  (∀ c ∈ cs, c ≠ ':' ∧ c ≠ '[' ∧ c ≠ ']') ∨
    ∃ inner, cs = '[' :: inner ++ [']'] ∧ ∀ c ∈ inner, c ≠ '[' ∧ c ≠ ']'

theorem isEnclosed_v6 (ip : Ipv6) : IsEnclosed ('[' :: ip.toText ++ [']']) := by
  refine .inr ⟨ip.toText, rfl, fun c hc => ?_⟩
  rcases ip.isPlain_or_of_mem_toText c hc with hplain | rfl
  · constructor
    · rintro rfl
      exact absurd hplain (by decide)
    · rintro rfl
      exact absurd hplain (by decide)
  · decide

theorem IsBareText.isEnclosed {cs : List Char} (h : IsBareText cs) : IsEnclosed cs := by
  rcases h with ⟨-, hplain⟩ | ⟨ip, rfl⟩
  · refine .inl fun c hc => ⟨?_, ?_, ?_⟩
    all_goals
      rintro rfl
      exact absurd (hplain _ hc) (by decide)
  · exact isEnclosed_v6 ip

/-- Escapes have no colons and brackets. -/
theorem forall_mem_escape {own : Char → Bool} {cs : List Char}
    (h : ∀ c ∈ cs, c ≠ ':' ∧ c ≠ '[' ∧ c ≠ ']') :
    ∀ c ∈ Url.escape own cs, c ≠ ':' ∧ c ≠ '[' ∧ c ≠ ']' := by
  have hdigit (n : Nat) : (Text.hexDigit n).toUpper ≠ ':' ∧ (Text.hexDigit n).toUpper ≠ '[' ∧
      (Text.hexDigit n).toUpper ≠ ']' := by
    have h : n % 16 < 16 := Nat.mod_lt _ (by decide)
    unfold Text.hexDigit
    generalize n % 16 = m at h
    decide +revert
  intro c hc
  obtain ⟨d, hd, hc⟩ := List.mem_flatMap.mp hc
  split at hc
  · obtain ⟨b, -, hc⟩ := List.mem_flatMap.mp hc
    rcases List.mem_cons.mp hc with rfl | hc
    · decide
    · obtain ⟨e, he, rfl⟩ := List.mem_map.mp hc
      exact Text.forall_mem_hexDigits
        (P := fun e => e.toUpper ≠ ':' ∧ e.toUpper ≠ '[' ∧ e.toUpper ≠ ']') hdigit 2 b.toNat e he
  · obtain rfl := List.mem_singleton.mp hc
    exact h c hd

theorem isEnclosed_of_bracketed? {cs : List Char} {host : Host} (h : bracketed? cs = .ok host) :
    IsEnclosed host.toString.toList := by
  unfold bracketed? at h
  split at h
  · split at h
    · cases h
      rw [toList_toString_v6]
      exact isEnclosed_v6 _
    · cases h
  · cases h

/-- Every host that is read has its colons in brackets. -/
theorem isEnclosed_of_ofText? {cs : List Char} {host : Host} (h : ofText? cs = .ok host) :
    IsEnclosed host.toString.toList := by
  unfold ofText? at h
  split at h
  · exact isEnclosed_of_bracketed? h
  · split at h
    · cases h
    · next hallowed =>
      cases h
      rw [toString, String.toList_ofList]
      refine .inl (forall_mem_escape fun c hc => ?_)
      have hc' : c ∉ forbidden := fun hmem =>
        hallowed (List.any_eq_true.mpr ⟨c, hc, List.contains_iff_mem.mpr hmem⟩)
      refine ⟨?_, ?_, ?_⟩
      all_goals
        rintro rfl
        exact hc' (by decide)

end Host

/-! ### Cutting what was put together -/

/-- A host and its port come back from the text that they are put together to. -/
theorem hostAndPort_append_portText {host : List Char} (h : Host.IsEnclosed host)
    (port : Option UInt16) :
    Text.hostAndPort (host ++ Authority.portText port) =
      (host, port.map fun p => Decimal.digits p.toNat) := by
  have hpass (rest : List Char) : Text.lastColon? false (host ++ rest) =
      (Text.lastColon? false rest).map fun p => (host ++ p.1, p.2) := by
    rcases h with hplain | ⟨inner, rfl, hinner⟩
    · exact Text.lastColon?_append hplain false rest
    · rw [List.append_assoc, List.singleton_append, List.cons_append, Text.lastColon?]
      rw [if_pos rfl, Text.lastColon?_inside hinner]
      cases Text.lastColon? false rest with
      | none => rfl
      | some p =>
        rw [Option.map_some, Option.map_some, List.append_assoc]
        rfl
  unfold Text.hostAndPort
  rw [hpass]
  cases port with
  | none =>
    rw [Authority.portText, Option.elim_none, List.append_nil]
    rfl
  | some p =>
    have hdigits : ∀ c ∈ Decimal.digits p.toNat, c ≠ ':' ∧ c ≠ '[' ∧ c ≠ ']' := fun c hc =>
      have hdigit := Decimal.isDigit_of_mem_digits hc
      ⟨Decimal.ne_of_isDigit hdigit (by decide), Decimal.ne_of_isDigit hdigit (by decide),
        Decimal.ne_of_isDigit hdigit (by decide)⟩
    have hnone : Text.lastColon? false (Decimal.digits p.toNat) = none := by
      have hcut := Text.lastColon?_append hdigits false []
      rwa [List.append_nil] at hcut
    have hport : Text.lastColon? false (Authority.portText (some p)) =
        some ([], Decimal.digits p.toNat) := by
      change Text.lastColon? false (':' :: Decimal.digits p.toNat) = _
      rw [Text.lastColon?]
      simp only [Char.reduceEq, if_false, hnone]
      rfl
    rw [hport, Option.map_some, List.append_nil]
    rfl

/-- A text agrees with a host and its port, up to letter case, if its host does and its port is the
numeral. -/
theorem sameLetters_portText_iff {host text : List Char} (h : Host.IsEnclosed host)
    (port : Option UInt16) :
    Text.sameLetters (host ++ Authority.portText port) text = true ↔
      Text.lower (Text.hostAndPort text).1 = Text.lower host ∧
        (Text.hostAndPort text).2 = port.map fun p => Decimal.digits p.toNat := by
  have hdigits (n : Nat) : ∀ d ∈ Decimal.digits n, d.isAlpha = false := fun d hd =>
    Decimal.isAlpha_of_isDigit (Decimal.isDigit_of_mem_digits hd)
  rw [Text.sameLetters_iff]
  constructor
  · -- texts that agree are cut alike, and digits agree with themselves only
    intro hsame
    have hcut := congrArg Text.hostAndPort hsame
    rw [Text.hostAndPort_lower, Text.hostAndPort_lower, hostAndPort_append_portText h,
      Prod.mk.injEq, Option.map_map] at hcut
    refine ⟨hcut.1.symm, ?_⟩
    have hport := hcut.2
    generalize (Text.hostAndPort text).2 = found at hport ⊢
    cases port with
    | none => exact Option.map_eq_none_iff.mp hport.symm
    | some p =>
      obtain ⟨digits, rfl, hlower⟩ := Option.map_eq_some_iff.mp hport.symm
      have hsmall := (Text.lower_eq_iff (hdigits p.toNat)).mpr rfl
      exact congrArg some ((Text.lower_eq_iff (hdigits p.toNat)).mp (hlower.trans hsmall))
  · rintro ⟨hhost, hport⟩
    have htext := Text.append_hostAndPort text
    rw [hport] at htext
    have hwritten : (port.map fun p => Decimal.digits p.toNat).elim [] (':' :: ·) =
        Authority.portText port := by
      cases port <;> rfl
    rw [← htext, hwritten, Text.lower, Text.lower, List.map_append, List.map_append]
    exact congrArg (· ++ _) hhost.symm

end Gateway
