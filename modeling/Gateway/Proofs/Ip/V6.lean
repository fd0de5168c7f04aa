import Gateway.Proofs.Text.Numerals
import Gateway.Proofs.Url.Visible
import Mathlib.Data.List.TakeWhile

/-!
# Addresses of version 6 come back from their text

The written form of an address leaves out its longest run of zero groups, where two colons in a row
are left. Groups between single colons have no such place (`gap?_join`), so the reader finds the one
that the writer made, reads as many groups in front of it and behind it as were written, and fills
the rest with zeros (`ofText?_toText`).
-/

namespace Gateway.Ipv6

open Text

/-! ### Groups -/

theorem hexNumber?_append_hexDigit {cs : List Char} {n : Nat} (h : hexNumber? cs = some n)
    (d : Nat) : hexNumber? (cs ++ [hexDigit d]) = some (n * 16 + d % 16) := by
  unfold hexNumber? at h ⊢
  rw [List.foldl_append, h, List.foldl_cons, List.foldl_nil, Option.bind_some, hexValue?_hexDigit,
    Option.map_some]

/-- The digits of a number are read as that number. -/
theorem hexNumber?_more {fuel n : Nat} (h : n < Nat.pow 16 fuel) :
    hexNumber? (hexDigits.more fuel n) = some n := by
  induction fuel generalizing n with
  | zero =>
    obtain rfl : n = 0 := Nat.lt_one_iff.mp h
    rfl
  | succ fuel ih =>
    unfold hexDigits.more
    split
    · next hn =>
      subst hn
      rfl
    · have hrest : n / 16 < Nat.pow 16 fuel := Nat.div_lt_of_lt_mul (Nat.mul_comm .. ▸ h)
      rw [hexNumber?_append_hexDigit (ih hrest)]
      exact congrArg some (Nat.div_add_mod' n 16)

theorem length_more_le (fuel : Nat) {n width : Nat} (h : n < Nat.pow 16 width) :
    (hexDigits.more fuel n).length ≤ width := by
  induction fuel generalizing n width with
  | zero => exact Nat.zero_le _
  | succ fuel ih =>
    unfold hexDigits.more
    split
    · exact Nat.zero_le _
    · next hn =>
      cases width with
      | zero => exact absurd (Nat.lt_one_iff.mp h) hn
      | succ width =>
        have hrest : n / 16 < Nat.pow 16 width := Nat.div_lt_of_lt_mul (Nat.mul_comm .. ▸ h)
        rw [List.length_append]
        exact Nat.succ_le_succ (ih hrest)

/-- The written form of a group is read back. -/
theorem group?_hexDigits (g : UInt16) : group? (hexDigits 1 g.toNat) = some g := by
  have hsmall : g.toNat / 16 < Nat.pow 16 3 := by
    have hgroup := g.toNat_lt
    change g.toNat / 16 < 4096
    omega
  have hnumber : hexNumber? (hexDigits 1 g.toNat) = some g.toNat := by
    have hmore := hexNumber?_more (Nat.lt_of_lt_of_le hsmall (by decide : _ ≤ Nat.pow 16 8))
    exact (hexNumber?_append_hexDigit hmore g.toNat).trans
      (congrArg some (Nat.div_add_mod' g.toNat 16))
  have hlength : (hexDigits 1 g.toNat).length = (hexDigits.more 8 (g.toNat / 16)).length + 1 :=
    List.length_append
  have hle := length_more_le 8 hsmall
  rw [group?, if_pos (by omega), hnumber, Option.map_some, UInt16.ofNat_toNat]

/-- The written forms of some groups. -/
def groupTexts (gs : List UInt16) : List (List Char) := gs.map fun g => hexDigits 1 g.toNat

theorem ne_nil_of_mem_groupTexts {gs : List UInt16} {p : List Char} (h : p ∈ groupTexts gs) :
    p ≠ [] := by
  obtain ⟨g, -, rfl⟩ := List.mem_map.mp h
  exact List.append_ne_nil_of_right_ne_nil _ (List.cons_ne_nil _ _)

theorem colon_not_mem_of_mem_groupTexts {gs : List UInt16} {p : List Char}
    (h : p ∈ groupTexts gs) : ':' ∉ p := by
  obtain ⟨g, -, rfl⟩ := List.mem_map.mp h
  exact Domain.not_mem_of_isPlain (Domain.isPlain_hexDigits 1 g.toNat) (by decide)

/-- The texts of groups are read as those groups. -/
theorem groups?_groupTexts (mixed : Bool) (gs : List UInt16) :
    groups? mixed (groupTexts gs) = some gs := by
  induction gs with
  | nil => rfl
  | cons g gs ih =>
    rw [groupTexts, List.map_cons, groups?, group?_hexDigits, ← groupTexts, ih]
    rfl

theorem split_groupsText {gs : List UInt16} (h : gs ≠ []) :
    split ':' (groupsText gs) = groupTexts gs := by
  refine split_join (fun hnil => h (List.map_eq_nil_iff.mp hnil)) fun p hp => ?_
  exact colon_not_mem_of_mem_groupTexts hp

/-- Written groups are read back. -/
theorem plainGroups?_groupsText (mixed : Bool) (gs : List UInt16) :
    plainGroups? mixed (groupsText gs) = some gs := by
  unfold plainGroups?
  split
  · next hempty =>
    cases gs with
    | nil => rfl
    | cons g gs =>
      have hmem : hexDigits 1 g.toNat ∈ groupTexts (g :: gs) := List.mem_cons_self
      have hne := ne_nil_of_mem_groupTexts hmem
      have hnil := List.isEmpty_iff.mp hempty
      cases gs with
      | nil => exact absurd hnil hne
      | cons g' gs => exact absurd (List.append_eq_nil_iff.mp hnil).1 hne
  · next hne =>
    have hgroups : gs ≠ [] := by
      rintro rfl
      exact hne rfl
    rw [split_groupsText hgroups, groups?_groupTexts]

/-! ### The gap -/

/-- A gap is looked for behind what has no colon. -/
theorem gap?_append {front : List Char} (h : ':' ∉ front) (rest : List Char) :
    gap? (front ++ rest) = (gap? rest).map fun p => (front ++ p.1, p.2) := by
  induction front with
  | nil => exact Option.map_id'.symm
  | cons c front ih =>
    obtain ⟨hc, hfront⟩ := not_or.mp (mt List.mem_cons.mpr h)
    rw [List.cons_append, gap?, ih hfront, Option.map_map]
    · rfl
    · rintro cs rfl
      exact absurd rfl hc

theorem gap?_colon {c : Char} (h : c ≠ ':') (cs : List Char) :
    gap? (':' :: c :: cs) = (gap? (c :: cs)).map fun p => (':' :: p.1, p.2) := by
  rw [gap?]
  intro cs' _ hcs
  exact h (List.cons.inj hcs).1

/-- Pieces between single colons have no gap. -/
theorem gap?_join {ps : List (List Char)} (hne : ∀ p ∈ ps, p ≠ []) (h : ∀ p ∈ ps, ':' ∉ p)
    (rest : List Char) :
    gap? (join ':' ps ++ rest) = (gap? rest).map fun p => (join ':' ps ++ p.1, p.2) := by
  induction ps with
  | nil => exact Option.map_id'.symm
  | cons p ps ih =>
    obtain ⟨hp, hps⟩ := List.forall_mem_cons.mp h
    obtain ⟨-, hne'⟩ := List.forall_mem_cons.mp hne
    cases ps with
    | nil => exact gap?_append hp rest
    | cons q qs =>
      have hq : ∃ c cs, join ':' (q :: qs) ++ rest = c :: cs ∧ c ≠ ':' := by
        obtain ⟨c, cs, rfl⟩ := List.exists_cons_of_ne_nil (hne' q List.mem_cons_self)
        have hc : c ≠ ':' := by
          rintro rfl
          exact hps _ List.mem_cons_self List.mem_cons_self
        cases qs with
        | nil => exact ⟨c, cs ++ rest, rfl, hc⟩
        | cons r rs => exact ⟨c, _, rfl, hc⟩
      obtain ⟨c, cs, hcs, hc⟩ := hq
      change gap? ((p ++ ':' :: join ':' (q :: qs)) ++ rest) = _
      rw [List.append_assoc, List.cons_append, gap?_append hp, hcs, gap?_colon hc, ← hcs,
        ih hne' hps, Option.map_map, Option.map_map]
      congr 1
      funext r
      simp [join]

/-- Written groups hold no gap. -/
theorem gap?_groupsText (gs : List UInt16) (rest : List Char) :
    gap? (groupsText gs ++ rest) = (gap? rest).map fun p => (groupsText gs ++ p.1, p.2) :=
  gap?_join (fun _ => ne_nil_of_mem_groupTexts) (fun _ => colon_not_mem_of_mem_groupTexts) rest

/-! ### The run of zeros -/

/-- The run that is left out consists of zeros. That no run is longer is of no concern to reading.
-/
theorem longestRun_le_zeros (gs : List UInt16) :
    (longestRun gs).2 ≤ zeros (gs.drop (longestRun gs).1) := by
  have hfold (places : List Nat) (best : Nat × Nat) (h : best.2 ≤ zeros (gs.drop best.1)) :
      let run := places.foldl
        (fun best i => if best.2 < zeros (gs.drop i) then (i, zeros (gs.drop i)) else best) best
      run.2 ≤ zeros (gs.drop run.1) := by
    induction places generalizing best with
    | nil => exact h
    | cons i places ih =>
      refine ih _ ?_
      dsimp only
      split
      · exact Nat.le_refl _
      · exact h
  exact hfold _ (0, 0) (Nat.zero_le _)

theorem take_eq_replicate_of_le_zeros {gs : List UInt16} {count : Nat} (h : count ≤ zeros gs) :
    gs.take count = List.replicate count 0 := by
  have hfront : gs.take count = (gs.takeWhile (· == 0)).take count := by
    have hsplit := congrArg (List.take count)
      (List.takeWhile_append_dropWhile (p := (· == (0 : UInt16))) (l := gs))
    rw [List.take_append_of_le_length h] at hsplit
    exact hsplit.symm
  rw [hfront]
  refine List.eq_replicate_iff.mpr ⟨List.length_take_of_le h, fun g hg => ?_⟩
  have hzero := List.mem_takeWhile_imp (List.mem_of_mem_take hg)
  exact eq_of_beq hzero

theorem zeros_le_length (gs : List UInt16) : zeros gs ≤ gs.length :=
  (List.takeWhile_sublist _).length_le

/-- **The written form of an address is read back.** -/
theorem ofText?_toText (ip : Ipv6) : ofText? ip.toText = some ip := by
  have hwhole : ofGroups? ip.groups = some ip := dif_pos ip.length_eq
  have hne : ip.groups ≠ [] := by
    intro hnil
    have hlength := ip.length_eq
    rw [hnil] at hlength
    cases hlength
  unfold toText
  obtain ⟨⟨start, count⟩, hrun⟩ : ∃ run, longestRun ip.groups = run := ⟨_, rfl⟩
  have hzeros := longestRun_le_zeros ip.groups
  rw [hrun] at hzeros ⊢
  dsimp only at hzeros ⊢
  split
  · next htwo =>
    have hlength := ip.length_eq
    have hle := Nat.le_trans hzeros (zeros_le_length _)
    rw [List.length_drop] at hle
    have hgroups : ip.groups.take start ++ List.replicate count 0 ++
        ip.groups.drop (start + count) = ip.groups := by
      rw [← take_eq_replicate_of_le_zeros hzeros, List.append_assoc, ← List.drop_drop,
        List.take_append_drop, List.take_append_drop]
    have hgap : gap? (groupsText (ip.groups.take start) ++ [':', ':'] ++
        groupsText (ip.groups.drop (start + count))) =
        some (groupsText (ip.groups.take start), groupsText (ip.groups.drop (start + count))) := by
      rw [List.append_assoc, gap?_groupsText]
      change Option.map _ (some ([], groupsText (ip.groups.drop (start + count)))) = _
      rw [Option.map_some, List.append_nil]
    have hfront : (ip.groups.take start).length = start := by
      rw [List.length_take]
      omega
    have hbehind : (ip.groups.drop (start + count)).length = 8 - (start + count) := by
      rw [List.length_drop, hlength]
    unfold ofText?
    rw [hgap]
    dsimp only
    rw [plainGroups?_groupsText, plainGroups?_groupsText]
    dsimp only
    rw [hfront, hbehind, if_pos (by omega), show 8 - start - (8 - (start + count)) = count by omega,
      hgroups, hwhole]
  · have hgap : gap? (groupsText ip.groups) = none := by
      have hjoin := gap?_groupsText ip.groups []
      rwa [List.append_nil] at hjoin
    unfold ofText?
    rw [hgap]
    dsimp only
    rw [split_groupsText hne, groups?_groupTexts, Option.bind_some, hwhole]

end Gateway.Ipv6
