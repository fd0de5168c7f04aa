import Gateway.Proofs.Config.Documents
import Gateway.Proofs.Json.Skipped

/-!
# The members of a document

What the reader of documents makes of an object, said in terms of how the object is written. A
value writes contents of some shape (`Writes`), or is a null, and a member takes the fields that
were there before to the ones that are there after it (`Takes`). Members are taken one after the
other (`TakesAll`, `readMembers_append_iff`), whatever blanks stand between them and whatever values
have to be skipped.
-/

namespace Gateway.Json

/-! ### Contents -/

/-- A value writes contents of some shape. -/
inductive Writes : (shape : Setting.Shape) → shape.Content → List Char → Prop
  | text {body text : List Char} (h : Spells body text) :
    Writes .text (String.ofList text) ('"' :: (body ++ ['"']))
  | on : Writes .switch true ['t', 'r', 'u', 'e']
  | off : Writes .switch false ['f', 'a', 'l', 's', 'e']
  | port {content : UInt16} {digits : List Char} (h : IsWhole digits)
    (hvalue : Decimal.value digits = content.toNat) : Writes .port content digits
  | duration {content : UInt64} {digits : List Char} (h : IsWhole digits)
    (hvalue : Decimal.value digits = content.toNat) : Writes .duration content digits

theorem IsWhole.isNumber {digits : List Char} (h : IsWhole digits) : IsNumber digits :=
  .inl ⟨digits, [], [], h, .inl rfl, .inl rfl, by simp⟩

/-- Numbers begin with a digit or with a minus sign. -/
theorem not_isNumber_cons {c : Char} (hdigit : Decimal.isDigit c = false) (hminus : c ≠ '-')
    (cs : List Char) : ¬ IsNumber (c :: cs) := by
  rintro (h | ⟨digits, -, heq⟩)
  · obtain ⟨d, ds, heq, hd⟩ := h.exists_cons
    exact Decimal.ne_of_isDigit hd hdigit (List.cons.inj heq).1.symm
  · exact hminus (List.cons.inj heq).1

/-- What writes contents is a value. -/
theorem Writes.derives {shape : Setting.Shape} {content : shape.Content} {cs : List Char}
    (h : Writes shape content cs) : Derives .value cs := by
  cases h with
  | text h => exact .string h.isBody
  | on => exact .word (by decide)
  | off => exact .word (by decide)
  | port h => exact .number h.isNumber
  | duration h => exact .number h.isNumber

/-- **Natural numbers** up to a bound are read off whole numbers. -/
theorem readNatural_eq_ok_iff {shape : Setting.Shape} {bound n : Nat} {cs rest : List Char}
    (hbound : bound < UInt64.size) :
    readNatural shape bound cs = .ok (n, rest) ↔
      ∃ digits, IsWhole digits ∧ Decimal.value digits = n ∧ n ≤ bound ∧ EndsNumber rest ∧
        cs = digits ++ rest := by
  constructor
  · intro h
    unfold readNatural at h
    dsimp only at h
    split at h
    · cases h
    · split at h
      · -- behind a minus there is no natural number
        split at h
        case h_2 hread =>
          exact absurd (readNumber_eq_natural_iff.mp hread).1 (by decide)
        all_goals cases h
      · split at h
        · split at h
          case h_2 hread =>
            obtain ⟨-, digits, hwhole, hvalue, -, hends, hcs⟩ :=
              readNumber_eq_natural_iff.mp hread
            split at h
            · next hle =>
              cases h
              exact ⟨digits, hwhole, hvalue, hle, hends, hcs⟩
            · cases h
          all_goals cases h
        · cases h
  · rintro ⟨digits, hwhole, hvalue, hle, hends, rfl⟩
    have hread : readNumber false (digits ++ rest) = .ok (.natural n, rest) :=
      readNumber_eq_natural_iff.mpr
        ⟨rfl, digits, hwhole, hvalue, Nat.lt_of_le_of_lt hle hbound, hends, rfl⟩
    obtain ⟨d, ds, rfl⟩ := List.exists_cons_of_ne_nil hwhole.1.1
    have hd : Decimal.isDigit d = true := hwhole.1.2 d List.mem_cons_self
    have hminus : d ≠ '-' := Decimal.ne_of_isDigit hd rfl
    rw [List.cons_append] at hread ⊢
    simp only [readNatural, if_neg hminus, if_pos hd, hread, if_pos hle]

/-- **Texts are read** from strings, and from nothing else. -/
theorem readText_eq_ok_iff {content : String} {cs rest : List Char} :
    readText cs = .ok (content, rest) ↔
      ∃ v, Writes .text content v ∧ cs = v ++ rest := by
  constructor
  · intro h
    unfold readText at h
    split at h
    · cases h
    · split at h
      · next hstring =>
        obtain ⟨body, hbody, rfl⟩ := exists_spells_of_readString hstring
        cases h
        exact ⟨_, .text hbody, by simp⟩
      · cases h
    · cases h
  · rintro ⟨v, ⟨hbody⟩, rfl⟩
    rw [List.cons_append, List.append_assoc, List.singleton_append]
    simp only [readText, hbody.readString rest]

/-- **Switches are read** from their two words, and from nothing else. -/
theorem readSwitch_eq_ok_iff {content : Bool} {cs rest : List Char} :
    readSwitch cs = .ok (content, rest) ↔
      ∃ v, Writes .switch content v ∧ cs = v ++ rest := by
  constructor
  · intro h
    unfold readSwitch at h
    split at h
    · cases h
    · split at h
      · next hword =>
        cases h
        exact ⟨_, .on, congrArg ('t' :: ·) (readWord_eq_ok_iff.mp hword)⟩
      · cases h
    · split at h
      · next hword =>
        cases h
        exact ⟨_, .off, congrArg ('f' :: ·) (readWord_eq_ok_iff.mp hword)⟩
      · cases h
    · cases h
  · rintro ⟨v, hwrites, rfl⟩
    cases hwrites <;> simp only [List.cons_append, List.nil_append, readSwitch, readWord, if_true]

/-- **Contents** are read off the values that write them. -/
theorem readContent_eq_ok_iff {shape : Setting.Shape} {content : shape.Content}
    {cs rest : List Char} :
    readContent shape cs = .ok (content, rest) ↔
      ∃ v, Writes shape content v ∧ (IsNumber v → EndsNumber rest) ∧ cs = v ++ rest := by
  constructor
  · intro h
    cases shape with
    | text =>
      obtain ⟨v, hv, hcs⟩ := readText_eq_ok_iff.mp h
      refine ⟨v, hv, fun hnumber => ?_, hcs⟩
      cases hv
      exact absurd hnumber (not_isNumber_cons rfl (by decide) _)
    | switch =>
      obtain ⟨v, hv, hcs⟩ := readSwitch_eq_ok_iff.mp h
      refine ⟨v, hv, fun hnumber => ?_, hcs⟩
      cases hv <;> exact absurd hnumber (not_isNumber_cons rfl (by decide) _)
    | port =>
      obtain ⟨n, hread, rfl⟩ := Read.map_eq_ok h
      obtain ⟨digits, hwhole, hvalue, hle, hends, hcs⟩ :=
        (readNatural_eq_ok_iff (by decide)).mp hread
      refine ⟨digits, .port hwhole ?_, fun _ => hends, hcs⟩
      rw [hvalue, UInt16.toNat_ofNat_of_lt' (Nat.lt_of_le_pred (by decide) hle)]
    | duration =>
      obtain ⟨n, hread, rfl⟩ := Read.map_eq_ok h
      obtain ⟨digits, hwhole, hvalue, hle, hends, hcs⟩ :=
        (readNatural_eq_ok_iff (by decide)).mp hread
      refine ⟨digits, .duration hwhole ?_, fun _ => hends, hcs⟩
      rw [hvalue, UInt64.toNat_ofNat_of_lt' (Nat.lt_of_le_pred (by decide) hle)]
  · rintro ⟨v, hv, hends, rfl⟩
    cases hv with
    | text h => exact readText_eq_ok_iff.mpr ⟨_, .text h, rfl⟩
    | on => exact readSwitch_eq_ok_iff.mpr ⟨_, .on, rfl⟩
    | off => exact readSwitch_eq_ok_iff.mpr ⟨_, .off, rfl⟩
    | @port content _ h hvalue =>
      have hle : content.toNat ≤ UInt16.size - 1 := Nat.le_pred_of_lt content.toNat_lt
      have hread : readNatural .port (UInt16.size - 1) (v ++ rest) = .ok (content.toNat, rest) :=
        (readNatural_eq_ok_iff (by decide)).mpr ⟨v, h, hvalue, hle, hends h.isNumber, rfl⟩
      rw [readContent, hread, Read.map, UInt16.ofNat_toNat]
    | @duration content _ h hvalue =>
      have hle : content.toNat ≤ UInt64.size - 1 := Nat.le_pred_of_lt content.toNat_lt
      have hread : readNatural .duration (UInt64.size - 1) (v ++ rest) =
          .ok (content.toNat, rest) :=
        (readNatural_eq_ok_iff (by decide)).mpr ⟨v, h, hvalue, hle, hends h.isNumber, rfl⟩
      rw [readContent, hread, Read.map, UInt64.ofNat_toNat]

/-! ### Fields -/

/-- A value gives contents of some shape or, as a null, nothing. -/
inductive Gives (shape : Setting.Shape) : Option shape.Content → List Char → Prop
  | null : Gives shape none null
  | content {content : shape.Content} {v : List Char} (h : Writes shape content v) :
    Gives shape (some content) v

section Values

variable {blanks v rest rest' : List Char}

/-- A value is read as the contents that it writes. -/
theorem readContent_append_iff {shape : Setting.Shape} {content : shape.Content}
    (hv : Derives .value v) (hends : EndsNumber rest) :
    readContent shape (v ++ rest) = .ok (content, rest') ↔
      rest' = rest ∧ Writes shape content v := by
  rw [readContent_eq_ok_iff]
  constructor
  · rintro ⟨v', hwrites, hends', heq⟩
    obtain ⟨rfl, rfl⟩ := hv.eq_of_append_eq hwrites.derives (fun _ => hends) hends' heq
    exact ⟨rfl, hwrites⟩
  · rintro ⟨rfl, hwrites⟩
    exact ⟨v, hwrites, fun _ => hends, rfl⟩

/-- **Fields** are what values give. -/
theorem readField_append_iff {s : Setting} {field : Option s.Content} (hblanks : IsBlanks blanks)
    (hv : Derives .value v) (hends : EndsNumber rest) :
    readField (fun _ => true) s (blanks ++ (v ++ rest)) = .ok (field, rest') ↔
      rest' = rest ∧ Gives s.shape field v := by
  rw [readField_eq_ok_iff, hv.skipBlanks hblanks]
  constructor
  · rintro (⟨-, hnull, rfl⟩ | ⟨content, hread, rfl⟩)
    · have hword : Derives .value null := .word List.mem_cons_self
      obtain ⟨rfl, rfl⟩ := hv.eq_of_append_eq hword (fun _ => hends)
        (fun h => absurd h (not_isNumber_cons rfl (by decide) _)) hnull
      exact ⟨rfl, .null⟩
    · obtain ⟨rfl, hwrites⟩ := (readContent_append_iff hv hends).mp hread
      exact ⟨rfl, .content hwrites⟩
  · rintro ⟨rfl, hnull | hwrites⟩
    · exact .inl ⟨rfl, rfl, rfl⟩
    · exact .inr ⟨_, (readContent_append_iff hv hends).mpr ⟨rfl, hwrites⟩, rfl⟩

end Values

/-! ### Members -/

/-- The name of a member can be read as a text. -/
def Member.IsReadable (m : Member) : Prop := ∃ name, Spells m.name name

/-- A member names a setting, with or without escapes. -/
def Member.Names (m : Member) (s : Setting) : Prop := Spells m.name s.key.toList

theorem Member.Names.isReadable {m : Member} {s : Setting} (h : m.Names s) : m.IsReadable :=
  ⟨_, h⟩

/-- The key that is read is the one of the setting that is named. -/
theorem ofKey?_eq_some_iff {m : Member} {name : List Char} (h : Spells m.name name)
    {s : Setting} : Setting.ofKey? (String.ofList name) = some s ↔ m.Names s := by
  constructor
  · intro hkey
    rw [Member.Names, Setting.key_of_ofKey? hkey, String.toList_ofList]
    exact h
  · intro hnames
    rw [h.unique hnames, String.ofList_toList]
    exact Setting.ofKey?_key s

/-- A member names one setting at most. -/
theorem Member.Names.unique {m : Member} {s t : Setting} (hs : m.Names s) (ht : m.Names t) :
    s = t :=
  Option.some.inj (((ofKey?_eq_some_iff hs).mpr hs).symm.trans ((ofKey?_eq_some_iff hs).mpr ht))

/-- What a member does to the fields: a setting that is named for the first time is given its field,
and a member that names no setting does nothing, whatever its value is. -/
inductive Takes (fields : Fields) (m : Member) : Fields → Prop
  | field {s : Setting} {field : Option s.Content} (hname : m.Names s) (hnew : fields s = none)
    (hgives : Gives s.shape field m.value) : Takes fields m (fields.set s field)
  | other (hread : m.IsReadable) (hother : ∀ s, ¬ m.Names s) : Takes fields m fields

/-- What the members of an object do to the fields, one after the other. -/
inductive TakesAll : Fields → List Member → Fields → Prop
  | nil {fields : Fields} : TakesAll fields [] fields
  | cons {fields fields' fields'' : Fields} {m : Member} {ms : List Member}
    (hm : Takes fields m fields') (hms : TakesAll fields' ms fields'') :
    TakesAll fields (m :: ms) fields''

theorem readColon_append {blanks : List Char} (h : IsBlanks blanks) (rest : List Char) :
    readColon (blanks ++ ':' :: rest) = .ok rest := by
  rw [readColon, skipBlanks_append_cons h rfl]
  rfl

/-- **Members** are read as what they do. -/
theorem readMember_append_iff {fields fields' : Fields} {m : Member}
    {blanks blanks' rest rest' : List Char} (hname : IsBody m.name) (hblanks : IsBlanks blanks)
    (hblanks' : IsBlanks blanks') (hvalue : Derives .value m.value) (hends : EndsNumber rest) :
    readMember (fun _ => true) fields
        (m.name ++ '"' :: (blanks ++ ':' :: (blanks' ++ (m.value ++ rest)))) =
        .ok (fields', rest') ↔
      rest' = rest ∧ Takes fields m fields' := by
  rw [readMember_eq_ok_iff]
  constructor
  · rintro ⟨name, afterName, afterColon, hstring, hcolon, hread⟩
    obtain ⟨rfl, hspells⟩ := (readString_append_iff hname).mp hstring
    obtain rfl := Except.ok.inj ((readColon_append hblanks _).symm.trans hcolon)
    cases hread with
    | field hkey hnew hfield =>
      obtain ⟨rfl, hgives⟩ := (readField_append_iff hblanks' hvalue hends).mp hfield
      exact ⟨rfl, .field ((ofKey?_eq_some_iff hspells).mp hkey) hnew hgives⟩
    | skipped hkey hskip =>
      rw [skipValue_append hblanks' hvalue fun _ => hends] at hskip
      refine ⟨(Except.ok.inj hskip).symm, .other ⟨name, hspells⟩ fun s hs => ?_⟩
      cases hkey.symm.trans ((ofKey?_eq_some_iff hspells).mpr hs)
  · rintro ⟨rfl, htakes⟩
    cases htakes with
    | field hnames hnew hgives =>
      exact ⟨_, _, _, hnames.readString _, readColon_append hblanks _,
        .field ((ofKey?_eq_some_iff hnames).mpr hnames) hnew
          ((readField_append_iff hblanks' hvalue hends).mpr ⟨rfl, hgives⟩)⟩
    | other hreadable hother =>
      obtain ⟨name, hspells⟩ := hreadable
      refine ⟨name, _, _, hspells.readString _, readColon_append hblanks _, .skipped ?_
        (skipValue_append hblanks' hvalue fun _ => hends)⟩
      exact Option.eq_none_iff_forall_ne_some.mpr fun s hs =>
        hother s ((ofKey?_eq_some_iff hspells).mp hs)

/-! ### Objects -/

theorem readKeyStart_blanks {blanks : List Char} (h : IsBlanks blanks) (first : Bool)
    (rest : List Char) : readKeyStart first (blanks ++ '}' :: rest) = .ok (false, rest) := by
  rw [readKeyStart, skipBlanks_append_cons h rfl]
  rfl

theorem readKeyStart_separator {first : Bool} {separator : List Char}
    (h : IsSeparator first separator) (rest : List Char) :
    readKeyStart first (separator ++ '"' :: rest) = .ok (true, rest) := by
  cases first with
  | true =>
    rw [readKeyStart, skipBlanks_append_cons h rfl]
    rfl
  | false =>
    obtain ⟨blanks, blanks', hblanks, hblanks', rfl⟩ := h
    rw [List.append_assoc, List.cons_append, readKeyStart, skipBlanks_append_cons hblanks rfl]
    change readKeyStart.key (skipBlanks (blanks' ++ '"' :: rest)) = _
    rw [skipBlanks_append_cons hblanks' rfl]
    rfl

/-- **Objects** are read one member after the other, up to their bracket. -/
theorem readMembers_append_iff {first : Bool} {fields fields' : Fields} {ms : List Member}
    {cs rest rest' : List Char} (h : Derives (.members first ms) cs) :
    readMembers (fun _ => true) first fields (cs ++ '}' :: rest) = .ok (fields', rest') ↔
      rest' = rest ∧ TakesAll fields ms fields' := by
  induction ms generalizing first fields cs with
  | nil =>
    cases h with
    | lastMember hblanks =>
      have hend : readKeyStart first (cs ++ '}' :: rest) = .ok (false, rest) :=
        readKeyStart_blanks hblanks first rest
      rw [readMembers_eq_ok_iff, hend]
      constructor
      · rintro (⟨after, hafter, hread⟩ | ⟨after, _, _, hmember, -⟩)
        · cases hafter
          cases hread
          exact ⟨rfl, .nil⟩
        · cases hmember
      · rintro ⟨rfl, ⟨⟩⟩
        exact .inl ⟨rest', rfl, rfl⟩
  | cons m ms ih =>
    cases h with
    | member hseparator hname hblanks hblanks' hvalue hrest =>
      have hends := hrest.endsNumber_members rest
      simp only [List.append_assoc, List.cons_append]
      rw [readMembers_eq_ok_iff, readKeyStart_separator hseparator]
      constructor
      · rintro (⟨after, hend, -⟩ | ⟨after, fields₁, tail, hafter, hmember, hmembers⟩)
        · cases hend
        · cases hafter
          obtain ⟨rfl, hm⟩ :=
            (readMember_append_iff hname hblanks hblanks' hvalue hends).mp hmember
          obtain ⟨rfl, hms⟩ := (ih hrest).mp hmembers
          exact ⟨rfl, .cons hm hms⟩
      · rintro ⟨rfl, hm | ⟨hm, hms⟩⟩
        exact .inr ⟨_, _, _, rfl,
          (readMember_append_iff hname hblanks hblanks' hvalue hends).mpr ⟨rfl, hm⟩,
          (ih hrest).mpr ⟨rfl, hms⟩⟩

/-- **Documents** that are objects are read as what their members do to no fields at all. -/
theorem readFields_eq_ok_iff_takesAll {wanted : Document.Wanted} {ms : List Member}
    {text : List Char} {fields : Fields} (h : IsObjectText ms text) :
    readFields (fun _ => true) wanted text = .ok fields ↔ TakesAll .empty ms fields := by
  obtain ⟨front, cs, back, hfront, hcs, hback, rfl⟩ := h
  rw [readFields_eq_ok_iff, skipBlanks_append_cons hfront rfl]
  constructor
  · rintro ⟨rest, after, -, ⟨hopen, hread⟩ | ⟨hopen, -⟩⟩
    · cases hopen
      exact ((readMembers_append_iff hcs).mp hread).2
    · cases hopen
  · intro htakes
    exact ⟨_, back, skipBlanks_eq_nil_iff.mpr hback,
      .inl ⟨rfl, (readMembers_append_iff hcs).mpr ⟨rfl, htakes⟩⟩⟩

end Gateway.Json
