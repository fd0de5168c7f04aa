import Gateway.Config.Json

/-!
# What the reader of documents accepts

Each part of the reader of JSON documents is turned round: when it succeeds, and what it has read
then. A field is a null or contents (`readField_eq_ok_iff`), a member is a key with a field or with
a value that is skipped (`readMember_eq_ok_iff`), objects and arrays are read one member or one
element at a time (`readMembers_eq_ok_iff`, `readElements_cons_eq_ok_iff`), and a document is one of
the two with blanks around it (`readFields_eq_ok_iff`).
-/

namespace Gateway.Json

variable {nullable : Setting → Bool}

/-! ### Fields -/

/-- No contents begin with the first character of a null. -/
theorem readContent_n (shape : Setting.Shape) (cs : List Char) (content : shape.Content)
    (rest : List Char) : readContent shape ('n' :: cs) ≠ .ok (content, rest) := by
  intro h
  cases shape <;> cases h

/-- **Fields** are nulls, where they are allowed, or contents. -/
theorem readField_eq_ok_iff {s : Setting} {cs rest : List Char} {field : Option s.Content} :
    readField nullable s cs = .ok (field, rest) ↔
      (nullable s = true ∧ skipBlanks cs = 'n' :: 'u' :: 'l' :: 'l' :: rest ∧ field = none) ∨
      ∃ content, readContent s.shape (skipBlanks cs) = .ok (content, rest) ∧
        field = some content := by
  unfold readField
  dsimp only
  by_cases hnull : nullable s = true ∧ (skipBlanks cs).head? = some 'n'
  · obtain ⟨tail, htail⟩ := List.head?_eq_some_iff.mp hnull.2
    rw [if_pos hnull, htail, List.tail_cons]
    constructor
    · intro h
      split at h
      · next hword =>
        cases h
        rw [readWord_eq_ok_iff.mp hword]
        exact .inl ⟨hnull.1, rfl, rfl⟩
      · cases h
    · rintro (⟨-, hword, rfl⟩ | ⟨content, hcontent, -⟩)
      · obtain rfl := (List.cons.inj hword).2
        have hread : readWord ['u', 'l', 'l'] ('u' :: 'l' :: 'l' :: rest) = .ok rest :=
          readWord_eq_ok_iff.mpr rfl
        simp only [hread]
      · exact absurd hcontent (readContent_n _ _ _ _)
  · rw [if_neg hnull]
    constructor
    · intro h
      obtain ⟨content, hcontent, rfl⟩ := Read.map_eq_ok h
      exact .inr ⟨content, hcontent, rfl⟩
    · rintro (⟨hs, hn, -⟩ | ⟨content, hcontent, rfl⟩)
      · exact absurd ⟨hs, congrArg List.head? hn⟩ hnull
      · rw [hcontent]
        rfl

/-! ### Objects -/

/-- What a member does to the fields that were there before: a key of a setting that is new gives
its field, and a value under any other key is skipped. -/
inductive MemberRead (nullable : Setting → Bool) (fields : Fields) (key : String)
    (cs : List Char) : Fields → List Char → Prop
  | field {s : Setting} {field : Option s.Content} {rest : List Char}
    (hkey : Setting.ofKey? key = some s) (hnew : fields s = none)
    (hfield : readField nullable s cs = .ok (field, rest)) :
    MemberRead nullable fields key cs (fields.set s field) rest
  | skipped {rest : List Char} (hkey : Setting.ofKey? key = none)
    (hvalue : skipValue cs = .ok rest) : MemberRead nullable fields key cs fields rest

/-- **Members** are keys, colons and what belongs to the key. -/
theorem readMember_eq_ok_iff {fields fields' : Fields} {cs rest : List Char} :
    readMember nullable fields cs = .ok (fields', rest) ↔
      ∃ key afterKey afterColon, readString cs = .ok (key, afterKey) ∧
        readColon afterKey = .ok afterColon ∧
        MemberRead nullable fields (String.ofList key) afterColon fields' rest := by
  unfold readMember
  constructor
  · intro h
    split at h
    · cases h
    · next key afterKey hstring =>
      split at h
      · next s hkey =>
        split at h
        · cases h
        · next hnew =>
          split at h
          · cases h
          · next afterColon hcolon =>
            split at h
            · cases h
            · next field rest hfield =>
              cases h
              exact ⟨key, afterKey, afterColon, hstring, hcolon,
                .field hkey (Option.not_isSome_iff_eq_none.mp hnew) hfield⟩
      · next hkey =>
        split at h
        · cases h
        · next afterColon hcolon =>
          split at h
          · cases h
          · next hvalue =>
            cases h
            exact ⟨key, afterKey, afterColon, hstring, hcolon, .skipped hkey hvalue⟩
  · rintro ⟨key, afterKey, afterColon, hstring, hcolon, hread⟩
    simp only [hstring]
    cases hread with
    | field hkey hnew hfield =>
      split
      · next s' hkey' =>
        cases hkey.symm.trans hkey'
        rw [if_neg (Option.not_isSome_iff_eq_none.mpr hnew)]
        simp only [hcolon, hfield]
      · next hkey' => cases hkey.symm.trans hkey'
    | skipped hkey hvalue =>
      split
      · next hkey' => cases hkey.symm.trans hkey'
      · simp only [hcolon, hvalue]

/-- **Objects** end, or go on with a member. -/
theorem readMembers_eq_ok_iff {first : Bool} {fields : Fields} {cs : List Char}
    {read : Fields × List Char} :
    readMembers nullable first fields cs = .ok read ↔
      (∃ rest, readKeyStart first cs = .ok (false, rest) ∧ read = (fields, rest)) ∨
      ∃ rest fields' after, readKeyStart first cs = .ok (true, rest) ∧
        readMember nullable fields rest = .ok (fields', after) ∧
        readMembers nullable false fields' after = .ok read := by
  rw [readMembers]
  split
  · next hkey => simp [hkey]
  · next hkey => simp [hkey, eq_comm]
  · next rest hkey =>
    split
    · next hmember => simp [hkey, hmember]
    · next hmember => simp [hkey, hmember, and_assoc]

/-! ### Arrays -/

/-- **Arrays** end, or go on with the field of the next setting. -/
theorem readElements_cons_eq_ok_iff {first : Bool} {fields : Fields} {s : Setting}
    {ss : List Setting} {cs : List Char} {read : Fields × List Char} :
    readElements nullable first fields (s :: ss) cs = .ok read ↔
      (∃ rest after, readElementStart first cs = .ok (false, rest) ∧
        readListEnd rest = .ok after ∧ read = (fields, after)) ∨
      ∃ rest field after, readElementStart first cs = .ok (true, rest) ∧
        readField nullable s rest = .ok (field, after) ∧
        readElements nullable false (fields.set s field) ss after = .ok read := by
  rw [readElements]
  split
  · next hstart => simp [hstart]
  · next hstart =>
    split
    · next hend => simp [hstart, hend, eq_comm]
    · next hend => simp [hstart, hend]
  · next hstart =>
    split
    · next hfield => simp [hstart, hfield]
    · next hfield => simp [hstart, hfield, and_assoc]

/-! ### Documents -/

/-- **Documents** are objects or arrays with blanks around them. -/
theorem readFields_eq_ok_iff {wanted : Document.Wanted} {text : List Char} {fields : Fields} :
    readFields nullable wanted text = .ok fields ↔
      ∃ rest after, skipBlanks after = [] ∧
        ((skipBlanks text = '{' :: rest ∧
            readMembers nullable true .empty rest = .ok (fields, after)) ∨
          (skipBlanks text = '[' :: rest ∧
            readElements nullable true .empty Setting.inFile rest = .ok (fields, after))) := by
  unfold readFields
  dsimp only
  constructor
  · intro h
    split at h
    · cases h
    · next fields' after hread =>
      split at h
      · next hblank =>
        cases h
        split at hread
        · cases hread
        · next rest hopen => exact ⟨rest, after, hblank, .inl ⟨hopen, hread⟩⟩
        · next rest hopen => exact ⟨rest, after, hblank, .inr ⟨hopen, hread⟩⟩
        · cases hread
      · cases h
  · rintro ⟨rest, after, hblank, ⟨hopen, hread⟩ | ⟨hopen, hread⟩⟩
    · simp only [hopen, hread, hblank]
    · simp only [hopen, hread, hblank]

end Gateway.Json
