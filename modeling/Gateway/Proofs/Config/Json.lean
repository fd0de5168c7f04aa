import Gateway.Proofs.Config.Members

/-!
# Configurations in JSON are read back

`Config.toJson` writes every setting of a configuration as a member of an object, a null for an
absent one. What is written for a setting writes its contents (`writes_toJson`), so the reader gets
it back, member by member: `readMember_jsonMember` for a member, `readMembers_followingMembers` for
the rest of an object from some member on. Together they say that the layer of a written
configuration is what the configuration gives (`Layer.ofJson_toJson`).
-/

namespace Gateway

open Json

/-! ### Contents -/

namespace Json

theorem skipBlanks_cons_of_isBlank {c : Char} (h : isBlank c = true) (cs : List Char) :
    skipBlanks (c :: cs) = skipBlanks cs := by
  simp [skipBlanks, h]

theorem skipBlanks_cons_of_not_isBlank {c : Char} (h : isBlank c = false) (cs : List Char) :
    skipBlanks (c :: cs) = c :: cs := by
  simp [skipBlanks, h]

/-- A numeral is a whole number. -/
theorem isWhole_digits (n : Nat) : IsWhole (Decimal.digits n) := by
  refine ⟨⟨Decimal.digits_ne_nil n, fun c => Decimal.isDigit_of_mem_digits⟩, fun hzero => ?_⟩
  by_cases hn : n = 0
  · rw [hn, Decimal.digits_zero]
  · obtain ⟨c, cs, hcs, -, hne⟩ := Decimal.digits_eq_cons hn
    rw [hcs] at hzero
    exact absurd (Option.some.inj hzero) hne

/-- A text that is written is spelled. -/
theorem spells_written (s : List Char) : Spells (s.flatMap writeChar) s := by
  obtain ⟨body, hbody, heq⟩ := exists_spells_of_readString (readString_write s [])
  have htail : (writeString s).tail ++ [] = s.flatMap writeChar ++ ['"'] := by simp [writeString]
  rw [List.append_cancel_right (htail.symm.trans heq)]
  exact hbody

/-- What is written of contents writes them. -/
theorem writes_toJson (shape : Setting.Shape) (content : shape.Content) :
    Writes shape content (shape.toJson content) := by
  cases shape with
  | text =>
    have h := Writes.text (spells_written content.toList)
    rw [String.ofList_toList] at h
    exact h
  | switch =>
    cases content with
    | true => exact .on
    | false => exact .off
  | port => exact .port (isWhole_digits _) (Decimal.value_digits _)
  | duration => exact .duration (isWhole_digits _) (Decimal.value_digits _)

/-- **Contents are read back**, whatever follows that is no part of a number. -/
theorem readContent_toJson (shape : Setting.Shape) (content : shape.Content) {rest : List Char}
    (h : EndsNumber rest) :
    readContent shape (shape.toJson content ++ rest) = .ok (content, rest) :=
  readContent_eq_ok_iff.mpr ⟨_, writes_toJson shape content, fun _ => h, rfl⟩

/-! ### Members -/

/-- What is written for a setting: its contents, or a null. -/
def fieldText {s : Setting} : Option s.Content → List Char
  | some content => s.shape.toJson content
  | none => ['n', 'u', 'l', 'l']

/-- A member is a tab, its key and its content. -/
theorem jsonMember_eq (c : Config) (s : Setting) :
    c.jsonMember s = '\t' :: writeString s.key.toList ++ ':' :: ' ' :: fieldText (c.toLayer s) := by
  unfold Config.jsonMember fieldText
  cases c.toLayer s <;> rfl

/-- **Fields are read back**, nulls where the reader allows them. -/
theorem readField_fieldText {nullable : Setting → Bool} {s : Setting} {field : Option s.Content}
    (hnull : field = none → nullable s = true) {rest : List Char} (h : EndsNumber rest) :
    readField nullable s (' ' :: (fieldText field ++ rest)) = .ok (field, rest) := by
  rw [readField_eq_ok_iff, skipBlanks_cons_of_isBlank (by decide)]
  cases field with
  | none => exact .inl ⟨hnull rfl, skipBlanks_cons_of_not_isBlank (by decide) _, rfl⟩
  | some content =>
    have hvalue : Derives .value (s.shape.toJson content) := (writes_toJson s.shape content).derives
    have hblanks : skipBlanks (s.shape.toJson content ++ rest) = s.shape.toJson content ++ rest :=
      hvalue.skipBlanks isBlanks_nil rest
    refine .inr ⟨content, ?_, rfl⟩
    rw [fieldText, hblanks]
    exact readContent_toJson s.shape content h

/-- **Members are read back** from behind the opening quote, each under a key that was not there
before. -/
theorem readMember_jsonMember {nullable : Setting → Bool} {c : Config} {s : Setting}
    {fields : Fields} (hnull : c.toLayer s = none → nullable s = true) (hs : fields s = none)
    {rest : List Char} (h : EndsNumber rest) :
    readMember nullable fields ((c.jsonMember s).tail.tail ++ rest) =
      .ok (fields.set s (c.toLayer s), rest) := by
  have hsplit : (c.jsonMember s).tail.tail ++ rest =
      (writeString s.key.toList).tail ++ (':' :: ' ' :: (fieldText (c.toLayer s) ++ rest)) := by
    simp [jsonMember_eq, writeString]
  have hkey : Setting.ofKey? (String.ofList s.key.toList) = some s := by
    rw [String.ofList_toList]
    exact Setting.ofKey?_key s
  rw [hsplit, readMember_eq_ok_iff]
  exact ⟨_, _, _, readString_write _ _, readColon_append isBlanks_nil _,
    .field hkey hs (readField_fieldText hnull h)⟩

/-! ### Objects -/

/-- The members that follow another one, each behind a comma and the end of a line. -/
def followingMembers (c : Config) (ss : List Setting) : List Char :=
  ss.flatMap fun s => ',' :: '\n' :: c.jsonMember s

theorem jsonMembers_cons (c : Config) (s : Setting) (ss : List Setting) :
    c.jsonMembers (s :: ss) = c.jsonMember s ++ followingMembers c ss := by
  induction ss generalizing s with
  | nil => simp [Config.jsonMembers, followingMembers]
  | cons t ss ih =>
    change c.jsonMember s ++ ',' :: '\n' :: c.jsonMembers (t :: ss) = _
    rw [ih]
    simp [followingMembers]

/-- What follows a member is no part of a number: a comma, or the end of the last line. -/
private theorem endsNumber_followingMembers (c : Config) (ss : List Setting) (rest : List Char) :
    EndsNumber (followingMembers c ss ++ '\n' :: rest) := by
  intro d hd
  cases ss with
  | nil =>
    obtain rfl := Option.some.inj hd
    decide
  | cons s ss =>
    obtain rfl := Option.some.inj hd
    decide

/-- The fields with what a configuration gives for some settings. -/
def setFields (c : Config) (fields : Fields) (ss : List Setting) : Fields :=
  ss.foldl (fun fields s => fields.set s (c.toLayer s)) fields

/-- The fields that are set are those of the configuration; the others stay. -/
theorem setFields_apply (c : Config) (fields : Fields) (ss : List Setting) (t : Setting) :
    setFields c fields ss t = if t ∈ ss then some (c.toLayer t) else fields t := by
  induction ss generalizing fields with
  | nil => rfl
  | cons s ss ih =>
    change setFields c (fields.set s (c.toLayer s)) ss t = _
    rw [ih]
    by_cases hts : t ∈ ss
    · rw [if_pos hts, if_pos (List.mem_cons_of_mem s hts)]
    · rw [if_neg hts]
      by_cases hst : s = t
      · subst hst
        rw [Fields.set_self, if_pos List.mem_cons_self]
      · rw [Fields.set_of_ne fields _ hst, if_neg]
        rintro (_ | ⟨_, ht⟩)
        · exact hst rfl
        · exact hts ht

/-- The key of the first member is found behind blanks. -/
private theorem readKeyStart_first (c : Config) (s : Setting) (cs : List Char) :
    readKeyStart true ('\n' :: (c.jsonMember s ++ cs)) =
      .ok (true, (c.jsonMember s).tail.tail ++ cs) := by
  rw [jsonMember_eq, writeString]
  rfl

/-- The key of a later member is found behind a comma and blanks. -/
private theorem readKeyStart_following (c : Config) (s : Setting) (cs : List Char) :
    readKeyStart false (',' :: '\n' :: (c.jsonMember s ++ cs)) =
      .ok (true, (c.jsonMember s).tail.tail ++ cs) := by
  rw [jsonMember_eq, writeString]
  rfl

/-- **The rest of an object is read back** from behind any of its members. -/
theorem readMembers_followingMembers {nullable : Setting → Bool} {c : Config}
    (hnull : ∀ s, c.toLayer s = none → nullable s = true) {ss : List Setting} (hss : ss.Nodup)
    {fields : Fields} (hfields : ∀ s ∈ ss, fields s = none) (rest : List Char) :
    readMembers nullable false fields (followingMembers c ss ++ '\n' :: '}' :: rest) =
      .ok (setFields c fields ss, rest) := by
  induction ss generalizing fields with
  | nil =>
    exact readMembers_eq_ok_iff.mpr (.inl ⟨rest, rfl, rfl⟩)
  | cons s ss ih =>
    obtain ⟨hs, hss⟩ := List.nodup_cons.mp hss
    have hends := endsNumber_followingMembers c ss ('}' :: rest)
    have hm := readMember_jsonMember (hnull s) (hfields s List.mem_cons_self) hends
    have hsplit : followingMembers c (s :: ss) ++ '\n' :: '}' :: rest =
        ',' :: '\n' :: (c.jsonMember s ++ (followingMembers c ss ++ '\n' :: '}' :: rest)) := by
      simp [followingMembers]
    rw [hsplit]
    refine readMembers_eq_ok_iff.mpr
      (.inr ⟨_, _, _, readKeyStart_following c s _, hm, ih hss fun t ht => ?_⟩)
    have hst : s ≠ t := by
      rintro rfl
      exact hs ht
    rw [Fields.set_of_ne fields _ hst]
    exact hfields t (List.mem_cons_of_mem s ht)

/-- **Objects are read back.** The fields of a written configuration are what it gives for every
setting. -/
theorem readFields_toJson {nullable : Setting → Bool} {c : Config}
    (hnull : ∀ s, c.toLayer s = none → nullable s = true) (wanted : Document.Wanted) :
    readFields nullable wanted c.toJson.toList = .ok fun s => some (c.toLayer s) := by
  -- the first member has no comma in front
  obtain ⟨s, ss, hss⟩ : ∃ s ss, Setting.inFile = s :: ss := ⟨_, _, rfl⟩
  have hnodup : (s :: ss).Nodup := hss ▸ Setting.nodup_inFile
  obtain ⟨hs, hnodup⟩ := List.nodup_cons.mp hnodup
  have htext : c.toJson.toList =
      '{' :: '\n' :: (c.jsonMember s ++ (followingMembers c ss ++ ['\n', '}'])) := by
    simp [Config.toJson, hss, jsonMembers_cons]
  have hends := endsNumber_followingMembers c ss ['}']
  have hm := readMember_jsonMember (hnull s) (Fields.empty_apply s) hends
  have hunset : ∀ t ∈ ss, Fields.empty.set s (c.toLayer s) t = none := by
    intro t ht
    have hst : s ≠ t := by
      rintro rfl
      exact hs ht
    exact Fields.set_of_ne _ _ hst
  have hrest := readMembers_followingMembers hnull hnodup hunset []
  have hobject := readMembers_eq_ok_iff.mpr (.inr ⟨_, _, _, readKeyStart_first c s _, hm, hrest⟩)
  have hall : setFields c (Fields.empty.set s (c.toLayer s)) ss = fun t => some (c.toLayer t) := by
    funext t
    have ht : t ∈ s :: ss := hss ▸ t.mem_inFile
    exact (setFields_apply c .empty (s :: ss) t).trans (if_pos ht)
  rw [htext]
  rw [hall] at hobject
  exact readFields_eq_ok_iff.mpr
    ⟨_, _, rfl, .inl ⟨skipBlanks_cons_of_not_isBlank (by decide) _, hobject⟩⟩

end Json

/-- **Written configurations are read back** as the layer that gives what they hold. -/
theorem Layer.ofJson_toJson (c : Config) : Layer.ofJson c.toJson = .ok c.toLayer := by
  unfold Layer.ofJson
  rw [readFields_toJson (fun _ _ => rfl)]
  rfl

end Gateway
