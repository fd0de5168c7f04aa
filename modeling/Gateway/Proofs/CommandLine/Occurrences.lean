import Gateway.Proofs.CommandLine.Reading

/-!
# What the occurrences of flags amount to

A flag may occur any number of times on a command line, each time with a text that its kind takes
(`Occurrence`). The last text counts, but those of a repeated flag are kept together, in their
order (`Kind.collect`). Giving the texts to the flags one after the other comes to the same:
`Occurrence.giveAll_empty`.
-/

namespace Gateway

/-! ### Texts that flags take -/

/-- Whether a flag of some kind takes a text: a number is a string of digits below `2^64`. -/
def Kind.Takes : Kind → String → Prop
  | .text, _ => True
  | .repeated, _ => True
  | .switch, s => s = "true" ∨ s = "false"
  | .number, s =>
    s ≠ "" ∧ s.toList.all Decimal.isDigit = true ∧ Decimal.value s.toList < UInt64.size

/-- What texts amount to that are given one after the other. -/
def Kind.collect : (k : Kind) → List String → Option k.Value
  | .text, texts => texts.getLast?
  | .repeated, texts => if texts = [] then none else some texts
  | .switch, texts => texts.getLast?.map fun s => decide (s = "true")
  | .number, texts => texts.getLast?.map fun s => UInt64.ofNat (Decimal.value s.toList)

/-- **Texts are read** as what they add to the texts before them. -/
theorem Kind.exists_read? {k : Kind} {s : String} (h : k.Takes s) :
    ∃ v, k.read? s = some v ∧
      ∀ texts, k.collect (texts ++ [s]) = some (k.combine (k.collect texts) v) := by
  cases k with
  | text => exact ⟨s, rfl, fun texts => List.getLast?_concat⟩
  | repeated =>
    refine ⟨[s], rfl, fun texts => ?_⟩
    rw [collect, if_neg (List.concat_ne_nil s texts)]
    by_cases hnil : texts = []
    · simp [collect, combine, hnil]
    · simp [collect, combine, hnil]
  | switch =>
    refine ⟨decide (s = "true"), ?_, fun texts => ?_⟩
    · rcases h with rfl | rfl
      · rfl
      · rfl
    · rw [collect, List.getLast?_concat]
      rfl
  | number =>
    obtain ⟨hne, hdigits, hlt⟩ := h
    have hplus : s.toList.head? ≠ some '+' := fun hhead =>
      absurd (List.all_eq_true.mp hdigits '+' (List.mem_of_head? hhead)) (by decide)
    have hunsigned : CommandLine.unsigned s.toList = s.toList := if_neg hplus
    refine ⟨UInt64.ofNat (Decimal.value s.toList), ?_, fun texts => ?_⟩
    · unfold read?
      simp only [hunsigned]
      exact if_pos ⟨by simpa using hne, hdigits, hlt⟩
    · rw [collect, List.getLast?_concat]
      rfl

/-! ### Occurrences -/

/-- An occurrence of a flag, with the text of its value; a bare switch has the text `true`. -/
structure Occurrence where
  flag : Flag
  text : String
  takes : flag.kind.Takes text

namespace Occurrence

/-- What an occurrence gives to its flag. -/
def given (o : Occurrence) : Flag × String := (o.flag, o.text)

theorem isSome_read? (o : Occurrence) : (o.flag.kind.read? o.text).isSome = true := by
  obtain ⟨v, hread, -⟩ := Kind.exists_read? o.takes
  exact Option.isSome_of_eq_some hread

/-- The texts with which a flag occurs. -/
def texts (os : List Occurrence) (f : Flag) : List String :=
  (os.filter fun o => decide (o.flag = f)).map Occurrence.text

theorem takes_of_mem_texts {os : List Occurrence} {f : Flag} {s : String} (h : s ∈ texts os f) :
    f.kind.Takes s := by
  obtain ⟨o, ho, rfl⟩ := List.mem_map.mp h
  obtain rfl := of_decide_eq_true (List.mem_filter.mp ho).2
  exact o.takes

/-- What the occurrences amount to for each flag. -/
def values (os : List Occurrence) : Flag.Values := fun f => f.kind.collect (texts os f)

theorem values_nil : values [] = .empty := by
  have hnil (k : Kind) : k.collect [] = none := by cases k <;> rfl
  exact funext fun f => hnil f.kind

/-- One more occurrence gives its flag one more text. -/
theorem give_values (os : List Occurrence) (o : Occurrence) :
    (values os).give o.flag o.text = values (os ++ [o]) := by
  obtain ⟨v, hread, hcollect⟩ := Kind.exists_read? o.takes
  rw [Flag.Values.give_of_read? hread]
  refine funext fun f => ?_
  by_cases hf : o.flag = f
  · subst hf
    have htexts : texts (os ++ [o]) o.flag = texts os o.flag ++ [o.text] := by simp [texts]
    rw [Flag.Values.record_self, values, values, htexts, hcollect]
  · have htexts : texts (os ++ [o]) f = texts os f := by simp [texts, hf]
    rw [Flag.Values.record_of_ne _ _ hf, values, values, htexts]

/-- **Occurrences are recorded** one after the other. -/
theorem giveAll_empty (os : List Occurrence) :
    Flag.Values.empty.giveAll (os.map given) = values os := by
  have happend (os os' : List Occurrence) :
      (values os).giveAll (os'.map given) = values (os ++ os') := by
    induction os' generalizing os with
    | nil => rw [List.append_nil]; rfl
    | cons o os' ih =>
      have h := ih (os ++ [o])
      rwa [← give_values, List.append_assoc, List.singleton_append] at h
  exact values_nil ▸ happend [] os

end Occurrence

end Gateway
