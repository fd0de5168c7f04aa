import Gateway.CommandLine
import Gateway.Proofs.Text.Utf8

/-!
# The grammar of command lines

A command line is made of phrases, one after the other. A `Phrase` names a flag by its long name, or
by its short one behind short names of switches (`Naming`), and gives it a text in some `Manner`: by
the name alone, behind an equals sign, joined to a short name, or in the argument behind. It is
well-formed if the flag can be given a text in this manner, and takes it (`Kind.read?`).

What phrases say is the list of the texts that they give to flags (`Phrase.given`), and what these
amount to is recorded one after the other (`Flag.Values.giveAll`). The reader of command lines is
not mentioned in any of this.
-/

namespace Gateway

/-! ### Texts that flags take -/

/-- A text without a plus sign in front. -/
def CommandLine.unsigned (cs : List Char) : List Char :=
  if cs.head? = some '+' then cs.tail else cs

/-- The value that a text gives to flags of some kind, if they take it. A number is a string of
digits below `2^64`, behind a plus sign or not. -/
def Kind.read? : (k : Kind) → String → Option k.Value
  | .text, s => some s
  | .repeated, s => some [s]
  | .switch, s => if s = "true" then some true else if s = "false" then some false else none
  | .number, s =>
    let digits := CommandLine.unsigned s.toList
    if digits ≠ [] ∧ digits.all Decimal.isDigit = true ∧ Decimal.value digits < UInt64.size then
      some (UInt64.ofNat (Decimal.value digits))
    else none

namespace Flag.Values

/-- The values after a flag is given a text; one that it does not take changes nothing. -/
def give (vs : Values) (f : Flag) (text : String) : Values :=
  match f.kind.read? text with
  | some value => vs.record f value
  | none => vs

/-- The values after flags are given texts, one after the other. -/
def giveAll (vs : Values) (given : List (Flag × String)) : Values :=
  given.foldl (fun vs g => vs.give g.1 g.2) vs

/-- Texts may be given in two parts. -/
theorem giveAll_append (vs : Values) (gs gs' : List (Flag × String)) :
    vs.giveAll (gs ++ gs') = (vs.giveAll gs).giveAll gs' := List.foldl_append

/-- To give a text is to record the value that is read from it. -/
theorem give_of_read? {vs : Values} {f : Flag} {text : String} {value : f.Value}
    (h : f.kind.read? text = some value) : vs.give f text = vs.record f value := by
  unfold give
  rw [h]

end Flag.Values

namespace CommandLine

/-- A switch that is named is on. -/
theorem isSome_read?_switch {f : Flag} (h : f.kind = .switch) :
    (f.kind.read? "true").isSome = true := by
  rw [h]
  rfl

/-! ### Names of flags -/

/-- No long name has an `=` in it, so the first one in an argument ends the name. -/
theorem ne_of_mem_long {f : Flag} {b : UInt8} (h : b ∈ Utf8.ofString f.entry.long) :
    b ≠ 0x3D := by
  have hall : (Flag.all.all fun f => (Utf8.ofString f.entry.long).all (· != 0x3D)) = true := by
    decide +kernel
  simp only [List.all_eq_true, bne_iff_ne] at hall
  exact hall f f.mem_all b h

theorem long_ne_nil (f : Flag) : Utf8.ofString f.entry.long ≠ [] := by
  have hall : (Flag.all.all fun f => Utf8.ofString f.entry.long != []) = true := by decide +kernel
  simp only [List.all_eq_true, bne_iff_ne] at hall
  exact hall f f.mem_all

/-- No short name is a hyphen or an `=`: the one begins a long name, the other a text. -/
theorem short_ne {f : Flag} {c : Char} (h : f.entry.short = some c) :
    c ≠ '-' ∧ c ≠ '=' := by
  have hall : (Flag.all.all fun f => f.entry.short != some '-' && f.entry.short != some '=') =
      true := by decide +kernel
  simp only [List.all_eq_true, Bool.and_eq_true, bne_iff_ne] at hall
  have hf := hall f f.mem_all
  rw [h] at hf
  exact ⟨fun hc => hf.1 (congrArg some hc), fun hc => hf.2 (congrArg some hc)⟩

/-- A flag that is found by a long name has that name. -/
theorem long_of_ofLong? {long : String} {f : Flag} (h : Flag.ofLong? long = some f) :
    f.entry.long = long := by
  unfold Flag.ofLong? at h
  simpa using List.find?_some h

theorem short_of_ofShort? {c : Char} {f : Flag} (h : Flag.ofShort? c = some f) :
    f.entry.short = some c := by
  unfold Flag.ofShort? at h
  simpa using List.find?_some h

/-- Short names written one after the other do not begin with a hyphen or an equals sign. -/
theorem exists_cons_of_shorts {gs : List Flag} (hne : gs ≠ [])
    (h : ∀ g ∈ gs, g.entry.short.isSome = true) :
    ∃ c cs, (gs.flatMap fun g => g.entry.short.toList) = c :: cs ∧ c ≠ '-' ∧ c ≠ '=' := by
  obtain ⟨g, gs, rfl⟩ := List.exists_cons_of_ne_nil hne
  obtain ⟨c, hc⟩ := Option.isSome_iff_exists.mp (h g List.mem_cons_self)
  rw [List.flatMap_cons, hc]
  exact ⟨c, _, rfl, short_ne hc⟩

/-! ### Phrases -/

/-- A text that may be an argument of its own behind the flag whose value it is. -/
def StandsAlone (s : String) : Prop := s = "-" ∨ s.toList.head? ≠ some '-'

instance : DecidablePred StandsAlone := fun s =>
  inferInstanceAs (Decidable (s = "-" ∨ s.toList.head? ≠ some '-'))

/-- An argument that names no flags: the hyphen, and those that do not begin with it. -/
def IsPlain (argument : Bytes) : Prop := argument = [0x2D] ∨ argument.head? ≠ some 0x2D

/-- The argument of a text names no flags exactly if the text can stand alone. -/
theorem isPlain_ofString_iff {s : String} : IsPlain (Utf8.ofString s) ↔ StandsAlone s := by
  have hhyphen : Utf8.ofString s = [0x2D] ↔ s = "-" := Utf8.ofString_injective.eq_iff (b := "-")
  have hhead : (Utf8.ofString s).head? = some 0x2D ↔ s.toList.head? = some '-' := by
    rw [Utf8.ofString]
    cases s.toList with
    | nil => simp [Utf8.encode]
    | cons c cs =>
      obtain ⟨b, rest, hb, -⟩ := Utf8.encode_cons c cs
      simp only [hb, List.head?_cons, Option.some.injEq]
      constructor
      · rintro rfl
        exact Utf8.eq_ofNat_of_encode_cons hb (by decide)
      · rintro rfl
        exact (List.cons.inj hb).1.symm
  exact or_congr hhyphen (not_congr hhead)

/-- How a flag is given a text. -/
inductive Manner where
  /-- By its name alone, as in `-D`. -/
  | bare
  /-- In the argument behind its name, as in `-p 9000`. -/
  | detached (text : String)
  /-- Behind an equals sign, as in `-p=9000`. -/
  | attached (text : String)
  /-- Behind its short name, as in `-p9000`. -/
  | joined (text : String)
  deriving DecidableEq, Repr

namespace Manner

/-- The text that is given; a switch that is named is on. -/
def text : Manner → String
  | bare => "true"
  | detached text | attached text | joined text => text

/-- What follows the name in its argument. -/
def suffix : Manner → List Char
  | bare | detached _ => []
  | attached text => '=' :: text.toList
  | joined text => text.toList

/-- The argument behind, if it belongs to the flag. -/
def behind : Manner → List String
  | bare | attached _ | joined _ => []
  | detached text => [text]

/-- Whether the text stands behind the name with nothing between them. -/
def isJoined : Manner → Bool
  | joined _ => true
  | bare | detached _ | attached _ => false

/-- Whether a flag can be given a text in this manner, and takes it. -/
def Suits (f : Flag) (m : Manner) : Prop :=
  (f.kind.read? m.text).isSome = true ∧
    match m with
    | bare => f.kind = .switch
    | detached text => f.kind ≠ .switch ∧ StandsAlone text
    | attached _ => True
    | joined text => f.kind ≠ .switch ∧ text ≠ "" ∧ text.toList.head? ≠ some '='

instance (f : Flag) : DecidablePred (Suits f) := fun m => by
  cases m <;> unfold Suits <;> infer_instance

end Manner

/-- The names of flags that stand in an argument. -/
inductive Naming where
  /-- The long name of a flag. -/
  | long (f : Flag)
  /-- Short names of switches, and the short name of one more flag. -/
  | short (switches : List Flag) (f : Flag)
  deriving DecidableEq, Repr

namespace Naming

/-- The flag that is named last. -/
def flag : Naming → Flag
  | long f | short _ f => f

/-- The switches that are named before. -/
def switches : Naming → List Flag
  | long _ => []
  | short switches _ => switches

/-- The names with their hyphens. -/
def text : Naming → List Char
  | long f => '-' :: '-' :: f.entry.long.toList
  | short switches f => '-' :: (switches ++ [f]).flatMap fun g => g.entry.short.toList

/-- What the names in front give to their flags. -/
def given (n : Naming) : List (Flag × String) := n.switches.map (·, "true")

/-- Whether a text can be joined to the names. -/
def isShort : Naming → Bool
  | long _ => false
  | short _ _ => true

/-- Whether the short names are there, and those in front are names of switches. -/
def IsKnown (n : Naming) : Prop :=
  (∀ g ∈ n.switches, g.kind = .switch ∧ g.entry.short.isSome = true) ∧
    (n.isShort = true → n.flag.entry.short.isSome = true)

instance : DecidablePred IsKnown := fun _ => inferInstanceAs (Decidable (_ ∧ _))

theorem exists_short_of_mem {n : Naming} (hn : n.IsKnown) (hshort : n.isShort = true) :
    ∀ g ∈ n.switches ++ [n.flag], g.entry.short.isSome = true := by
  simpa [or_imp, forall_and, hn.2 hshort] using fun g hg => (hn.1 g hg).2

/-- Names stand behind a hyphen, and long ones behind another. -/
theorem encode_text_append {n : Naming} (hn : n.IsKnown) (suffix : List Char) :
    ∃ b rest, Utf8.encode (n.text ++ suffix) = 0x2D :: b :: rest ∧
      (b = 0x2D → n.isShort = false ∧ rest ≠ []) := by
  cases n with
  | long f =>
    refine ⟨0x2D, Utf8.encode (f.entry.long.toList ++ suffix), rfl, fun _ => ⟨rfl, fun h => ?_⟩⟩
    have hlong : Utf8.ofString f.entry.long ++ Utf8.encode suffix = [] := by
      rw [← h]
      simp [Utf8.ofString, Utf8.encode]
    exact long_ne_nil f (List.append_eq_nil_iff.mp hlong).1
  | short switches f =>
    obtain ⟨c, cs, hcs, hc, -⟩ := exists_cons_of_shorts (by simp) (exists_short_of_mem hn rfl)
    obtain ⟨b, rest, hb, -⟩ := Utf8.encode_cons c (cs ++ suffix)
    refine ⟨b, rest, ?_, ?_⟩
    · change 0x2D :: Utf8.encode (_ ++ suffix) = _
      rw [← hb, ← List.cons_append, ← hcs]
      rfl
    · rintro rfl
      exact absurd (Utf8.eq_ofNat_of_encode_cons hb (by decide)) hc

/-- Known names are never taken for a value, whatever follows them. -/
theorem not_isPlain {n : Naming} (hn : n.IsKnown) (suffix : List Char) :
    ¬ IsPlain (Utf8.encode (n.text ++ suffix)) := by
  obtain ⟨b, rest, hb, -⟩ := encode_text_append hn suffix
  rw [hb]
  rintro (h | h)
  · cases h
  · exact h rfl

/-- Known names are never taken for the end of the flags. -/
theorem ne_hyphens {n : Naming} (hn : n.IsKnown) (suffix : List Char) :
    Utf8.encode (n.text ++ suffix) ≠ [0x2D, 0x2D] := by
  obtain ⟨b, rest, hb, hlong⟩ := encode_text_append hn suffix
  rw [hb]
  rintro ⟨⟩
  exact (hlong rfl).2 rfl

end Naming

/-- An argument that names flags, and the argument behind it if that is the value of the last
flag. -/
structure Phrase where
  /-- The flags that are named. -/
  naming : Naming
  /-- How the last one is given its text. -/
  manner : Manner
  deriving DecidableEq, Repr

namespace Phrase

/-- The arguments. -/
def arguments (p : Phrase) : List String :=
  String.ofList (p.naming.text ++ p.manner.suffix) :: p.manner.behind

/-- The texts that are given to flags. -/
def given (p : Phrase) : List (Flag × String) :=
  p.naming.given ++ [(p.naming.flag, p.manner.text)]

/-- Whether the names are known and the text can be given to the flag. Nothing is joined to a long
name. -/
def IsWellFormed (p : Phrase) : Prop :=
  p.naming.IsKnown ∧ p.manner.Suits p.naming.flag ∧
    (p.manner.isJoined = true → p.naming.isShort = true)

instance : DecidablePred IsWellFormed := fun _ => inferInstanceAs (Decidable (_ ∧ _))

end Phrase

/-- Phrases that are well-formed are written one after the other, and `--` may close them. -/
def Writes (phrases : List Phrase) (arguments : List Bytes) : Prop :=
  (∀ p ∈ phrases, p.IsWellFormed) ∧
    ∃ closing, (closing = [] ∨ closing = ["--"]) ∧
      arguments = (phrases.flatMap Phrase.arguments ++ closing).map Utf8.ofString

theorem writes_nil : Writes [] [] := ⟨nofun, [], .inl rfl, rfl⟩

/-- A well-formed phrase may be put in front. -/
theorem Writes.cons {p : Phrase} {phrases : List Phrase} {arguments : List Bytes}
    (h : Writes phrases arguments) (hp : p.IsWellFormed) :
    Writes (p :: phrases) (p.arguments.map Utf8.ofString ++ arguments) := by
  obtain ⟨hall, closing, hclosing, rfl⟩ := h
  refine ⟨List.forall_mem_cons.mpr ⟨hp, hall⟩, closing, hclosing, ?_⟩
  rw [List.flatMap_cons, List.append_assoc, List.map_append, List.map_append, List.map_append]

end CommandLine

end Gateway
