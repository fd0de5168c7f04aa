import Gateway.Config.Toml
import Gateway.Proofs.Toml.Written
import Gateway.Proofs.Toml.Numbers

/-!
# Configurations in TOML are read back

`Config.toToml?` writes a line for every setting that is not absent. The reader gets back the value
of a line (`readValue_toToml`), from there the line as an entry of the document
(`readLine_tomlLine`), and the lines one after another (`readLines_tomlLines`), which are told apart
by their keys. So the whole document has the keys of the settings that are present
(`readDocument_toToml?`), and the layer of a written configuration is what the configuration gives
(`Layer.ofToml_toToml?`).
-/

namespace Gateway

open Toml

/-! ### Values -/

/-- The value that contents stand for in a document. -/
def Setting.Shape.toValue : (shape : Setting.Shape) → shape.Content → Toml.Value
  | .text, s => .text s
  | .switch, b => .switch b
  | .port, n => .integer n.toNat
  | .duration, n => .integer n.toNat

namespace Toml

/-- Contents that a document can hold: a duration has to be below the limit of whole numbers. -/
def Holds : (shape : Setting.Shape) → shape.Content → Prop
  | .duration, n => n.toNat < integerLimit
  | .text, _ | .switch, _ | .port, _ => True

/-- A numeral is read as a whole number. -/
private theorem readValue_digits {n : Nat} (h : n < integerLimit) (fuel depth : Nat)
    (rest : List Char) :
    readValue (fuel + 1) depth (Decimal.digits n ++ '\n' :: rest) =
      some (.integer n, '\n' :: rest) := by
  -- of the readers that begin with a digit, only the last one takes the numeral
  have hmoment := readMoment_digits (fun _ => Decimal.isDigit_of_mem_digits (n := n)) rest
  have hreal := readReal_digits n rest
  have hinteger := readInteger_digits h rest
  obtain ⟨c, cs, hcs, hc⟩ := Decimal.digits_eq_digit_cons n
  have hne {d : Char} (hd : Decimal.isDigit d = false) : c ≠ d := Decimal.ne_of_isDigit hc hd
  rw [hcs, List.cons_append] at hmoment hreal hinteger ⊢
  rw [readValue.eq_def]
  simp only [or_self, if_false, hne (d := '"') (by decide), hne (d := '\'') (by decide),
    hne (d := '[') (by decide), hne (d := '{') (by decide), hne (d := 't') (by decide),
    hne (d := 'f') (by decide), hmoment, hreal, hinteger]

/-- **Values are read back** up to the end of the line. -/
theorem readValue_toToml {shape : Setting.Shape} {content : shape.Content}
    (h : Holds shape content) (fuel depth : Nat) (rest : List Char) :
    readValue (fuel + 1) depth (shape.toToml content ++ '\n' :: rest) =
      some (shape.toValue content, '\n' :: rest) := by
  cases shape with
  | text =>
    have hread := readText_writeText content.toList rest
    have hquote : ∃ c cs, writeText content.toList = c :: cs ∧ (c = '"' ∨ c = '\'') := by
      unfold writeText
      cases (Traits.of content.toList).style with
      | basic | longBasic => exact ⟨'"', _, rfl, .inl rfl⟩
      | literal | longLiteral => exact ⟨'\'', _, rfl, .inr rfl⟩
    obtain ⟨c, cs, hcs, hc⟩ := hquote
    change readValue (fuel + 1) depth (writeText content.toList ++ '\n' :: rest) = _
    rw [hcs, List.cons_append] at hread ⊢
    rw [readValue.eq_def]
    simp only [if_pos hc, hread, Option.map_some, String.ofList_toList]
    rfl
  | switch => cases content <;> rfl
  | port =>
    have hn := content.toNat_lt
    exact readValue_digits (Nat.lt_trans hn (by decide)) fuel depth rest
  | duration => exact readValue_digits h fuel depth rest

/-- The contents are found in the value that stands for them. -/
theorem content?_found {shape : Setting.Shape} (content : shape.Content) :
    content? shape (shape.toValue content).found = .ok content := by
  cases shape with
  | text => rfl
  | switch => rfl
  | port =>
    have hn : (0 : Int) ≤ content.toNat ∧ (content.toNat : Int) < UInt16.size :=
      ⟨Int.natCast_nonneg _, Int.ofNat_lt.mpr content.toNat_lt⟩
    simp only [Setting.Shape.toValue, Value.found, content?, if_pos hn]
    exact congrArg Except.ok UInt16.ofNat_toNat
  | duration =>
    have hn : (0 : Int) ≤ content.toNat := Int.natCast_nonneg _
    simp only [Setting.Shape.toValue, Value.found, content?, if_pos hn]
    exact congrArg Except.ok UInt64.ofNat_toNat

/-- A value does not begin with a space. -/
private theorem skipSpaces_toToml (shape : Setting.Shape) (content : shape.Content)
    (rest : List Char) :
    skipSpaces (shape.toToml content ++ rest) = shape.toToml content ++ rest := by
  have hdigits (n : Nat) : skipSpaces (Decimal.digits n ++ rest) = Decimal.digits n ++ rest := by
    obtain ⟨c, cs, hcs, hc⟩ := Decimal.digits_eq_digit_cons n
    rw [hcs]
    refine List.dropWhile_cons_of_neg fun hspace => ?_
    simp only [isSpace, Bool.or_eq_true, beq_iff_eq] at hspace
    rcases hspace with rfl | rfl <;> exact absurd hc (by decide)
  cases shape with
  | text =>
    change skipSpaces (writeText content.toList ++ rest) = writeText content.toList ++ rest
    unfold writeText
    cases (Traits.of content.toList).style <;> rfl
  | switch => cases content <;> rfl
  | port => exact hdigits _
  | duration => exact hdigits _

/-! ### Lines -/

/-- The line for some contents of a setting. -/
theorem tomlLine_of_some {c : Config} {s : Setting} {content : s.Content}
    (h : c.toLayer s = some content) (rest : List Char) :
    c.tomlLine s ++ rest =
      s.key.toList ++ (' ' :: '=' :: ' ' :: (s.shape.toToml content ++ '\n' :: rest)) := by
  simp [Config.tomlLine, h]

/-- The key of a setting is one part of a key, without quotes. -/
private theorem readKey_key (s : Setting) (rest : List Char) :
    ∃ span, readKey depthLimit (s.key.toList ++ ' ' :: '=' :: rest) =
      some ([⟨s.key, span⟩], '=' :: rest) := by
  cases s <;> exact ⟨_, rfl⟩

/-- A line that begins with the key of a setting is an entry. -/
private theorem readLine_key (s : Setting) (b : Builder) (rest : List Char) :
    readLine b (s.key.toList ++ rest) = readEntry b (s.key.toList ++ rest) := by
  cases s <;> rfl

private theorem skipSpaces_key (s : Setting) (rest : List Char) :
    skipSpaces (s.key.toList ++ rest) = s.key.toList ++ rest := by
  cases s <;> rfl

/-- A value under a new key goes to the end of the entries. -/
private theorem insert_of_find? {b : Builder} {key : Key} (h : b.entries.find? key.name = none)
    (v : Value) (span : Span) :
    ∃ span', b.insert [] key v span =
      some { b with entries := b.entries ++ [(key, .value v span)], span := span' } := by
  refine ⟨b.span.map fun s => ⟨s.start, span.stop⟩, ?_⟩
  simp [Builder.insert, Entries.insert, Entries.update, h]

/-- An entry of a document that gives contents for a setting. -/
def Gives (s : Setting) (content : s.Content) (e : Key × Node) : Prop :=
  e.1.name = s.key ∧ ∀ l es, readLayer l (e :: es) = readLayer (l.set s content) es

/-- **Lines are read back** as entries under keys that were not there before. -/
theorem readLine_tomlLine {c : Config} {s : Setting} {content : s.Content}
    (h : c.toLayer s = some content) (hholds : Holds s.shape content) {b : Builder}
    (hb : b.entries.find? s.key = none) (rest : List Char) :
    ∃ e span, Gives s content e ∧ readLine b (c.tomlLine s ++ rest) =
      some ({ b with entries := b.entries ++ [e], span := span }, rest) := by
  obtain ⟨keySpan, hkey⟩ := readKey_key s (' ' :: (s.shape.toToml content ++ '\n' :: rest))
  have hspaces : skipSpaces (' ' :: (s.shape.toToml content ++ '\n' :: rest)) =
      s.shape.toToml content ++ '\n' :: rest := skipSpaces_toToml s.shape content _
  have hend : skipLineEnd ('\n' :: rest) = some rest := rfl
  have hfind : b.entries.find? (Key.mk s.key keySpan).name = none := hb
  let valueSpan : Span := ⟨s.shape.toToml content ++ '\n' :: rest, '\n' :: rest⟩
  obtain ⟨span, hinsert⟩ := insert_of_find? hfind (s.shape.toValue content) valueSpan
  refine ⟨(⟨s.key, keySpan⟩, .value (s.shape.toValue content) valueSpan), span,
    ⟨rfl, fun l es => ?_⟩, ?_⟩
  · simp only [readLayer, Setting.ofKey?_key, Node.found, content?_found]
  · rw [tomlLine_of_some h, readLine_key, readEntry, hkey]
    simp only [List.getLast?_singleton, hspaces, readValue_toToml hholds, hend,
      List.dropLast_singleton]
    rw [hinsert]

/-! ### Documents -/

/-- A layer with what a configuration gives for some settings. -/
def setLayer (c : Config) (l : Layer) (ss : List Setting) : Layer := fun t =>
  if t ∈ ss then (c.toLayer t).or (l t) else l t

private theorem setLayer_cons_of_some {c : Config} {s : Setting} {content : s.Content}
    (h : c.toLayer s = some content) {ss : List Setting} (hs : s ∉ ss) (l : Layer) :
    setLayer c (l.set s content) ss = setLayer c l (s :: ss) := by
  funext t
  unfold setLayer
  by_cases hst : s = t
  · subst hst
    rw [if_neg hs, if_pos List.mem_cons_self, Layer.set_self, h]
    rfl
  · rw [Layer.set_of_ne l content hst]
    simp only [List.mem_cons, Ne.symm hst, false_or]

private theorem setLayer_cons_of_none {c : Config} {s : Setting} (h : c.toLayer s = none)
    {ss : List Setting} (hs : s ∉ ss) (l : Layer) :
    setLayer c l ss = setLayer c l (s :: ss) := by
  funext t
  unfold setLayer
  by_cases hst : s = t
  · subst hst
    rw [if_neg hs, if_pos List.mem_cons_self, h]
    rfl
  · simp only [List.mem_cons, Ne.symm hst, false_or]

/-- **Lines are read back one after another**, as entries behind those that are there. -/
theorem readLines_tomlLines {c : Config}
    (hholds : ∀ s content, c.toLayer s = some content → Holds s.shape content)
    {ss : List Setting} (hss : ss.Nodup) {b : Builder}
    (hb : ∀ s ∈ ss, b.entries.find? s.key = none) {fuel : Nat}
    (hfuel : (ss.flatMap c.tomlLine).length < fuel) :
    ∃ es span, readLines fuel b (ss.flatMap c.tomlLine) =
        some { b with entries := b.entries ++ es, span := span } ∧
      es.map (·.1.name) = (ss.filter fun s => (c.toLayer s).isSome).map Setting.key ∧
      ∀ l, readLayer l es = .ok (setLayer c l ss) := by
  induction ss generalizing b fuel with
  | nil =>
    obtain ⟨fuel, rfl⟩ : ∃ k, fuel = k + 1 := ⟨fuel - 1, by omega⟩
    refine ⟨[], b.span, ?_, rfl, fun l => rfl⟩
    rw [List.append_nil]
    rfl
  | cons s ss ih =>
    obtain ⟨hs, hss⟩ := List.nodup_cons.mp hss
    obtain ⟨hbs, hbss⟩ := List.forall_mem_cons.mp hb
    rw [List.flatMap_cons] at hfuel ⊢
    cases h : c.toLayer s with
    | none =>
      -- an absent setting has no line
      have hline : c.tomlLine s = [] := by simp [Config.tomlLine, h]
      rw [hline, List.nil_append] at hfuel ⊢
      obtain ⟨es, span, hread, hnames, hlayer⟩ := ih hss hbss hfuel
      refine ⟨es, span, hread, ?_, fun l => (hlayer l).trans
        (congrArg Except.ok (setLayer_cons_of_none h hs l))⟩
      rw [hnames, List.filter_cons_of_neg (by simp [h])]
    | some content =>
      obtain ⟨fuel, rfl⟩ : ∃ k, fuel = k + 1 := ⟨fuel - 1, by omega⟩
      obtain ⟨e, span, ⟨hname, hgives⟩, hline⟩ :=
        readLine_tomlLine h (hholds s content h) hbs (ss.flatMap c.tomlLine)
      have hne : c.tomlLine s ≠ [] := by simp [Config.tomlLine, h]
      have hlength : (ss.flatMap c.tomlLine).length < fuel := by
        have hpos : 0 < (c.tomlLine s).length := List.length_pos_iff.mpr hne
        rw [List.length_append] at hfuel
        omega
      -- the new entry takes none of the keys that follow
      have hunused : ∀ t ∈ ss, Entries.find? (b.entries ++ [e]) t.key = none := by
        intro t ht
        have hkey : s.key ≠ t.key := by
          intro hkey
          have hst : some s = some t := by
            rw [← Setting.ofKey?_key s, ← Setting.ofKey?_key t, hkey]
          obtain rfl := Option.some.inj hst
          exact hs ht
        have hfind := hbss t ht
        simp only [Entries.find?, Option.map_eq_none_iff, List.find?_append] at hfind ⊢
        simp [hfind, hname, hkey]
      obtain ⟨es, span', hread, hnames, hlayer⟩ :=
        ih hss (b := { b with entries := b.entries ++ [e], span := span }) hunused hlength
      refine ⟨e :: es, span', ?_, ?_, fun l => ?_⟩
      · have hspaces : skipSpaces (c.tomlLine s ++ ss.flatMap c.tomlLine) =
            c.tomlLine s ++ ss.flatMap c.tomlLine := by
          rw [tomlLine_of_some h, skipSpaces_key]
        rw [readLines, hspaces]
        split
        · next heq => exact absurd (List.append_eq_nil_iff.mp heq).1 hne
        · rw [hline]
          simpa using hread
      · rw [List.filter_cons_of_pos (by simp [h]), List.map_cons, List.map_cons, hname, hnames]
      · rw [hgives, hlayer]
        exact congrArg Except.ok (setLayer_cons_of_some h hs l)

/-- **Documents are read back** as entries under the keys of the settings that are present. -/
theorem readDocument_toToml? {c : Config} {text : String} (h : c.toToml? = some text) :
    ∃ es, readDocument text.toList = some es ∧
      es.map (·.1.name) = (Setting.inFile.filter fun s => (c.toLayer s).isSome).map Setting.key ∧
      readLayer .empty es = .ok c.toLayer := by
  unfold Config.toToml? at h
  split at h
  · next hlimit =>
    obtain rfl := Option.some.inj h
    have hholds : ∀ s content, c.toLayer s = some content → Holds s.shape content := by
      intro s content hs
      cases s with
      | requestTimeout =>
        obtain rfl := Option.some.inj hs
        exact hlimit
      | _ => trivial
    obtain ⟨es, span, hread, hnames, hlayer⟩ := readLines_tomlLines hholds Setting.nodup_inFile
      (b := .start) (fun _ _ => rfl) (Nat.lt_add_one _)
    -- a byte order mark would be passed over, but there is none
    have hmark : ∀ rest, Setting.inFile.flatMap c.tomlLine ≠ '\uFEFF' :: rest := by
      intro rest hrest
      have hhead : (Setting.inFile.flatMap c.tomlLine).head? = some 'n' := rfl
      rw [hrest] at hhead
      exact absurd (Option.some.inj hhead) (by decide)
    have hdocument : readDocument (Setting.inFile.flatMap c.tomlLine) = some es := by
      unfold readDocument
      split
      · next heq => exact absurd heq (hmark _)
      · exact congrArg (Option.bind · Builder.finish) hread
    have hall : setLayer c .empty Setting.inFile = c.toLayer := by
      funext s
      unfold setLayer
      rw [if_pos s.mem_inFile]
      exact Option.or_none
    rw [String.toList_ofList]
    exact ⟨es, hdocument, hnames, (hlayer .empty).trans (congrArg Except.ok hall)⟩
  · cases h

end Toml

/-- **Written configurations are read back** as the layer that gives what they hold. -/
theorem Layer.ofToml_toToml? {c : Config} {text : String} (h : c.toToml? = some text) :
    Layer.ofToml text = .ok c.toLayer := by
  obtain ⟨es, hdocument, -, hlayer⟩ := readDocument_toToml? h
  unfold Layer.ofToml
  rw [hdocument]
  exact hlayer

end Gateway
