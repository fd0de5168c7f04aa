import Gateway.Http.Message

/-!
# What headers say

Of several headers of a name the first one counts (`IsFirst`), and its value is a text if every byte
is a visible ASCII character, a space or a tab (`Spells`). The host that a request was sent to is
what its header spells, or else the authority of the target (`Request.SentTo`). The functions on
requests compute just that: `header?_eq_some_iff`, `text?_eq_some_iff` and `sentTo_iff`. In a
response all headers of a name matter (`values`).
-/

namespace Gateway.Http

/-! ### First headers -/

/-- The first of the headers of a name has some value. -/
def IsFirst (name : String) (value : Bytes) (headers : List Header) : Prop :=
  ∃ front back, headers = front ++ (name, value) :: back ∧ ∀ h ∈ front, h.1 ≠ name

/-- Of several headers with a name the first counts. -/
theorem header?_eq_some_iff {name : String} {value : Bytes} {headers : List Header} :
    header? name headers = some value ↔ IsFirst name value headers := by
  unfold header? IsFirst
  rw [Option.map_eq_some_iff]
  constructor
  · rintro ⟨⟨n, v⟩, hfind, rfl⟩
    obtain ⟨hname, front, back, hheaders, hfront⟩ := List.find?_eq_some_iff_append.mp hfind
    obtain rfl : n = name := by simpa using hname
    exact ⟨front, back, hheaders, fun h hh => by simpa using hfront h hh⟩
  · rintro ⟨front, back, hheaders, hfront⟩
    refine ⟨(name, value), List.find?_eq_some_iff_append.mpr ?_, rfl⟩
    exact ⟨by simp, front, back, hheaders, fun h hh => by simpa using hfront h hh⟩

/-! ### Texts -/

/-- Some bytes spell a text of visible ASCII characters, spaces and tabs, one byte for each. -/
def Spells (value : Bytes) (text : String) : Prop :=
  value = text.toList.map (fun c => UInt8.ofNat c.toNat) ∧
    ∀ c ∈ text.toList, c = '\t' ∨ (0x20 ≤ c.toNat ∧ c.toNat ≤ 0x7E)

/-- ASCII characters are written as one byte each. -/
private theorem encode_ascii {cs : List Char} (h : ∀ c ∈ cs, c.toNat < 0x80) :
    Utf8.encode cs = cs.map fun c => UInt8.ofNat c.toNat := by
  induction cs with
  | nil => rfl
  | cons c cs ih =>
    obtain ⟨hc, hcs⟩ := List.forall_mem_cons.mp h
    have hchar : Utf8.encodeChar c = [UInt8.ofNat c.toNat] := if_pos hc
    change Utf8.encodeChar c ++ Utf8.encode cs = _
    rw [hchar, ih hcs]
    rfl

private theorem toNat_ofNat {n : Nat} (h : n < 0x80) : (Char.ofNat n).toNat = n := by
  unfold Char.ofNat
  rw [dif_pos (show n.isValidChar from .inl (by omega))]
  unfold Char.ofNatAux Char.toNat
  simp

/-- The characters whose codes some bytes are. -/
private def characters (value : Bytes) : List Char := value.map fun b => Char.ofNat b.toNat

/-- Bytes in ASCII are recovered from their characters. -/
private theorem codes_characters {value : Bytes} (h : ∀ b ∈ value, b.toNat < 0x80) :
    (characters value).map (fun c => UInt8.ofNat c.toNat) = value := by
  unfold characters
  rw [List.map_map]
  refine (List.map_congr_left fun b hb => ?_).trans (List.map_id value)
  simp only [Function.comp_apply, toNat_ofNat (h b hb), UInt8.ofNat_toNat, id_eq]

/-- ASCII bytes are the text of the characters whose codes they are. -/
private theorem string?_ascii {value : Bytes} (h : ∀ b ∈ value, b.toNat < 0x80) :
    Utf8.string? value = some (String.ofList (characters value)) := by
  have hencode : Utf8.encode (characters value) = value := by
    rw [encode_ascii, codes_characters h]
    intro c hc
    obtain ⟨b, hb, rfl⟩ := List.mem_map.mp hc
    rw [toNat_ofNat (h b hb)]
    exact h b hb
  rw [Utf8.string?, ← hencode, Utf8.decode?_encode, hencode]
  rfl

/-- Whether a byte may stand in a text, by its number. -/
private theorem isShown_iff (b : UInt8) :
    ((0x20 ≤ b.toNat && b.toNat < 0x7F) || b == 0x09) = true ↔
      b.toNat = 0x09 ∨ (0x20 ≤ b.toNat ∧ b.toNat ≤ 0x7E) := by
  have htab : b = 0x09 ↔ b.toNat = 0x09 := UInt8.toNat_inj.symm
  simp only [Bool.or_eq_true, Bool.and_eq_true, decide_eq_true_eq, beq_iff_eq, htab]
  omega

/-- A value is a text only if it spells that text. -/
private theorem spells_of_text? {value : Bytes} {text : String} (h : text? value = some text) :
    Spells value text := by
  unfold text? at h
  split at h
  · next hall =>
    have hshown (b : UInt8) (hb : b ∈ value) := (isShown_iff b).mp (List.all_eq_true.mp hall b hb)
    have hascii (b : UInt8) (hb : b ∈ value) : b.toNat < 0x80 := by
      have hbyte := hshown b hb
      omega
    obtain rfl := Option.some.inj ((string?_ascii hascii).symm.trans h)
    unfold Spells
    rw [String.toList_ofList]
    refine ⟨(codes_characters hascii).symm, fun c hc => ?_⟩
    obtain ⟨b, hb, rfl⟩ := List.mem_map.mp hc
    rw [toNat_ofNat (hascii b hb)]
    exact (hshown b hb).imp (congrArg Char.ofNat) id
  · cases h

/-- **Texts of headers.** A value is read as the text that it spells, and refused if it spells
none. -/
theorem text?_eq_some_iff {value : Bytes} {text : String} :
    text? value = some text ↔ Spells value text := by
  refine ⟨spells_of_text?, ?_⟩
  rintro ⟨rfl, hchars⟩
  have hascii (c : Char) (hc : c ∈ text.toList) : c.toNat < 0x80 := by
    rcases hchars c hc with rfl | hc
    · decide
    · omega
  have hall : (text.toList.map fun c => UInt8.ofNat c.toNat).all
      (fun b => (0x20 ≤ b.toNat && b.toNat < 0x7F) || b == 0x09) = true := by
    refine List.all_eq_true.mpr fun b hb => ?_
    obtain ⟨c, hc, rfl⟩ := List.mem_map.mp hb
    have hcode : (UInt8.ofNat c.toNat).toNat = c.toNat := by
      have hcode := hascii c hc
      rw [UInt8.toNat_ofNat', Nat.mod_eq_of_lt (by omega)]
    rw [isShown_iff, hcode]
    exact (hchars c hc).imp (congrArg Char.toNat) id
  unfold text?
  rw [if_pos hall, ← encode_ascii hascii]
  exact Utf8.string?_ofString text

/-- A text of characters that headers show is spelled by the bytes that it is written as. -/
theorem spells_ofString {text : String}
    (h : ∀ c ∈ text.toList, c = '\t' ∨ (0x20 ≤ c.toNat ∧ c.toNat ≤ 0x7E)) :
    Spells (Utf8.ofString text) text := by
  refine ⟨encode_ascii fun c hc => ?_, h⟩
  rcases h c hc with rfl | hc
  · decide
  · omega

/-- What spells a text can be the value of a header. -/
theorem value?_of_spells {value : Bytes} {text : String} (h : Spells value text) :
    value? text = some value := by
  have hshown : ∀ b ∈ value, b.toNat = 0x09 ∨ (0x20 ≤ b.toNat ∧ b.toNat ≤ 0x7E) := by
    have htext := text?_eq_some_iff.mpr h
    unfold text? at htext
    split at htext
    · next hall => exact fun b hb => (isShown_iff b).mp (List.all_eq_true.mp hall b hb)
    · cases htext
  have hvalue : isValue value = true := by
    refine List.all_eq_true.mpr fun b hb => ?_
    have htab : b = 0x09 ↔ b.toNat = 0x09 := UInt8.toNat_inj.symm
    simp only [Bool.or_eq_true, Bool.and_eq_true, decide_eq_true_eq, beq_iff_eq, htab]
    have hbyte := hshown b hb
    omega
  have hwritten : Utf8.ofString text = value := by
    rw [h.1]
    exact (spells_ofString h.2).1
  rw [value?, hwritten, if_pos hvalue]

/-! ### All headers of a name -/

/-- The values of all headers of a name, in their order. -/
def values (name : String) (headers : List Header) : List Bytes :=
  (headers.filter fun h => h.1 == name).map Prod.snd

theorem values_append (name : String) (hs hs' : List Header) :
    values name (hs ++ hs') = values name hs ++ values name hs' := by
  rw [values, List.filter_append, List.map_append]
  rfl

theorem values_eq_nil {name : String} {headers : List Header} (h : ∀ g ∈ headers, g.1 ≠ name) :
    values name headers = [] := by
  rw [values, List.map_eq_nil_iff, List.filter_eq_nil_iff]
  exact fun g hg => by simpa using h g hg

/-- A response that has no headers of a name gets those that are added. -/
theorem Response.values_withHeaders {name : String} {r : Response} (hs : List Header)
    (h : ∀ g ∈ r.headers, g.1 ≠ name) :
    values name (r.withHeaders hs).headers = values name hs := by
  unfold Response.withHeaders
  rw [values_append, values_eq_nil fun g hg => h g (List.mem_filter.mp hg).1, List.nil_append]

/-! ### Hosts -/

/-- The host that a request was sent to: what its first header of that name spells, or the authority
of the target if that spells nothing. -/
inductive Request.SentTo (r : Request) : Option String → Prop
  | header {value : Bytes} {text : String} (first : IsFirst "host" value r.headers)
    (spells : Spells value text) : SentTo r (some text)
  | authority (unspelled : ∀ value text, IsFirst "host" value r.headers → ¬ Spells value text) :
    SentTo r r.target.authority

/-- The host of a request is the one that it is sent to. -/
theorem sentTo_iff {r : Request} {host : Option String} : r.SentTo host ↔ r.host? = host := by
  unfold Request.host?
  constructor
  · rintro (⟨hfirst, hspells⟩ | hnone)
    · rw [Request.header?, header?_eq_some_iff.mpr hfirst]
      simp only [Option.bind_some, text?_eq_some_iff.mpr hspells, Option.some_or]
    · have hbind : (r.header? "host").bind text? = none := by
        refine Option.bind_eq_none_iff.mpr fun value hvalue => ?_
        refine Option.eq_none_iff_forall_ne_some.mpr fun text htext => ?_
        exact hnone value text (header?_eq_some_iff.mp hvalue) (text?_eq_some_iff.mp htext)
      rw [hbind, Option.none_or]
  · rintro rfl
    cases hbind : (r.header? "host").bind text? with
    | none =>
      refine .authority fun value text hfirst hspells => ?_
      have hvalue : r.header? "host" = some value := header?_eq_some_iff.mpr hfirst
      rw [hvalue, Option.bind_some, text?_eq_some_iff.mpr hspells] at hbind
      cases hbind
    | some text =>
      obtain ⟨value, hvalue, htext⟩ := Option.bind_eq_some_iff.mp hbind
      exact .header (header?_eq_some_iff.mp hvalue) (text?_eq_some_iff.mp htext)

end Gateway.Http
