import Gateway.Proofs.Config.Documents
import Gateway.Proofs.Config.Restart

/-!
# Two readers of configuration documents

A JSON document is read as a layer, in which every setting may be null, or as a configuration in
its own right, in which only optional settings may. Both readers are one reader with another set of
settings that may be null, and it finds the same fields if it allows more nulls: contents never
begin like a null, so the additional settings are not read in another way (`readField_mono`,
`readFields_mono`).

What the fields form differs for nulls and empty texts. Over the standard configuration, and with
its defaults filled in, the difference disappears unless an optional setting holds an empty text
(`Fields.withDefaults_toConfig`), so the two readers agree (`Layer.ofJson_of_config`).
-/

namespace Gateway

/-! ### More settings that may be null -/

namespace Json

section Monotone

variable {strict lenient : Setting → Bool} (hle : ∀ s, strict s = true → lenient s = true)
include hle

/-- **A field is read alike** if more settings may be null. -/
theorem readField_mono {s : Setting} {cs rest : List Char} {field : Option s.Content}
    (h : readField strict s cs = .ok (field, rest)) :
    readField lenient s cs = .ok (field, rest) := by
  rw [readField_eq_ok_iff] at h ⊢
  exact h.imp_left fun ⟨hs, hnull⟩ => ⟨hle s hs, hnull⟩

/-- A member that the strict reader accepts is read alike by the lenient one. -/
theorem readMember_mono {fields fields' : Fields} {cs rest : List Char}
    (h : readMember strict fields cs = .ok (fields', rest)) :
    readMember lenient fields cs = .ok (fields', rest) := by
  obtain ⟨key, afterKey, afterColon, hkey, hcolon, hread⟩ := readMember_eq_ok_iff.mp h
  refine readMember_eq_ok_iff.mpr ⟨key, afterKey, afterColon, hkey, hcolon, ?_⟩
  cases hread with
  | field hs hnew hfield => exact .field hs hnew (readField_mono hle hfield)
  | skipped hs hvalue => exact .skipped hs hvalue

theorem readMembers_mono {first : Bool} {fields : Fields} {cs : List Char}
    {read : Fields × List Char} (h : readMembers strict first fields cs = .ok read) :
    readMembers lenient first fields cs = .ok read := by
  -- members make the text shorter
  induction hlength : cs.length using Nat.strong_induction_on generalizing first fields cs with
  | h n ih =>
    subst hlength
    rw [readMembers_eq_ok_iff] at h ⊢
    refine h.imp_right ?_
    rintro ⟨rest, fields', after, hkey, hmember, hrest⟩
    refine ⟨rest, fields', after, hkey, readMember_mono hle hmember, ih _ ?_ hrest rfl⟩
    exact (length_readMember hmember).trans (length_readKeyStart hkey)

theorem readElements_mono {ss : List Setting} {first : Bool} {fields : Fields} {cs : List Char}
    {read : Fields × List Char} (h : readElements strict first fields ss cs = .ok read) :
    readElements lenient first fields ss cs = .ok read := by
  induction ss generalizing first fields cs with
  | nil => exact h
  | cons s ss ih =>
    rw [readElements_cons_eq_ok_iff] at h ⊢
    refine h.imp_right ?_
    rintro ⟨rest, field, after, hstart, hfield, hrest⟩
    exact ⟨rest, field, after, hstart, readField_mono hle hfield, ih hrest⟩

/-- **Documents are read alike**, objects and arrays, if more settings may be null. -/
theorem readFields_mono {wanted wanted' : Document.Wanted} {text : List Char} {fields : Fields}
    (h : readFields strict wanted text = .ok fields) :
    readFields lenient wanted' text = .ok fields := by
  rw [readFields_eq_ok_iff] at h ⊢
  obtain ⟨rest, after, hend, hread⟩ := h
  refine ⟨rest, after, hend, hread.imp ?_ ?_⟩
  · exact fun ⟨hopen, hmembers⟩ => ⟨hopen, readMembers_mono hle hmembers⟩
  · exact fun ⟨hopen, helements⟩ => ⟨hopen, readElements_mono hle helements⟩

end Monotone

end Json

/-! ### What the fields form -/

namespace Fields

variable {fs : Fields}

/-- A required setting holds its contents, or what it holds by default. -/
private theorem elim_some_eq {α : Type} (content : Option α) (default : α) :
    content.elim (some default) some = some (content.getD default) := by
  cases content <;> rfl

section Optional

variable {field : Option (Option String)}

/-- An optional setting that is absent by default: a null and nothing come to the same. -/
private theorem elim_join_eq (h : field.getD none ≠ some "") :
    field.join.elim none Config.nonempty? = field.getD none := by
  cases field with
  | none => rfl
  | some content =>
    cases content with
    | none => rfl
    | some text => exact if_neg fun hempty => h (congrArg some hempty)

/-- An optional setting with a default: a null makes it absent or leaves it alone, and the default
is filled in for both. -/
private theorem elim_join_getD_eq {default : String} (h : field.getD (some default) ≠ some "") :
    (field.join.elim (some default) Config.nonempty?).getD default =
      (field.getD (some default)).getD default := by
  cases field with
  | none => rfl
  | some content =>
    cases content with
    | none => rfl
    | some text =>
      have htext : Config.nonempty? text = some text :=
        if_neg fun hempty => h (congrArg some hempty)
      exact congrArg (Option.getD · default) htext

end Optional

/-- **Layers and configurations** that are formed by the same fields become the same over the
standard configuration, once defaults are filled in. -/
theorem withDefaults_toConfig (h : fs.toConfig.HasNoEmptyText) :
    (fs.toLayer.applyTo .standard).withDefaults = fs.toConfig.withDefaults := by
  obtain ⟨hcreds, haddr, hauth, horigin⟩ := h
  obtain ⟨laid, hlaid⟩ : ∃ laid, fs.toLayer.applyTo .standard = laid := ⟨_, rfl⟩
  have hheld (s : Setting) : laid.toLayer s =
      (fs.toLayer s).elim (Config.standard.toLayer s) s.held := by
    rw [← hlaid, Layer.toLayer_applyTo]
  -- the two optional settings with a default may differ before it is filled in
  have hrest : laid = { fs.toConfig with addr := laid.addr, allowOrigin := laid.allowOrigin } := by
    refine Config.eq_of_toLayer fun s => ?_
    cases s with
    | addr | allowOrigin => rfl
    | natsCreds => exact (hheld .natsCreds).trans (elim_join_eq hcreds)
    | headerAuth => exact (hheld .headerAuth).trans (elim_join_eq hauth)
    | natsUrl | port | wsPath | apiPath | tls | tlsCert | tlsKey | apiEncoding | requestTimeout
    | debug | trace => exact (hheld _).trans (elim_some_eq _ _)
  have haddress : laid.addr.getD Config.defaultAddr = fs.toConfig.addr.getD Config.defaultAddr :=
    (congrArg (Option.getD · Config.defaultAddr) (hheld .addr)).trans (elim_join_getD_eq haddr)
  have horigins : laid.allowOrigin.getD "*" = fs.toConfig.allowOrigin.getD "*" :=
    (congrArg (Option.getD · "*") (hheld .allowOrigin)).trans (elim_join_getD_eq horigin)
  rw [hlaid, hrest, Config.withDefaults, Config.withDefaults]
  simp only [haddress, horigins]

end Fields

/-- **The two readers agree.** A document that is read as a configuration is read as a layer too.
If no optional setting of that configuration holds an empty text, the layer makes the same of the
standard configuration: with defaults for what is unset, both are one configuration. -/
theorem Layer.ofJson_of_config {text : String} {c : Config} (h : Config.ofJson text = .ok c) :
    ∃ l, Layer.ofJson text = .ok l ∧
      (c.HasNoEmptyText → (l.applyTo .standard).withDefaults = c.withDefaults) := by
  unfold Config.ofJson at h
  split at h
  · next fields hfields =>
    cases h
    have hlayer : Json.readFields (fun _ => true) .layer text.toList = .ok fields :=
      Json.readFields_mono (fun _ _ => rfl) hfields
    refine ⟨fields.toLayer, ?_, Fields.withDefaults_toConfig⟩
    unfold ofJson
    rw [hlayer]
  · cases h

/-- A null that makes the address absent, an empty path, and a port with blanks around it. -/
theorem Layer.ofJson_of_config_null :
    let text := "\x7b\"addr\":null,\"wsPath\":\"\",\"port\" : 80\n\x7d"
    let c : Config := { Config.standard with addr := none, wsPath := "", port := 80 }
    Config.ofJson text = .ok c ∧ c.HasNoEmptyText ∧
      ∃ l, Layer.ofJson text = .ok l ∧
        (l.applyTo .standard).withDefaults = { Config.standard with port := 80 } := by
  intro text c
  have hc : Config.ofJson text = .ok c := by decide +kernel
  have hempty : c.HasNoEmptyText := by
    rw [Config.HasNoEmptyText]
    decide
  obtain ⟨l, hl, hsame⟩ := Layer.ofJson_of_config hc
  exact ⟨hc, hempty, l, hl, hsame hempty⟩

end Gateway
