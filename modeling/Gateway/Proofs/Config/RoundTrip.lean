import Gateway.Proofs.Config.Restart

/-!
# Configuration files give back what was written

A layer restates a configuration if it gives the value of every setting that has one, and for the
four optional settings exactly what the configuration holds there (`Layer.Restates`). Laid over the
configuration in which nothing is set, such a layer gives the configuration back unless an optional
setting holds an empty text (`Layer.Restates.applyTo_unset_iff`).

Every configuration can be written in JSON, with each setting on a line of its own, and is restated
by what is read: `Format.json_roundTrip`. In TOML this holds of every configuration whose timeout is
within the range of the numbers of that format, and no other one can be written; settings that are
absent are left out of the file: `Format.toml_roundTrip`.
-/

namespace Gateway

/-! ### Layers that restate configurations -/

/-- A layer gives what a configuration holds, whether a value or, for an optional setting, none. -/
structure Layer.Restates (l : Layer) (c : Config) : Prop where
  natsUrl : l .natsUrl = some c.natsUrl
  natsCreds : l .natsCreds = c.natsCreds
  requestTimeout : l .requestTimeout = some c.requestTimeout
  debug : l .debug = some c.debug
  trace : l .trace = some c.trace
  addr : l .addr = c.addr
  port : l .port = some c.port
  wsPath : l .wsPath = some c.wsPath
  apiPath : l .apiPath = some c.apiPath
  headerAuth : l .headerAuth = c.headerAuth
  allowOrigin : l .allowOrigin = c.allowOrigin
  apiEncoding : l .apiEncoding = some c.apiEncoding
  tls : l .tls = some c.tls
  tlsCert : l .tlsCert = some c.tlsCert
  tlsKey : l .tlsKey = some c.tlsKey

namespace Layer

theorem restates_toLayer (c : Config) : c.toLayer.Restates c := by
  constructor <;> rfl

/-- Only one layer restates a configuration: its own. -/
theorem Restates.eq_toLayer {l : Layer} {c : Config} (h : l.Restates c) : l = c.toLayer := by
  funext s
  cases s with
  | natsUrl => exact h.natsUrl
  | natsCreds => exact h.natsCreds
  | requestTimeout => exact h.requestTimeout
  | debug => exact h.debug
  | trace => exact h.trace
  | addr => exact h.addr
  | port => exact h.port
  | wsPath => exact h.wsPath
  | apiPath => exact h.apiPath
  | headerAuth => exact h.headerAuth
  | allowOrigin => exact h.allowOrigin
  | apiEncoding => exact h.apiEncoding
  | tls => exact h.tls
  | tlsCert => exact h.tlsCert
  | tlsKey => exact h.tlsKey

/-- An optional setting that is held again is what it was, unless it was an empty text. -/
private theorem elim_nonempty?_iff (value : Option String) :
    value.elim none Config.nonempty? = value ↔ value ≠ some "" := by
  cases value with
  | none => exact iff_of_true rfl nofun
  | some v =>
    change Config.nonempty? v = some v ↔ _
    constructor
    · intro h
      rw [← h]
      exact Config.nonempty?_ne v
    · exact fun h => if_neg fun hv => h (congrArg some hv)

/-- **A layer that restates a configuration** gives it back over one in which nothing is set, unless
an optional setting holds an empty text. -/
theorem Restates.applyTo_unset_iff {l : Layer} {c : Config} (h : l.Restates c) :
    l.applyTo .unset = c ↔ c.HasNoEmptyText := by
  obtain rfl := h.eq_toLayer
  have hheld (s : Setting) := c.toLayer.toLayer_applyTo .unset s
  constructor
  · intro hc
    rw [hc] at hheld
    exact ⟨(elim_nonempty?_iff _).mp (hheld .natsCreds).symm,
      (elim_nonempty?_iff _).mp (hheld .addr).symm,
      (elim_nonempty?_iff _).mp (hheld .headerAuth).symm,
      (elim_nonempty?_iff _).mp (hheld .allowOrigin).symm⟩
  · rintro ⟨hcreds, haddr, hauth, horigin⟩
    refine Config.eq_of_toLayer fun s => (hheld s).trans ?_
    -- only the optional settings are held otherwise than given
    cases s with
    | natsCreds => exact (elim_nonempty?_iff _).mpr hcreds
    | addr => exact (elim_nonempty?_iff _).mpr haddr
    | headerAuth => exact (elim_nonempty?_iff _).mpr hauth
    | allowOrigin => exact (elim_nonempty?_iff _).mpr horigin
    | natsUrl | requestTimeout | debug | trace | port | wsPath | apiPath | apiEncoding | tls
    | tlsCert | tlsKey => rfl

end Layer

/-! ### Lines of JSON -/

namespace Json

/-- The line of a setting: behind a tab its key, a colon, a space and the rest. -/
def lineOf (s : Setting) (rest : List Char) : List Char :=
  '\t' :: '"' :: s.key.toList ++ '"' :: ':' :: ' ' :: rest

/-- What follows the key of a setting of which `last` is the last one on the list. -/
private def lineRest (c : Config) (last s : Setting) : List Char :=
  fieldText (c.toLayer s) ++ if s = last then [] else [',']

/-- A line holds one member, and a comma unless it is the last. -/
private theorem lineOf_lineRest (c : Config) (last s : Setting) :
    lineOf s (lineRest c last s) = c.jsonMember s ++ if s = last then [] else [','] := by
  have hkey : writeString s.key.toList = '"' :: s.key.toList ++ ['"'] := by cases s <;> rfl
  simp [lineOf, lineRest, jsonMember_eq, hkey]

/-- What is written for a setting is on one line. -/
private theorem not_mem_fieldText {s : Setting} (field : Option s.Content) :
    '\n' ∉ fieldText field := by
  have hdigits (n : Nat) : '\n' ∉ Decimal.digits n := fun h =>
    absurd (Decimal.isDigit_of_mem_digits h) (by decide)
  have hcontent (shape : Setting.Shape) (content : shape.Content) :
      '\n' ∉ shape.toJson content := by
    cases shape with
    | text => exact not_mem_writeString _
    | switch => cases content <;> decide
    | port => exact hdigits _
    | duration => exact hdigits _
  cases field with
  | none =>
    change '\n' ∉ ['n', 'u', 'l', 'l']
    decide
  | some content => exact hcontent s.shape content

/-- No line breaks in the middle: line breaks inside of texts are escaped. -/
private theorem not_mem_lineOf (c : Config) (last s : Setting) :
    '\n' ∉ lineOf s (lineRest c last s) := by
  have hkey : '\n' ∉ s.key.toList := by cases s <;> decide
  have hcomma : '\n' ∉ if s = last then [] else [','] := by split <;> decide
  simp [lineOf, lineRest, hkey, not_mem_fieldText, hcomma]

/-- The members up to the last one are cut into their lines. -/
private theorem split_jsonMembers (c : Config) {ss : List Setting} {last : Setting}
    (h : last ∉ ss) (cs : List Char) :
    Text.split '\n' (c.jsonMembers (ss ++ [last]) ++ '\n' :: cs) =
      (ss ++ [last]).map (fun s => lineOf s (lineRest c last s)) ++ Text.split '\n' cs := by
  induction ss with
  | nil =>
    -- the last line has no comma
    have hline : c.jsonMembers ([] ++ [last]) = lineOf last (lineRest c last last) := by
      rw [lineOf_lineRest, if_pos rfl, List.append_nil]
      rfl
    rw [hline, Text.split_append (not_mem_lineOf c last last)]
    rfl
  | cons s ss ih =>
    obtain ⟨hne, hlast⟩ := List.ne_and_not_mem_of_not_mem_cons h
    have hline : c.jsonMembers (s :: (ss ++ [last])) =
        lineOf s (lineRest c last s) ++ '\n' :: c.jsonMembers (ss ++ [last]) := by
      rw [lineOf_lineRest, if_neg (Ne.symm hne)]
      cases ss <;> simp [Config.jsonMembers]
    rw [List.cons_append, hline, List.append_assoc, List.cons_append,
      Text.split_append (not_mem_lineOf c last s), ih hlast]
    rfl

/-- **Each setting has a line of its own** between the two braces, behind a tab. -/
theorem split_toJson (c : Config) :
    ∃ rest : Setting → List Char, Text.split '\n' c.toJson.toList =
      ['\x7b'] :: Setting.inFile.map (fun s => lineOf s (rest s)) ++ [['\x7d']] := by
  -- all lines but the last end in a comma
  obtain ⟨ss, hss, hlast⟩ : ∃ ss, Setting.inFile = ss ++ [.tlsKey] ∧ .tlsKey ∉ ss :=
    ⟨Setting.inFile.dropLast, rfl, by decide⟩
  have htext : c.toJson.toList =
      ['\x7b'] ++ '\n' :: (c.jsonMembers (ss ++ [.tlsKey]) ++ '\n' :: ['\x7d']) := by
    simp [Config.toJson, hss]
  refine ⟨lineRest c .tlsKey, ?_⟩
  rw [htext, Text.split_append (by decide), split_jsonMembers c hlast, hss]
  rfl

end Json

/-- **Round trip through JSON.** Every configuration can be written. Its text is an object with each
setting on a line of its own, indented by a tab, and is read back as a layer that restates the
configuration. So the layer gives the configuration back over one in which nothing is set, except
where an optional setting holds an empty text. -/
theorem Format.json_roundTrip (c : Config) :
    ∃ text layer, Format.json.encode? c = some text ∧
      (∃ rest : Setting → List Char, Text.split '\n' text.toList =
        ['\x7b'] :: Setting.inFile.map (fun s => Json.lineOf s (rest s)) ++ [['\x7d']]) ∧
      Format.json.decode text = .ok layer ∧ layer.Restates c ∧
      (layer.applyTo .unset = c ↔ c.HasNoEmptyText) :=
  have hrestates := Layer.restates_toLayer c
  ⟨c.toJson, c.toLayer, rfl, Json.split_toJson c, Format.decode_encode? rfl, hrestates,
    hrestates.applyTo_unset_iff⟩

/-! ### Settings in TOML -/

namespace Toml

/-- The keys at the top level of a document, in the order in which they stand there. -/
def keys? (text : String) : Option (List String) :=
  (readDocument text.toList).map fun entries => entries.map (·.1.name)

/-- The limit of the integers in a document is that of 64 bits with a sign. -/
theorem lt_integerLimit_iff {t : UInt64} :
    t.toNat < integerLimit ↔ t ≤ 0x7FFFFFFFFFFFFFFF := by
  have hlimit : integerLimit = (0x7FFFFFFFFFFFFFFF : UInt64).toNat + 1 := rfl
  rw [UInt64.le_iff_toNat_le, hlimit, Nat.lt_succ_iff]

end Toml

/-- **Round trip through TOML.** A configuration with a timeout of at most `2^63 - 1` can be
written, and its text is read back as a layer that restates the configuration; the document has the
keys of the settings that are present and no others. With a larger timeout it cannot be written. -/
theorem Format.toml_roundTrip (c : Config) :
    (c.requestTimeout ≤ 0x7FFFFFFFFFFFFFFF →
      ∃ text layer, Format.toml.encode? c = some text ∧ Format.toml.decode text = .ok layer ∧
        layer.Restates c ∧
        Toml.keys? text =
          some ((Setting.inFile.filter fun s => (layer s).isSome).map Setting.key)) ∧
    (0x7FFFFFFFFFFFFFFF < c.requestTimeout → Format.toml.encode? c = none) := by
  refine ⟨fun h => ?_, fun h => ?_⟩
  · have htext : c.toToml? = some (String.ofList (Setting.inFile.flatMap c.tomlLine)) :=
      if_pos (Toml.lt_integerLimit_iff.mpr h)
    obtain ⟨es, hdocument, hnames, -⟩ := Toml.readDocument_toToml? htext
    have hdecode := Format.decode_encode? (show Format.toml.encode? c = some _ from htext)
    refine ⟨_, c.toLayer, htext, hdecode, Layer.restates_toLayer c, ?_⟩
    rw [Toml.keys?, hdocument, Option.map_some, hnames]
  · exact if_neg fun hlimit => UInt64.not_le.mpr h (Toml.lt_integerLimit_iff.mp hlimit)

/-- Runs of quotes, line ends and an empty text come back, under the largest timeout. The next one
cannot be written. -/
theorem Format.toml_roundTrip_quotes :
    let c : Config := { Config.unset with
      natsUrl := "\x27\x27\x27\r\n\"\"\"\\"
      natsCreds := some ""
      requestTimeout := 0x7FFFFFFFFFFFFFFF }
    (∃ text layer, Format.toml.encode? c = some text ∧ Format.toml.decode text = .ok layer ∧
      layer.Restates c ∧
      Toml.keys? text = some ["natsUrl", "natsCreds", "requestTimeout", "debug", "trace", "port",
        "wsPath", "apiPath", "apiEncoding", "tls", "tlsCert", "tlsKey"]) ∧
    Format.toml.encode? { c with requestTimeout := 0x8000000000000000 } = none := by
  intro c
  obtain ⟨text, layer, htext, hdecode, hrestates, hkeys⟩ := (Format.toml_roundTrip c).1 (by decide)
  obtain rfl := hrestates.eq_toLayer
  exact ⟨⟨text, c.toLayer, htext, hdecode, hrestates, hkeys⟩,
    (Format.toml_roundTrip { c with requestTimeout := 0x8000000000000000 }).2 (by decide)⟩

end Gateway
