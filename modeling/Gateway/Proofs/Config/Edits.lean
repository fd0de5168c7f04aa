import Gateway.Config.Resolve
import Gateway.Proofs.Config.Members
import Mathlib.Data.List.Pairwise
import Mathlib.Logic.Relation

/-!
# What a document means

The layer that an object is read as, said in terms of its members and without their order (`Means`):
a setting that a member names gets what the value gives, every other setting gets nothing, and no
two members name one setting (`Layer.ofJson_eq_ok_iff`).

So nothing counts but what the members tell, which is the pairs of settings and values other than
nulls (`Tells`, `Means.congr`). The edits of a text that keep what it tells follow one by one
(`Edit`), and with them that the resolved configuration stays the same (`Layer.ofJson_members`).
-/

namespace Gateway

namespace Json

/-! ### The meaning of members -/

/-- Two members do not name the same setting. -/
def Member.Apart (m m' : Member) : Prop := ∀ s, m.Names s → ¬ m'.Names s

instance : Std.Symm Member.Apart where
  symm _ _ h s hs' hs := h s hs hs'

/-- All names can be read, and no setting is named twice. -/
structure IsWellFormed (ms : List Member) : Prop where
  readable : ∀ m ∈ ms, m.IsReadable
  apart : ms.Pairwise Member.Apart

/-- What the members of an object mean, without their order. -/
structure Means (ms : List Member) (l : Layer) : Prop where
  wellFormed : IsWellFormed ms
  gives : ∀ m ∈ ms, ∀ s, m.Names s → Gives s.shape (l s) m.value
  absent : ∀ s, (∀ m ∈ ms, ¬ m.Names s) → l s = none

/-- **One member**, setting by setting. -/
theorem takes_iff {fields fields' : Fields} {m : Member} :
    Takes fields m fields' ↔
      m.IsReadable ∧
      (∀ s, m.Names s → fields s = none ∧
        ∃ field, Gives s.shape field m.value ∧ fields' s = some field) ∧
      ∀ s, ¬ m.Names s → fields' s = fields s := by
  constructor
  · intro h
    cases h with
    | @field s field hname hnew hgives =>
      refine ⟨hname.isReadable, ?_, ?_⟩
      · intro t ht
        obtain rfl := hname.unique ht
        exact ⟨hnew, field, hgives, fields.set_self s field⟩
      · intro t ht
        refine fields.set_of_ne field ?_
        rintro rfl
        exact ht hname
    | other hread hother => exact ⟨hread, fun s hs => absurd hs (hother s), fun _ _ => rfl⟩
  · rintro ⟨hread, hgives, hkeeps⟩
    by_cases hnamed : ∃ s, m.Names s
    · obtain ⟨s, hs⟩ := hnamed
      obtain ⟨hnew, field, hfield, hset⟩ := hgives s hs
      have heq : fields' = fields.set s field := by
        funext t
        by_cases ht : s = t
        · subst ht
          rw [hset, fields.set_self]
        · rw [fields.set_of_ne field ht, hkeeps t fun h => ht (hs.unique h)]
      rw [heq]
      exact .field hs hnew hfield
    · have heq : fields' = fields := funext fun s => hkeeps s fun hs => hnamed ⟨s, hs⟩
      rw [heq]
      exact .other hread fun s hs => hnamed ⟨s, hs⟩

/-- **All members**, setting by setting: each setting is told about once at most, and was not there
before. -/
theorem takesAll_iff {fields fields' : Fields} {ms : List Member} :
    TakesAll fields ms fields' ↔
      IsWellFormed ms ∧
      (∀ m ∈ ms, ∀ s, m.Names s → fields s = none ∧
        ∃ field, Gives s.shape field m.value ∧ fields' s = some field) ∧
      ∀ s, (∀ m ∈ ms, ¬ m.Names s) → fields' s = fields s := by
  induction ms generalizing fields with
  | nil =>
    constructor
    · rintro ⟨⟩
      exact ⟨⟨nofun, .nil⟩, nofun, fun _ _ => rfl⟩
    · rintro ⟨-, -, hkeeps⟩
      have heq : fields' = fields := funext fun s => hkeeps s nofun
      rw [heq]
      exact .nil
  | cons m ms ih =>
    constructor
    · rintro (_ | ⟨hm, hms⟩)
      obtain ⟨hread, hgives, hkeeps⟩ := takes_iff.mp hm
      obtain ⟨hwf, hgives', hkeeps'⟩ := ih.mp hms
      -- what the first member names is there when the others are taken
      have hapart : ∀ m' ∈ ms, m.Apart m' := by
        intro m' hm' s hs hs'
        obtain ⟨-, field, -, hfield⟩ := hgives s hs
        cases hfield.symm.trans (hgives' m' hm' s hs').1
      refine ⟨⟨List.forall_mem_cons.mpr ⟨hread, hwf.readable⟩, .cons hapart hwf.apart⟩,
        List.forall_mem_cons.mpr ⟨?_, ?_⟩, ?_⟩
      · intro s hs
        rw [hkeeps' s fun m' hm' => hapart m' hm' s hs]
        exact hgives s hs
      · intro m' hm' s hs'
        rw [← hkeeps s fun hs => hapart m' hm' s hs hs']
        exact hgives' m' hm' s hs'
      · intro s hs
        obtain ⟨hs, hs'⟩ := List.forall_mem_cons.mp hs
        rw [hkeeps' s hs', hkeeps s hs]
    · rintro ⟨⟨hread, hpair⟩, hgives, hkeeps⟩
      obtain ⟨hread, hread'⟩ := List.forall_mem_cons.mp hread
      obtain ⟨hgives, hgives'⟩ := List.forall_mem_cons.mp hgives
      obtain ⟨hapart, hpair⟩ := List.pairwise_cons.mp hpair
      classical
      -- the fields after the first member: its own are final already
      let between : Fields := fun s => if m.Names s then fields' s else fields s
      have hnamed {s : Setting} (hs : m.Names s) : between s = fields' s := if_pos hs
      have hother {s : Setting} (hs : ¬ m.Names s) : between s = fields s := if_neg hs
      refine .cons (takes_iff.mpr ⟨hread, ?_, fun s => hother⟩)
        (ih.mpr ⟨⟨hread', hpair⟩, ?_, ?_⟩)
      · intro s hs
        rw [hnamed hs]
        exact hgives s hs
      · intro m' hm' s hs'
        rw [hother fun hs => hapart m' hm' s hs hs']
        exact hgives' m' hm' s hs'
      · intro s hs'
        by_cases hs : m.Names s
        · exact (hnamed hs).symm
        · rw [hother hs]
          exact hkeeps s (List.forall_mem_cons.mpr ⟨hs, hs'⟩)

/-- A layer is formed by the fields that the members give, or it is not what they mean. -/
theorem exists_takesAll_iff {ms : List Member} {l : Layer} :
    (∃ fields, TakesAll .empty ms fields ∧ fields.toLayer = l) ↔ Means ms l := by
  constructor
  · rintro ⟨fields, htakes, rfl⟩
    obtain ⟨hwf, hgives, hkeeps⟩ := takesAll_iff.mp htakes
    refine ⟨hwf, ?_, ?_⟩
    · intro m hm s hs
      obtain ⟨-, field, hfield, hs⟩ := hgives m hm s hs
      rw [Fields.toLayer, hs]
      exact hfield
    · intro s hs
      rw [Fields.toLayer, hkeeps s hs]
      rfl
  · rintro ⟨hwf, hgives, habsent⟩
    classical
    let fields : Fields := fun s => if ∃ m ∈ ms, m.Names s then some (l s) else none
    refine ⟨fields, takesAll_iff.mpr ⟨hwf, ?_, ?_⟩, ?_⟩
    · intro m hm s hs
      exact ⟨rfl, l s, hgives m hm s hs, if_pos ⟨m, hm, hs⟩⟩
    · intro s hs
      exact if_neg fun ⟨m, hm, h⟩ => hs m hm h
    · funext s
      by_cases hs : ∃ m ∈ ms, m.Names s
      · rw [Fields.toLayer, show fields s = some (l s) from if_pos hs]
        rfl
      · rw [Fields.toLayer, show fields s = none from if_neg hs,
          habsent s fun m hm h => hs ⟨m, hm, h⟩]
        rfl

end Json

/-- **Objects are read as what their members mean.** -/
theorem Layer.ofJson_eq_ok_iff {ms : List Json.Member} {text : String} {l : Layer}
    (h : Json.IsObjectText ms text.toList) : Layer.ofJson text = .ok l ↔ Json.Means ms l := by
  rw [← Json.exists_takesAll_iff]
  unfold ofJson
  constructor
  · intro hread
    split at hread
    · next fields hfields =>
      cases hread
      exact ⟨fields, (Json.readFields_eq_ok_iff_takesAll h).mp hfields, rfl⟩
    · cases hread
  · rintro ⟨fields, htakes, rfl⟩
    rw [(Json.readFields_eq_ok_iff_takesAll h).mpr htakes]

namespace Json

/-! ### What counts -/

/-- The members tell something about a setting: one of them names it and its value, as written, is
no null. -/
def Tells (ms : List Member) (s : Setting) (v : List Char) : Prop :=
  v ≠ null ∧ ∃ m ∈ ms, m.Names s ∧ m.value = v

/-- A null gives nothing. -/
theorem eq_none_of_gives_null {shape : Setting.Shape} {field : Option shape.Content}
    (h : Gives shape field null) : field = none := by
  cases h with
  | null => rfl
  | content h =>
    have hread : readContent shape (null ++ []) = .ok (_, []) := readContent_eq_ok_iff.mpr
      ⟨null, h, fun hnumber => absurd hnumber (not_isNumber_cons rfl (by decide) _), rfl⟩
    exact absurd hread (readContent_n _ _ _ [])

/-- A setting of which the members tell nothing is absent. -/
theorem Means.eq_none {ms : List Member} {l : Layer} (h : Means ms l) {s : Setting}
    (hs : ∀ v, ¬ Tells ms s v) : l s = none := by
  by_cases hnamed : ∃ m ∈ ms, m.Names s
  · obtain ⟨m, hm, hname⟩ := hnamed
    by_cases hnull : m.value = null
    · have hgives := h.gives m hm s hname
      rw [hnull] at hgives
      exact eq_none_of_gives_null hgives
    · exact absurd ⟨hnull, m, hm, hname, rfl⟩ (hs m.value)
  · exact h.absent s fun m hm hname => hnamed ⟨m, hm, hname⟩

/-- One member at most names a setting. -/
theorem IsWellFormed.unique {ms : List Member} (h : IsWellFormed ms) {m m' : Member}
    (hm : m ∈ ms) (hm' : m' ∈ ms) {s : Setting} (hs : m.Names s) (hs' : m'.Names s) : m = m' := by
  by_contra hne
  exact h.apart.forall hm hm' hne s hs hs'

/-- **Nothing counts but what the members tell.** -/
theorem Means.congr {ms ms' : List Member} {l : Layer} (h : Means ms l) (hwf : IsWellFormed ms')
    (htells : ∀ s v, Tells ms s v ↔ Tells ms' s v) : Means ms' l := by
  refine ⟨hwf, ?_, ?_⟩
  · intro m' hm' s hs'
    by_cases hnull : m'.value = null
    · -- no other member of the same object names the setting
      have hnone : l s = none := by
        refine h.eq_none fun v hv => ?_
        obtain ⟨hv, m'', hm'', hs'', rfl⟩ := (htells s v).mp hv
        exact hv (hwf.unique hm'' hm' hs'' hs' ▸ hnull)
      rw [hnone, hnull]
      exact .null
    · obtain ⟨-, m, hm, hs, hvalue⟩ := (htells s m'.value).mpr ⟨hnull, m', hm', hs', rfl⟩
      rw [← hvalue]
      exact h.gives m hm s hs
  · intro s hs
    refine h.eq_none fun v hv => ?_
    obtain ⟨-, m', hm', hs', -⟩ := (htells s v).mp hv
    exact hs m' hm' hs'

/-! ### Edits -/

/-- A member that tells nothing beside some others: it names no setting, whatever its value is, or
it is a null for a setting that none of the others names. -/
inductive Member.IsIdle (m : Member) (ms : List Member) : Prop
  /-- It names no setting. -/
  | unrecognized (hread : m.IsReadable) (hother : ∀ s, ¬ m.Names s)
  /-- It is a null for a setting that is absent. -/
  | null {s : Setting} (hname : m.Names s) (hnull : m.value = null)
    (habsent : ∀ m' ∈ ms, ¬ m'.Names s)

/-- The members of a text are put in another order, or a member that tells nothing comes or goes. A
name that is not recognized gets another value, if only other blanks inside it, in two edits. -/
inductive Edit : List Member → List Member → Prop
  /-- The same members in another order. -/
  | reorder {ms ms' : List Member} (h : ms.Perm ms') : Edit ms ms'
  /-- A member that tells nothing comes. -/
  | add {m : Member} {ms : List Member} (h : m.IsIdle ms) : Edit ms (m :: ms)
  /-- A member that tells nothing goes. -/
  | remove {m : Member} {ms : List Member} (h : m.IsIdle ms) : Edit (m :: ms) ms

/-- A member that tells nothing can still be read. -/
theorem Member.IsIdle.isReadable {m : Member} {ms : List Member} (h : m.IsIdle ms) :
    m.IsReadable := by
  cases h with
  | unrecognized hread _ => exact hread
  | null hname _ _ => exact hname.isReadable

/-- A member that tells nothing names no setting that another one names. -/
theorem Member.IsIdle.apart {m : Member} {ms : List Member} (h : m.IsIdle ms) :
    ∀ m' ∈ ms, m.Apart m' := by
  intro m' hm' t ht ht'
  cases h with
  | unrecognized _ hother => exact hother t ht
  | null hname _ habsent =>
    obtain rfl := hname.unique ht
    exact habsent m' hm' ht'

/-- An idle member tells nothing. -/
theorem Member.IsIdle.tells_cons_iff {m : Member} {ms : List Member} (h : m.IsIdle ms)
    {s : Setting} {v : List Char} : Tells (m :: ms) s v ↔ Tells ms s v := by
  constructor
  · rintro ⟨hv, m', hm', hs, rfl⟩
    cases hm' with
    | head =>
      cases h with
      | unrecognized _ hother => exact absurd hs (hother s)
      | null _ hnull _ => exact absurd hnull hv
    | tail _ hm' => exact ⟨hv, m', hm', hs, rfl⟩
  · rintro ⟨hv, m', hm', hs⟩
    exact ⟨hv, m', .tail m hm', hs⟩

/-- **An edit** leaves an object well-formed and keeps what it tells. -/
theorem Edit.tells_iff {ms ms' : List Member} (h : Edit ms ms') (hwf : IsWellFormed ms) :
    IsWellFormed ms' ∧ ∀ s v, Tells ms s v ↔ Tells ms' s v := by
  cases h with
  | reorder h =>
    refine ⟨⟨fun m hm => hwf.readable m (h.mem_iff.mpr hm), ?_⟩, ?_⟩
    · exact hwf.apart.perm h fun hapart => symm hapart
    · intro s v
      simp only [Tells, h.mem_iff]
  | add h =>
    exact ⟨⟨List.forall_mem_cons.mpr ⟨h.isReadable, hwf.readable⟩, .cons h.apart hwf.apart⟩,
      fun _ _ => h.tells_cons_iff.symm⟩
  | remove h =>
    exact ⟨⟨fun m hm => hwf.readable m (.tail _ hm), hwf.apart.of_cons⟩,
      fun _ _ => h.tells_cons_iff⟩

/-- **Edits** one after the other. -/
theorem tells_iff_of_edits {ms ms' : List Member} (h : Relation.ReflTransGen Edit ms ms')
    (hwf : IsWellFormed ms) : IsWellFormed ms' ∧ ∀ s v, Tells ms s v ↔ Tells ms' s v := by
  induction h with
  | refl => exact ⟨hwf, fun _ _ => Iff.rfl⟩
  | tail _ hedit ih =>
    obtain ⟨hwf', htells⟩ := ih
    obtain ⟨hwf'', htells'⟩ := hedit.tells_iff hwf'
    exact ⟨hwf'', fun s v => (htells s v).trans (htells' s v)⟩

end Json

/-! ### Documents with the same meaning -/

/-- A file that holds a document is resolved with the layer that the document is read as. -/
theorem resolve_of_readText {cl : CommandLine} {name : String} (hname : cl.configFile = some name)
    (hformat : Format.ofPath (Utf8.ofString name) = .json) {text : String} {l : Layer}
    (hl : Layer.ofJson text = .ok l) (base : Config) {t : FileTree}
    (ht : t.readText (Utf8.ofString name) = .ok text) :
    (resolve fileStore base cl t).result = .ok (cl.settle base l) := by
  have hload : fileStore.load (Utf8.ofString name) t =
      ⟨.ok (some l), [.fileLoaded (Utf8.ofString name)], t⟩ := by
    change FileTree.load _ _ = _
    unfold FileTree.load
    simp only [ht, hformat, Format.decode, hl, Except.mapError]
  unfold resolve
  simp only [hname, hload]

open Json in
/-- **The meaning of a document.** An object is read as a layer if and only if its members mean that
layer. Every other object whose members tell the same is read as the same layer, and so is every one
that edits lead to, with any blanks: as the file of a run, one is resolved like the other. An object
that names a setting twice, or that gives a setting a value which is no null and writes no contents
of its shape, is never read. -/
theorem Layer.ofJson_members {ms : List Member} {text : String}
    (h : IsObjectText ms text.toList) :
    (∀ l, Layer.ofJson text = .ok l ↔ Means ms l) ∧
    (∀ l, Layer.ofJson text = .ok l → ∀ ms' (text' : String), IsObjectText ms' text'.toList →
      (Relation.ReflTransGen Edit ms ms' ∨
        IsWellFormed ms' ∧ ∀ s v, Tells ms s v ↔ Tells ms' s v) →
      Layer.ofJson text' = .ok l ∧
      ∀ (cl : CommandLine) (name : String) (base : Config) (t t' : FileTree),
        cl.configFile = some name → Format.ofPath (Utf8.ofString name) = .json →
        t.readText (Utf8.ofString name) = .ok text →
        t'.readText (Utf8.ofString name) = .ok text' →
        (resolve fileStore base cl t).result = .ok (cl.settle base l) ∧
        (resolve fileStore base cl t').result = .ok (cl.settle base l)) ∧
    (∀ s m m', [m, m'].Sublist ms → m.Names s → m'.Names s → ∀ l, Layer.ofJson text ≠ .ok l) ∧
    ∀ s, ∀ m ∈ ms, m.Names s → m.value ≠ null → (∀ content, ¬ Writes s.shape content m.value) →
      ∀ l, Layer.ofJson text ≠ .ok l := by
  have hread (l : Layer) : Layer.ofJson text = .ok l ↔ Means ms l := Layer.ofJson_eq_ok_iff h
  refine ⟨hread, ?_, ?_, ?_⟩
  · intro l hl ms' text' h' hsame
    have hmeans : Means ms l := (hread l).mp hl
    have htells : IsWellFormed ms' ∧ ∀ s v, Tells ms s v ↔ Tells ms' s v :=
      hsame.elim (fun hedits => tells_iff_of_edits hedits hmeans.wellFormed) id
    have hl' : Layer.ofJson text' = .ok l :=
      (Layer.ofJson_eq_ok_iff h').mpr (hmeans.congr htells.1 htells.2)
    refine ⟨hl', ?_⟩
    intro cl name base t t' hname hformat ht ht'
    exact ⟨resolve_of_readText hname hformat hl base ht,
      resolve_of_readText hname hformat hl' base ht'⟩
  · intro s m m' htwo hs hs' l hl
    have hapart := ((hread l).mp hl).wellFormed.apart.sublist htwo
    exact (List.pairwise_pair.mp hapart) s hs hs'
  · intro s m hm hs hnull hwrites l hl
    have hgives := ((hread l).mp hl).gives m hm s hs
    generalize l s = field, m.value = v at hgives hnull hwrites
    cases hgives with
    | null => exact hnull rfl
    | content h => exact hwrites _ h

open Json in
/-- In front of a port come a null for another setting and a member that names no setting, with
blanks around them. -/
theorem Layer.ofJson_members_port :
    let text := "\x7b\"port\":8000\x7d"
    let text' := " \x7b \"x\" : [\x7b\x7d] ,\"addr\":null,\n\"port\":8000\x7d"
    let l : Layer := Layer.empty.set .port 8000
    Layer.ofJson text = .ok l ∧ Layer.ofJson text' = .ok l := by
  intro text text' l
  let port : Member := ⟨"port".toList, ['8', '0', '0', '0']⟩
  let addr : Member := ⟨"addr".toList, null⟩
  let other : Member := ⟨"x".toList, ['[', '{', '}', ']']⟩
  have hport : port.Names .port := spells_self (by decide +kernel)
  have haddr : addr.Names .addr := spells_self (by decide +kernel)
  have hother : Spells other.name ['x'] := spells_self (by decide +kernel)
  -- both texts are objects
  have hdigits : IsWhole port.value := by decide
  have hlast (first : Bool) (separator : List Char) (h : IsSeparator first separator) :
      Derives (.members first [port]) _ :=
    .member h hport.isBody isBlanks_nil isBlanks_nil (.number hdigits.isNumber)
      (.lastMember isBlanks_nil)
  have htext : IsObjectText [port] text.toList :=
    ⟨[], _, [], isBlanks_nil, hlast true [] isBlanks_nil, isBlanks_nil, by decide +kernel⟩
  have hblank : IsBlanks [' '] := by decide
  have hlist : Derives .value other.value :=
    .list (.element isBlanks_nil (.object (.lastMember isBlanks_nil)) (.lastElement isBlanks_nil))
  have htext' : IsObjectText [other, addr, port] text'.toList :=
    ⟨[' '], _, [], hblank, .member hblank hother.isBody hblank hblank hlist
      (.member ⟨[' '], [], hblank, isBlanks_nil, rfl⟩ haddr.isBody isBlanks_nil isBlanks_nil
        (.word List.mem_cons_self) (hlast false [',', '\n'] ⟨[], ['\n'], by decide⟩)),
      isBlanks_nil, by decide +kernel⟩
  -- the edits, from the port on
  have hidle : addr.IsIdle [port] := by
    refine .null haddr rfl fun m hm hname => ?_
    obtain rfl := List.mem_singleton.mp hm
    cases hport.unique hname
  have hidle' : other.IsIdle [addr, port] := by
    refine .unrecognized ⟨_, hother⟩ fun s hs => ?_
    have hkey := hother.unique hs
    revert hkey
    cases s <;> decide +kernel
  have hedits : Relation.ReflTransGen Edit [port] [other, addr, port] :=
    (Relation.ReflTransGen.single (.add hidle)).tail (.add hidle')
  obtain ⟨hmeans, hsame, -⟩ := Layer.ofJson_members htext
  have hl : Layer.ofJson text = .ok l := by
    refine (hmeans l).mpr ⟨⟨?_, List.pairwise_singleton _ _⟩, ?_, ?_⟩
    · intro m hm
      obtain rfl := List.mem_singleton.mp hm
      exact hport.isReadable
    · intro m hm s hs
      obtain rfl := List.mem_singleton.mp hm
      obtain rfl := hport.unique hs
      exact .content (.port hdigits rfl)
    · intro s hs
      refine Layer.empty.set_of_ne _ ?_
      rintro rfl
      exact hs port List.mem_cons_self hport
  exact ⟨hl, (hsame l hl _ _ htext' (.inl hedits)).1⟩

open Json in
/-- A member that names no setting cannot be added if its name spells no text. -/
theorem Layer.ofJson_loneSurrogate :
    let text := "\x7b\x7d"
    let text' := "\x7b\"\\ud800\":0\x7d"
    let m : Member := ⟨['\\', 'u', 'd', '8', '0', '0'], ['0']⟩
    IsObjectText [] text.toList ∧ Layer.ofJson text = .ok .empty ∧
      IsObjectText [m] text'.toList ∧ (∀ s, ¬ m.Names s) ∧ ∀ l, Layer.ofJson text' ≠ .ok l := by
  intro text text' m
  have htext : IsObjectText [] text.toList :=
    ⟨[], _, [], isBlanks_nil, .lastMember isBlanks_nil, isBlanks_nil, by decide +kernel⟩
  have hname : IsBody m.name := .cons (.code (.mk rfl rfl rfl rfl)) .nil
  have htext' : IsObjectText [m] text'.toList :=
    ⟨[], _, [], isBlanks_nil, .member isBlanks_nil hname isBlanks_nil isBlanks_nil
      (.number (IsWhole.isNumber (by decide))) (.lastMember isBlanks_nil), isBlanks_nil,
      by decide +kernel⟩
  have hunreadable : ¬ m.IsReadable := by
    rintro ⟨name, hspells⟩
    have hread : (readString (m.name ++ ['"'])).isOk = false := by decide +kernel
    rw [hspells.readString []] at hread
    cases hread
  refine ⟨htext, ?_, htext', fun s hs => hunreadable hs.isReadable, ?_⟩
  · exact (Layer.ofJson_eq_ok_iff htext).mpr ⟨⟨nofun, .nil⟩, nofun, fun _ _ => rfl⟩
  · intro l hl
    have hmeans := (Layer.ofJson_eq_ok_iff htext').mp hl
    exact hunreadable (hmeans.wellFormed.readable m List.mem_cons_self)

end Gateway
