import Gateway.Proofs.Config.Protocol
import Gateway.Proofs.Config.Restart

/-!
# Files that starts create

Gateways that start on one file tree load files, persist configurations and resolve them, in any
order (`StartStep`). A step persists at most one configuration, and only that can change the tree:
by one new file, where nothing was (`StartStep.taken`). So trees only grow, and of the places that
were free at first those are taken under whose paths a configuration was persisted that can be
written (`Tracks`). The first such configuration stays: `StartStep.takeAll_creates`.
-/

namespace Gateway

/-- A step of a gateway that starts: one call of its store, or a whole resolution. Where others come
between the calls of a resolution, its calls are steps of their own (`takeAll_calls`). -/
inductive StartStep where
  /-- The layer under a path is read. -/
  | load (path : Bytes)
  /-- A configuration is written under a path. -/
  | persist (path : Bytes) (c : Config)
  /-- A command line is resolved over a base. -/
  | resolve (base : Config) (cl : CommandLine)

namespace StartStep

section Store

variable {σ : Type} (store : Store σ)

/-- Takes a step on a store. What is loaded or resolved is left aside. -/
def take (step : StartStep) (world : σ) : Reply σ Unit :=
  match step with
  | load path =>
    let r := store.load path world
    ⟨r.result.map fun _ => (), r.log, r.world⟩
  | persist path c => store.persistIfAbsent path c world
  | resolve base cl =>
    let r := Gateway.resolve store base cl world
    ⟨r.result.map fun _ => (), r.log, r.world⟩

/-- Takes steps one after the other. -/
def takeAll (steps : List StartStep) (world : σ) : σ :=
  steps.foldl (fun world step => (step.take store world).world) world

/-- The calls of a step, as the store notes them. -/
def calls (step : StartStep) (world : σ) : List StoreCall :=
  (step.take store.recording (world, [])).world.2

@[simp]
theorem calls_load (path : Bytes) (world : σ) :
    (load path).calls store world = [.load path] := rfl

@[simp]
theorem calls_persist (path : Bytes) (c : Config) (world : σ) :
    (persist path c).calls store world = [.persist path c] := rfl

theorem calls_resolve (base : Config) (cl : CommandLine) (world : σ) :
    (resolve base cl).calls store world = resolutionCalls store base cl world := by
  simp only [calls, take, resolve_recording, List.nil_append]

/-- Noting the calls of a step changes nothing else. -/
theorem take_recording (step : StartStep) (world : σ) (noted : List StoreCall) :
    (step.take store.recording (world, noted)).world =
      ((step.take store world).world, noted ++ step.calls store world) := by
  cases step with
  | load path => rfl
  | persist path c => rfl
  | resolve base cl => simp only [calls, take, resolve_recording, List.nil_append]

/-- A call as a step of its own. -/
def ofCall : StoreCall → StartStep
  | .load path => load path
  | .persist path c => persist path c

/-- **A step is its calls**, one after the other. -/
theorem takeAll_calls (step : StartStep) (world : σ) :
    takeAll store ((step.calls store world).map ofCall) world = (step.take store world).world := by
  cases step with
  | load path => rfl
  | persist path c => rfl
  | resolve base cl =>
    rw [calls_resolve]
    change _ = (Gateway.resolve store base cl world).world
    obtain ⟨-, hcalls, hworld, -⟩ | ⟨name, -, hcases⟩ := resolve_cases store base cl world
    · rw [hcalls, hworld]
      rfl
    · obtain ⟨-, hcalls, hworld, -⟩ | ⟨-, hcalls, hworld, -⟩ := hcases
      · rw [hcalls, hworld]
        rfl
      · rw [hcalls, hworld]
        rfl

end Store

end StartStep

/-! ### Single steps -/

/-- What comes of persisting a configuration in a tree: a result, and the tree after it. -/
inductive Saved (t : FileTree) (path : Bytes) (c : Config) :
    Except ConfigFault Unit → FileTree → Prop
  /-- The configuration cannot be written. -/
  | unwritable (henc : (Format.ofPath path).encode? c = none) :
    Saved t path c (.error .unwritable) t
  /-- No file can be created. -/
  | refused (henc : (Format.ofPath path).encode? c ≠ none)
    (hplace : ∀ p, t.freePlace path ≠ .ok p) : Saved t path c (.ok ()) t
  /-- A file is created. -/
  | created {text : String} {p : FileTree.Place}
    (henc : (Format.ofPath path).encode? c = some text) (hplace : t.freePlace path = .ok p) :
    Saved t path c (.ok ()) (t.insert p (.file (Utf8.ofString text)))

/-- The store of a file tree saves as `Saved` says. -/
theorem FileTree.saved_persistIfAbsent (t : FileTree) (path : Bytes) (c : Config) :
    Saved t path c (t.persistIfAbsent path c).result (t.persistIfAbsent path c).world := by
  unfold persistIfAbsent create
  cases henc : (Format.ofPath path).encode? c with
  | none => exact .unwritable henc
  | some text =>
    cases hplace : t.freePlace path with
    | error problem =>
      exact .refused (henc ▸ nofun) (hplace ▸ nofun)
    | ok p => exact .created henc hplace

/-- What comes of a step with some calls: a result, and the tree after it. -/
inductive Taken (t : FileTree) (calls : List StoreCall) :
    Except ConfigFault Unit → FileTree → Prop
  /-- Nothing is persisted. -/
  | idle (result : Except ConfigFault Unit) (hcalls : ∀ path c, .persist path c ∉ calls) :
    Taken t calls result t
  /-- One configuration is persisted. -/
  | saved {path : Bytes} {c : Config} {result : Except ConfigFault Unit} {t' : FileTree}
    (hcalls : ∀ path' c', .persist path' c' ∈ calls ↔ path' = path ∧ c' = c)
    (hsaved : Saved t path c result t') : Taken t calls result t'

/-- **Steps** persist at most one configuration, and do nothing else to a tree. -/
theorem StartStep.taken (step : StartStep) (t : FileTree) :
    Taken t (step.calls fileStore t) (step.take fileStore t).result
      (step.take fileStore t).world := by
  cases step with
  | load path =>
    have hworld : ((load path).take fileStore t).world = t := t.load_world path
    rw [hworld]
    exact .idle _ (by simp)
  | persist path c =>
    exact .saved (by simp) (t.saved_persistIfAbsent path c)
  | resolve base cl =>
    rw [calls_resolve]
    obtain ⟨-, hcalls, hworld, -⟩ | ⟨name, -, hcases⟩ := resolve_cases fileStore base cl t
    · have htaken : ((resolve base cl).take fileStore t).world = t := hworld
      rw [hcalls, htaken]
      exact .idle _ (by simp)
    obtain ⟨-, hcalls, hworld, -⟩ | ⟨-, hcalls, hworld, hresult⟩ := hcases
    · have htaken : ((resolve base cl).take fileStore t).world = t :=
        hworld.trans (t.load_world _)
      rw [hcalls, htaken]
      exact .idle _ (by simp)
    · -- what was loaded left the tree as it is, and what is returned is left aside
      let saved := t.persistIfAbsent (Utf8.ofString name) (cl.settle base .empty)
      have hload : (fileStore.load (Utf8.ofString name) t).world = t := t.load_world _
      rw [hload] at hworld hresult
      have htaken : ((resolve base cl).take fileStore t).world = saved.world := hworld
      have hreply : ((resolve base cl).take fileStore t).result = saved.result := by
        change (Gateway.resolve fileStore base cl t).result.map _ = saved.result
        rw [hresult]
        change (saved.result.map _).map _ = saved.result
        cases saved.result <;> rfl
      rw [hcalls, htaken, hreply]
      exact .saved (by simp) (t.saved_persistIfAbsent _ _)

section Taken

variable {t t' : FileTree} {calls : List StoreCall} {result : Except ConfigFault Unit}

/-- Saving only adds to a tree. -/
theorem Saved.growsFrom {path : Bytes} {c : Config} (h : Saved t path c result t') :
    t'.GrowsFrom t := by
  cases h with
  | unwritable henc => exact .refl t
  | refused henc hplace => exact .refl t
  | created henc hplace => exact .insert (FileTree.find?_eq_none_of_freePlace hplace) _

theorem Taken.growsFrom (h : Taken t calls result t') : t'.GrowsFrom t := by
  cases h with
  | idle result hcalls => exact .refl t
  | saved hcalls hsaved => exact hsaved.growsFrom

/-- A step that changes a tree adds the file of the configuration that it persists. -/
theorem Taken.eq_or_adds (h : Taken t calls result t') :
    t' = t ∨ ∃ path c text p, .persist path c ∈ calls ∧
      (Format.ofPath path).encode? c = some text ∧ t.freePlace path = .ok p ∧ t.find? p = none ∧
      t'.find? p = some (.file (Utf8.ofString text)) ∧ ∀ q, q ≠ p → t'.find? q = t.find? q := by
  cases h with
  | idle result hcalls => exact .inl rfl
  | @saved path c _ _ hcalls hsaved =>
    cases hsaved with
    | unwritable henc => exact .inl rfl
    | refused henc hplace => exact .inl rfl
    | @created text p henc hplace =>
      exact .inr ⟨path, c, text, p, (hcalls path c).mpr ⟨rfl, rfl⟩, henc, hplace,
        FileTree.find?_eq_none_of_freePlace hplace,
        t.find?_insert_self _ (FileTree.ne_nil_of_freePlace hplace),
        fun q hq => t.find?_insert_of_ne _ hq⟩

/-- The configuration that a step persists is saved. -/
theorem Taken.saved_of_mem (h : Taken t calls result t') {path : Bytes} {c : Config}
    (hmem : .persist path c ∈ calls) : Saved t path c result t' := by
  cases h with
  | idle result hcalls => exact absurd hmem (hcalls path c)
  | saved hcalls hsaved =>
    obtain ⟨rfl, rfl⟩ := (hcalls path c).mp hmem
    exact hsaved

/-- Persisting a configuration that can be written does not fail. -/
theorem Saved.result_eq_ok {path : Bytes} {c : Config} (h : Saved t path c result t')
    (henc : (Format.ofPath path).encode? c ≠ none) : result = .ok () := by
  cases h with
  | unwritable hnone => exact absurd hnone henc
  | refused henc hplace => rfl
  | created henc hplace => rfl

/-- A step that fails changes nothing. -/
theorem Taken.eq_of_error (h : Taken t calls result t') {fault : ConfigFault}
    (hresult : result = .error fault) : t' = t := by
  cases h with
  | idle result hcalls => rfl
  | saved hcalls hsaved =>
    cases hsaved with
    | unwritable henc => rfl
    | refused henc hplace => rfl
    | created henc hplace => cases hresult

/-- Without a free place nothing is created. -/
theorem Saved.eq_of_freePlace_ne {path : Bytes} {c : Config} (h : Saved t path c result t')
    (hplace : ∀ p, t.freePlace path ≠ .ok p) : t' = t := by
  cases h with
  | unwritable henc => rfl
  | refused henc hrefused => rfl
  | created henc hcreated => exact absurd hcreated (hplace _)

/-- A free place is filled with what can be written. -/
theorem Saved.find?_of_freePlace {path : Bytes} {c : Config} (h : Saved t path c result t')
    {text : String} (henc : (Format.ofPath path).encode? c = some text) {p : FileTree.Place}
    (hplace : t.freePlace path = .ok p) :
    t'.find? p = some (.file (Utf8.ofString text)) := by
  cases h with
  | unwritable hnone => cases henc.symm.trans hnone
  | refused _ hrefused => exact absurd hplace (hrefused p)
  | created henc' hcreated =>
    cases hplace.symm.trans hcreated
    cases henc.symm.trans henc'
    exact t.find?_insert_self _ (FileTree.ne_nil_of_freePlace hplace)

end Taken

/-- A file that holds what was written of a configuration gives that configuration. -/
theorem FileTree.load_of_leadsTo {t : FileTree} {path : Bytes} {p : Place}
    (hleads : t.LeadsTo path p) {c : Config} {text : String}
    (henc : (Format.ofPath path).encode? c = some text)
    (hp : t.find? p = some (.file (Utf8.ofString text))) :
    (t.load path).result = .ok (some c.toLayer) := by
  simp only [load, hleads.readText hp, Format.decode_encode? henc]

/-- Under a path that leads to a free place there is no file. -/
theorem FileTree.load_of_freePlace {t : FileTree} {path : Bytes} {p : Place}
    (hplace : t.freePlace path = .ok p) : (t.load path).result = .ok none := by
  obtain ⟨hleads, hnone⟩ := freePlace_eq_ok_iff.mp hplace
  simp only [load, readText, read, hleads.walk hnone (.inl rfl)]

/-! ### Runs of steps -/

/-- Among some calls is one that persists a configuration that can be written, under a path that
leads to a place that is free in a tree. -/
def FileTree.IsFilledBy (t : FileTree) (p : Place) (calls : List StoreCall) : Prop :=
  ∃ path c, .persist path c ∈ calls ∧ (Format.ofPath path).encode? c ≠ none ∧
    t.freePlace path = .ok p

theorem FileTree.isFilledBy_append {t : FileTree} {p : Place} {calls calls' : List StoreCall} :
    t.IsFilledBy p (calls ++ calls') ↔ t.IsFilledBy p calls ∨ t.IsFilledBy p calls' := by
  simp only [IsFilledBy, List.mem_append, or_and_right, exists_or]

/-- Where only one configuration is persisted, a place is filled by that one. -/
theorem FileTree.isFilledBy_iff_of_mem_iff {t : FileTree} {p : Place} {calls : List StoreCall}
    {path : Bytes} {c : Config}
    (hcalls : ∀ path' c', .persist path' c' ∈ calls ↔ path' = path ∧ c' = c) :
    t.IsFilledBy p calls ↔ (Format.ofPath path).encode? c ≠ none ∧ t.freePlace path = .ok p := by
  constructor
  · rintro ⟨path', c', hmem, hfill⟩
    obtain ⟨rfl, rfl⟩ := (hcalls path' c').mp hmem
    exact hfill
  · exact fun hfill => ⟨path, c, (hcalls path c).mpr ⟨rfl, rfl⟩, hfill⟩

/-- A tree that some calls made of another one: it grew from that one, and of the places that were
free, those are taken that the calls fill. -/
structure Tracks (t : FileTree) (noted : List StoreCall) (t' : FileTree) : Prop where
  growsFrom : t'.GrowsFrom t
  find?_ne_none_iff {path : Bytes} {p : FileTree.Place} (h : t.freePlace path = .ok p) :
    t'.find? p ≠ none ↔ t.IsFilledBy p noted

namespace Tracks

variable {t t' t'' : FileTree} {noted calls : List StoreCall} {result : Except ConfigFault Unit}

theorem refl (t : FileTree) : Tracks t [] t where
  growsFrom := .refl t
  find?_ne_none_iff h :=
    iff_of_false (fun hne => hne (FileTree.find?_eq_none_of_freePlace h))
      fun ⟨_, _, hmem, _⟩ => nomatch hmem

/-- A path leads to a free place if it led there at first and the calls did not fill the place. -/
theorem freePlace_iff (h : Tracks t noted t') {path : Bytes} {p : FileTree.Place} :
    t'.freePlace path = .ok p ↔ t.freePlace path = .ok p ∧ ¬ t.IsFilledBy p noted := by
  constructor
  · intro hplace
    obtain ⟨hleads, hnone⟩ := FileTree.freePlace_eq_ok_iff.mp hplace
    have hfirst : t.freePlace path = .ok p := FileTree.freePlace_eq_ok_iff.mpr
      ⟨(FileTree.LeadsTo.iff_of_growsFrom h.growsFrom).mp hleads, h.growsFrom.find?_eq_none hnone⟩
    exact ⟨hfirst, fun hfilled => (h.find?_ne_none_iff hfirst).mpr hfilled hnone⟩
  · rintro ⟨hfirst, hunfilled⟩
    have hleads := (FileTree.freePlace_eq_ok_iff.mp hfirst).1
    exact FileTree.freePlace_eq_ok_iff.mpr
      ⟨(FileTree.LeadsTo.iff_of_growsFrom h.growsFrom).mpr hleads,
        not_not.mp fun hne => hunfilled ((h.find?_ne_none_iff hfirst).mp hne)⟩

/-- **Steps are tracked.** -/
theorem step (h : Tracks t noted t') (hstep : Taken t' calls result t'') :
    Tracks t (noted ++ calls) t'' where
  growsFrom := hstep.growsFrom.trans h.growsFrom
  find?_ne_none_iff := by
    intro path p hplace
    rw [FileTree.isFilledBy_append]
    have hpast := h.find?_ne_none_iff hplace
    cases hstep with
    | idle result hcalls =>
      rw [hpast, or_iff_left]
      exact fun ⟨path, c, hmem, _⟩ => hcalls path c hmem
    | saved hcalls hsaved =>
      rw [FileTree.isFilledBy_iff_of_mem_iff hcalls]
      cases hsaved with
      | unwritable henc =>
        rw [hpast, or_iff_left]
        exact fun hfill => hfill.1 henc
      | refused henc hrefused =>
        -- a path that led to this place at first is refused only because the place is taken
        rw [hpast, or_iff_left_of_imp]
        rintro ⟨-, hfirst⟩
        exact not_not.mp fun hunfilled => hrefused p (h.freePlace_iff.mpr ⟨hfirst, hunfilled⟩)
      | @created text q henc hcreated =>
        have hfirst := (h.freePlace_iff.mp hcreated).1
        by_cases hpq : p = q
        · subst hpq
          rw [t'.find?_insert_self _ (FileTree.ne_nil_of_freePlace hcreated)]
          exact iff_of_true nofun (.inr ⟨henc ▸ nofun, hfirst⟩)
        · rw [t'.find?_insert_of_ne _ hpq, hpast, or_iff_left]
          rintro ⟨-, hother⟩
          exact hpq (Except.ok.inj (hother.symm.trans hfirst))

end Tracks

namespace StartStep

/-- **Runs are tracked**, whatever the order of their steps. -/
theorem tracks_takeAll {t : FileTree} (steps : List StartStep) :
    ∀ {world : FileTree × List StoreCall}, Tracks t world.2 world.1 →
      Tracks t (takeAll fileStore.recording steps world).2
        (takeAll fileStore.recording steps world).1 := by
  induction steps with
  | nil => exact id
  | cons step steps ih =>
    intro world h
    have hstep := h.step (step.taken world.1)
    rw [takeAll, List.foldl_cons, step.take_recording]
    exact ih hstep

/-- Noting the calls of a run changes nothing else. -/
theorem takeAll_recording {σ : Type} (store : Store σ) (steps : List StartStep) (world : σ)
    (noted : List StoreCall) :
    (takeAll store.recording steps (world, noted)).1 = takeAll store steps world := by
  induction steps generalizing world noted with
  | nil => rfl
  | cons step steps ih =>
    rw [takeAll, takeAll, List.foldl_cons, List.foldl_cons, step.take_recording]
    exact ih _ _

/-- **Files are created once.** Some starts take steps on a file tree, one of them is looked at, and
others follow. The step is no more than its calls, which may be steps of their own. What was there
before it is there after it, and what is there then stays to the end. The step changes nothing, or
it adds one file: where nothing was, under the path and with the text of the configuration that it
persists. Persisting what can be written does not fail, and a step that fails changes nothing. Under
a path that led to no free place at first nothing is ever created. If the path did lead to one, the
file was missing; the first step that persists there fills the place, and the file gives the
configuration of that step to the end; the steps after it change nothing. -/
theorem takeAll_creates (t : FileTree) (before : List StartStep) (step : StartStep)
    (after : List StartStep) :
    let earlier := (takeAll fileStore.recording before (t, [])).2
    let t₁ := takeAll fileStore before t
    let calls := step.calls fileStore t₁
    let reply := step.take fileStore t₁
    let t₂ := takeAll fileStore after reply.world
    takeAll fileStore (calls.map ofCall) t₁ = reply.world ∧
    (∀ p e, t₁.find? p = some e → reply.world.find? p = some e) ∧
    (∀ p e, reply.world.find? p = some e → t₂.find? p = some e) ∧
    (reply.world = t₁ ∨ ∃ path c text p, .persist path c ∈ calls ∧
      (Format.ofPath path).encode? c = some text ∧ t₁.freePlace path = .ok p ∧
      t₁.find? p = none ∧ reply.world.find? p = some (.file (Utf8.ofString text)) ∧
      ∀ q, q ≠ p → reply.world.find? q = t₁.find? q) ∧
    (∀ path c, .persist path c ∈ calls → (Format.ofPath path).encode? c ≠ none →
      reply.result = .ok ()) ∧
    (∀ fault, reply.result = .error fault → reply.world = t₁) ∧
    (∀ path c, .persist path c ∈ calls → (∀ p, t.freePlace path ≠ .ok p) → reply.world = t₁) ∧
    (∀ path c text p, .persist path c ∈ calls → (Format.ofPath path).encode? c = some text →
      t.freePlace path = .ok p →
      (fileStore.load path t).result = .ok none ∧
      (t.IsFilledBy p earlier → reply.world = t₁) ∧
      (¬ t.IsFilledBy p earlier →
        t₂.find? p = some (.file (Utf8.ofString text)) ∧
        (fileStore.load path t₂).result = .ok (some c.toLayer))) := by
  intro earlier t₁ calls reply t₂
  have hbefore : Tracks t earlier t₁ := by
    have h : Tracks t earlier (takeAll fileStore.recording before (t, [])).1 :=
      tracks_takeAll before (.refl t)
    rwa [takeAll_recording] at h
  have htaken : Taken t₁ calls reply.result reply.world := step.taken t₁
  have hafter : t₂.GrowsFrom reply.world := by
    have h : (takeAll fileStore.recording after (reply.world, [])).1.GrowsFrom reply.world :=
      (tracks_takeAll after (.refl reply.world)).growsFrom
    rwa [takeAll_recording] at h
  refine ⟨step.takeAll_calls fileStore t₁, fun p e => htaken.growsFrom.find?_eq_some,
    fun p e => hafter.find?_eq_some, htaken.eq_or_adds,
    fun path c hmem => (htaken.saved_of_mem hmem).result_eq_ok, fun fault => htaken.eq_of_error,
    fun path c hmem hplace => ?_, fun path c text p hmem henc hplace => ?_⟩
  · exact (htaken.saved_of_mem hmem).eq_of_freePlace_ne
      fun p hp => hplace p (hbefore.freePlace_iff.mp hp).1
  have hsaved := htaken.saved_of_mem hmem
  refine ⟨FileTree.load_of_freePlace hplace,
    fun hfilled => hsaved.eq_of_freePlace_ne fun q hq => ?_, fun hunfilled => ?_⟩
  · obtain ⟨hfirst, hunfilled⟩ := hbefore.freePlace_iff.mp hq
    cases hplace.symm.trans hfirst
    exact hunfilled hfilled
  · have hfree := hbefore.freePlace_iff.mpr ⟨hplace, hunfilled⟩
    have hfile := hafter.find?_eq_some (hsaved.find?_of_freePlace henc hfree)
    have hgrows := hafter.trans (htaken.growsFrom.trans hbefore.growsFrom)
    have hleads := (FileTree.LeadsTo.iff_of_growsFrom hgrows).mpr
      (FileTree.freePlace_eq_ok_iff.mp hplace).1
    exact ⟨hfile, FileTree.load_of_leadsTo hleads henc hfile⟩

/-- Two starts find no file and then persist different configurations; the one that is first is
loaded in the end. -/
theorem takeAll_creates_first :
    let path := Utf8.ofString "gw.json"
    let c : Config := { Config.standard with port := 4222 }
    let steps := [.load path, .load path, .persist path c, .persist path .standard]
    (fileStore.load path .empty).result = .ok none ∧
      (fileStore.load path (takeAll fileStore steps .empty)).result = .ok (some c.toLayer) := by
  intro path c steps
  have hformat : Format.ofPath (Utf8.ofString "gw.json") = .json := by cbv
  have hplace : FileTree.empty.freePlace (Utf8.ofString "gw.json") =
      .ok [Utf8.ofString "gw.json"] := by cbv
  have henc : (Format.ofPath path).encode? c = some c.toJson := by rw [hformat]; rfl
  have hnoted : (takeAll fileStore.recording [.load path, .load path] (.empty, [])).2 =
      [.load path, .load path] := rfl
  have hunfilled : ¬ FileTree.empty.IsFilledBy [path] [.load path, .load path] := by
    rintro ⟨_, _, hmem, -⟩
    simp at hmem
  obtain ⟨-, -, -, -, -, -, -, hfirst⟩ :=
    takeAll_creates .empty [.load path, .load path] (.persist path c) [.persist path .standard]
  rw [hnoted, calls_persist] at hfirst
  obtain ⟨hload, -, hcreated⟩ := hfirst path c _ _ (List.mem_singleton_self _) henc hplace
  exact ⟨hload, (hcreated hunfilled).2⟩

end StartStep

end Gateway
