import Gateway.Proofs.Config.Restart
import Gateway.Proofs.Server.Entries

/-!
# Origins on the command line

The origins that a command line gives are collected, joined with semicolons, laid over the ones of
the file and of the base, and cut at the semicolons again when the settings are checked. None of
these steps may lose, merge or add an entry.

`OriginPolicy.Judges` says what a list of entries amounts to, without any text that they are cut
from, and `resolve_origins` says that the policy is what the entries of the command line amount to,
nothing else, after a restart too.
-/

namespace Gateway

/-! ### From the command line to the configuration -/

namespace Flag.Values

variable {vs : Values} {f : Flag}

theorem give_of_ne {g : Flag} (h : g ≠ f) (text : String) : (vs.give g text) f = vs f := by
  unfold give
  cases g.kind.read? text with
  | none => rfl
  | some value => exact record_of_ne vs value h

end Flag.Values

namespace CommandLine

open Config (firstGiven filled nonempty?)

/-- The texts that are given to a flag. -/
def textsFor (f : Flag) (given : List (Flag × String)) : List String :=
  (given.filter fun g => decide (g.1 = f)).map Prod.snd

/-- Origins are collected. -/
theorem getD_giveAll_allowOrigin (vs : Flag.Values) (given : List (Flag × String)) :
    ((vs.giveAll given) (.setting .allowOrigin)).getD [] =
      (vs (.setting .allowOrigin)).getD [] ++ textsFor (.setting .allowOrigin) given := by
  induction given generalizing vs with
  | nil => simp [textsFor, Flag.Values.giveAll]
  | cons g given ih =>
    obtain ⟨f, text⟩ := g
    change (((vs.give f text).giveAll given) (.setting .allowOrigin)).getD [] = _
    rw [ih]
    by_cases hf : f = .setting .allowOrigin
    · subst hf
      have htext : textsFor (.setting .allowOrigin) ((.setting .allowOrigin, text) :: given) =
          text :: textsFor (.setting .allowOrigin) given := by simp [textsFor]
      have hgive : (vs.give (.setting .allowOrigin) text) (.setting .allowOrigin) =
          some ((vs (.setting .allowOrigin)).getD [] ++ [text]) := by
        refine (Flag.Values.record_self vs (.setting .allowOrigin) [text]).trans ?_
        cases vs (.setting .allowOrigin) <;> rfl
      rw [hgive, htext, Option.getD_some, List.append_assoc, List.singleton_append]
    · rw [Flag.Values.give_of_ne hf]
      simp [textsFor, hf]

/-- A command line that gives origins keeps all of them, in their order. -/
theorem given_allowOrigin {phrases : List Phrase} {arguments : List Bytes}
    (hwrites : Writes phrases arguments) {cl : CommandLine}
    (hcl : parse arguments = .ok (.run cl))
    (hne : textsFor (.setting .allowOrigin) (phrases.flatMap Phrase.given) ≠ []) :
    cl.given .allowOrigin =
      some (textsFor (.setting .allowOrigin) (phrases.flatMap Phrase.given)) := by
  obtain ⟨values, hvalues, hrequest⟩ := exists_readFlags_of_parse hcl
  rw [readFlags_eq_ok_iff.mpr ⟨phrases, hwrites, rfl⟩] at hvalues
  obtain rfl := Except.ok.inj hvalues
  rw [given_of_request hrequest.symm .allowOrigin]
  have hcollected := getD_giveAll_allowOrigin .empty (phrases.flatMap Phrase.given)
  rw [Flag.Values.empty_apply, Option.getD_none, List.nil_append] at hcollected
  rw [← hcollected] at hne ⊢
  generalize (Flag.Values.empty.giveAll (phrases.flatMap Phrase.given)) (.setting .allowOrigin) =
    collected at hne ⊢
  cases collected with
  | none => exact absurd rfl hne
  | some origins => rfl

/-- Origins of the command line are not mixed with those of the file or of the base. -/
theorem allowOrigin_composed {cl : CommandLine} {origins : List String}
    (hgiven : cl.given .allowOrigin = some origins)
    (hjoin : Text.joinStrings ';' origins ≠ "") (file : Layer) (base : Config) :
    (cl.composed file base).allowOrigin = some (Text.joinStrings ';' origins) := by
  change filled none (some "*") (firstGiven ((cl.given .allowOrigin).map fun origins =>
    nonempty? (Text.joinStrings ';' origins)) _ _) = _
  rw [hgiven, Option.map_some, nonempty?, if_neg hjoin]
  rfl

/-- Without origins on the command line, those of the file count. -/
theorem allowOrigin_composed_of_file {cl : CommandLine} (hgiven : cl.given .allowOrigin = none)
    {file : Layer} {value : String} (hfile : file .allowOrigin = some value) (hne : value ≠ "")
    (base : Config) : (cl.composed file base).allowOrigin = some value := by
  change filled none (some "*") (firstGiven ((cl.given .allowOrigin).map fun origins =>
    nonempty? (Text.joinStrings ';' origins)) ((file .allowOrigin).map nonempty?) _) = _
  rw [hgiven, hfile, Option.map_some, nonempty?, if_neg hne]
  rfl

end CommandLine

/-- What resolution returns is the reference for some layer, that of the file or the empty one. -/
theorem exists_composed_of_resolve {σ : Type} {store : Store σ} {base : Config} {cl : CommandLine}
    {world : σ} (hport : cl.PortFits) {c : Config}
    (h : (resolve store base cl world).result = .ok c) : ∃ file, c = cl.composed file base :=
  ⟨_, composed_of_resolve store base world hport h⟩

/-- **Origins of the command line** are the policy of the gateway. Let a command line give some
origins without semicolons, anywhere among its phrases, that do not amount to the empty text.
Whatever the base is and the store answers, the configuration of the run holds these origins and
nothing else, so the policy of its settings is what the trimmed origins amount to, one entry for
each. Nothing but the store can keep resolution from succeeding. If the run created its file, a
later run that names the file and gives no origins has the same policy, on any base. -/
theorem resolve_origins {phrases : List CommandLine.Phrase} {arguments : List Bytes}
    (hwrites : CommandLine.Writes phrases arguments) {cl : CommandLine}
    (hcl : CommandLine.parse arguments = .ok (.run cl)) {origins : List String}
    (horigins : CommandLine.textsFor (.setting .allowOrigin)
      (phrases.flatMap CommandLine.Phrase.given) = origins)
    (hne : origins ≠ []) (hsimple : ∀ o ∈ origins, ';' ∉ o.toList)
    (hjoin : Text.joinStrings ';' origins ≠ "") :
    let value := Text.joinStrings ';' origins
    let policy := OriginPolicy.ofString? value
    (∀ judged, OriginPolicy.Judges value (origins.map Text.trimString) judged ↔
      policy = judged) ∧
    (∀ (σ : Type) (store : Store σ) (base : Config) (world : σ),
      let result := (resolve store base cl world).result
      (∀ c, result = .ok c → c.allowOrigin = some value ∧
        ∀ s, ServerSettings.ofConfig? c = .ok s → policy = .ok s.origins) ∧
      (cl.configFile = none → ∃ c, result = .ok c) ∧
      (∀ name, cl.configFile = some name → ∀ layer,
        (store.load (Utf8.ofString name) world).result = .ok (some layer) →
        ∃ c, result = .ok c)) ∧
    (∀ name, cl.configFile = some name → ∀ (base : Config) (t : FileTree),
      (fileStore.load (Utf8.ofString name) t).result = .ok none →
      (∃ c, (resolve fileStore base cl t).result = .ok c) →
      let after := (resolve fileStore base cl t).world
      after.isRegular (Utf8.ofString name) = true →
      ∀ arguments' again, CommandLine.parse arguments' = .ok (.run again) →
        again.configFile = some name → again.given .allowOrigin = none →
        ∀ base', ∃ c', (resolve fileStore base' again after).result = .ok c' ∧
          c'.allowOrigin = some value ∧
          ∀ s, ServerSettings.ofConfig? c' = .ok s → policy = .ok s.origins) := by
  intro value policy
  have hport := CommandLine.portFits_of_parse hcl
  have hgiven := CommandLine.given_allowOrigin hwrites hcl (horigins ▸ hne)
  rw [horigins] at hgiven
  have hentries := OriginPolicy.entries_joinStrings hne hsimple
  refine ⟨fun judged => ?_, fun σ store base world => ⟨fun c hc => ?_, fun hname => ?_,
    fun name hname layer hload => ?_⟩, ?_⟩
  · have hpolicy : policy = OriginPolicy.ofEntries? value (origins.map Text.trimString) := by
      rw [← hentries]
      exact OriginPolicy.ofString?_eq value
    rw [hpolicy]
    exact OriginPolicy.judges_iff
  · obtain ⟨file, rfl⟩ := exists_composed_of_resolve hport hc
    have hvalue := CommandLine.allowOrigin_composed hgiven hjoin file base
    exact ⟨hvalue, fun s hs => (ServerSettings.origins_of_ofConfig? hs).2 value hvalue⟩
  · rw [resolve_of_noFile store base world hport hname]
    exact ⟨_, rfl⟩
  · rw [resolve_of_layer store base world hport hname hload]
    exact ⟨_, rfl⟩
  · rintro name hname base t hload ⟨c, hresult⟩ after hcreated arguments' again hagain hname'
      hgiven' base'
    obtain ⟨hc, hreload⟩ := load_of_resolve hport hname hload hresult hcreated
    have hvalue := CommandLine.allowOrigin_composed hgiven hjoin .empty base
    rw [← hc] at hvalue
    have hfile : c.toLayer .allowOrigin = some value := hvalue
    have hlayer := congrArg Reply.result hreload
    rw [resolve_of_layer fileStore base' after (CommandLine.portFits_of_parse hagain) hname' hlayer]
    have hvalue' := CommandLine.allowOrigin_composed_of_file hgiven' hfile hjoin base'
    exact ⟨_, rfl, hvalue', fun s hs => (ServerSettings.origins_of_ofConfig? hs).2 value hvalue'⟩

/-- Two origins with another flag between them, one behind a blank and one in capitals, reach the
policy past a base that lets all origins pass. -/
theorem resolve_origins_two :
    let arguments :=
      ["--alloworigin", " http://[::1]", "-D", "--alloworigin=HTTPS://[::2]:443"].map Utf8.ofString
    ∃ cl c, CommandLine.parse arguments = .ok (.run cl) ∧
      (resolve fileStore .standard cl .empty).result = .ok c ∧
      c.allowOrigin = some " http://[::1];HTTPS://[::2]:443" ∧
      OriginPolicy.ofString? " http://[::1];HTTPS://[::2]:443" =
        .ok (.listed ["http://[::1]", "https://[::2]"]) := by
  intro arguments
  let phrases : List CommandLine.Phrase :=
    [⟨.long (.setting .allowOrigin), .detached " http://[::1]"⟩,
      ⟨.short [] (.setting .debug), .bare⟩,
      ⟨.long (.setting .allowOrigin), .attached "HTTPS://[::2]:443"⟩]
  have hwrites : CommandLine.Writes phrases arguments := ⟨by decide, [], .inl rfl, by decide⟩
  obtain ⟨cl, hcl, hp⟩ := CommandLine.exists_run arguments
    (fun cl => decide (cl.configFile = none)) (by decide +kernel)
  have hname : cl.configFile = none := of_decide_eq_true hp
  obtain ⟨hjudges, hresolves, -⟩ :=
    resolve_origins hwrites hcl (by decide : _ = [" http://[::1]", "HTTPS://[::2]:443"])
      (by decide) (by decide) (by decide)
  have hjoin : Text.joinStrings ';' [" http://[::1]", "HTTPS://[::2]:443"] =
      " http://[::1];HTTPS://[::2]:443" := by decide
  have hlisted (value : String) : OriginPolicy.Judges value
      ([" http://[::1]", "HTTPS://[::2]:443"].map Text.trimString)
      (.ok (.listed ["http://[::1]", "https://[::2]"])) :=
    .listed (by decide +kernel) (by decide +kernel)
  obtain ⟨honly, hnone, -⟩ := hresolves FileTree fileStore .standard .empty
  obtain ⟨c, hc⟩ := hnone hname
  refine ⟨cl, c, hcl, hc, ?_, ?_⟩
  · rw [(honly c hc).1, hjoin]
  · rw [← hjoin]
    exact (hjudges _).mp (hlisted _)

end Gateway
