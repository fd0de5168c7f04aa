import Gateway.Config.Resolve

/-!
# Layers over configurations, one setting at a time

`Layer.applyTo` lays the contents of a layer over a configuration by going through all settings in
turn. Seen through `Config.toLayer`, what it leaves under a setting depends on that setting alone:
`toLayer_applyTo` says that it is what the layer gives, as the setting holds it (`Setting.held`),
and what was there before where the layer gives nothing. Two layers on top of each other are
`toLayer_applyTo_applyTo`, with the upper one in front.

A configuration is determined by what it gives for each setting (`eq_of_toLayer`), so that facts
about whole configurations follow from facts about single settings.
-/

namespace Gateway

/-- What a setting holds once some contents were put there: an empty text leaves an optional
setting absent, and every other one holds the contents as they are. -/
def Setting.held : (s : Setting) → s.Content → Option s.Content
  | .natsCreds, v | .addr, v | .headerAuth, v | .allowOrigin, v => Config.nonempty? v
  | .natsUrl, v | .wsPath, v | .apiPath, v | .apiEncoding, v | .tlsCert, v | .tlsKey, v => some v
  | .requestTimeout, v => some v
  | .port, v => some v
  | .debug, v | .trace, v | .tls, v => some v

namespace Config

/-! ### One setting -/

@[simp]
theorem toLayer_put_self (c : Config) (s : Setting) (v : s.Content) :
    (c.put s v).toLayer s = s.held v := by
  cases s <;> rfl

theorem toLayer_put_of_ne (c : Config) {s t : Setting} (v : s.Content) (h : s ≠ t) :
    (c.put s v).toLayer t = c.toLayer t := by
  cases s <;> cases t <;> first | rfl | exact absurd rfl h

/-- Configurations that give the same for every setting are the same. -/
theorem eq_of_toLayer {c d : Config} (h : ∀ s, c.toLayer s = d.toLayer s) : c = d := by
  have natsUrl := h .natsUrl
  have natsCreds := h .natsCreds
  have requestTimeout := h .requestTimeout
  have debug := h .debug
  have trace := h .trace
  have addr := h .addr
  have port := h .port
  have wsPath := h .wsPath
  have apiPath := h .apiPath
  have headerAuth := h .headerAuth
  have allowOrigin := h .allowOrigin
  have apiEncoding := h .apiEncoding
  have tls := h .tls
  have tlsCert := h .tlsCert
  have tlsKey := h .tlsKey
  cases c
  cases d
  simp only [toLayer, Option.some.injEq] at *
  simp only [*]

end Config

/-! ### Whole layers -/

/-- Going through some settings in turn, none of them twice, touches exactly these. -/
private theorem toLayer_foldl_put (l : Layer) (ss : List Setting) (hss : ss.Nodup) (c : Config)
    (t : Setting) :
    (ss.foldl (fun c s => match l s with | some v => c.put s v | none => c) c).toLayer t =
      if t ∈ ss then (l t).elim (c.toLayer t) t.held else c.toLayer t := by
  induction ss generalizing c with
  | nil => simp
  | cons s ss ih =>
    obtain ⟨hs, hss⟩ := List.nodup_cons.mp hss
    rw [List.foldl_cons, ih hss]
    by_cases hst : s = t
    · -- the setting at hand: the rest of the list does not come back to it
      subst hst
      rw [if_neg hs, if_pos List.mem_cons_self]
      cases l s with
      | none => rfl
      | some v => exact c.toLayer_put_self s v
    · have hkeep : (match l s with | some v => c.put s v | none => c).toLayer t = c.toLayer t := by
        cases l s with
        | none => rfl
        | some v => exact c.toLayer_put_of_ne v hst
      rw [hkeep]
      simp only [List.mem_cons, Ne.symm hst, false_or]

namespace Layer

/-- **Layers act setting by setting.** What a setting holds under a layer is what the layer gives
for it, or what was there before. -/
theorem toLayer_applyTo (l : Layer) (c : Config) (s : Setting) :
    (l.applyTo c).toLayer s = (l s).elim (c.toLayer s) s.held :=
  (toLayer_foldl_put l Setting.all Setting.nodup_all c s).trans (if_pos s.mem_all)

/-- Of two layers the upper one comes first. -/
theorem toLayer_applyTo_applyTo (upper lower : Layer) (c : Config) (s : Setting) :
    (upper.applyTo (lower.applyTo c)).toLayer s =
      ((upper s).or (lower s)).elim (c.toLayer s) s.held := by
  rw [toLayer_applyTo, toLayer_applyTo]
  cases upper s <;> rfl

/-- A layer that lies on a configuration already changes nothing. -/
theorem applyTo_applyTo_self (l : Layer) (c : Config) : l.applyTo (l.applyTo c) = l.applyTo c := by
  refine Config.eq_of_toLayer fun s => ?_
  rw [toLayer_applyTo_applyTo, Option.or_self, toLayer_applyTo]

end Layer

end Gateway
