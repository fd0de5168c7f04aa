import Gateway.Proofs.Http.Carried
import Gateway.Proofs.Server.Paths

/-!
# Paths that requests can reach

The paths of a configuration are completed by slashes, and otherwise taken as they are. Requests
are for paths that targets carry, so the socket endpoint can be reached exactly if its path is one
of them, and resources exactly if their common path is one with room for a character behind it
(`ServerSettings.reaches_paths`). A configuration with another path is accepted all the same, and
the endpoint is never reached then (`ServerSettings.never_reaches_question_mark`). Both are said for
every reader of targets, whatever it makes of the delete character.
-/

namespace Gateway

open Http (Target)
open Http.Target (HasPathCharacters)

/-! ### Characters of completed paths -/

variable {d : Target.Dialect}

/-- A text has the characters of paths exactly if its parts do. -/
theorem hasPathCharacters_append {front back : String} :
    HasPathCharacters d (front ++ back) ↔
      HasPathCharacters d front ∧ HasPathCharacters d back := by
  simp only [HasPathCharacters, String.toList_append, List.forall_mem_append]

theorem hasPathCharacters_slash : HasPathCharacters d "/" := by cases d <;> decide

theorem hasPathCharacters_withSlashBefore {path : String} :
    HasPathCharacters d (withSlashBefore path) ↔ HasPathCharacters d path := by
  rw [withSlashBefore]
  split
  · rfl
  · exact hasPathCharacters_append.trans (and_iff_right hasPathCharacters_slash)

theorem hasPathCharacters_withSlashBehind {path : String} :
    HasPathCharacters d (withSlashBehind path) ↔ HasPathCharacters d path := by
  rw [withSlashBehind]
  split
  · rfl
  · exact hasPathCharacters_append.trans (and_iff_left hasPathCharacters_slash)

namespace ServerSettings

variable {c : Config} {s : ServerSettings}

/-- Paths of checked settings begin with a slash and have the characters of the configuration. -/
theorem paths_of_ofConfig? (h : ofConfig? c = .ok s) :
    s.socketPath.toList.head? = some '/' ∧
      (HasPathCharacters d s.socketPath ↔ HasPathCharacters d c.wsPath) ∧
      (HasPathCharacters d s.resourcePath ↔ HasPathCharacters d c.apiPath) := by
  obtain ⟨ip, headerAuth, origins, encoding, tls, -, -, -, -, -, rfl⟩ := exists_of_ofConfig? h
  refine ⟨?_, hasPathCharacters_withSlashBefore,
    hasPathCharacters_withSlashBehind.trans hasPathCharacters_withSlashBefore⟩
  change (withSlashBefore c.wsPath).toList.head? = some '/'
  rw [withSlashBefore]
  split
  · assumption
  · rw [String.toList_append]
    rfl

/-! ### Paths of resources -/

/-- Behind the common path there is something. -/
theorem exists_append_of_isPathOf {common path name : String}
    (h : Route.IsPathOf common path name) : ∃ under, path = common ++ under ∧ under ≠ "" := by
  obtain ⟨core, slashes, hpath, hne, -, -⟩ := h
  refine ⟨String.ofList (core ++ List.replicate slashes '/'), ?_, fun hempty => hne ?_⟩
  · rw [← String.toList_inj, hpath, String.toList_append, String.toList_ofList]
  · rw [← String.toList_inj, String.toList_ofList] at hempty
    exact (List.append_eq_nil_iff.mp hempty).1

/-- A letter behind the common path is the name of a resource. -/
theorem isPathOf_letter (common : String) {letter : Char} (h : letter ≠ '/') :
    Route.IsPathOf common (common ++ String.singleton letter)
      (String.singleton (Route.dotted letter)) := by
  refine ⟨[letter], 0, ?_, List.cons_ne_nil _ _, fun hlast => h (Option.some.inj hlast), ?_⟩
  · rw [String.toList_append, String.toList_singleton]
    rfl
  · rw [String.toList_singleton]
    rfl

/-- **Resources can be reached** if there is room for a letter behind their common path. The socket
endpoint can take the path of one resource, but not of two. -/
theorem exists_resource_iff (hslash : s.resourcePath.toList.head? = some '/') :
    (∃ bs t name, Target.ofBytes? d bs = .ok t ∧ Route.IsPathOf s.resourcePath t.path name ∧
        s.route t.path = .resource name) ↔
      HasPathCharacters d s.resourcePath ∧
        (Utf8.ofString s.resourcePath).length < Target.maxLength := by
  constructor
  · rintro ⟨bs, t, name, ht, hname, -⟩
    obtain ⟨hpath, hlength⟩ := Target.of_ofBytes? ht
    obtain ⟨under, hunder, hne⟩ := exists_append_of_isPathOf hname
    have hpos : 0 < (Utf8.ofString under).length :=
      List.length_pos_iff.mpr fun hnil => hne (Utf8.ofString_injective hnil)
    rw [hunder, hasPathCharacters_append] at hpath
    rw [hunder, Utf8.ofString_append, List.length_append] at hlength
    exact ⟨hpath.1, by omega⟩
  · rintro ⟨hpath, hlength⟩
    -- the endpoint leaves one of two letters free
    obtain ⟨letter, hmem, hfree⟩ : ∃ letter ∈ ['a', 'b'],
        s.resourcePath ++ String.singleton letter ≠ s.socketPath := by
      by_cases ha : s.resourcePath ++ String.singleton 'a' = s.socketPath
      · refine ⟨'b', by decide, fun hb => ?_⟩
        have hsame := congrArg String.toList (ha.trans hb.symm)
        rw [String.toList_append, String.toList_append, List.append_cancel_left_eq] at hsame
        exact absurd hsame (by decide)
      · exact ⟨'a', by decide, ha⟩
    have hletters : ∀ letter ∈ ['a', 'b'], letter ≠ '/' ∧ Target.IsPathCharacter d letter ∧
        (Utf8.encodeChar letter).length = 1 := by
      intro letter hmem
      simp only [List.mem_cons, List.not_mem_nil, or_false] at hmem
      obtain rfl | rfl := hmem <;> cases d <;> decide
    obtain ⟨hslash', hcharacter, hwidth⟩ := hletters letter hmem
    have hname := isPathOf_letter s.resourcePath hslash'
    obtain ⟨path, hjoined⟩ : ∃ path, s.resourcePath ++ String.singleton letter = path := ⟨_, rfl⟩
    rw [hjoined] at hname hfree
    refine ⟨_, ⟨none, path⟩, _, Target.ofBytes?_ofString ?_ ?_ ?_, hname,
      (route_eq_resource_iff hfree).mpr hname⟩
    all_goals rw [← hjoined]
    · rw [String.toList_append, List.head?_append, hslash]
      rfl
    · refine hasPathCharacters_append.mpr ⟨hpath, fun c hc => ?_⟩
      rw [String.toList_singleton, List.mem_singleton] at hc
      exact hc ▸ hcharacter
    · have hbytes : (Utf8.ofString (String.singleton letter)).length = 1 := by
        rw [Utf8.ofString, String.toList_singleton, Utf8.encode, List.flatMap_singleton, hwidth]
      rw [Utf8.ofString_append, List.length_append, hbytes]
      omega

/-- **What can be reached.** Let settings be those of a configuration. Some target has the path of
the socket endpoint, and then it leads there, exactly if the path that was configured has no other
characters than paths of targets have and the completed one is not too long. Some target leads to a
resource exactly if the same holds of the common path of resources and there is room for a letter
behind it. Readers of targets differ in the characters of paths, so this is said for each of
them. -/
theorem reaches_paths (d : Target.Dialect) (h : ofConfig? c = .ok s) :
    ((∃ bs t, Target.ofBytes? d bs = .ok t ∧ t.path = s.socketPath ∧ s.route t.path = .socket) ↔
      HasPathCharacters d c.wsPath ∧
        (Utf8.ofString s.socketPath).length ≤ Target.maxLength) ∧
    ((∃ bs t name, Target.ofBytes? d bs = .ok t ∧ Route.IsPathOf s.resourcePath t.path name ∧
        s.route t.path = .resource name) ↔
      HasPathCharacters d c.apiPath ∧
        (Utf8.ofString s.resourcePath).length < Target.maxLength) := by
  obtain ⟨hslash, hsocket, hresource⟩ := paths_of_ofConfig? h
  refine ⟨?_, ?_⟩
  · rw [← hsocket, ← Target.exists_target_iff hslash]
    simp only [route_eq_socket_iff, and_self]
  · rw [← hresource]
    exact exists_resource_iff (resourcePath_of_ofConfig? h).1

/-- The endpoint and a resource can be reached under the standard configuration, whose socket
endpoint has a path of one character. -/
theorem reaches_paths_standard :
    ∃ s, ofConfig? .standard = .ok s ∧ ∀ d,
      (∃ bs t, Target.ofBytes? d bs = .ok t ∧ t.path = "/" ∧ s.route t.path = .socket) ∧
      ∃ bs t name, Target.ofBytes? d bs = .ok t ∧ Route.IsPathOf "/api/" t.path name ∧
        s.route t.path = .resource name := by
  have hsettings : ofConfig? .standard =
      .ok ⟨.v4 ⟨0, 0, 0, 0⟩, 8080, "/", "/api/", none, .any, .nested, none⟩ := by decide +kernel
  refine ⟨_, hsettings, fun d => ?_⟩
  have hcharacters : HasPathCharacters d "/" ∧ HasPathCharacters d "/api/" := by
    cases d <;> decide
  obtain ⟨hsocket, hresource⟩ := reaches_paths d hsettings
  exact ⟨hsocket.mpr ⟨hcharacters.1, by decide⟩, hresource.mpr ⟨hcharacters.2, by decide⟩⟩

/-- A path with a question mark is accepted, and no target has it. -/
theorem never_reaches_question_mark :
    ∃ s, ofConfig? { Config.standard with wsPath := "/ws?room" } = .ok s ∧
      ∀ d bs t, Target.ofBytes? d bs = .ok t → t.path ≠ s.socketPath := by
  refine ⟨⟨.v4 ⟨0, 0, 0, 0⟩, 8080, "/ws?room", "/api/", none, .any, .nested, none⟩,
    by decide +kernel, fun d bs t ht hpath => ?_⟩
  have hcharacters := (Target.of_ofBytes? ht).1
  rw [hpath] at hcharacters
  obtain ⟨-, -, hmark⟩ := hcharacters '?' (by decide)
  exact hmark (by decide)

end ServerSettings

end Gateway
