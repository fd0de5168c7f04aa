import Gateway.Config.Json
import Gateway.Http.Message
import Gateway.Proofs.Json.Written

/-!
# JSON objects of strings

`textsOf?` decodes an object whose values are strings, by the readers that configurations are read
with. What is written as such an object, with any characters in its keys and values, is decoded as
its members in their order (`textsOf?_writeTexts`). So the body of a response that reports an error
gives back the code and the message (`Http.Response.textsOf?_error`).
-/

namespace Gateway

namespace Json

/-! ### Reading -/

/-- Reads a key from behind its opening quote, and a string that belongs to it. -/
def readTextMember (cs : List Char) : Read (String × String) :=
  match readString cs with
  | .error fault => .error fault
  | .ok (key, afterKey) =>
    match readColon afterKey with
    | .error fault => .error fault
    | .ok afterColon => (readContent .text (skipBlanks afterColon)).map (String.ofList key, ·)

theorem length_readTextMember {m : String × String} {cs rest : List Char}
    (h : readTextMember cs = .ok (m, rest)) : rest.length < cs.length := by
  unfold readTextMember at h
  split at h
  · cases h
  · next key afterKey hkey =>
    split at h
    · cases h
    · next afterColon hcolon =>
      obtain ⟨text, htext, -⟩ := Read.map_eq_ok h
      have hkey := length_readString hkey
      have hcolon := length_readColon hcolon
      have hblanks := length_skipBlanks_le afterColon
      have htext := length_readContent htext
      omega

/-- Reads the members of an object whose values are strings, and its end. -/
def readTexts (first : Bool) (cs : List Char) : Read (List (String × String)) :=
  match hkey : readKeyStart first cs with
  | .error fault => .error fault
  | .ok (false, rest) => .ok ([], rest)
  | .ok (true, rest) =>
    match hmember : readTextMember rest with
    | .error fault => .error fault
    | .ok (m, after) =>
      have _hkeyStart := length_readKeyStart hkey
      have _hmember := length_readTextMember hmember
      (readTexts false after).map (m :: ·)
termination_by cs.length

/-- The members of a JSON text that is an object whose values are strings. -/
def textsOf? (text : String) : Option (List (String × String)) :=
  match skipBlanks text.toList with
  | '{' :: rest =>
    match readTexts true rest with
    | .ok (members, rest) => if skipBlanks rest = [] then some members else none
    | .error _ => none
  | _ => none

/-! ### Writing -/

/-- A member. -/
def writeTextMember (m : String × String) : List Char :=
  writeString m.1.toList ++ ':' :: writeString m.2.toList

/-- Members that follow another one, and the end of the object. -/
def writeFollowing : List (String × String) → List Char
  | [] => ['}']
  | m :: ms => ',' :: writeTextMember m ++ writeFollowing ms

/-- An object with at least one member. -/
def writeTexts (m : String × String) (ms : List (String × String)) : List Char :=
  '{' :: writeTextMember m ++ writeFollowing ms

/-! ### Objects are read back -/

theorem writeTextMember_eq_cons (m : String × String) :
    writeTextMember m = '"' :: (writeTextMember m).tail := rfl

theorem readTextMember_write (m : String × String) (rest : List Char) :
    readTextMember ((writeTextMember m).tail ++ rest) = .ok (m, rest) := by
  have hkey : readString ((writeTextMember m).tail ++ rest) =
      .ok (m.1.toList, ':' :: writeString m.2.toList ++ rest) := by
    have h := readString_write m.1.toList (':' :: writeString m.2.toList ++ rest)
    rwa [← List.append_assoc] at h
  have hvalue : readText (writeString m.2.toList ++ rest) = .ok (m.2, rest) := by
    rw [writeString_eq_cons, List.cons_append]
    simp only [readText, readString_write, String.ofList_toList]
  have hblanks : skipBlanks (writeString m.2.toList ++ rest) = writeString m.2.toList ++ rest := rfl
  have hcolon : readColon (':' :: writeString m.2.toList ++ rest) =
      .ok (writeString m.2.toList ++ rest) := rfl
  have hcontent : readContent .text (writeString m.2.toList ++ rest) = .ok (m.2, rest) := hvalue
  unfold readTextMember
  simp only [hkey, hcolon, hblanks, hcontent, String.ofList_toList]
  rfl

/-- One round of `readTexts`. -/
theorem readTexts_of_member {first : Bool} {cs rest after : List Char} {m : String × String}
    (hkey : readKeyStart first cs = .ok (true, rest))
    (hmember : readTextMember rest = .ok (m, after)) :
    readTexts first cs = (readTexts false after).map (m :: ·) := by
  rw [readTexts]
  split
  · next h => cases hkey.symm.trans h
  · next h => cases hkey.symm.trans h
  · next h =>
    cases hkey.symm.trans h
    split
    · next h => cases hmember.symm.trans h
    · next h =>
      cases hmember.symm.trans h
      rfl

theorem readTexts_end (rest : List Char) : readTexts false ('}' :: rest) = .ok ([], rest) := by
  rw [readTexts]
  rfl

/-- Members of texts are read back one after the other. -/
theorem readTexts_writeFollowing (ms : List (String × String)) (rest : List Char) :
    readTexts false (writeFollowing ms ++ rest) = .ok (ms, rest) := by
  induction ms with
  | nil => exact readTexts_end rest
  | cons m ms ih =>
    have hkey : readKeyStart false (writeFollowing (m :: ms) ++ rest) =
        .ok (true, (writeTextMember m).tail ++ (writeFollowing ms ++ rest)) := by
      rw [writeFollowing, writeTextMember_eq_cons, List.append_assoc]
      rfl
    rw [readTexts_of_member hkey (readTextMember_write m _), ih]
    rfl

/-- **Objects of strings are read back.** -/
theorem textsOf?_writeTexts (m : String × String) (ms : List (String × String)) :
    textsOf? (String.ofList (writeTexts m ms)) = some (m :: ms) := by
  have hkey : readKeyStart true (writeTextMember m ++ writeFollowing ms) =
      .ok (true, (writeTextMember m).tail ++ writeFollowing ms) := by
    rw [writeTextMember_eq_cons]
    rfl
  have hread : readTexts true (writeTextMember m ++ writeFollowing ms) = .ok (m :: ms, []) := by
    have hfollowing := readTexts_writeFollowing ms []
    rw [List.append_nil] at hfollowing
    rw [readTexts_of_member hkey (readTextMember_write m _), hfollowing]
    rfl
  have hopen : skipBlanks (writeTexts m ms) = '{' :: (writeTextMember m ++ writeFollowing ms) := rfl
  unfold textsOf?
  rw [String.toList_ofList, hopen]
  simp only [hread]
  rfl

end Json

/-- **The body of an error** is an object with its code and its message. -/
theorem Http.Response.textsOf?_error (status : Nat) (code message : String) :
    Json.textsOf? (Http.Response.error status code message).body =
      some [("code", code), ("message", message)] := by
  have hbody : (Http.Response.error status code message).body =
      String.ofList (Json.writeTexts ("code", code) [("message", message)]) := by
    apply String.toList_injective
    simp [Http.Response.error, Http.Response.make, Json.writeTexts, Json.writeTextMember,
      Json.writeFollowing]
  rw [hbody]
  exact Json.textsOf?_writeTexts _ _

end Gateway
