import Gateway.Config.Fields
import Gateway.Json.Skip

/-!
# Configurations in JSON

A configuration document is an object whose members are named by the keys of the settings, or an
array of their contents in file order. Members with other names are skipped. The document is read
from left to right, and the first fault met is the one that is reported.

`Config.toJson` writes a configuration as an object with every setting, one on a line.
-/

namespace Gateway

namespace Json

open Document (Found Mismatch Wanted)

/-! ### Contents -/

/-- The fault of a value that is not what is wanted. A value other than a list or an object is
read first, and may turn out to be no value at all. -/
def mismatch (wanted : Wanted) (cs : List Char) : Fault :=
  let found (f : Found) (rest : List Char) : Fault := .before (.mismatch (.kind f wanted)) rest
  let word (w : List Char) (f : Found) (rest : List Char) : Fault :=
    match readWord w rest with
    | .ok rest => found f rest
    | .error fault => fault
  let number (negative : Bool) (rest : List Char) : Fault :=
    match readNumber negative rest with
    | .ok (n, rest) => found n.found rest
    | .error fault => fault
  match cs with
  | [] => .at .missingValue []
  | c :: rest =>
    match c with
    | 'n' => word ['u', 'l', 'l'] .nothing rest
    | 't' => word ['r', 'u', 'e'] (.switch true) rest
    | 'f' => word ['a', 'l', 's', 'e'] (.switch false) rest
    | '-' => number true rest
    | '"' =>
      match readString rest with
      | .ok (s, rest) => found (.text (String.ofList s)) rest
      | .error fault => fault
    | '[' => found .sequence cs
    | '{' => found .map cs
    | _ => if Decimal.isDigit c then number false cs else .at .missingValue cs

/-- Reads a whole number of at most `bound`. -/
def readNatural (shape : Setting.Shape) (bound : Nat) (cs : List Char) : Read Nat :=
  let wanted := Wanted.content shape
  let check (negative : Bool) (digits : List Char) : Read Nat :=
    match readNumber negative digits with
    | .error fault => .error fault
    | .ok (.natural n, rest) =>
      if n ≤ bound then .ok (n, rest)
      else .error (.before (.mismatch (.range n wanted)) rest)
    | .ok (.negative n, rest) => .error (.before (.mismatch (.range (-n) wanted)) rest)
    | .ok (.real sign x, rest) =>
      .error (.before (.mismatch (.kind (.real (.finite sign x)) wanted)) rest)
  match cs with
  | [] => .error (.at .endInValue [])
  | c :: rest =>
    if c = '-' then check true rest
    else if Decimal.isDigit c then check false cs
    else .error (mismatch wanted cs)

/-- Reads a string, with no blanks in front. -/
def readText (cs : List Char) : Read String :=
  match cs with
  | [] => .error (.at .endInValue [])
  | '"' :: rest =>
    match readString rest with
    | .ok (s, rest) => .ok (String.ofList s, rest)
    | .error fault => .error fault
  | _ => .error (mismatch (.content .text) cs)

/-- Reads one of the words for on and off, with no blanks in front. -/
def readSwitch (cs : List Char) : Read Bool :=
  match cs with
  | [] => .error (.at .endInValue [])
  | 't' :: rest =>
    match readWord ['r', 'u', 'e'] rest with
    | .ok rest => .ok (true, rest)
    | .error fault => .error fault
  | 'f' :: rest =>
    match readWord ['a', 'l', 's', 'e'] rest with
    | .ok rest => .ok (false, rest)
    | .error fault => .error fault
  | _ => .error (mismatch (.content .switch) cs)

/-- A reader with a function applied to what it reads. -/
def Read.map {α β : Type} (f : α → β) : Read α → Read β
  | .ok (a, rest) => .ok (f a, rest)
  | .error fault => .error fault

/-- Reads contents of some shape, with no blanks in front. -/
def readContent (shape : Setting.Shape) (cs : List Char) : Read shape.Content :=
  match shape with
  | .text => readText cs
  | .switch => readSwitch cs
  | .port => (readNatural .port (UInt16.size - 1) cs).map UInt16.ofNat
  | .duration => (readNatural .duration (UInt64.size - 1) cs).map UInt64.ofNat

/-- Reads what a document gives for a setting, which may be a null if `nullable` allows it. -/
def readField (nullable : Setting → Bool) (s : Setting) (cs : List Char) :
    Read (Option s.Content) :=
  let here := skipBlanks cs
  if nullable s ∧ here.head? = some 'n' then
    match readWord ['u', 'l', 'l'] here.tail with
    | .ok rest => .ok (none, rest)
    | .error fault => .error fault
  else (readContent s.shape here).map some

/-! ### Objects -/

/-- Reads the colon behind a key. -/
def readColon (cs : List Char) : Except Fault (List Char) :=
  match skipBlanks cs with
  | [] => .error (.at .endInObject [])
  | ':' :: rest => .ok rest
  | rest => .error (.at .missingColon rest)

/-- Finds the key of the next member, past its opening quote, or the end of the object. -/
def readKeyStart (first : Bool) (cs : List Char) : Except Fault (Bool × List Char) :=
  match skipBlanks cs with
  | [] => .error (.at .endInObject [])
  | '}' :: rest => .ok (false, rest)
  | c :: rest =>
    if first then key (c :: rest)
    else if c = ',' then key (skipBlanks rest)
    else .error (.at .missingObjectComma (c :: rest))
where
  /-- The opening quote of a key. -/
  key (cs : List Char) : Except Fault (Bool × List Char) :=
    match cs with
    | [] => .error (.at .endInValue [])
    | '"' :: rest => .ok (true, rest)
    | '}' :: _ => .error (.at .trailingComma cs)
    | _ => .error (.at .keyIsNoString cs)

/-- The fault of a key that was there before. It is placed behind the end of the object if that
follows. -/
def duplicate (key : String) (cs : List Char) : Fault :=
  let place := match skipBlanks cs with
    | '}' :: rest => rest
    | rest => rest
  .before (.mismatch (.duplicate key)) place

/-- Reads a member whose key begins: the fields with what it gives, and the rest. -/
def readMember (nullable : Setting → Bool) (fields : Fields) (cs : List Char) : Read Fields :=
  match readString cs with
  | .error fault => .error fault
  | .ok (key, rest) =>
    match Setting.ofKey? (String.ofList key) with
    | some s =>
      if (fields s).isSome then .error (duplicate s.key rest)
      else
        match readColon rest with
        | .error fault => .error fault
        | .ok rest =>
          match readField nullable s rest with
          | .error fault => .error fault
          | .ok (field, rest) => .ok (fields.set s field, rest)
    | none =>
      match readColon rest with
      | .error fault => .error fault
      | .ok rest =>
        match skipValue rest with
        | .error fault => .error fault
        | .ok rest => .ok (fields, rest)

/-! ### Members consume what they read -/

private theorem length_readNatural {shape : Setting.Shape} {bound n : Nat} {cs rest : List Char}
    (h : readNatural shape bound cs = .ok (n, rest)) : rest.length < cs.length := by
  have key : ∀ (sign : Bool) (ds : List Char),
      (match readNumber sign ds with
        | .error fault => .error fault
        | .ok (.natural n, rest) =>
          if n ≤ bound then .ok (n, rest)
          else .error (.before (.mismatch (.range n (.content shape))) rest)
        | .ok (.negative n, rest) =>
          .error (.before (.mismatch (.range (-n) (.content shape))) rest)
        | .ok (.real sign x, rest) =>
          .error (.before (.mismatch (.kind (.real (.finite sign x)) (.content shape))) rest) :
        Read Nat) = .ok (n, rest) → rest.length < ds.length := by
    intro sign ds h
    split at h
    · cases h
    · next hn =>
      split at h
      · cases h
        exact length_readNumber hn
      · cases h
    · cases h
    · cases h
  unfold readNatural at h
  dsimp only at h
  split at h
  · cases h
  · split at h
    · have hlength := key _ _ h
      simp only [List.length_cons]
      omega
    · split at h
      · exact key _ _ h
      · cases h

private theorem length_readText {s : String} {cs rest : List Char}
    (h : readText cs = .ok (s, rest)) : rest.length < cs.length := by
  unfold readText at h
  split at h
  · cases h
  · split at h
    · next hs =>
      have hstring := length_readString hs
      cases h
      simp only [List.length_cons]
      omega
    · cases h
  · cases h

private theorem length_readSwitch {b : Bool} {cs rest : List Char}
    (h : readSwitch cs = .ok (b, rest)) : rest.length < cs.length := by
  unfold readSwitch at h
  split at h
  · cases h
  · split at h
    · next hw =>
      have hword := length_readWord_le hw
      cases h
      simp only [List.length_cons]
      omega
    · cases h
  · split at h
    · next hw =>
      have hword := length_readWord_le hw
      cases h
      simp only [List.length_cons]
      omega
    · cases h
  · cases h

/-- What is mapped while it is read was read first, with the same rest. -/
theorem Read.map_eq_ok {α β : Type} {f : α → β} {r : Read α} {b : β} {rest : List Char}
    (h : r.map f = .ok (b, rest)) : ∃ a, r = .ok (a, rest) ∧ f a = b := by
  unfold Read.map at h
  split at h
  · next a _ =>
    cases h
    exact ⟨a, rfl, rfl⟩
  · cases h

/-- Contents are not empty. -/
theorem length_readContent {shape : Setting.Shape} {content : shape.Content}
    {cs rest : List Char} (h : readContent shape cs = .ok (content, rest)) :
    rest.length < cs.length := by
  cases shape with
  | text => exact length_readText h
  | switch => exact length_readSwitch h
  | port =>
    obtain ⟨_, h, -⟩ := Read.map_eq_ok h
    exact length_readNatural h
  | duration =>
    obtain ⟨_, h, -⟩ := Read.map_eq_ok h
    exact length_readNatural h

theorem length_readField_le {nullable : Setting → Bool} {s : Setting}
    {field : Option s.Content} {cs rest : List Char}
    (h : readField nullable s cs = .ok (field, rest)) : rest.length ≤ cs.length := by
  have hb := length_skipBlanks_le cs
  unfold readField at h
  dsimp only at h
  split at h
  · split at h
    · next hw =>
      have hword := length_readWord_le hw
      cases h
      simp only [List.length_tail] at hword
      omega
    · cases h
  · obtain ⟨_, h, -⟩ := Read.map_eq_ok h
    have hcontent := length_readContent h
    omega

theorem length_readColon {cs rest : List Char} (h : readColon cs = .ok rest) :
    rest.length < cs.length := by
  have hb := length_skipBlanks_le cs
  unfold readColon at h
  split at h
  · cases h
  · next heq =>
    rw [heq, List.length_cons] at hb
    cases h
    omega
  · cases h

/-- A member takes some of the text, so there is an end to reading members. -/
theorem length_readMember {nullable : Setting → Bool} {fields fields' : Fields}
    {cs rest : List Char} (h : readMember nullable fields cs = .ok (fields', rest)) :
    rest.length < cs.length := by
  unfold readMember at h
  split at h
  · cases h
  · next hs =>
    have h1 := length_readString hs
    split at h
    · split at h
      · cases h
      · split at h
        · cases h
        · next hc =>
          have h2 := length_readColon hc
          split at h
          · cases h
          · next hf =>
            have h3 := length_readField_le hf
            cases h
            omega
    · split at h
      · cases h
      · next hc =>
        have h2 := length_readColon hc
        split at h
        · cases h
        · next hv =>
          have h3 := length_skipValue hv
          cases h
          omega

theorem length_readKeyStart {first found : Bool} {cs rest : List Char}
    (h : readKeyStart first cs = .ok (found, rest)) : rest.length < cs.length := by
  have key : ∀ ds : List Char, readKeyStart.key ds = .ok (found, rest) →
      rest.length < ds.length := by
    intro ds h
    unfold readKeyStart.key at h
    split at h <;> cases h
    simp
  have hb := length_skipBlanks_le cs
  unfold readKeyStart at h
  split at h
  · cases h
  · next heq =>
    rw [heq, List.length_cons] at hb
    cases h
    omega
  · next heq =>
    rw [heq, List.length_cons] at hb
    split at h
    · have hlength := key _ h
      simp only [List.length_cons] at hlength
      omega
    · split at h
      · next tail _ _ _ =>
        have hlength := key _ h
        have hblanks := length_skipBlanks_le tail
        omega
      · cases h

/-! ### Documents -/

/-- Reads the members of an object, and its end. -/
def readMembers (nullable : Setting → Bool) (first : Bool) (fields : Fields) (cs : List Char) :
    Read Fields :=
  match hk : readKeyStart first cs with
  | .error fault => .error fault
  | .ok (false, rest) => .ok (fields, rest)
  | .ok (true, rest) =>
    match hm : readMember nullable fields rest with
    | .error fault => .error fault
    | .ok (fields, after) =>
      have _hkeyStart := length_readKeyStart hk
      have _hmember := length_readMember hm
      readMembers nullable false fields after
termination_by cs.length

/-- Finds the next element of an array, or the end of the array, which is not passed. -/
def readElementStart (first : Bool) (cs : List Char) : Except Fault (Bool × List Char) :=
  match skipBlanks cs with
  | [] => .error (.at .endInList [])
  | ']' :: rest => .ok (false, ']' :: rest)
  | c :: rest =>
    if first then .ok (true, c :: rest)
    else if c = ',' then
      match skipBlanks rest with
      | [] => .error (.at .endInValue [])
      | ']' :: rest => .error (.at .trailingComma (']' :: rest))
      | rest => .ok (true, rest)
    else .error (.at .missingListComma (c :: rest))

/-- Reads the end of an array. -/
def readListEnd (cs : List Char) : Except Fault (List Char) :=
  match skipBlanks cs with
  | [] => .error (.at .endInList [])
  | ']' :: rest => .ok rest
  | ',' :: rest =>
    match skipBlanks rest with
    | ']' :: rest => .error (.at .trailingComma (']' :: rest))
    | rest => .error (.at .trailingCharacters rest)
  | rest => .error (.at .trailingCharacters rest)

/-- Reads the elements of an array as contents of some settings, one after the other. -/
def readElements (nullable : Setting → Bool) (first : Bool) (fields : Fields) :
    List Setting → List Char → Read Fields
  | [], cs =>
    match readListEnd cs with
    | .ok rest => .ok (fields, rest)
    | .error fault => .error fault
  | s :: ss, cs =>
    match readElementStart first cs with
    | .error fault => .error fault
    | .ok (false, rest) =>
      match readListEnd rest with
      | .ok rest => .ok (fields, rest)
      | .error fault => .error fault
    | .ok (true, rest) =>
      match readField nullable s rest with
      | .error fault => .error fault
      | .ok (field, rest) => readElements nullable false (fields.set s field) ss rest

/-- Reads the fields of a document. -/
def readFields (nullable : Setting → Bool) (wanted : Wanted) (text : List Char) :
    Except Fault Fields :=
  let read : Read Fields :=
    match skipBlanks text with
    | [] => .error (.at .endInValue [])
    | '{' :: rest => readMembers nullable true .empty rest
    | '[' :: rest => readElements nullable true .empty Setting.inFile rest
    | rest => .error (mismatch wanted rest)
  match read with
  | .error fault => .error fault
  | .ok (fields, rest) =>
    match skipBlanks rest with
    | [] => .ok fields
    | rest => .error (.at .trailingCharacters rest)

end Json

/-! ### Reading and writing configurations -/

/-- Reads a layer; every setting may be null. -/
def Layer.ofJson (text : String) : Except Json.Fault Layer :=
  match Json.readFields (fun _ => true) .layer text.toList with
  | .ok fields => .ok fields.toLayer
  | .error fault => .error fault

/-- Reads a configuration; only optional settings may be null. -/
def Config.ofJson (text : String) : Except Json.Fault Config :=
  match Json.readFields Setting.isOptional .config text.toList with
  | .ok fields => .ok fields.toConfig
  | .error fault => .error fault

/-- Contents as they stand in a document. -/
def Setting.Shape.toJson : (shape : Setting.Shape) → shape.Content → List Char
  | .text, s => Json.writeString s.toList
  | .switch, b => if b then ['t', 'r', 'u', 'e'] else ['f', 'a', 'l', 's', 'e']
  | .port, n => Decimal.digits n.toNat
  | .duration, n => Decimal.digits n.toNat

/-- The member that gives a setting of a configuration; an absent one is null. -/
def Config.jsonMember (c : Config) (s : Setting) : List Char :=
  '\t' :: Json.writeString s.key.toList ++ ':' :: ' ' ::
    match c.toLayer s with
    | some content => s.shape.toJson content
    | none => ['n', 'u', 'l', 'l']

/-- The members of a configuration, with a comma at the end of each line but the last. -/
def Config.jsonMembers (c : Config) : List Setting → List Char
  | [] => []
  | [s] => c.jsonMember s
  | s :: ss => c.jsonMember s ++ ',' :: '\n' :: c.jsonMembers ss

/-- A configuration as an object with every setting. -/
def Config.toJson (c : Config) : String :=
  String.ofList ('{' :: '\n' :: c.jsonMembers Setting.inFile ++ ['\n', '}'])

end Gateway
