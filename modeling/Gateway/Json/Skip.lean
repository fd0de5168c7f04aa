import Gateway.Json.Number
import Gateway.Json.Text

/-!
# Skipping values

A value that is of no interest is stepped over without being kept. The lists and objects that are
open at some point of it form a stack, so that values may nest to any depth.
-/

namespace Gateway.Json

/-- A list or an object that is open. -/
inductive Frame where
  | list
  | object
  deriving DecidableEq, Repr

/-- The character that closes a frame. -/
def Frame.close : Frame → Char
  | list => ']'
  | object => '}'

/-- The problem of a text that ends in a frame. -/
def Frame.atEnd : Frame → Problem
  | list => .endInList
  | object => .endInObject

/-- The problem of a frame that neither goes on nor is closed. -/
def Frame.missingComma : Frame → Problem
  | list => .missingListComma
  | object => .missingObjectComma

/-- Steps over a value that is no list and no object, if there is one. -/
def skipScalar (cs : List Char) : Except Fault (List Char) :=
  match cs with
  | [] => .error (.at .endInValue [])
  | c :: rest =>
    match c with
    | 'n' => readWord ['u', 'l', 'l'] rest
    | 't' => readWord ['r', 'u', 'e'] rest
    | 'f' => readWord ['a', 'l', 's', 'e'] rest
    | '-' => skipNumber rest
    | '"' => skipString rest
    | _ => if Decimal.isDigit c then skipNumber cs else .error (.at .missingValue cs)

/-- Steps over a key and the colon behind it. -/
def skipKey (cs : List Char) : Except Fault (List Char) :=
  match skipBlanks cs with
  | [] => .error (.at .endInObject [])
  | '"' :: rest =>
    match skipString rest with
    | .error fault => .error fault
    | .ok rest =>
      match skipBlanks rest with
      | [] => .error (.at .endInObject [])
      | ':' :: rest => .ok rest
      | rest => .error (.at .missingColon rest)
  | rest => .error (.at .keyIsNoString rest)

theorem length_readWord_le {w cs rest : List Char} (h : readWord w cs = .ok rest) :
    rest.length ≤ cs.length := by
  rw [readWord_eq_ok_iff] at h
  simp [h]

theorem length_skipScalar {cs rest : List Char} (h : skipScalar cs = .ok rest) :
    rest.length < cs.length := by
  unfold skipScalar at h
  split at h
  · cases h
  · split at h
    case h_4 =>
      have hnumber := length_skipNumber h
      simp only [List.length_cons]
      omega
    case h_5 =>
      have hstring := length_skipString h
      simp only [List.length_cons]
      omega
    case h_6 =>
      split at h
      · exact length_skipNumber h
      · cases h
    all_goals
      have hword := length_readWord_le h
      simp only [List.length_cons]
      omega

theorem length_skipKey {cs rest : List Char} (h : skipKey cs = .ok rest) :
    rest.length < cs.length := by
  have hb := length_skipBlanks_le cs
  unfold skipKey at h
  split at h
  · cases h
  · next tail heq =>
    rw [heq, List.length_cons] at hb
    split at h
    · cases h
    · next after hs =>
      have h1 := length_skipString hs
      have h2 := length_skipBlanks_le after
      split at h
      · cases h
      · next heq' =>
        rw [heq', List.length_cons] at h2
        cases h
        omega
      · cases h
  · cases h

/-- What a skipped value waits for. -/
inductive Awaiting where
  /-- A value. -/
  | value
  /-- The first entry of the frame, or its end. -/
  | entry (frame : Frame)
  /-- A comma, or the end of the innermost frame. -/
  | next
  deriving DecidableEq, Repr

theorem length_lt_of_skipBlanks {cs rest : List Char} {c : Char}
    (h : skipBlanks cs = c :: rest) : rest.length < cs.length := by
  have hblanks := length_skipBlanks_le cs
  rw [h, List.length_cons] at hblanks
  omega

theorem length_lt_of_skipScalar {cs rest : List Char}
    (h : skipScalar (skipBlanks cs) = .ok rest) : rest.length < cs.length :=
  Nat.lt_of_lt_of_le (length_skipScalar h) (length_skipBlanks_le cs)

theorem length_lt_of_skipKey {cs here after : List Char} (h : here.length ≤ cs.length)
    (hk : skipKey here = .ok after) : after.length < cs.length :=
  Nat.lt_of_lt_of_le (length_skipKey hk) h

/-- Steps over the rest of a value whose open frames are given, innermost first. -/
def skipFrom (awaiting : Awaiting) (frames : List Frame) (cs : List Char) :
    Except Fault (List Char) :=
  match awaiting with
  | .value =>
    match h : skipBlanks cs with
    | '[' :: rest =>
      have _hblanks := length_lt_of_skipBlanks h
      skipFrom (.entry .list) frames rest
    | '{' :: rest =>
      have _hblanks := length_lt_of_skipBlanks h
      skipFrom (.entry .object) frames rest
    | here =>
      match hs : skipScalar here with
      | .error fault => .error fault
      | .ok rest =>
        have _hscalar := length_lt_of_skipScalar (h ▸ hs)
        skipFrom .next frames rest
  | .entry frame =>
    match h : skipBlanks cs with
    | [] => .error (.at frame.atEnd [])
    | c :: rest =>
      have hb := length_lt_of_skipBlanks h
      if c = frame.close then skipFrom .next frames rest
      else
        match frame with
        | .list => skipFrom .value (.list :: frames) cs
        | .object =>
          match hk : skipKey (c :: rest) with
          | .error fault => .error fault
          | .ok after =>
            have _hkeyed := length_lt_of_skipKey (show (c :: rest).length ≤ cs.length from hb) hk
            skipFrom .value (.object :: frames) after
  | .next =>
    match frames with
    | [] => .ok cs
    | frame :: outer =>
      match h : skipBlanks cs with
      | [] => .error (.at frame.atEnd [])
      | c :: rest =>
        have hb := length_lt_of_skipBlanks h
        if c = frame.close then skipFrom .next outer rest
        else if c = ',' then
          match frame with
          | .list => skipFrom .value frames rest
          | .object =>
            match hk : skipKey rest with
            | .error fault => .error fault
            | .ok after =>
              have _hkeyed := length_lt_of_skipKey (Nat.le_of_lt hb) hk
              skipFrom .value frames after
        else .error (.at frame.missingComma (c :: rest))
termination_by (cs.length, match awaiting with | .entry _ => 1 | _ => 0)

/-- Steps over a value, of which nothing but its form is looked at. -/
def skipValue (cs : List Char) : Except Fault (List Char) := skipFrom .value [] cs

/-- However deep values nest, stepping over them adds nothing to the text. -/
private theorem length_skipFrom_le {awaiting : Awaiting} {frames : List Frame}
    {cs rest : List Char} (h : skipFrom awaiting frames cs = .ok rest) :
    rest.length ≤ cs.length := by
  fun_induction skipFrom awaiting frames cs
  case case1 ih => exact Nat.le_trans (ih h) (by omega)
  case case2 ih => exact Nat.le_trans (ih h) (by omega)
  case case4 ih => exact Nat.le_trans (ih h) (by omega)
  case case6 ih => exact Nat.le_trans (ih h) (by omega)
  case case7 ih => exact ih h
  case case9 ih => exact Nat.le_trans (ih h) (by omega)
  case case10 =>
    cases h
    exact Nat.le_refl _
  case case12 ih => exact Nat.le_trans (ih h) (by omega)
  case case13 ih => exact Nat.le_trans (ih h) (by omega)
  case case15 ih => exact Nat.le_trans (ih h) (by omega)
  all_goals cases h

/-- What follows a value is not longer than the value and what follows it. -/
theorem length_skipValue {cs rest : List Char} (h : skipValue cs = .ok rest) :
    rest.length ≤ cs.length := length_skipFrom_le h

end Gateway.Json
