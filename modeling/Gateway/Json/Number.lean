import Gateway.Json.Fault

/-!
# Numbers of JSON texts

A number without point and exponent is a whole number as long as it fits in 64 bits; every other
one is a floating-point number. Digits are collected in a 64-bit significand; those that no
longer fit are dropped, and only their count matters. The significand is then scaled by powers of
ten, rounding at each step.

`skipNumber` steps over a number whose value is of no interest.
-/

namespace Gateway.Json

/-- What a numeral denotes. -/
inductive Number where
  | natural (n : Nat)
  | negative (n : Nat)
  | real (negative : Bool) (x : Binary64)
  deriving DecidableEq, Repr

/-- A number as something found in a document. -/
def Number.found : Number → Document.Found
  | natural n => .integer n
  | negative n => .integer (-n)
  | real sign x => .real (.finite sign x)

/-- The digits at the beginning of a text. -/
def leadingDigits (cs : List Char) : List Char := cs.takeWhile Decimal.isDigit

/-- What follows the digits at the beginning of a text. -/
def afterDigits (cs : List Char) : List Char := cs.dropWhile Decimal.isDigit

theorem length_afterDigits_le (cs : List Char) : (afterDigits cs).length ≤ cs.length :=
  (List.dropWhile_sublist _).length_le

/-- The bound of significands. -/
def significandLimit : Nat := UInt64.size

/-- Appends digits to a significand as long as it stays below the limit. Gives the significand
and the digits that are left over. -/
def collect (n : Nat) : List Char → Nat × List Char
  | [] => (n, [])
  | d :: ds =>
    if significandLimit ≤ n * 10 + Decimal.digitValue d then (n, d :: ds)
    else collect (n * 10 + Decimal.digitValue d) ds

/-- Divides a number by `10 ^ 308` and moves its exponent up until the exponent is above
`-309`. -/
def divideDown (fuel : Nat) (x : Binary64) (e : Int) : Binary64 × Int :=
  match fuel with
  | 0 => (x, e)
  | fuel + 1 =>
    if e < -308 ∧ ¬ x.isZero then
      divideDown fuel (((Binary64.ofNat (Nat.pow 10 308)).bind x.div).getD .zero) (e + 308)
    else (x, e)

/-- The number `n * 10 ^ e`, computed by rounding the significand, the power of ten and their
product or quotient; nothing if it is too large. -/
def scaled (n : Nat) (e : Int) : Option Binary64 :=
  match Binary64.ofNat n with
  | none => none
  | some x =>
    if x.isZero then some x
    else
      let (x, e) := divideDown 4 x e
      if x.isZero ∨ e < -308 then some .zero
      else if 308 < e then none
      else
        match Binary64.ofNat (Nat.pow 10 e.natAbs) with
        | none => none
        | some p => if 0 ≤ e then x.mul p else x.div p

/-- Ends a floating-point number. -/
def finishReal (negative : Bool) (n : Nat) (e : Int) (rest : List Char) : Read Number :=
  match scaled n e with
  | some x => .ok (.real negative x, rest)
  | none => .error (.before .numberOutOfRange rest)

/-- The largest exponent that is read. -/
def exponentLimit : Nat := UInt32.size / 2

/-- Reads an exponent, whose sign and digits follow the letter. -/
def readExponent (negative : Bool) (n : Nat) (start : Int) (cs : List Char) : Read Number :=
  let down := cs.head? == some '-'
  let cs := match cs with
    | '+' :: rest => rest
    | '-' :: rest => rest
    | _ => cs
  match cs with
  | [] => .error (.before .endInValue [])
  | _ =>
    let ds := leadingDigits cs
    let rest := afterDigits cs
    if ds = [] then .error (.at .badNumber cs)
    else if Decimal.value ds < exponentLimit then
      let e : Int := Decimal.value ds
      finishReal negative n (if down then start - e else start + e) rest
    else if n ≠ 0 ∧ !down then
      .error (.before .numberOutOfRange (cs.drop (readable 0 ds)))
    else .ok (.real negative .zero, rest)
where
  /-- How many digits are read up to the one that makes the exponent too large. -/
  readable (e : Nat) : List Char → Nat
    | [] => 0
    | d :: ds =>
      if exponentLimit ≤ e * 10 + Decimal.digitValue d then 1
      else readable (e * 10 + Decimal.digitValue d) ds + 1

/-- Reads what may follow the digits of a floating-point number. -/
def readMaybeExponent (negative : Bool) (n : Nat) (e : Int) (cs : List Char) : Read Number :=
  match cs with
  | c :: rest =>
    if c = 'e' ∨ c = 'E' then readExponent negative n e rest else finishReal negative n e cs
  | [] => finishReal negative n e cs

/-- Reads the decimal places, which follow the point. -/
def readPlaces (negative : Bool) (n : Nat) (e : Int) (cs : List Char) : Read Number :=
  let ds := leadingDigits cs
  let rest := afterDigits cs
  match ds, rest with
  | [], [] => .error (.before .endInValue [])
  | [], _ => .error (.at .badNumber rest)
  | _, _ =>
    let (m, extra) := collect n ds
    readMaybeExponent negative m (e - (ds.length - extra.length : Nat)) rest

/-- Reads what follows the digits in front of the point. -/
def readFraction (negative : Bool) (n : Nat) (extra : List Char) (cs : List Char) :
    Read Number :=
  match cs with
  | '.' :: rest => readPlaces negative n extra.length rest
  | c :: rest =>
    if c = 'e' ∨ c = 'E' then readExponent negative n extra.length rest else whole
  | [] => whole
where
  /-- A number that is nothing but digits. -/
  whole : Read Number :=
    if extra ≠ [] then finishReal negative n extra.length cs
    else if !negative then .ok (.natural n, cs)
    else if n = 0 ∨ UInt64.size / 2 < n then
      .ok (.real true ((Binary64.ofNat n).getD .zero), cs)
    else .ok (.negative n, cs)

/-- Reads a number after its sign. -/
def readNumber (negative : Bool) (cs : List Char) : Read Number :=
  match cs with
  | [] => .error (.before .endInValue [])
  | c :: rest =>
    if c = '0' then
      if leadingDigits rest = [] then readFraction negative 0 [] rest
      else .error (.at .badNumber rest)
    else if Decimal.isDigit c then
      let (n, extra) := collect 0 (leadingDigits cs)
      readFraction negative n extra (afterDigits cs)
    else .error (.at .badNumber cs)

/-! ### Numbers consume what they read -/

private theorem rest_finishReal {sign : Bool} {n : Nat} {e : Int} {cs rest : List Char}
    {x : Number} (h : finishReal sign n e cs = .ok (x, rest)) : rest = cs := by
  unfold finishReal at h
  split at h <;> cases h
  rfl

private theorem length_unsigned_le (cs : List Char) :
    (match cs with
      | '+' :: rest => rest
      | '-' :: rest => rest
      | _ => cs).length ≤ cs.length := by
  split <;> simp

private theorem length_readExponent_le {sign : Bool} {n : Nat} {e : Int} {cs rest : List Char}
    {x : Number} (h : readExponent sign n e cs = .ok (x, rest)) : rest.length ≤ cs.length := by
  have hu := length_unsigned_le cs
  unfold readExponent at h
  dsimp only at h
  generalize (match cs with
    | '+' :: rest => rest
    | '-' :: rest => rest
    | _ => cs) = ds at h hu
  have hd := length_afterDigits_le ds
  split at h
  · cases h
  · split at h
    · cases h
    · split at h
      · rw [rest_finishReal h]
        omega
      · split at h
        · cases h
        · cases h
          omega

private theorem length_readMaybeExponent_le {sign : Bool} {n : Nat} {e : Int}
    {cs rest : List Char} {x : Number} (h : readMaybeExponent sign n e cs = .ok (x, rest)) :
    rest.length ≤ cs.length := by
  unfold readMaybeExponent at h
  split at h
  · split at h
    · have hexponent := length_readExponent_le h
      simp only [List.length_cons]
      omega
    · exact Nat.le_of_eq (congrArg List.length (rest_finishReal h))
  · exact Nat.le_of_eq (congrArg List.length (rest_finishReal h))

private theorem length_readPlaces_le {sign : Bool} {n : Nat} {e : Int} {cs rest : List Char}
    {x : Number} (h : readPlaces sign n e cs = .ok (x, rest)) : rest.length ≤ cs.length := by
  have hd := length_afterDigits_le cs
  unfold readPlaces at h
  dsimp only at h
  split at h
  · cases h
  · cases h
  · have hexponent := length_readMaybeExponent_le h
    omega

private theorem rest_whole {sign : Bool} {n : Nat} {extra cs rest : List Char} {x : Number}
    (h : readFraction.whole sign n extra cs = .ok (x, rest)) : rest = cs := by
  unfold readFraction.whole at h
  split at h
  · exact rest_finishReal h
  · split at h
    · cases h
      rfl
    · split at h <;> cases h <;> rfl

private theorem length_readFraction_le {sign : Bool} {n : Nat} {extra cs rest : List Char}
    {x : Number} (h : readFraction sign n extra cs = .ok (x, rest)) :
    rest.length ≤ cs.length := by
  unfold readFraction at h
  split at h
  · have hplaces := length_readPlaces_le h
    simp only [List.length_cons]
    omega
  · split at h
    · have hexponent := length_readExponent_le h
      simp only [List.length_cons]
      omega
    · exact Nat.le_of_eq (congrArg List.length (rest_whole h))
  · exact Nat.le_of_eq (congrArg List.length (rest_whole h))

/-- A number is not empty. -/
theorem length_readNumber {sign : Bool} {cs rest : List Char} {x : Number}
    (h : readNumber sign cs = .ok (x, rest)) : rest.length < cs.length := by
  unfold readNumber at h
  split at h
  · cases h
  · next c tail =>
    split at h
    · split at h
      · have hfraction := length_readFraction_le h
        simp only [List.length_cons]
        omega
      · cases h
    · split at h
      · next hc =>
        have hfraction := length_readFraction_le h
        have hdigits := length_afterDigits_le tail
        rw [show afterDigits (c :: tail) = afterDigits tail by simp [afterDigits, hc]] at *
        simp only [List.length_cons]
        omega
      · cases h

/-! ### Skipping -/

/-- Steps over the exponent of a number. -/
def skipExponent (cs : List Char) : Except Fault (List Char) :=
  let cs := match cs with
    | '+' :: rest => rest
    | '-' :: rest => rest
    | _ => cs
  if leadingDigits cs = [] then .error (.at .badNumber cs) else .ok (afterDigits cs)

/-- Steps over what may follow the digits in front of the exponent. -/
def skipMaybeExponent (cs : List Char) : Except Fault (List Char) :=
  match cs with
  | c :: rest => if c = 'e' ∨ c = 'E' then skipExponent rest else .ok cs
  | [] => .ok []

/-- Steps over what follows the digits in front of the point. -/
def skipFraction (cs : List Char) : Except Fault (List Char) :=
  match cs with
  | '.' :: rest =>
    if leadingDigits rest = [] then .error (.at .badNumber rest)
    else skipMaybeExponent (afterDigits rest)
  | _ => skipMaybeExponent cs

/-- Steps over a number after its sign. -/
def skipNumber (cs : List Char) : Except Fault (List Char) :=
  match cs with
  | [] => .error (.before .badNumber [])
  | c :: rest =>
    if c = '0' then
      if leadingDigits rest = [] then skipFraction rest else .error (.at .badNumber rest)
    else if Decimal.isDigit c then skipFraction (afterDigits rest)
    else .error (.at .badNumber cs)

private theorem length_skipExponent_le {cs rest : List Char} (h : skipExponent cs = .ok rest) :
    rest.length ≤ cs.length := by
  have key : ∀ ds : List Char,
      (if leadingDigits ds = [] then .error (.at .badNumber ds) else .ok (afterDigits ds) :
        Except Fault (List Char)) = .ok rest → rest.length ≤ ds.length := by
    intro ds h
    split at h
    · cases h
    · cases h
      exact length_afterDigits_le ds
  unfold skipExponent at h
  have hlength := key _ h
  revert hlength
  split <;> simp <;> omega

private theorem length_skipMaybeExponent_le {cs rest : List Char}
    (h : skipMaybeExponent cs = .ok rest) : rest.length ≤ cs.length := by
  unfold skipMaybeExponent at h
  split at h
  · split at h
    · have hexponent := length_skipExponent_le h
      simp only [List.length_cons]
      omega
    · cases h
      simp
  · cases h
    simp

private theorem length_skipFraction_le {cs rest : List Char} (h : skipFraction cs = .ok rest) :
    rest.length ≤ cs.length := by
  unfold skipFraction at h
  split at h
  · next tail =>
    split at h
    · cases h
    · have hexponent := length_skipMaybeExponent_le h
      have hdigits := length_afterDigits_le tail
      simp only [List.length_cons]
      omega
  · exact length_skipMaybeExponent_le h

/-- A number is not empty. -/
theorem length_skipNumber {cs rest : List Char} (h : skipNumber cs = .ok rest) :
    rest.length < cs.length := by
  unfold skipNumber at h
  split at h
  · cases h
  · next c tail =>
    split at h
    · split at h
      · have hfraction := length_skipFraction_le h
        simp only [List.length_cons]
        omega
      · cases h
    · split at h
      · have hfraction := length_skipFraction_le h
        have hdigits := length_afterDigits_le tail
        simp only [List.length_cons]
        omega
      · cases h

end Gateway.Json
