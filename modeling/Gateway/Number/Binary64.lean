import Gateway.Number.Decimal

/-!
# Binary floating point

The finite numbers of the binary64 format as exact values `significand * 2 ^ exponent`, with the
two roundings that writing and reading need:

* `Binary64.ofRatio` rounds a quotient to the nearest number, a tie to the even neighbour;
* `Binary64.shortest` finds the fewest digits that round back to a number, the nearest such
  digits if there are several.

Everything is computed in natural numbers.
-/

namespace Gateway

/-- A finite number of the binary64 format, not negative: `significand * 2 ^ (exponent - 1074)`. -/
structure Binary64 where
  significand : Nat
  exponent : Nat
  deriving DecidableEq, Repr

namespace Binary64

/-- How far the exponents are shifted to be natural numbers. -/
def bias : Nat := 1074

/-- The bound of significands. -/
def significandLimit : Nat := 0x20000000000000

/-- Zero. -/
def zero : Binary64 := ⟨0, 0⟩

/-- Whether the number is zero. -/
def isZero (x : Binary64) : Bool := x.significand == 0

/-- The number as a quotient. -/
def ratio (x : Binary64) : Nat × Nat :=
  if bias ≤ x.exponent then (x.significand * Nat.pow 2 (x.exponent - bias), 1)
  else (x.significand, Nat.pow 2 (bias - x.exponent))

/-- A quotient rounded to the nearest natural number, a tie to the even one. -/
def roundDiv (n d : Nat) : Nat :=
  let q := n / d
  let r := n % d
  if 2 * r < d then q else if d < 2 * r then q + 1 else if q % 2 = 0 then q else q + 1

/-- The quotient `n / d` in units of `2 ^ (e - 1074)`, rounded. -/
def inUnits (n d e : Nat) : Nat :=
  if bias ≤ e then roundDiv n (d * Nat.pow 2 (e - bias)) else roundDiv (n * Nat.pow 2 (bias - e)) d

/-- The number nearest to a quotient, or nothing if that is beyond the largest number. -/
def ofRatio (n d : Nat) : Option Binary64 :=
  if n = 0 then some zero
  else
    let low := n.log2 + bias - d.log2 - 53
    let e := if inUnits n d low < significandLimit then low else low + 1
    let m := inUnits n d e
    let x : Binary64 := if m < significandLimit then ⟨m, e⟩ else ⟨m / 2, e + 1⟩
    if x.exponent ≤ bias + 971 then some x else none

/-- The number nearest to a natural number. -/
def ofNat (n : Nat) : Option Binary64 := ofRatio n 1

/-- The product of two numbers, rounded. -/
def mul (x y : Binary64) : Option Binary64 :=
  ofRatio (x.ratio.1 * y.ratio.1) (x.ratio.2 * y.ratio.2)

/-- The quotient of two numbers, rounded. -/
def div (x y : Binary64) : Option Binary64 :=
  ofRatio (x.ratio.1 * y.ratio.2) (x.ratio.2 * y.ratio.1)

/-- The number nearest to `n * 10 ^ e`. -/
def ofDecimal (n : Nat) (e : Int) : Option Binary64 :=
  match e with
  | .ofNat k => ofRatio (n * Nat.pow 10 k) 1
  | .negSucc k => ofRatio n (Nat.pow 10 (k + 1))

/-! ### Fewest digits -/

/-- The power of ten at or below a quotient that is not zero. -/
def magnitude (n d : Nat) : Int :=
  if d ≤ n then ((Decimal.digits (n / d)).length - 1 : Nat)
  else -((Decimal.digits ((d + n - 1) / n - 1)).length : Nat)

/-- The quotient `n / d` divided by `10 ^ p`. -/
def scale (n d : Nat) (p : Int) : Nat × Nat :=
  match p with
  | .ofNat k => (n, d * Nat.pow 10 k)
  | .negSucc k => (n * Nat.pow 10 (k + 1), d)

/-- Whether `c * 10 ^ p` rounds to the number. The numbers that do lie between the midpoints to
the two neighbours, of which the lower one is nearer at a power of two. -/
def roundsTo (x : Binary64) (c : Nat) (p : Int) : Bool :=
  let (n, d) := x.ratio
  let below := if x.significand = significandLimit / 2 ∧ 0 < x.exponent then 1 else 2
  let s := 4 * x.significand
  let (low, lowD) := scale (n * (s - below)) (d * s) p
  let (high, highD) := scale (n * (s + 2)) (d * s) p
  if x.significand % 2 = 0 then low ≤ c * lowD && c * highD ≤ high
  else low < c * lowD && c * highD < high

/-- The digits on the grid of `10 ^ p` that round to the number, the nearer ones of two. -/
def onGrid (x : Binary64) (p : Int) : Option Nat :=
  let (n, d) := scale x.ratio.1 x.ratio.2 p
  let low := n / d
  let lowFits := x.roundsTo low p
  let highFits := x.roundsTo (low + 1) p
  if lowFits && highFits then some (roundDiv n d)
  else if lowFits then some low
  else if highFits then some (low + 1)
  else none

/-- A digit string without the zeros at its end, and the power of ten they make up. -/
def stripZeros (fuel : Nat) (c : Nat) (p : Int) : Nat × Int :=
  match fuel with
  | 0 => (c, p)
  | fuel + 1 => if c ≠ 0 ∧ c % 10 = 0 then stripZeros fuel (c / 10) (p + 1) else (c, p)

/-- The fewest digits that round back to a number that is not zero: `(c, p)` stands for
`c * 10 ^ p`. -/
def shortest (x : Binary64) : Nat × Int :=
  let top := magnitude x.ratio.1 x.ratio.2
  let found := (List.range 17).findSome? fun k : Nat =>
    (x.onGrid (top - (k : Int))).map fun c => (c, top - (k : Int))
  match found with
  | some (c, p) => stripZeros 20 c p
  | none => (0, 0)

/-! ### Texts -/

/-- Digits `c` with the point so that the text denotes `c * 10 ^ p`, with at least one digit on
each side of it. -/
def positional (c : Nat) (p : Int) : List Char :=
  let ds := Decimal.digits c
  match p with
  | .ofNat k => ds ++ List.replicate k '0' ++ ['.', '0']
  | .negSucc k =>
    let places := k + 1
    if ds.length ≤ places then
      '0' :: '.' :: (List.replicate (places - ds.length) '0' ++ ds)
    else ds.take (ds.length - places) ++ '.' :: ds.drop (ds.length - places)

/-- Digits `c` with a power of ten of at least two digits so that the text denotes
`c * 10 ^ p`. -/
def scientific (c : Nat) (p : Int) : List Char :=
  let ds := Decimal.digits c
  let e := p + (ds.length - 1 : Nat)
  let exponent := Decimal.digits e.natAbs
  let padded := if exponent.length < 2 then '0' :: exponent else exponent
  (match ds with
    | [] => []
    | [d] => [d]
    | d :: rest => d :: '.' :: rest) ++
  'e' :: (if e < 0 then '-' else '+') :: padded

/-- The text of a number without a power of ten. -/
def toPositional (x : Binary64) : List Char :=
  if x.isZero then ['0', '.', '0'] else positional x.shortest.1 x.shortest.2

/-- The text of a number, with a power of ten if it is below `10 ^ -5` or at least `10 ^ 16`. -/
def toCompact (x : Binary64) : List Char :=
  if x.isZero then ['0', '.', '0']
  else
    let (c, p) := x.shortest
    let e := p + ((Decimal.digits c).length - 1 : Nat)
    if -5 ≤ e ∧ e < 16 then positional c p else scientific c p

end Binary64

end Gateway
