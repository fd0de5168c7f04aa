import Gateway.Number.Decimal

/-!
# Durations as text

A duration of at least a second is written in seconds, with a decimal point and up to three digits
behind it where it is not a whole number of seconds; a shorter one is written in milliseconds.
-/

namespace Gateway.Duration

/-- Three digits, without the zeros at their end. -/
def fraction (ms : Nat) : List Char :=
  ([ms / 100, ms / 10, ms].map Decimal.digit).reverse.dropWhile (· == '0') |>.reverse

/-- A duration of some milliseconds as text. -/
def toString (ms : Nat) : String :=
  if ms = 0 then "0ns"
  else if ms < 1000 then Decimal.toString ms ++ "ms"
  else
    let digits := fraction (ms % 1000)
    let point := if digits.isEmpty then "" else "."
    Decimal.toString (ms / 1000) ++ point ++ String.ofList digits ++ "s"

end Gateway.Duration
