import Gateway.Number.Binary64
import Gateway.Setting
import Gateway.Text.Quoted

/-!
# Values that do not fit

A document may hold a well-formed value where another kind of value is wanted. A `Mismatch` tells
what was found and what was wanted; its wording depends on how the format of the document writes
floating-point numbers, which `Mismatch.message` takes as an argument.
-/

namespace Gateway.Document

/-- A floating-point number. -/
inductive Real where
  | finite (negative : Bool) (magnitude : Binary64)
  | infinite (negative : Bool)
  | notANumber
  deriving DecidableEq, Repr

/-- The kinds of values that documents hold. -/
inductive Found where
  | nothing
  | switch (value : Bool)
  | integer (value : Int)
  | real (value : Real)
  | text (value : String)
  | sequence
  | map
  deriving DecidableEq, Repr

/-- What may be wanted. -/
inductive Wanted where
  /-- The content of a setting. -/
  | content (shape : Setting.Shape)
  /-- A whole layer. -/
  | layer
  /-- A whole configuration. -/
  | config
  deriving DecidableEq, Repr

/-- The wording of what is wanted. -/
def Wanted.name : Wanted → String
  | content .text => "a string"
  | content .switch => "a boolean"
  | content .port => "u16"
  | content .duration => "u64"
  | layer => "struct ConfigLayer"
  | config => "struct Config"

/-- Why a value of a document is refused. -/
inductive Mismatch where
  /-- A value of another kind. -/
  | kind (found : Found) (wanted : Wanted)
  /-- A whole number out of range. -/
  | range (found : Int) (wanted : Wanted)
  /-- A key that was there before. -/
  | duplicate (key : String)
  deriving DecidableEq, Repr

/-- How a format writes finite floating-point numbers. -/
abbrev RealStyle := Binary64 → List Char

/-- The text of a whole number. -/
def integerText (n : Int) : String :=
  (if n < 0 then "-" else "") ++ Decimal.toString n.natAbs

/-- The text of a floating-point number. -/
def Real.text (style : RealStyle) : Real → String
  | finite negative x => (if negative then "-" else "") ++ String.ofList (style x)
  | infinite negative => if negative then "-inf" else "inf"
  | notANumber => "NaN"

/-- The wording of what was found. -/
def Found.describe (style : RealStyle) : Found → String
  | nothing => "null"
  | switch b => "boolean \x60" ++ (if b then "true" else "false") ++ "\x60"
  | integer n => "integer \x60" ++ integerText n ++ "\x60"
  | real x => "floating point \x60" ++ x.text style ++ "\x60"
  | text s => "string " ++ Text.quote s
  | sequence => "sequence"
  | map => "map"

/-- The wording of a mismatch. -/
def Mismatch.message (style : RealStyle) : Mismatch → String
  | kind found wanted =>
    "invalid type: " ++ found.describe style ++ ", expected " ++ wanted.name
  | range found wanted =>
    "invalid value: integer \x60" ++ integerText found ++ "\x60, expected " ++ wanted.name
  | duplicate key => "duplicate field \x60" ++ key ++ "\x60"

end Gateway.Document
