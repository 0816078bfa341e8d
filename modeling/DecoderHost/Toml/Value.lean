import DecoderHost.Decimal.Shortest

/-!
The values of TOML documents. Dates and times carry no detail here: nothing asks for one.
-/

namespace DecoderHost.Toml

/-- A floating-point number. -/
inductive Floating where
  | notANumber
  | infinite (isNegative : Bool)
  | finite (isNegative : Bool) (magnitude : Decimal.Binary64)
  deriving DecidableEq, Repr

/-- A floating-point number in positional notation, with a point unless it is not finite. -/
def Floating.text : Floating → String
  | notANumber => "NaN"
  | infinite isNegative => (if isNegative then "-" else "") ++ "inf"
  | finite isNegative magnitude =>
    (if isNegative then "-" else "") ++
      if magnitude.mantissa = 0 then "0.0" else magnitude.shortest.positional

/-- A value. A table keeps its entries in the order in which they came up; tables under headers of one name
are an array of their own kind. -/
inductive Value where
  | string (text : String)
  | integer (number : Int)
  | floating (number : Floating)
  | boolean (truth : Bool)
  | moment
  | array (items : List Value)
  | tables (items : List Value)
  | table (entries : List (String × Value))

end DecoderHost.Toml
