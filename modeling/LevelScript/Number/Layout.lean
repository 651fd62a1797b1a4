import LevelScript.Number.Shortest

/-!
Texts of singles.

Three places write numbers and each has its layout: traces write them in full, trace arrays and
error texts keep the point and use an exponent for very large and very small numbers, and the
summary follows JSON.
-/

namespace LevelScript

/-- How a number is laid out around its shortest digits. -/
structure NumberLayout where
  /-- The scientific exponents that are written positionally. -/
  positional : Int → Bool
  /-- Whether a whole number gets a `.0` in positional notation. -/
  pointed : Bool
  /-- The mark between mantissa and a positive exponent. -/
  exponentMark : String
  tie : Tie
  notANumber : String
  infinity : String
  negativeInfinity : String

namespace NumberLayout

/-- Traces write every number positionally and whole numbers without a point. -/
def plain : NumberLayout :=
  ⟨fun _ => true, false, "e", .up, "NaN", "inf", "-inf"⟩

/-- Arrays and rejected values show the point; from `10^16` on and below `10^-4` they use an
exponent. -/
def exact : NumberLayout :=
  ⟨fun e => -4 ≤ e && e < 16, true, "e", .up, "NaN", "inf", "-inf"⟩

/-- The summary shows the point and signs every exponent; what is no number is `null`. -/
def json : NumberLayout :=
  ⟨fun e => -6 ≤ e && e < 13, true, "e+", .toEven, "null", "null", "null"⟩

/-- Digits with the point after the first `whole` of them, zeros filled in on either side. -/
def placePoint (pointed : Bool) (digits : String) (whole : Int) : String :=
  let count : Int := digits.length
  if whole ≤ 0 then
    "0." ++ String.ofList (List.replicate (-whole).toNat '0') ++ digits
  else if whole ≥ count then
    digits ++ String.ofList (List.replicate (whole - count).toNat '0') ++
      (if pointed then ".0" else "")
  else
    (digits.take whole.toNat).toString ++ "." ++ (digits.drop whole.toNat).toString

/-- Digits in scientific notation. -/
def scientific (mark : String) (digits : String) (exponent : Int) : String :=
  let mantissa :=
    if digits.length = 1 then digits
    else (digits.take 1).toString ++ "." ++ (digits.drop 1).toString
  if exponent < 0 then mantissa ++ "e" ++ toString exponent
  else mantissa ++ mark ++ toString exponent

/-- The text of a single without its sign. -/
def unsigned (layout : NumberLayout) (x : Single) : String :=
  if x.magnitude = 0 then
    if layout.pointed then "0.0" else "0"
  else
    let d := Decimal.shortest layout.tie x
    let digits := toString d.digits
    let exponent := d.exponent + digits.length - 1
    if layout.positional exponent then
      placePoint layout.pointed digits (exponent + 1)
    else
      scientific layout.exponentMark digits exponent

/-- The text of a single. -/
def text (layout : NumberLayout) (x : Single) : String :=
  if x.isNaN then layout.notANumber
  else if x.isFinite then (if x.negative then "-" else "") ++ layout.unsigned x
  else if x.negative then layout.negativeInfinity
  else layout.infinity

end NumberLayout

namespace Single

/-- The text that traces show. -/
def plain (x : Single) : String :=
  NumberLayout.plain.text x

/-- The text in arrays and of rejected values. -/
def exact (x : Single) : String :=
  NumberLayout.exact.text x

/-- The text in the JSON summary. -/
def json (x : Single) : String :=
  NumberLayout.json.text x

end Single

/-- A list of numbers in brackets. -/
def exactList (xs : List Single) : String :=
  "[" ++ ", ".intercalate (xs.map Single.exact) ++ "]"

end LevelScript
