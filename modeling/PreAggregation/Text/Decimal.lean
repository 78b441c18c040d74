/-!
# Fractions in decimal

Reading a decimal numeral as the nearest double, and writing a double with a
fixed number of decimal places.
-/

namespace PreAggregation
namespace Text
namespace Decimal

/-- What a decimal numeral stands for, apart from its sign. -/
inductive Magnitude
  /-- `digits * 10 ^ exponent`. -/
  | finite (digits : Nat) (exponent : Int)
  /-- Larger than every number. -/
  | infinite
  | undefined
  deriving DecidableEq, Repr

/-- The double nearest to a magnitude.  A finite one whose leading digit lies outside
the range of doubles is decided without being computed. -/
def Magnitude.toFloat : Magnitude → Float
  | .finite digits exponent =>
      let places : Int := exponent + (Nat.toDigits 10 digits).length
      if digits = 0 || places < -400 then 0.0
      else if 400 < places then 1.0 / 0.0
      else Float.ofScientific digits (exponent < 0) exponent.natAbs
  | .infinite => 1.0 / 0.0
  | .undefined => 0.0 / 0.0

/-- An exponent mark with its exponent, or nothing at all. -/
def exponent? : List Char → Option Int
  | [] => some 0
  | mark :: rest =>
      if mark = 'e' || mark = 'E' then
        match rest with
        | '+' :: digits => value? digits
        | '-' :: digits => (value? digits).map (- ·)
        | digits => value? digits
      else none
where
  value? (digits : List Char) : Option Int :=
    if digits.isEmpty || !digits.all Char.isDigit then none
    else some (Nat.ofDigitChars 10 digits 0)

/-- A numeral without its sign: digits with at most one point among or beside them
and an optional exponent, or one of the words for the values that are no numbers. -/
def magnitude? (text : List Char) : Option Magnitude :=
  let word := String.ofList (text.map Char.toLower)
  if word = "inf" || word = "infinity" then some .infinite
  else if word = "nan" then some .undefined
  else
    let whole := text.takeWhile Char.isDigit
    let afterWhole := text.dropWhile Char.isDigit
    let (fraction, tail) :=
      match afterWhole with
      | '.' :: rest => (rest.takeWhile Char.isDigit, rest.dropWhile Char.isDigit)
      | rest => ([], rest)
    if whole.isEmpty && fraction.isEmpty then none
    else
      (exponent? tail).map fun exponent =>
        .finite (Nat.ofDigitChars 10 (whole ++ fraction) 0) (exponent - fraction.length)

/-- The double that a decimal numeral, with or without a sign, is nearest to. -/
def read? : List Char → Option Float
  | '+' :: rest => (magnitude? rest).map Magnitude.toFloat
  | '-' :: rest => (magnitude? rest).map (- ·.toFloat)
  | text => (magnitude? text).map Magnitude.toFloat

/-- The integer nearest to a fraction, the even one of two at the same distance. -/
def roundHalfEven (numerator denominator : Nat) : Nat :=
  let quotient := numerator / denominator
  let twice := 2 * (numerator % denominator)
  if denominator < twice || (denominator = twice && quotient % 2 = 1) then quotient + 1
  else quotient

/-- `numerator / 10 ^ places` with exactly `places` digits behind the point. -/
def shift (places numerator : Nat) : List Char :=
  let fraction := Nat.toDigits 10 (numerator % Nat.pow 10 places)
  Nat.toDigits 10 (numerator / Nat.pow 10 places) ++
    '.' :: List.replicate (places - fraction.length) '0' ++ fraction

/-- A double with exactly `places` decimal places, rounded from its exact value with
ties to the even neighbour.  The sign is kept where everything else rounds away. -/
def fixed (places : Nat) (value : Float) : String :=
  if value.isNaN then "NaN"
  else
    let bits := value.toBits.toNat
    let sign := if bits / Nat.pow 2 63 = 1 then "-" else ""
    if value.isInf then sign ++ "inf"
    else
      let field := bits / Nat.pow 2 52 % Nat.pow 2 11
      let stored := bits % Nat.pow 2 52
      let significand := if field = 0 then stored else stored + Nat.pow 2 52
      let scaled := significand * Nat.pow 2 (max field 1) * Nat.pow 10 places
      sign ++ String.ofList (shift places (roundHalfEven scaled (Nat.pow 2 1075)))

end Decimal
end Text
end PreAggregation
