namespace Subgraph

/-- A number of double precision: a sign with `mantissa * 2 ^ exponent`, an infinity, or no number. -/
inductive Double where
  | finite (negative : Bool) (mantissa : Nat) (exponent : Int)
  | infinite (negative : Bool)
  | undefined
  deriving DecidableEq, Repr

namespace Double

/-- A quotient to the nearest whole number, a half to the even one. -/
def roundDiv (num den : Nat) : Nat :=
  let low := num / den
  let twice := 2 * (num % den)
  if twice < den || (twice == den && low % 2 == 0) then low else low + 1

/-- The greatest power of two that leaves `num / den` at least 53 bits, as an exponent. -/
def unitExponent (num den : Nat) : Int :=
  let guess : Int := num.log2 - den.log2 - 52
  if num * Nat.pow 2 (-guess).toNat < Nat.pow 2 52 * (den * Nat.pow 2 guess.toNat) then guess - 1 else guess

/-- The number of double precision that is nearest to `num / den`. -/
def nearest (negative : Bool) (num den : Nat) : Double :=
  if num = 0 then finite negative 0 (-1074)
  else
    let exponent := max (unitExponent num den) (-1074)
    let mantissa := roundDiv (num * Nat.pow 2 (-exponent).toNat) (den * Nat.pow 2 exponent.toNat)
    let (mantissa, exponent) :=
      if mantissa = Nat.pow 2 53 then (Nat.pow 2 52, exponent + 1) else (mantissa, exponent)
    if exponent > 971 then infinite negative else finite negative mantissa exponent

/-- The number that is nearest to `digits * 10 ^ exponent`. Far outside the range nothing is
computed. -/
def ofScientific (negative : Bool) (digits : Nat) (exponent : Int) : Double :=
  let size : Int := (Nat.toDigits 10 digits).length + exponent
  if digits = 0 || size < -330 then finite negative 0 (-1074)
  else if size > 310 then infinite negative
  else nearest negative (digits * Nat.pow 10 exponent.toNat) (Nat.pow 10 (-exponent).toNat)

/-- The exponent of the first decimal digit of `num / den`. -/
def leadingExponent (num den : Nat) : Int :=
  if den ≤ num then (Nat.toDigits 10 (num / den)).length - 1
  else -((Nat.toDigits 10 (den / num)).length : Int)

/-- The decimal with `size` digits that is nearest to `num / den` among those that read back as it. -/
def withDigits? (num den : Nat) (size : Nat) : Option (Nat × Int) :=
  let exponent := leadingExponent num den - size + 1
  let scaledNum := num * Nat.pow 10 (-exponent).toNat
  let scaledDen := den * Nat.pow 10 exponent.toNat
  let low := scaledNum / scaledDen
  let upFirst := scaledDen < 2 * (scaledNum % scaledDen)
  let candidates := if upFirst then [low + 1, low] else [low, low + 1]
  (candidates.find? fun digits => ofScientific false digits exponent == nearest false num den).map
    (·, exponent)

/-- The decimal with the fewest digits that reads back as `num / den`. -/
def shortest (num den : Nat) : Nat × Int :=
  ((List.range 17).findSome? fun size => withDigits? num den (size + 1)).getD (num / den, 0)

def signText (negative : Bool) : String :=
  if negative then "-" else ""

/-- Digits laid out around a point that stands after `point` of them. It is written positionally for
values from 0.0001 to below 10 ^ 16, otherwise with an exponent of at least two digits. -/
def layOut (digits : List Char) (point : Int) : String :=
  if -4 < point && point ≤ 16 then
    if point ≤ 0 then
      "0." ++ String.ofList (List.replicate (-point).toNat '0' ++ digits)
    else
      let whole := digits.take point.toNat
      let part := digits.drop point.toNat
      String.ofList (whole ++ List.replicate (point.toNat - whole.length) '0') ++ "." ++
        (if part.isEmpty then "0" else String.ofList part)
  else
    let exponent := point - 1
    let size := Nat.toDigits 10 exponent.natAbs
    let sign := if exponent < 0 then "-" else "+"
    let fraction := if digits.length > 1 then "." ++ String.ofList (digits.drop 1) else ""
    String.ofList (digits.take 1) ++ fraction ++ "e" ++ sign ++
      String.ofList (List.replicate (2 - size.length) '0' ++ size)

def text : Double → String
  | undefined => "nan"
  | infinite negative => signText negative ++ "inf"
  | finite negative 0 _ => signText negative ++ "0.0"
  | finite negative mantissa exponent =>
    let (value, unit) := shortest (mantissa * Nat.pow 2 exponent.toNat) (Nat.pow 2 (-exponent).toNat)
    let all := Nat.toDigits 10 value
    let digits := (all.reverse.dropWhile (· == '0')).reverse
    signText negative ++ layOut digits (all.length + unit)

/-- Zero of either sign. -/
def isZero : Double → Bool
  | finite _ 0 _ => true
  | _ => false

end Double

end Subgraph
