import EnumLowering.Number.Decimal

/-!
Binary floating-point numbers of 64 bits, as far as texts need them: reading a
decimal and writing the shortest decimal that reads back. Everything is exact
arithmetic on natural numbers; rounding goes to the nearest number and halves
go to the even one.
-/

namespace EnumLowering.Number

/-- The finite number `significand * 2 ^ exponent`, its sign apart. -/
structure Binary64 where
  negative : Bool
  significand : Nat
  exponent : Int
  deriving DecidableEq, Repr

namespace Binary64

def leastExponent : Int := -1074

def greatestExponent : Int := 971

def zero : Binary64 := { negative := false, significand := 0, exponent := leastExponent }

def isZero (number : Binary64) : Bool := number.significand == 0

/-- A quotient rounded to the nearest integer, halves to even. -/
def roundedQuotient (numerator denominator : Nat) : Nat :=
  let quotient := numerator / denominator
  let remainder := numerator % denominator
  if 2 * remainder < denominator then quotient
  else if denominator < 2 * remainder then quotient + 1
  else quotient + quotient % 2

/-- `value * 2 ^ power` as a fraction. -/
def scaledFraction (numerator denominator : Nat) (power : Int) : Nat × Nat :=
  (numerator * Nat.pow 2 power.toNat, denominator * Nat.pow 2 (-power).toNat)

def ofFraction? (numerator denominator : Nat) : Option Binary64 :=
  if numerator = 0 then some zero
  else
    let magnitude : Int := (numerator.log2 : Int) - denominator.log2
    let (top, bottom) := scaledFraction numerator denominator (52 - magnitude)
    let leading := if top / bottom < Nat.pow 2 52 then magnitude - 53 else magnitude - 52
    let exponent := max leading leastExponent
    let (top, bottom) := scaledFraction numerator denominator (-exponent)
    let significand := roundedQuotient top bottom
    let (significand, exponent) :=
      if significand = Nat.pow 2 53 then (Nat.pow 2 52, exponent + 1) else (significand, exponent)
    if greatestExponent < exponent then none
    else some { negative := false, significand, exponent }

def times? (left right : Binary64) : Option Binary64 :=
  let (top, bottom) :=
    scaledFraction (left.significand * right.significand) 1 (left.exponent + right.exponent)
  ofFraction? top bottom

def over? (left right : Binary64) : Option Binary64 :=
  let (top, bottom) :=
    scaledFraction left.significand right.significand (left.exponent - right.exponent)
  ofFraction? top bottom

def powerOfTen (power : Nat) : Binary64 := (ofFraction? (Nat.pow 10 power) 1).getD zero

def greatestPower : Nat := 308

/-- Scale by a power of ten in as few steps as finite powers allow, rounding
after each step. None when the result is not finite. -/
def scaleByTen? (number : Binary64) (power : Int) : Option Binary64 :=
  if number.isZero then some zero
  else if 0 ≤ power then
    if power ≤ greatestPower then number.times? (powerOfTen power.toNat) else none
  else if -(greatestPower : Int) ≤ power then
    number.over? (powerOfTen (-power).toNat)
  else
    match number.over? (powerOfTen greatestPower) with
    | some smaller => smaller.scaleByTen? (power + greatestPower)
    | none => none
termination_by (-power).toNat
decreasing_by
  simp only [greatestPower] at *
  omega

def ofDecimal? (digits : Nat) (power : Int) : Option Binary64 :=
  (ofFraction? digits 1).bind (·.scaleByTen? power)

/-- The reals that round to a number, scaled by four steps of its last place:
the number itself and the two ends. The lower step is half as wide just above a
power of two. -/
def neighbourhood (number : Binary64) : Nat × Nat × Nat :=
  let middle := 4 * number.significand
  let narrow := number.significand == Nat.pow 2 52 && leastExponent < number.exponent
  (if narrow then middle - 1 else middle - 2, middle, middle + 2)

/-- A multiple of `10 ^ power` that reads back as the number, the nearer one if
two do and the even one if both are as near. -/
def digitsOnGrid? (number : Binary64) (power : Int) : Option Nat :=
  let (low, middle, high) := number.neighbourhood
  let scale := Nat.pow 2 (number.exponent - 2).toNat * Nat.pow 10 (-power).toNat
  let unit := Nat.pow 2 (2 - number.exponent).toNat * Nat.pow 10 power.toNat
  let reads (digits : Nat) : Bool :=
    if number.significand % 2 = 0 then low * scale ≤ digits * unit && digits * unit ≤ high * scale
    else low * scale < digits * unit && digits * unit < high * scale
  let below := middle * scale / unit
  match below != 0 && reads below, reads (below + 1) with
  | false, false => none
  | true, false => some below
  | false, true => some (below + 1)
  | true, true =>
      let twice := 2 * (middle * scale)
      let halfway := (2 * below + 1) * unit
      if twice < halfway then some below
      else if halfway < twice then some (below + 1)
      else some (below + below % 2)

/-- The fewest digits that read back, with their power of ten, tried on ever
finer grids. -/
def shortest (number : Binary64) : Nat → Int → Nat × Int
  | 0, power => (0, power)
  | grids + 1, power =>
      match number.digitsOnGrid? power with
      | some digits => (digits, power)
      | none => number.shortest grids (power - 1)

def exponentText (exponent : Int) : List Char :=
  if exponent < 0 then 'e' :: decimalInt exponent else 'e' :: '+' :: decimalInt exponent

/-- Positional up to sixteen digits before the point and five zeros after it,
with an exponent otherwise. -/
def magnitudeText (digits : List Char) (power : Int) : List Char :=
  let point : Int := digits.length + power
  if 0 ≤ power && point ≤ 16 then
    digits ++ List.replicate power.toNat '0' ++ ['.', '0']
  else if 0 < point && point ≤ 16 then
    digits.take point.toNat ++ '.' :: digits.drop point.toNat
  else if -5 < point && point ≤ 0 then
    '0' :: '.' :: (List.replicate (-point).toNat '0' ++ digits)
  else
    match digits with
    | [] => []
    | [digit] => digit :: exponentText (point - 1)
    | digit :: rest => digit :: '.' :: (rest ++ exponentText (point - 1))

def text (number : Binary64) : String :=
  let magnitude :=
    if number.isZero then ['0', '.', '0']
    else
      let (digits, power) := number.shortest 640 309
      magnitudeText (Nat.toDigits 10 digits) power
  String.ofList (if number.negative then '-' :: magnitude else magnitude)

end Binary64

end EnumLowering.Number
