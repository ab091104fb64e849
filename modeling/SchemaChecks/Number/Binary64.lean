/-!
Doubles as their 64-bit words, read as exact numbers and rounded from exact numbers: to the
nearest double, a tie to the even significand. No machine arithmetic on floats takes part.
-/

namespace SchemaChecks

structure Binary64 where
  word : UInt64
  deriving DecidableEq, Repr

namespace Binary64

def isNegative (x : Binary64) : Bool := Nat.pow 2 63 ≤ x.word.toNat
def exponentField (x : Binary64) : Nat := x.word.toNat / Nat.pow 2 52 % Nat.pow 2 11
def fractionField (x : Binary64) : Nat := x.word.toNat % Nat.pow 2 52

def isFinite (x : Binary64) : Bool := x.exponentField ≠ 2047
def isNaN (x : Binary64) : Bool := x.exponentField = 2047 && x.fractionField ≠ 0
def isInfinite (x : Binary64) : Bool := x.exponentField = 2047 && x.fractionField = 0

/-- The significand of a finite double; its absolute value is `significand * 2 ^ scale`. -/
def significand (x : Binary64) : Nat :=
  if x.exponentField = 0 then x.fractionField else Nat.pow 2 52 + x.fractionField

def scale (x : Binary64) : Int :=
  if x.exponentField = 0 then -1074 else x.exponentField - 1075

def signedSignificand (x : Binary64) : Int :=
  if x.isNegative then -(x.significand : Int) else x.significand

def ofFields (negative : Bool) (exponent fraction : Nat) : Binary64 :=
  ⟨UInt64.ofNat ((if negative then Nat.pow 2 63 else 0) + exponent * Nat.pow 2 52 + fraction)⟩

def zero (negative : Bool) : Binary64 := ofFields negative 0 0
def infinity (negative : Bool) : Binary64 := ofFields negative 2047 0
def nan : Binary64 := ofFields false 2047 (Nat.pow 2 51)

def neg (x : Binary64) : Binary64 :=
  ofFields (!x.isNegative) x.exponentField x.fractionField

/-- `num / den` rounded to an integer, a tie to the even neighbour. -/
def roundQuotient (num den : Nat) : Nat :=
  let q := num / den
  let r := num % den
  if 2 * r < den then q
  else if den < 2 * r then q + 1
  else if q % 2 = 0 then q else q + 1

/-- The double with the absolute value `m * 2 ^ scale`, for `m` up to `2 ^ 53` and a scale that
makes `m` at least `2 ^ 52` unless it is the least. -/
def pack (negative : Bool) (m : Nat) (scale : Int) : Binary64 :=
  let (m, scale) := if m = Nat.pow 2 53 then (Nat.pow 2 52, scale + 1) else (m, scale)
  if m < Nat.pow 2 52 then ofFields negative 0 m
  else if 971 < scale then infinity negative
  else ofFields negative (scale + 1075).toNat (m - Nat.pow 2 52)

def ofQuotient (negative : Bool) (num den : Nat) : Binary64 :=
  if num = 0 then zero negative
  else
    let guess : Int := num.log2 - den.log2 - 52
    let scaled (s : Int) : Nat × Nat :=
      if 0 ≤ s then (num, den * Nat.pow 2 s.toNat) else (num * Nat.pow 2 (-s).toNat, den)
    let s := if (scaled guess).1 / (scaled guess).2 < Nat.pow 2 52 then guess - 1 else guess
    let s := max s (-1074)
    let (n, d) := scaled s
    pack negative (roundQuotient n d) s

/-- The double nearest to `digits * 10 ^ exponent`; far outside the range of doubles the answer
needs no arithmetic. -/
def ofDecimal (negative : Bool) (digits : Nat) (exponent : Int) : Binary64 :=
  if digits = 0 then zero negative
  else
    let size : Int := (Nat.toDigits 10 digits).length
    if 400 < size + exponent then infinity negative
    else if size + exponent < -400 then zero negative
    else if 0 ≤ exponent then ofQuotient negative (digits * Nat.pow 10 exponent.toNat) 1
    else ofQuotient negative digits (Nat.pow 10 (-exponent).toNat)

def ofInt (i : Int) : Binary64 := ofQuotient (i < 0) i.natAbs 1

def toInt? (x : Binary64) : Option Int :=
  if !x.isFinite then none
  else if 0 ≤ x.scale then some (x.signedSignificand * Int.pow 2 x.scale.toNat)
  else
    let unit : Int := Int.pow 2 (-x.scale).toNat
    if x.signedSignificand % unit = 0 then some (x.signedSignificand / unit) else none

/-- The order of an integer and a double in exact arithmetic; NaN has no place in it. -/
def compareInt (i : Int) (x : Binary64) : Option Ordering :=
  if x.isNaN then none
  else if x.isInfinite then some (if x.isNegative then .gt else .lt)
  else if 0 ≤ x.scale then some (compare i (x.signedSignificand * Int.pow 2 x.scale.toNat))
  else some (compare (i * Int.pow 2 (-x.scale).toNat) x.signedSignificand)

/-- The double nearest to `m * 2 ^ scale`; a zero takes the sign `zeroSign`. -/
def ofScaled (zeroSign : Bool) (m : Int) (scale : Int) : Binary64 :=
  if m = 0 then zero zeroSign
  else if 0 ≤ scale then ofQuotient (m < 0) (m.natAbs * Nat.pow 2 scale.toNat) 1
  else ofQuotient (m < 0) m.natAbs (Nat.pow 2 (-scale).toNat)

def mul (x y : Binary64) : Binary64 :=
  let negative := x.isNegative != y.isNegative
  if x.isNaN || y.isNaN then nan
  else if x.isInfinite || y.isInfinite then
    if (x.isFinite && x.significand = 0) || (y.isFinite && y.significand = 0) then nan
    else infinity negative
  else ofScaled negative (x.signedSignificand * y.signedSignificand) (x.scale + y.scale)

def add (x y : Binary64) : Binary64 :=
  if x.isNaN || y.isNaN then nan
  else if x.isInfinite then
    if y.isInfinite && x.isNegative != y.isNegative then nan else x
  else if y.isInfinite then y
  else
    let s := min x.scale y.scale
    let m := x.signedSignificand * Int.pow 2 (x.scale - s).toNat +
      y.signedSignificand * Int.pow 2 (y.scale - s).toNat
    ofScaled (x.isNegative && y.isNegative) m s

/-- Equality of numbers: both zeros are equal, a NaN equals nothing. -/
def sameNumber (x y : Binary64) : Bool :=
  !x.isNaN && !y.isNaN &&
    (x = y || (x.isFinite && y.isFinite && x.significand = 0 && y.significand = 0))

end Binary64

end SchemaChecks
