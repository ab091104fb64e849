import SchemaChecks.Number.Binary64

/-!
The text of a double: the fewest digits that read back as the same double, of those the nearest to
its exact value. The digits stand in positional notation for exponents from -4 to 15 and with an
exponent of at least two digits elsewhere; a whole number keeps one zero after its point.
-/

namespace SchemaChecks.Binary64

/-- The point `d * 10 ^ k` against `m * 2 ^ s`, in exact arithmetic. -/
def compareDecimal (d : Nat) (k : Int) (m : Nat) (s : Int) : Ordering :=
  compare (d * Nat.pow 10 k.toNat * Nat.pow 2 (-s).toNat)
    (m * Nat.pow 2 s.toNat * Nat.pow 10 (-k).toNat)

/-- The decimal `d * 10 ^ k` reads back as the positive double `x`: it lies between the midpoints
to the neighbours of `x`, which belong to `x` when its significand is even. -/
def readsBack (x : Binary64) (d : Nat) (k : Int) : Bool :=
  let m := x.significand
  let below := if x.fractionField = 0 && 1 < x.exponentField then 4 * m - 1 else 4 * m - 2
  let lower := compareDecimal d k below (x.scale - 2)
  let upper := compareDecimal d k (4 * m + 2) (x.scale - 2)
  if m % 2 = 0 then lower != .lt && upper != .gt else lower == .gt && upper == .lt

def floorAt (x : Binary64) (k : Int) : Nat :=
  (x.significand * Nat.pow 2 x.scale.toNat * Nat.pow 10 (-k).toNat) /
    (Nat.pow 2 (-x.scale).toNat * Nat.pow 10 k.toNat)

/-- The nearer of the two points `d` and `d + 1` of the grid `10 ^ k`, a tie to the even one. -/
def nearer (x : Binary64) (d : Nat) (k : Int) : Nat :=
  match compareDecimal (2 * d + 1) k (2 * x.significand) x.scale with
  | .gt => d
  | .lt => d + 1
  | .eq => if d % 2 = 0 then d else d + 1

def pointOn? (x : Binary64) (k : Int) : Option Nat :=
  let d := x.floorAt k
  match x.readsBack d k, x.readsBack (d + 1) k with
  | true, true => some (x.nearer d k)
  | true, false => some d
  | false, true => some (d + 1)
  | false, false => none

def leadingExponent (x : Binary64) : Int :=
  let guess : Int := (x.significand.log2 + x.scale) * 30103 / 100000
  if x.floorAt (guess + 1) ≠ 0 then guess + 1
  else if x.floorAt guess ≠ 0 then guess
  else guess - 1

def shortestFrom (x : Binary64) (lead : Int) : Nat → Nat → Nat × Int
  | 0, n => (x.floorAt (lead - n), lead - n)
  | fuel + 1, n =>
    let k := lead - n
    match x.pointOn? k with
    | some d => (d, k)
    | none => x.shortestFrom lead fuel (n + 1)

def dropTrailingZeros (cs : List Char) : List Char :=
  (cs.reverse.dropWhile (· = '0')).reverse

def shortestDigits (x : Binary64) : List Char × Int :=
  let (d, k) := x.shortestFrom x.leadingExponent 17 0
  let digits := Nat.toDigits 10 d
  (dropTrailingZeros digits, k + digits.length - 1)

def exponentText (e : Int) : List Char :=
  let digits := Nat.toDigits 10 e.natAbs
  'e' :: (if e < 0 then '-' else '+') :: (if digits.length < 2 then '0' :: digits else digits)

def layout (digits : List Char) (e : Int) : List Char :=
  if e < -4 || 16 ≤ e then
    match digits with
    | [] => []
    | [d] => d :: exponentText e
    | d :: rest => d :: '.' :: rest ++ exponentText e
  else if e < 0 then
    '0' :: '.' :: List.replicate (-e - 1).toNat '0' ++ digits
  else
    let whole := (e + 1).toNat
    if digits.length ≤ whole then
      digits ++ List.replicate (whole - digits.length) '0' ++ ['.', '0']
    else digits.take whole ++ '.' :: digits.drop whole

def text (x : Binary64) : String :=
  if x.isNaN then "nan"
  else
    let sign := if x.isNegative then ['-'] else []
    if x.isInfinite then String.ofList (sign ++ ['i', 'n', 'f'])
    else if x.significand = 0 then String.ofList (sign ++ ['0', '.', '0'])
    else
      let (digits, e) := x.shortestDigits
      String.ofList (sign ++ layout digits e)

end SchemaChecks.Binary64
