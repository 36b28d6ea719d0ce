/-!
# Binary floating point numbers

Numbers with a 53-bit mantissa, kept exactly as `± mantissa · 2 ^ exponent`. A
decimal is rounded to the nearest of them, a tie to the even mantissa
(`Double.ofDecimal`). Going back, a number is written with the fewest decimal
digits that round to it (`Double.shortest`), without an exponent
(`Double.text`). All arithmetic is exact, on natural numbers.
-/

namespace Kiosk

/-- A binary floating point number. A finite one has a mantissa below `2 ^ 53` and an
exponent of at least `-1074`. -/
inductive Double where
  | nan
  | infinite (negative : Bool)
  | finite (negative : Bool) (mantissa : Nat) (exponent : Int)
  deriving DecidableEq, Repr

namespace Double

/-- The least exponent of a finite number. -/
def minExponent : Int := -1074

/-- The largest exponent of a finite number. -/
def maxExponent : Int := 971

/-- The least mantissa of a number with another exponent than the least one. -/
def minMantissa : Nat := 1 <<< 52

/-- `num / den` as a fraction of integers after division by `base ^ e`. -/
def scaleDown (base : Nat) (e : Int) (num den : Nat) : Nat × Nat :=
  (num * base.pow (-e).toNat, den * base.pow e.toNat)

/-- `num / den` rounded to the nearest integer, a tie to the even one. -/
def roundEven (num den : Nat) : Nat :=
  let q := num / den
  let twice := 2 * (num % den)
  if twice < den then q else if den < twice then q + 1 else q + q % 2

/-- The finite or infinite number nearest to `num / den`. -/
def ofRatio (negative : Bool) (num den : Nat) : Double :=
  if num = 0 then .finite negative 0 minExponent
  else
    let guess : Int := (num.log2 : Int) - (den.log2 : Int) - 52
    let (n, d) := scaleDown 2 guess num den
    let exponent := max minExponent (if n / d < minMantissa then guess - 1 else guess)
    let (n, d) := scaleDown 2 exponent num den
    let m := roundEven n d
    let (m, exponent) :=
      if m = 2 * minMantissa then (minMantissa, exponent + 1) else (m, exponent)
    if maxExponent < exponent then .infinite negative else .finite negative m exponent

/-- The number nearest to `digits · 10 ^ e`. Far outside the range of finite numbers the
powers of ten are not computed. -/
def ofDecimal (negative : Bool) (digits : Nat) (e : Int) : Double :=
  let magnitude : Int := (Nat.toDigits 10 digits).length + e
  if digits = 0 ∨ magnitude < -400 then .finite negative 0 minExponent
  else if 400 < magnitude then .infinite negative
  else
    let (den, num) := scaleDown 10 e 1 digits
    ofRatio negative num den

/-- The decimals of unit `10 ^ p` next to a number that round to it, nearest first, and the
larger first when both are as near. The number and the ends of the interval that rounds to
it are given as quarters of the unit `2 ^ exponent`; the ends belong to the interval when
the mantissa is even. -/
def hits (mantissa : Nat) (exponent : Int) (p : Int) : List Nat :=
  let quarter := exponent - 2
  let up := Nat.pow 2 quarter.toNat * Nat.pow 10 (-p).toNat
  let down := Nat.pow 2 (-quarter).toNat * Nat.pow 10 p.toNat
  let value := 4 * mantissa * up
  let low := (4 * mantissa -
    if mantissa = minMantissa ∧ minExponent < exponent then 1 else 2) * up
  let high := (4 * mantissa + 2) * up
  let inside (g : Nat) : Bool :=
    let x := g * down
    if mantissa % 2 = 0 then low ≤ x && x ≤ high else low < x && x < high
  let floor := value / down
  let nearest :=
    if 2 * (value % down) < down then [floor, floor + 1] else [floor + 1, floor]
  nearest.filter fun g => 0 < g && inside g

/-- The decimal with the fewest digits that rounds to a positive number, looked for from the
unit `10 ^ p` downward in at most `n` steps: its digits and its unit. -/
def shortest (mantissa : Nat) (exponent : Int) : Nat → Int → Nat × Int
  | 0, p => (0, p)
  | n + 1, p =>
    match hits mantissa exponent p with
    | g :: _ => (g, p)
    | [] => shortest mantissa exponent n (p - 1)

/-- A decimal without an exponent. -/
def positional (digits : Nat) (p : Int) : String :=
  let ds := Nat.toDigits 10 digits
  if 0 ≤ p then String.ofList (ds ++ List.replicate p.toNat '0')
  else
    let places := (-p).toNat
    let padded := List.replicate (places + 1 - ds.length) '0' ++ ds
    let whole := padded.length - places
    String.ofList (padded.take whole ++ '.' :: padded.drop whole)

/-- The shortest decimal that rounds to the number, with a point. -/
def text : Double → String
  | .nan => "NaN"
  | .infinite negative => if negative then "-inf" else "inf"
  | .finite negative m e =>
    let (digits, p) := if m = 0 then (0, 0) else shortest m e 700 320
    let body := positional digits p
    let body := if p < 0 then body else body ++ ".0"
    if negative then "-" ++ body else body

end Double

end Kiosk
