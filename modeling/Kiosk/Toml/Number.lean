import Kiosk.Toml.Text
import Kiosk.Toml.Value

/-!
# Numbers and dates of TOML

Whatever begins with a digit or a sign. A text that fits none of the forms to its
end leaves characters that cannot follow a value, so each reader may stop where
its own form stops.
-/

namespace Kiosk.Toml

/-! ## Digits -/

/-- Reads digits of the given kind with single underscores between them. -/
def moreDigits (ok : Char → Bool) : Reader (List Char)
  | '_' :: c :: cs =>
    if ok c then andThen (some c) (moreDigits ok cs) else some ([], '_' :: c :: cs)
  | c :: cs => if ok c then andThen (some c) (moreDigits ok cs) else some ([], c :: cs)
  | [] => some ([], [])

/-- Reads at least one digit of the given kind. -/
def digits (ok : Char → Bool) : Reader (List Char)
  | c :: cs => if ok c then andThen (some c) (moreDigits ok cs) else none
  | [] => none

/-- The number spelled by digits, most significant first. -/
def numberOf (base : Nat) (ds : List Char) : Nat :=
  ds.foldl (fun n c => base * n + (hexDigit? c).getD 0) 0

/-- Reads a sign: whether it is a minus. -/
def sign : List Char → Bool × List Char
  | '+' :: cs => (false, cs)
  | '-' :: cs => (true, cs)
  | cs => (false, cs)

/-- Reads a decimal number without leading zeros. -/
def wholePart : Reader (List Char)
  | '0' :: cs => some (['0'], cs)
  | cs => digits Char.isDigit cs

/-! ## Integers -/

/-- The integer, if 64 bits hold it. -/
def bounded (n : Int) : Option Int :=
  if Int64.minValue.toInt ≤ n ∧ n ≤ Int64.maxValue.toInt then some n else none

/-- Reads an integer in base 10, or without a sign in base 16, 8 or 2. -/
def integer (cs : List Char) : Option (Int × List Char) :=
  let based (base : Nat) (ok : Char → Bool) (cs : List Char) : Option (Int × List Char) := do
    let (ds, cs) ← digits ok cs
    return (← bounded (numberOf base ds), cs)
  match cs with
  | '0' :: 'x' :: cs => based 16 (fun c => (hexDigit? c).isSome) cs
  | '0' :: 'o' :: cs => based 8 (fun c => '0' ≤ c && c ≤ '7') cs
  | '0' :: 'b' :: cs => based 2 (fun c => c = '0' || c = '1') cs
  | cs => do
    let (negative, cs) := sign cs
    let (ds, cs) ← wholePart cs
    let n : Int := numberOf 10 ds
    return (← bounded (if negative then -n else n), cs)

/-! ## Floating point numbers -/

/-- Reads a fraction, if there is one. -/
def fraction : List Char → Option (List Char × List Char)
  | '.' :: cs => digits Char.isDigit cs
  | cs => some ([], cs)

/-- Reads an exponent, if there is one. -/
def exponent : List Char → Option (Option Int × List Char)
  | c :: cs =>
    if c = 'e' || c = 'E' then do
      let (negative, cs) := sign cs
      let (ds, cs) ← digits Char.isDigit cs
      let n : Int := numberOf 10 ds
      return (some (if negative then -n else n), cs)
    else some (none, c :: cs)
  | [] => some (none, [])

/-- Reads a floating point number with a fraction or an exponent. One that is too large to
be finite is refused, unless it is negative. -/
def decimal (cs : List Char) : Option (Double × List Char) := do
  let (negative, cs) := sign cs
  let (whole, cs) ← wholePart cs
  let (frac, cs) ← fraction cs
  let (exp, cs) ← exponent cs
  if frac.isEmpty ∧ exp.isNone then none
  else
    let x := Double.ofDecimal negative (numberOf 10 (whole ++ frac)) (exp.getD 0 - frac.length)
    if x = .infinite false then none else some (x, cs)

/-- Reads infinity, or what is not a number. -/
def special (cs : List Char) : Option (Double × List Char) :=
  let (negative, cs) := sign cs
  match cs with
  | 'i' :: 'n' :: 'f' :: cs => some (.infinite negative, cs)
  | 'n' :: 'a' :: 'n' :: cs => some (.nan, cs)
  | _ => none

/-! ## Dates and times -/

/-- Reads exactly `n` digits as a number. -/
def fixedDigits (n : Nat) (cs : List Char) : Option (Nat × List Char) :=
  let ds := cs.take n
  if ds.length = n ∧ ds.all Char.isDigit then some (numberOf 10 ds, cs.drop n) else none

/-- Reads a number of two digits that is in the given range. -/
def twoDigits (low high : Nat) (cs : List Char) : Option (Nat × List Char) := do
  let (n, cs) ← fixedDigits 2 cs
  if low ≤ n ∧ n ≤ high then some (n, cs) else none

/-- The number of days of a month. -/
def daysIn (year month : Nat) : Nat :=
  if month = 2 then
    if year % 4 = 0 ∧ (year % 100 ≠ 0 ∨ year % 400 = 0) then 29 else 28
  else if month ∈ [4, 6, 9, 11] then 30 else 31

/-- Reads a date. -/
def date (cs : List Char) : Option (List Char) := do
  let (year, cs) ← fixedDigits 4 cs
  let (month, cs) ← twoDigits 1 12 (← expect '-' cs)
  let (_, cs) ← twoDigits 1 (daysIn year month) (← expect '-' cs)
  return cs

/-- Reads the parts of a second, if there are any. -/
def subsecond : List Char → Option (List Char)
  | '.' :: c :: cs => if c.isDigit then some (cs.dropWhile Char.isDigit) else none
  | '.' :: [] => none
  | cs => some cs

/-- Reads a time of day. A leap second is accepted. -/
def time (cs : List Char) : Option (List Char) := do
  let (_, cs) ← twoDigits 0 23 cs
  let (_, cs) ← twoDigits 0 59 (← expect ':' cs)
  let (_, cs) ← twoDigits 0 60 (← expect ':' cs)
  subsecond cs

/-- Reads the distance from universal time, if it is given. -/
def offset : List Char → Option (List Char)
  | c :: cs =>
    if c = 'Z' || c = 'z' then some cs
    else if c = '+' || c = '-' then do
      let (_, cs) ← twoDigits 0 23 cs
      let (_, cs) ← twoDigits 0 59 (← expect ':' cs)
      return cs
    else some (c :: cs)
  | [] => some []

/-- Reads a date, a time, or a date with a time and perhaps an offset. -/
def datetime (cs : List Char) : Option (List Char) :=
  match date cs with
  | none => time cs
  | some rest =>
    match rest with
    | c :: more =>
      if c = 'T' || c = 't' || c = ' ' then
        match time more with
        | some after => offset after
        | none => some rest
      else some rest
    | [] => some []

/-- Reads a number or a date. -/
def number (cs : List Char) : Option (Value × List Char) :=
  ((datetime cs).map (Value.datetime, ·)).or <|
    ((decimal cs).map fun (x, cs) => (.float x, cs)).or <|
    ((special cs).map fun (x, cs) => (.float x, cs)).or <|
    (integer cs).map fun (n, cs) => (.integer n, cs)

end Kiosk.Toml
