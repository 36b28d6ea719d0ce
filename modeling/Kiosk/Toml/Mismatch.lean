import Kiosk.Geometry
import Kiosk.Text.Quoted
import Kiosk.Toml.Value

/-!
# Values that do not fit

A document can be valid and still not say what a reader of it needs. This module
names the ways in which a value does not fit (`Mismatch`), gives each its message,
and takes single values apart.
-/

namespace Kiosk.Toml

/-- What a reader needed. -/
inductive Expected where
  | boolean
  | string
  | sequence
  | int32
  | uint32
  /-- An array of so many numbers. -/
  | arrayOf (n : Nat)
  /-- No more than so many elements. -/
  | elements (n : Nat)
  /-- The section of an output in a configuration. -/
  | outputSection
  /-- A step of a script. -/
  | step
  /-- The elements of a step of the given kind, written as an array. -/
  | stepElements (kind : String) (n : Nat)
  /-- The name of the kind of a step. -/
  | stepKind
  /-- The name of a device, alone or as the only key of a table. -/
  | device
  | singleKey
  | unit
  deriving DecidableEq, Repr

/-- `n` of something, which gets a plural ending unless there is one of it. -/
private def counted (n : Nat) (noun : String) : String :=
  s!"{n} {noun}" ++ if n = 1 then "" else "s"

/-- The words for what was needed. -/
def Expected.text : Expected → String
  | .boolean => "a boolean"
  | .string => "a string"
  | .sequence => "a sequence"
  | .int32 => "i32"
  | .uint32 => "u32"
  | .arrayOf n => s!"an array of length {n}"
  | .elements n => counted n "element" ++ " in sequence"
  | .outputSection => "struct OutputConfig"
  | .step => "internally tagged enum Step"
  | .stepElements kind n => s!"struct variant Step::{kind} with " ++ counted n "element"
  | .stepKind => "variant identifier"
  | .device => "string or map"
  | .singleKey => "map with a single key"
  | .unit => "unit"

/-- The words for a value that was found. Strings, numbers and booleans are shown. -/
def Value.found : Value → String
  | .string s => "string " ++ Quoted.quote s
  | .integer n => s!"integer `{n}`"
  | .float x => "floating point `" ++ x.text ++ "`"
  | .boolean b => s!"boolean `{b}`"
  | .datetime => "map"
  | .array _ => "sequence"
  | .table _ => "map"

/-- How a value does not fit. -/
inductive Mismatch where
  | missingField (key : String)
  | wrongType (found : Value) (expected : Expected)
  /-- A value of the right type that is outside the range of what was needed. -/
  | wrongValue (found : Value) (expected : Expected)
  | wrongLength (n : Nat) (expected : Expected)
  | unknownVariant (found : String) (known : List String)
  deriving Repr

/-- The known names of something, each between backticks. -/
private def alternatives : List String → String
  | [] => "there are no variants"
  | [a] => s!"expected `{a}`"
  | [a, b] => s!"expected `{a}` or `{b}`"
  | names => "expected one of " ++ ", ".intercalate (names.map fun a => s!"`{a}`")

/-- The message for a mismatch. -/
def Mismatch.message : Mismatch → String
  | .missingField key => s!"missing field `{key}`"
  | .wrongType v e => "invalid type: " ++ v.found ++ ", expected " ++ e.text
  | .wrongValue v e => "invalid value: " ++ v.found ++ ", expected " ++ e.text
  | .wrongLength n e => s!"invalid length {n}, expected " ++ e.text
  | .unknownVariant name known => s!"unknown variant `{name}`, " ++ alternatives known

/-- Why a text does not give what is to be read from it. -/
inductive Misreading where
  /-- The text is not TOML. -/
  | malformed
  | mismatch (m : Mismatch)
  deriving Repr

/-- The message for a text that could not be read. -/
def Misreading.message : Misreading → String
  | .malformed => "not a TOML document"
  | .mismatch m => m.message

namespace Value

/-- The value as a boolean. -/
def asBool : Value → Except Mismatch Bool
  | .boolean b => .ok b
  | v => .error (.wrongType v .boolean)

/-- The value as a string. -/
def asString : Value → Except Mismatch String
  | .string s => .ok s
  | v => .error (.wrongType v .string)

/-- The value as an array. -/
def asArray : Value → Except Mismatch (List Value)
  | .array items => .ok items
  | v => .error (.wrongType v .sequence)

/-- The value as a coordinate. -/
def asCoord : Value → Except Mismatch Coord
  | .integer n =>
    if Int32.minValue.toInt ≤ n ∧ n ≤ Int32.maxValue.toInt then .ok (Int32.ofInt n)
    else .error (.wrongValue (.integer n) .int32)
  | v => .error (.wrongType v .int32)

/-- The value as an unsigned 32-bit number. -/
def asUInt32 : Value → Except Mismatch UInt32
  | .integer n =>
    if 0 ≤ n ∧ n < UInt32.size then .ok (UInt32.ofNat n.toNat)
    else .error (.wrongValue (.integer n) .uint32)
  | v => .error (.wrongType v .uint32)

/-- The value as an array of `n` coordinates. Its elements are looked at before its
length. -/
def asCoords (n : Nat) : Value → Except Mismatch (List Coord)
  | .array items => do
    let coords ← (items.take n).mapM asCoord
    if items.length < n then .error (.wrongLength items.length (.arrayOf n))
    else if n < items.length then .error (.wrongLength items.length (.elements n))
    else return coords
  | v => .error (.wrongType v (.arrayOf n))

/-- The value as an array of two coordinates. -/
def asPoint (v : Value) : Except Mismatch Point := do
  match ← v.asCoords 2 with
  | [x, y] => return ⟨x, y⟩
  | coords => .error (.wrongLength coords.length (.arrayOf 2))

end Value

end Kiosk.Toml
