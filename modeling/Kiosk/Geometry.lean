/-!
# Points, sizes and rectangles

Everything on screen lives in one plane of signed 32-bit coordinates.

* Points add and subtract coordinate by coordinate, stopping at the ends of the
  coordinate range (`Coord.clamp`).
* A `Size` has no negative part, by type; `Size.ofParts` is how a pair of
  numbers becomes one, or a fault.
* `Rect.centered` puts a size in the middle of a rectangle. It is the one place
  where an addition faults instead of stopping at the end of the range.
-/

namespace Kiosk

/-- A signed 32-bit coordinate or length. -/
abbrev Coord := Int32

/-- The coordinate nearest to `n`. -/
def Coord.clamp (n : Int) : Coord :=
  Int32.ofIntClamp n

/-- Why an arithmetic step could not be carried out. -/
inductive Fault where
  | negativeSize (w h : Coord)
  | addOverflow
  deriving DecidableEq, Repr

/-- The text a fault is reported with. -/
def Fault.message : Fault → String
  | .negativeSize w h => s!"Attempting to create a `Size` of negative size: ({w}, {h})"
  | .addOverflow => "attempt to add with overflow"

/-- `n` as a coordinate, or a fault when it is outside the range. -/
def Coord.ofInt? (n : Int) : Except Fault Coord :=
  if Int32.minValue.toInt ≤ n ∧ n ≤ Int32.maxValue.toInt then .ok (Int32.ofInt n)
  else .error .addOverflow

/-- A point of the plane, or the difference of two. -/
structure Point where
  x : Coord
  y : Coord
  deriving DecidableEq, Repr

namespace Point

/-- The origin of the plane. -/
def origin : Point := ⟨0, 0⟩

instance : Inhabited Point := ⟨origin⟩

/-- Sum, stopping at the ends of the range. -/
def add (p q : Point) : Point :=
  ⟨Coord.clamp (p.x.toInt + q.x.toInt), Coord.clamp (p.y.toInt + q.y.toInt)⟩

/-- Difference, stopping at the ends of the range. -/
def sub (p q : Point) : Point :=
  ⟨Coord.clamp (p.x.toInt - q.x.toInt), Coord.clamp (p.y.toInt - q.y.toInt)⟩

instance : Add Point := ⟨add⟩

instance : Sub Point := ⟨sub⟩

end Point

/-- A width and a height, neither negative. -/
structure Size where
  w : Coord
  h : Coord
  w_nonneg : 0 ≤ w
  h_nonneg : 0 ≤ h
  deriving DecidableEq, Repr

namespace Size

/-- The empty size, which lets a client pick its own. -/
def zero : Size := ⟨0, 0, by decide, by decide⟩

instance : Inhabited Size := ⟨zero⟩

/-- The size of the given width and height, or a fault when one is negative. -/
def ofParts (w h : Coord) : Except Fault Size :=
  if hs : 0 ≤ w ∧ 0 ≤ h then .ok ⟨w, h, hs.1, hs.2⟩ else .error (.negativeSize w h)

end Size

/-- A rectangle: its top left corner and its size. -/
structure Rect where
  loc : Point
  size : Size
  deriving DecidableEq, Repr, Inhabited

namespace Rect

/-- The rectangle with corner `(x, y)`, or a fault when a length is negative. -/
def ofParts (x y w h : Coord) : Except Fault Rect :=
  (Size.ofParts w h).map fun size => ⟨⟨x, y⟩, size⟩

/-- The start of a length `inner` centred on the length `outer` that begins at
`start`; half of an odd difference is rounded toward zero. -/
def centeredStart (start outer inner : Coord) : Except Fault Coord :=
  Coord.ofInt? (start.toInt + (outer.toInt - inner.toInt).tdiv 2)

/-- The corner that centres `size` on `area`. Without an area it is the origin. -/
def centered (area : Option Rect) (size : Size) : Except Fault Point :=
  match area with
  | none => .ok .origin
  | some area => do
    let x ← centeredStart area.loc.x area.size.w size.w
    let y ← centeredStart area.loc.y area.size.h size.h
    return ⟨x, y⟩

end Rect

end Kiosk
