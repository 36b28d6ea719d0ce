import Kiosk.Geometry
import Kiosk.Handle
import Kiosk.Link
import Kiosk.Store.Roster

/-!
# Seats

What the shell keeps of one input seat, and the moves a seat can drag a window
through. A client may ask to be dragged while a button or a touch point is held
on it; the request names the input event it reacts to by a serial, and only the
event that began the present hold will do.
-/

namespace Kiosk

/-- The record of one seat. -/
structure Seat where
  handle : SeatHandle
  name : String
  /-- Focus changes count only while there is a keyboard. -/
  hasKeyboard : Bool
  focused : Option (Link .window)
  deriving DecidableEq, Repr

namespace Seat

/-- The record of a seat that has just appeared. -/
def ofHandle (handle : SeatHandle) (name : String) (hasKeyboard : Bool) : Seat :=
  { handle, name, hasKeyboard, focused := none }

/-- The window with the seat's keyboard focus. -/
def focusedWindow (s : Seat) : Option WindowId :=
  s.focused.map Link.source

end Seat

/-- The records of all seats. -/
abbrev Seats := Roster .seat Seat

namespace Seats

/-- The seats with a keyboard, oldest first. -/
def withKeyboard (seats : Seats) : List SeatId :=
  (seats.toList.filter (·.2.hasKeyboard)).map Prod.fst

/-- The seats whose keyboard focus is on `w`, oldest first. -/
def focusedOn (seats : Seats) (w : WindowId) : List SeatId :=
  (seats.toList.filter (·.2.focusedWindow = some w)).map Prod.fst

end Seats

/-- The device that drags. -/
inductive Device where
  | pointer
  | touch
  deriving DecidableEq, Repr

/-- The pointer of the seat that is asked to drag. -/
structure PointerHold where
  /-- The window under the pointer. -/
  focus : Option WindowId
  /-- How many buttons are held. -/
  buttons : UInt32
  /-- The event that began the hold. -/
  serial : UInt32
  location : Point
  deriving DecidableEq, Repr

/-- The first touch point of the seat that is asked to drag. -/
structure TouchHold where
  /-- The window under the touch point. -/
  focus : Option WindowId
  /-- The event that began the hold. -/
  serial : UInt32
  location : Point
  deriving DecidableEq, Repr

/-- A client's request to be dragged. -/
structure MoveRequest where
  serial : UInt32
  pointer : Option PointerHold
  touch : Option TouchHold
  deriving DecidableEq, Repr

namespace MoveRequest

/-- The window held by the pointer in the event the request names, and where. -/
def heldByPointer (r : MoveRequest) : Option (WindowId × Point) := do
  let p ← r.pointer
  let w ← p.focus
  if 0 < p.buttons ∧ p.serial = r.serial then some (w, p.location) else none

/-- The window held by touch in the event the request names, and where. -/
def heldByTouch (r : MoveRequest) : Option (WindowId × Point) := do
  let t ← r.touch
  let w ← t.focus
  if t.serial = r.serial then some (w, t.location) else none

/-- The device that may drag `w`, and where it is. A pointer that holds another window
decides against `w`, whatever is touched. -/
def deviceFor (r : MoveRequest) (w : WindowId) : Option (Device × Point) :=
  match r.heldByPointer, r.heldByTouch with
  | some (held, location), _ => if held = w then some (.pointer, location) else none
  | none, some (held, location) => if held = w then some (.touch, location) else none
  | none, none => none

end MoveRequest

/-- A drag in progress. -/
structure Grab where
  device : Device
  window : Link .window
  /-- The window's position less the device's location, as they were at the start. -/
  offset : Point
  deriving DecidableEq, Repr

/-- What became of a request to be dragged. -/
inductive GrabOutcome where
  | started (device : Device)
  | ignored
  deriving DecidableEq, Repr

end Kiosk
