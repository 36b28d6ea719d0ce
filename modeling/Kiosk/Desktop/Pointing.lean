import Kiosk.Desktop.Focus

/-!
# Clicks, touches and drags

A click or touch activates the window it hits. Children come to the front; a root
stays where it is, since raising it would hide its children.
-/

namespace Kiosk.Desktop

/-- The code of the primary pointer button. -/
def leftButton : UInt32 := 0x110

/-- The code of the secondary pointer button. -/
def rightButton : UInt32 := 0x111

/-- Moves `w` to the front. -/
def raiseWindow (d : Desktop) (w : WindowId) (view : ViewHandle) : Desktop :=
  (d.update fun s => { s with stacking := w :: s.stacking.filter (· ≠ w) }).tell
    (·.raiseView view)

/-- Brings `w` to the front if it is a mapped child, and focuses it. -/
def activateWindow (d : Desktop) (seat : SeatId) (w : WindowId) : Desktop :=
  match d.shell.windows.get? w with
  | none => d
  | some window =>
    let d := if !window.isRoot && window.mapped then d.raiseWindow w window.view else d
    d.focusSeat seat (some w)

/-- A touch point goes down on the given window. Nothing happens while another grab owns the
device. -/
def touchDown (d : Desktop) (seat : SeatId) (focus : Option WindowId) (defaultGrab : Bool) :
    Desktop :=
  match focus, defaultGrab with
  | some w, true => d.activateWindow seat w
  | _, _ => d

/-- A button is pressed over the given window. Only the primary and the secondary button
activate it. -/
def pointerButton (d : Desktop) (seat : SeatId) (button : UInt32) (focus : Option WindowId)
    (defaultGrab : Bool) : Desktop :=
  if button = leftButton ∨ button = rightButton then d.touchDown seat focus defaultGrab else d

/-- The device that drags for `seat` is now at `location`. -/
def grabMotion (d : Desktop) (seat : SeatId) (location : Point) : Desktop :=
  match d.shell.grabs.get? seat with
  | none => d
  | some grab => d.moveView grab.window.source (location + grab.offset)

end Kiosk.Desktop
