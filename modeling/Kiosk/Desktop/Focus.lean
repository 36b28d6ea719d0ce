import Kiosk.Desktop

/-!
# Keyboard focus

Each seat with a keyboard focuses at most one window. A window is activated when
its first seat arrives and deactivated when its last seat leaves. A seat without
a keyboard keeps the focus it had, and takes no part in changes.
-/

namespace Kiosk.Desktop

/-- Takes the focus of `seat` off its window. -/
def releaseFocus (d : Desktop) (seat : SeatId) : Desktop :=
  match (d.shell.seats.get? seat).bind Seat.focused with
  | none => d
  | some link =>
    let d := d.update (·.modifySeat seat ({ · with focused := none }))
    match d.shell.windows.get? link.source with
    | none => d
    | some window =>
      let count := window.focusCount - 1
      let d := d.update fun s =>
        (s.unwatchWindow link).modifyWindow link.source ({ · with focusCount := count })
      if count = 0 then d.tell (·.setActivated window.surface false) else d

/-- Puts the focus of `seat`, which has none, on `w`, if `w` is live. -/
def takeFocus (d : Desktop) (seat : SeatId) (w : WindowId) : Desktop :=
  match d.shell.windows.get? w, d.shell.watchWindow w (.seatFocus seat) with
  | some window, (some link, s) =>
    let d := { d with shell := s }
    let d := if window.focusCount = 0 then d.tell (·.setActivated window.surface true) else d
    d.update fun s =>
      (s.modifyWindow w ({ · with focusCount := window.focusCount + 1 })).modifySeat seat
        ({ · with focused := some link })
  | _, _ => d

/-- The host reports that the keyboard focus of `seat` is now on the given window. A window
that is gone counts as none. -/
def keyboardFocusChanged (d : Desktop) (seat : SeatId) (focus : Option WindowId) : Desktop :=
  match d.shell.seats.get? seat with
  | none => d
  | some record =>
    let focus := focus.filter d.shell.isLive
    if !record.hasKeyboard || record.focusedWindow = focus then d
    else
      let d := d.releaseFocus seat
      match focus with
      | none => d
      | some w => d.takeFocus seat w

/-- Moves the keyboard focus of `seat` to the given window and tells the host so. -/
def focusSeat (d : Desktop) (seat : SeatId) (w : Option WindowId) : Desktop :=
  match d.shell.seats.get? seat with
  | none => d
  | some record =>
    if record.hasKeyboard then
      let surface := (w.bind d.shell.windows.get?).map Window.surface
      (d.tell (·.setKeyboardFocus record.handle surface)).keyboardFocusChanged seat w
    else d

/-- The seat goes away, with its focus and its drag. -/
def seatRemoved (d : Desktop) (seat : SeatId) : Desktop :=
  (d.releaseFocus seat).update fun s =>
    let s := s.endGrab seat
    { s with seats := s.seats.erase seat }

end Kiosk.Desktop
