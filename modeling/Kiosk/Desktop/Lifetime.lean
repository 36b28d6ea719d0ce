import Kiosk.Desktop.Focus
import Kiosk.Desktop.Placing

/-!
# Windows that come and go

A new window is placed and gets the keyboard focus of every seat. A removed
window hands its focus to its heir and its children to its parent.
-/

namespace Kiosk.Desktop

/-- Makes the record of a surface, or reports missing memory to its client. The window is
on no output yet. -/
def createWindow (d : Desktop) (surface : SurfaceHandle) (appId : Option String) :
    Except Shortage WindowId × Desktop :=
  match d.host.createView surface with
  | (none, host) => (.error .shellSurface, { d with host := (host.postNoMemory surface).2 })
  | (some view, host) =>
    let (w, windows) := d.shell.windows.insert (.ofSurface surface view appId)
    (.ok w, ⟨{ d.shell with windows }, host.setUserData surface (some w)⟩)

/-- A surface appears. With a live parent it becomes a child of that, else a fullscreen
root; then every seat with a keyboard focuses it. -/
def windowAdded (d : Desktop) (surface : SurfaceHandle) (appId : Option String)
    (parent : Option WindowId) : Except Shortage WindowId × Desktop :=
  match d.createWindow surface appId with
  | (.error shortage, d) => (.error shortage, d)
  | (.ok w, d) =>
    let d :=
      match parent.filter d.shell.isLive with
      | some p => d.setParent w (some p)
      | none => d.setFullscreen w none
    (.ok w, d.shell.seats.withKeyboard.foldl (fun d seat => d.focusSeat seat (some w)) d)

/-- Ends the link a listener of the destroyed window `w` stands for: a child moves up to
`parent`, and a focus or a drag of `w` ends. -/
def windowGone (w : WindowId) (parent : Option WindowId) (d : Desktop) : Listener → Desktop
  | .parent child => d.setParent child parent
  | .boundOutput _ => d
  | .seatFocus seat =>
    if d.shell.focusedWindow seat = some w then
      d.update (·.modifySeat seat ({ · with focused := none }))
    else d
  | .grab seat =>
    if (d.shell.grabs.get? seat).any (·.window.source = w) then
      d.update fun s => { s with grabs := s.grabs.erase seat }
    else d

/-- Ends the links a destroyed window `w` itself held. -/
def dropLinks (s : Shell) (w : WindowId) (window : Window) : Shell :=
  let s :=
    match window.parent with
    | some link =>
      let s := s.unwatchWindow link
      { s with children := s.children.unlink link.source w }
    | none => s
  let s :=
    match window.boundOutput with
    | some link => s.unwatchOutput link
    | none => s
  { s with children := s.children.forget w }

/-- Tears down the record of `w`. The record is gone before its listeners run, so whatever
they do sees it as gone. -/
def destroyWindow (d : Desktop) (w : WindowId) : Desktop :=
  match d.shell.windows.get? w with
  | none => d
  | some window =>
    let d := d.update fun s =>
      { s with windows := s.windows.erase w, stacking := s.stacking.filter (· ≠ w) }
    let d := d.tell (·.setUserData window.surface none)
    let d := window.signal.drain.1.foldl (windowGone w window.parentId) d
    (d.update (dropLinks · w window)).tell (·.destroyView window.view)

/-- A surface goes away: every seat focused on it moves to its heir, then its record is torn
down. -/
def windowRemoved (d : Desktop) (w : WindowId) : Desktop :=
  if d.shell.isLive w then
    let heir := d.shell.heirOf w
    let d := (d.shell.seats.focusedOn w).foldl (fun d seat => d.focusSeat seat heir) d
    d.destroyWindow w
  else d

end Kiosk.Desktop
