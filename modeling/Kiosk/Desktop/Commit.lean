import Kiosk.Desktop

/-!
# Commits

A client commits the contents of its surface. The first commit with contents maps
the window; a later one moves it when an output-sized window changes its size, or
by the buffer's own offset when the window is in normal placement.
-/

namespace Kiosk.Desktop

/-- Where a commit puts a window that is mapped or resized by it: where a legacy client
asked for, if the window is in normal placement, else in the middle of its output. -/
def commitPosition (s : Shell) (window : Window) (commit : Commit) : Except Fault Point :=
  match window.xwaylandPosition with
  | some requested =>
    if window.placement.fillsOutput then Rect.centered (s.areaOf window) commit.size
    else .ok (requested - commit.geometry)
  | none => Rect.centered (s.areaOf window) commit.size

/-- Maps `w` in front of all others. -/
def mapWindow (d : Desktop) (w : WindowId) (view : ViewHandle) : Desktop :=
  (d.update fun s =>
    { s.modifyWindow w ({ · with mapped := true }) with stacking := w :: s.stacking }).tell
      (·.mapView view)

/-- Moves `w` by `offset` from where it is. -/
def shiftWindow (d : Desktop) (w : WindowId) (offset : Point) : Desktop :=
  match d.shell.windows.get? w with
  | none => d
  | some window => d.moveView w (window.position + offset)

/-- Carries out what a commit does to a window after it was positioned. -/
def finishCommit (d : Desktop) (w : WindowId) (window : Window) (commit : Commit) : Desktop :=
  let d := if window.mapped then d else d.mapWindow w window.view
  let d :=
    if window.placement.fillsOutput || commit.offset = .origin then d
    else d.shiftWindow w commit.offset
  d.update (·.modifyWindow w ({ · with lastSize := commit.size }))

/-- A client commits. A commit without width has no effect. -/
def windowCommitted (d : Desktop) (w : WindowId) (commit : Commit) : Option Fault × Desktop :=
  match d.shell.windows.get? w with
  | none => (none, d)
  | some window =>
    if commit.size.w = 0 then (none, d)
    else if !window.mapped || (window.placement.fillsOutput && commit.size ≠ window.lastSize) then
      match commitPosition d.shell window commit with
      | .error fault => (some fault, d)
      | .ok p => (none, (d.moveView w p).finishCommit w window commit)
    else (none, d.finishCommit w window commit)

end Kiosk.Desktop
