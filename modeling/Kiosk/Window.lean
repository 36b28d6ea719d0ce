import Kiosk.Geometry
import Kiosk.Handle
import Kiosk.Link

/-!
# Windows

What the shell keeps of one window, from the moment its surface is announced
until it is removed. The surface and the view belong to the host; the record
holds their handles.
-/

namespace Kiosk

/-- How a window occupies its output. -/
inductive Placement where
  /-- The client chooses the size. -/
  | normal
  /-- As large as the output, but not fullscreen. -/
  | maximized
  /-- As large as the output, and fullscreen. -/
  | fullscreen
  deriving DecidableEq, Repr

/-- Whether a window placed so has the size of its output. -/
def Placement.fillsOutput : Placement → Bool
  | .normal => false
  | .maximized => true
  | .fullscreen => true

/-- What a client commits for a surface. -/
structure Commit where
  size : Size
  /-- How far the buffer moves with this commit. -/
  offset : Point
  /-- Where the window's own area begins inside the surface. -/
  geometry : Point
  deriving DecidableEq, Repr

/-- The record of one window. -/
structure Window where
  surface : SurfaceHandle
  view : ViewHandle
  appId : Option String
  placement : Placement
  boundOutput : Option (Link .output)
  parent : Option (Link .window)
  /-- How many seats have their keyboard focus here. -/
  focusCount : Nat
  lastSize : Size
  /-- The position a legacy client asked for. -/
  xwaylandPosition : Option Point
  position : Point
  mapped : Bool
  signal : Signal
  deriving DecidableEq, Repr

namespace Window

/-- The record of a surface that has just been announced. -/
def ofSurface (surface : SurfaceHandle) (view : ViewHandle) (appId : Option String) : Window where
  surface
  view
  appId
  placement := .normal
  boundOutput := none
  parent := none
  focusCount := 0
  lastSize := .zero
  xwaylandPosition := none
  position := .origin
  mapped := false
  signal := .empty

/-- The output the window is on. -/
def output (w : Window) : Option OutputId :=
  w.boundOutput.map Link.source

/-- The window's parent. -/
def parentId (w : Window) : Option WindowId :=
  w.parent.map Link.source

/-- Whether the window has no parent. -/
def isRoot (w : Window) : Bool :=
  w.parent.isNone

end Window

/-- The records of all windows. -/
abbrev Windows := Arena .window Window

end Kiosk
