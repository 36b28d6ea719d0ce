import Kiosk.Command
import Kiosk.Store.Assoc
import Kiosk.Window

/-!
# The recording host

A host without a display. It hands out views from a counter, remembers what it
was told about each surface, view and seat, and logs every command in order. It
can be told to refuse the next view, which stands for being out of memory.
-/

namespace Kiosk

/-- What the host remembers. -/
structure Host where
  /-- All commands since the log was last taken, oldest first. -/
  log : List Command
  /-- The number of the view handed out last. -/
  lastView : Nat
  /-- Refuse the next view or background. -/
  failNextView : Bool
  /-- Whether a client is there to be told about missing memory. -/
  clientsConnected : Bool
  /-- The window stored with a surface. -/
  userData : Assoc SurfaceHandle WindowId
  liveViews : List ViewHandle
  /-- The mapped views, top first. -/
  viewStack : List ViewHandle
  viewPositions : Assoc ViewHandle Point
  keyboardFocus : Assoc SeatHandle SurfaceHandle
  activated : Assoc SurfaceHandle Bool
  fullscreen : Assoc SurfaceHandle Bool
  maximized : Assoc SurfaceHandle Bool
  sizes : Assoc SurfaceHandle Size
  deriving Inhabited

namespace Host

/-- A host that has been told nothing, with clients connected. -/
def fresh : Host where
  log := []
  lastView := 0
  failNextView := false
  clientsConnected := true
  userData := .empty
  liveViews := []
  viewStack := []
  viewPositions := .empty
  keyboardFocus := .empty
  activated := .empty
  fullscreen := .empty
  maximized := .empty
  sizes := .empty

/-- Logs a command. -/
def record (h : Host) (c : Command) : Host :=
  { h with log := h.log ++ [c] }

/-- The logged commands, and the host with an empty log. -/
def takeLog (h : Host) : List Command × Host :=
  (h.log, { h with log := [] })

/-! ## What the host is told -/

/-- Stores a window with a surface, or clears what is stored. -/
def setUserData (h : Host) (s : SurfaceHandle) (w : Option WindowId) : Host :=
  { h with userData := h.userData.set s w }.record (.setUserData s w.isSome)

/-- The next view, unless the host is to refuse it. -/
def allocateView (h : Host) : Option ViewHandle × Host :=
  if h.failNextView then (none, { h with failNextView := false })
  else
    let view : ViewHandle := ⟨h.lastView + 1⟩
    (some view, { h with lastView := view.number, liveViews := h.liveViews ++ [view] })

/-- Makes the view that shows `s`. -/
def createView (h : Host) (s : SurfaceHandle) : Option ViewHandle × Host :=
  match h.allocateView with
  | (none, h) => (none, h)
  | (some view, h) => (some view, h.record (.createView s view))

/-- Releases a view. -/
def destroyView (h : Host) (v : ViewHandle) : Host :=
  { h with
    liveViews := h.liveViews.filter (· ≠ v)
    viewStack := h.viewStack.filter (· ≠ v)
    viewPositions := h.viewPositions.erase v }.record (.destroyView v)

/-- Puts a view on top of the stack. -/
def onTop (h : Host) (v : ViewHandle) : Host :=
  { h with viewStack := v :: h.viewStack.filter (· ≠ v) }

/-- Maps a view on top of the others. -/
def mapView (h : Host) (v : ViewHandle) : Host :=
  (h.onTop v).record (.mapView v)

/-- Moves a mapped view on top of the others. -/
def raiseView (h : Host) (v : ViewHandle) : Host :=
  (h.onTop v).record (.raiseView v)

/-- Puts a view at a position. -/
def setViewPosition (h : Host) (v : ViewHandle) (p : Point) : Host :=
  { h with viewPositions := h.viewPositions.insert v p }.record (.setViewPosition v p)

/-- Makes a view that fills `area` behind all windows of an output. -/
def createBackground (h : Host) (o : OutputHandle) (area : Rect) : Option ViewHandle × Host :=
  match h.allocateView with
  | (none, h) => (none, h)
  | (some view, h) =>
    (some view,
      { h with viewPositions := h.viewPositions.insert view area.loc }.record
        (.createBackground o view area))

/-- Tells a client whether its surface is fullscreen. -/
def setFullscreen (h : Host) (s : SurfaceHandle) (b : Bool) : Host :=
  { h with fullscreen := h.fullscreen.insert s b }.record (.setFullscreen s b)

/-- Tells a client whether its surface is maximized. -/
def setMaximized (h : Host) (s : SurfaceHandle) (b : Bool) : Host :=
  { h with maximized := h.maximized.insert s b }.record (.setMaximized s b)

/-- Tells a client the size of its surface; the zero size lets it choose. -/
def setSize (h : Host) (s : SurfaceHandle) (size : Size) : Host :=
  { h with sizes := h.sizes.insert s size }.record (.setSize s size)

/-- Tells a client whether its surface is activated. -/
def setActivated (h : Host) (s : SurfaceHandle) (b : Bool) : Host :=
  { h with activated := h.activated.insert s b }.record (.setActivated s b)

/-- Moves a seat's keyboard focus to a surface, or takes it away. -/
def setKeyboardFocus (h : Host) (seat : SeatHandle) (s : Option SurfaceHandle) : Host :=
  { h with keyboardFocus := h.keyboardFocus.set seat s }.record (.setKeyboardFocus seat s)

/-- Reports missing memory to the client of `s`; whether there is one. -/
def postNoMemory (h : Host) (s : SurfaceHandle) : Bool × Host :=
  (h.clientsConnected, h.record (.postNoMemory s))

/-! ## What the host remembers -/

/-- Whether the surface was last told that it is activated. -/
def isActivated (h : Host) (s : SurfaceHandle) : Bool :=
  (h.activated.get? s).getD false

/-- Whether the surface was last told that it is fullscreen. -/
def isFullscreen (h : Host) (s : SurfaceHandle) : Bool :=
  (h.fullscreen.get? s).getD false

/-- Whether the surface was last told that it is maximized. -/
def isMaximized (h : Host) (s : SurfaceHandle) : Bool :=
  (h.maximized.get? s).getD false

/-- Whether the view is live. -/
def isViewLive (h : Host) (v : ViewHandle) : Bool :=
  h.liveViews.contains v

/-- The activation changes a surface was told, in the order of the log. -/
def activationChanges (h : Host) (s : SurfaceHandle) : List Bool :=
  h.log.filterMap fun
    | .setActivated t b => if t = s then some b else none
    | _ => none

end Host

end Kiosk
