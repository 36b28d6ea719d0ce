import Kiosk.Desktop.Lifetime
import Kiosk.Desktop.Outputs
import Kiosk.Desktop.Pointing

/-!
# Events

Everything a compositor can tell the shell, and what it gets back. Only a missing
allocation is an error. An event for a record that is gone is absorbed. A fault is
the end of a run: what the host was told before it stays told.
-/

namespace Kiosk

/-- A notification from the compositor. -/
inductive Event where
  | windowAdded (surface : SurfaceHandle) (appId : Option String) (parent : Option WindowId)
  | windowRemoved (window : WindowId)
  | windowCommitted (window : WindowId) (commit : Commit)
  | parentChanged (window : WindowId) (parent : Option WindowId)
  | fullscreenRequested (window : WindowId) (fullscreen : Bool) (output : Option OutputId)
  | maximizeRequested (window : WindowId) (maximized : Bool)
  | minimizeRequested (window : WindowId)
  | resizeRequested (window : WindowId)
  | moveRequested (window : WindowId) (seat : SeatId) (request : MoveRequest)
  | xwaylandPositionSet (window : WindowId) (position : Point)
  | appIdChanged (window : WindowId) (appId : Option String)
  | outputAdded (handle : OutputHandle) (name : String) (area : Rect)
  | outputRemoved (output : OutputId)
  | outputResized (output : OutputId) (area : Rect)
  | outputMoved (output : OutputId) (delta : Point)
  | seatAdded (handle : SeatHandle) (name : String) (hasKeyboard : Bool)
  | seatCapabilitiesChanged (seat : SeatId) (hasKeyboard : Bool)
  | seatRemoved (seat : SeatId)
  | keyboardFocusChanged (seat : SeatId) (focus : Option WindowId)
  | pointerButton (seat : SeatId) (button : UInt32) (focus : Option WindowId)
      (defaultGrab : Bool)
  | touchDown (seat : SeatId) (focus : Option WindowId) (defaultGrab : Bool)
  | grabMotion (seat : SeatId) (location : Point)
  | grabReleased (seat : SeatId)
  deriving DecidableEq, Repr

/-- What an event led to. -/
inductive Reply where
  /-- A window was made. -/
  | window (w : WindowId)
  /-- An output was made. -/
  | output (o : OutputId)
  /-- A seat was made. -/
  | seat (seat : SeatId)
  /-- A request to be dragged was answered. -/
  | grab (outcome : GrabOutcome)
  | handled
  /-- Something could not be allocated, and the event was dropped. -/
  | refused (shortage : Shortage)
  /-- Arithmetic failed part way. -/
  | fault (fault : Fault)
  deriving DecidableEq, Repr

namespace Reply

/-- The reply to an event that makes a window. -/
def ofWindow : Except Shortage WindowId → Reply
  | .ok w => .window w
  | .error shortage => .refused shortage

/-- The reply to an event that makes an output. -/
def ofOutput : Except Shortage OutputId → Reply
  | .ok o => .output o
  | .error shortage => .refused shortage

/-- The reply to an event that may fault. -/
def ofFault : Option Fault → Reply
  | some f => .fault f
  | none => .handled

end Reply

/-- Applies one event. Requests to be minimized or resized are ignored: there is nowhere to
minimize to, and sizes are the shell's. -/
def Desktop.dispatch (d : Desktop) : Event → Reply × Desktop
  | .windowAdded surface appId parent =>
    let (made, d) := d.windowAdded surface appId parent
    (.ofWindow made, d)
  | .windowRemoved w => (.handled, d.windowRemoved w)
  | .windowCommitted w commit =>
    let (fault, d) := d.windowCommitted w commit
    (.ofFault fault, d)
  | .parentChanged w parent => (.handled, d.setParent w parent)
  | .fullscreenRequested w fullscreen o => (.handled, d.fullscreenRequested w fullscreen o)
  | .maximizeRequested w maximized => (.handled, d.maximizeRequested w maximized)
  | .minimizeRequested _ => (.handled, d)
  | .resizeRequested _ => (.handled, d)
  | .moveRequested w seat request =>
    let (outcome, shell) := d.shell.moveRequested w seat request
    (.grab outcome, { d with shell })
  | .xwaylandPositionSet w p => (.handled, d.update (·.setXwaylandPosition w p))
  | .appIdChanged w appId => (.handled, d.update (·.setAppId w appId))
  | .outputAdded handle name area =>
    let (made, d) := d.outputAdded handle name area
    (.ofOutput made, d)
  | .outputRemoved o => (.handled, d.outputRemoved o)
  | .outputResized o area =>
    let (fault, d) := d.outputResized o area
    (.ofFault fault, d)
  | .outputMoved o delta => (.handled, d.outputMoved o delta)
  | .seatAdded handle name hasKeyboard =>
    let (seat, shell) := d.shell.addSeat handle name hasKeyboard
    (.seat seat, { d with shell })
  | .seatCapabilitiesChanged seat hasKeyboard =>
    (.handled, d.update (·.setHasKeyboard seat hasKeyboard))
  | .seatRemoved seat => (.handled, d.seatRemoved seat)
  | .keyboardFocusChanged seat focus => (.handled, d.keyboardFocusChanged seat focus)
  | .pointerButton seat button focus defaultGrab =>
    (.handled, d.pointerButton seat button focus defaultGrab)
  | .touchDown seat focus defaultGrab => (.handled, d.touchDown seat focus defaultGrab)
  | .grabMotion seat location => (.handled, d.grabMotion seat location)
  | .grabReleased seat => (.handled, d.update (·.endGrab seat))

end Kiosk
