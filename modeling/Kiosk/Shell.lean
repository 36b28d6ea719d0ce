import Kiosk.Config
import Kiosk.Output
import Kiosk.Seat
import Kiosk.Window.Family

/-!
# The shell's records

All that the shell knows: windows, their families and stacking order, outputs,
seats and drags. This module holds what can be asked of the records and the
changes that concern the records alone. What also tells the host something is in
`Desktop` and the modules below it.

Links between records are made by `watchWindow` and `watchOutput` and ended by
`unwatchWindow` and `unwatchOutput`, which keep the target's signal in step.
-/

namespace Kiosk

/-- The state of the shell. -/
structure Shell where
  config : Config
  windows : Windows
  children : Children
  /-- The mapped windows, front to back. -/
  stacking : List WindowId
  outputs : Outputs
  seats : Seats
  /-- The drag each seat is in. -/
  grabs : Assoc SeatId Grab

namespace Shell

/-- A shell without records. -/
def fresh (config : Config) : Shell where
  config
  windows := .empty
  children := .empty
  stacking := []
  outputs := .empty
  seats := .empty
  grabs := .empty

instance : Inhabited Shell := ⟨fresh default⟩

/-! ## Questions -/

/-- Whether `w` names a window. -/
def isLive (s : Shell) (w : WindowId) : Bool :=
  s.windows.contains w

/-- The root of the family of `w`. -/
def rootOf (s : Shell) (w : WindowId) : Option WindowId :=
  Windows.rootOf s.windows w

/-- The output `w` is on. -/
def outputOf (s : Shell) (w : WindowId) : Option OutputId :=
  (s.windows.get? w).bind Window.output

/-- The area of the output a window is on. -/
def areaOf (s : Shell) (window : Window) : Option Rect :=
  (window.output.bind s.outputs.get?).map Output.area

/-- The window with the keyboard focus of `seat`. -/
def focusedWindow (s : Shell) (seat : SeatId) : Option WindowId :=
  (s.seats.get? seat).bind Seat.focusedWindow

/-- The seat that drags `w`. -/
def grabbingSeat (s : Shell) (w : WindowId) : Option SeatId :=
  (s.grabs.entries.find? (·.2.window.source = w)).map Prod.fst

/-- The output with the input focus: that of the window focused by the oldest seat whose
focused window is on an output. -/
def focusedOutput (s : Shell) : Option OutputId :=
  s.seats.toList.findSome? fun (_, seat) => seat.focusedWindow.bind s.outputOf

/-- The output `w` would be placed on now. -/
def bestOutput (s : Shell) (w : WindowId) : Option OutputId := do
  let window ← s.windows.get? w
  OutputQuery.best
    { bound := window.output
      appId := window.appId
      root := (s.rootOf w).bind s.outputOf
      focused := s.focusedOutput }
    s.outputs

/-- Who gets the focus of `w` when it goes away. -/
def heirOf (s : Shell) (w : WindowId) : Option WindowId :=
  heir s.stacking w s.rootOf

/-- The windows on `o`: the mapped ones front to back, then the unmapped ones. -/
def windowsOn (s : Shell) (o : OutputId) : List WindowId :=
  let unmapped := (s.windows.toList.filter fun (_, window) => !window.mapped).map Prod.fst
  (s.stacking ++ unmapped).filter fun w => s.outputOf w = some o

/-- The windows on `o` that have its size. -/
def filledWindowsOn (s : Shell) (o : OutputId) : List WindowId :=
  (s.windowsOn o).filter fun w => (s.windows.get? w).any (·.placement.fillsOutput)

/-! ## Links -/

/-- Changes the record of `w`, if it is live. -/
def modifyWindow (s : Shell) (w : WindowId) (f : Window → Window) : Shell :=
  { s with windows := s.windows.modify w f }

/-- Changes the record of `o`, if it is live. -/
def modifyOutput (s : Shell) (o : OutputId) (f : Output → Output) : Shell :=
  { s with outputs := s.outputs.modify o f }

/-- Changes the record of `seat`, if it is live. -/
def modifySeat (s : Shell) (seat : SeatId) (f : Seat → Seat) : Shell :=
  { s with seats := s.seats.modify seat f }

/-- A link to `w` with `listener` subscribed, if `w` is live. -/
def watchWindow (s : Shell) (w : WindowId) (listener : Listener) :
    Option (Link .window) × Shell :=
  match s.windows.get? w with
  | none => (none, s)
  | some window =>
    let (token, signal) := window.signal.subscribe listener
    (some ⟨w, token⟩, s.modifyWindow w ({ · with signal }))

/-- A link to `o` with `listener` subscribed, if `o` is live. -/
def watchOutput (s : Shell) (o : OutputId) (listener : Listener) :
    Option (Link .output) × Shell :=
  match s.outputs.get? o with
  | none => (none, s)
  | some output =>
    let (token, signal) := output.signal.subscribe listener
    (some ⟨o, token⟩, s.modifyOutput o ({ · with signal }))

/-- Ends the subscription of a link to a window. -/
def unwatchWindow (s : Shell) (link : Link .window) : Shell :=
  s.modifyWindow link.source fun window =>
    { window with signal := window.signal.unsubscribe link.token }

/-- Ends the subscription of a link to an output. -/
def unwatchOutput (s : Shell) (link : Link .output) : Shell :=
  s.modifyOutput link.source fun output =>
    { output with signal := output.signal.unsubscribe link.token }

/-! ## Families -/

/-- Makes `w` a root. -/
def detach (s : Shell) (w : WindowId) : Shell :=
  match (s.windows.get? w).bind Window.parent with
  | none => s
  | some link =>
    let s := (s.modifyWindow w ({ · with parent := none })).unwatchWindow link
    { s with children := s.children.unlink link.source w }

/-- Makes the root `w` the last child of `p`, if `p` is live. -/
def attach (s : Shell) (w p : WindowId) : Shell :=
  match s.watchWindow p (.parent w) with
  | (none, s) => s
  | (some link, s) =>
    let s := s.modifyWindow w ({ · with parent := some link })
    { s with children := s.children.link p w }

/-! ## Outputs of windows -/

/-- Takes `w` off its output. -/
def leaveOutput (s : Shell) (w : WindowId) : Shell :=
  match (s.windows.get? w).bind Window.boundOutput with
  | none => s
  | some link => (s.modifyWindow w ({ · with boundOutput := none })).unwatchOutput link

/-- Puts `w`, which is on no output, on `o`, if `o` is live. -/
def enterOutput (s : Shell) (w : WindowId) (o : OutputId) : Shell :=
  match s.watchOutput o (.boundOutput w) with
  | (none, s) => s
  | (some link, s) => s.modifyWindow w ({ · with boundOutput := some link })

/-- Puts `w` on the given output, or on none. An output that is gone counts as none. -/
def setOutput (s : Shell) (w : WindowId) (o : Option OutputId) : Shell :=
  if s.isLive w then
    match o with
    | none => s.leaveOutput w
    | some o => (s.leaveOutput w).enterOutput w o
  else s

/-! ## What clients report about a window -/

/-- Changes the application id of `w`. -/
def setAppId (s : Shell) (w : WindowId) (appId : Option String) : Shell :=
  s.modifyWindow w ({ · with appId })

/-- Records the position a legacy client asks for. It is used in place of centring when the
window is mapped in normal placement. -/
def setXwaylandPosition (s : Shell) (w : WindowId) (p : Point) : Shell :=
  s.modifyWindow w ({ · with xwaylandPosition := some p })

/-! ## Seats -/

/-- Adds a seat. -/
def addSeat (s : Shell) (handle : SeatHandle) (name : String) (hasKeyboard : Bool) :
    SeatId × Shell :=
  let (seat, seats) := s.seats.insert (.ofHandle handle name hasKeyboard)
  (seat, { s with seats })

/-- Records that `seat` has or has not got a keyboard. Its focus stays what it is. -/
def setHasKeyboard (s : Shell) (seat : SeatId) (hasKeyboard : Bool) : Shell :=
  s.modifySeat seat ({ · with hasKeyboard })

/-! ## Drags -/

/-- Lets `seat` drag `w`, if the request matches what the seat holds, the window is in
normal placement, and neither is in a drag. -/
def moveRequested (s : Shell) (w : WindowId) (seat : SeatId) (request : MoveRequest) :
    GrabOutcome × Shell :=
  match s.windows.get? w, request.deviceFor w with
  | some window, some (device, location) =>
    if window.placement.fillsOutput || (s.grabbingSeat w).isSome || s.grabs.contains seat ||
        !s.seats.contains seat then
      (.ignored, s)
    else
      match s.watchWindow w (.grab seat) with
      | (none, s) => (.ignored, s)
      | (some link, s) =>
        let grab : Grab := { device, window := link, offset := window.position - location }
        (.started device, { s with grabs := s.grabs.insert seat grab })
  | _, _ => (.ignored, s)

/-- Ends the drag `seat` is in. -/
def endGrab (s : Shell) (seat : SeatId) : Shell :=
  match s.grabs.get? seat with
  | none => s
  | some grab => { s with grabs := s.grabs.erase seat }.unwatchWindow grab.window

end Shell

end Kiosk
