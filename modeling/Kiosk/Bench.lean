import Kiosk.Event

/-!
# The bench

A desktop set up for trying things out: handles are chosen for the caller, outputs
are placed side by side, and common sequences of events have operations of their
own. An operation that cannot go on halts the bench; what the host was told
before stays told.
-/

namespace Kiosk

/-- A desktop under trial. -/
structure Bench where
  desktop : Desktop
  lastSurface : Nat
  lastOutput : Nat
  lastSeat : Nat
  /-- The left edge of the next output that is placed beside the others. -/
  nextX : Coord
  deriving Inhabited

/-- Why the bench halts. -/
inductive Halt where
  | fault (fault : Fault)
  | noOutput (name : String) (shortage : Shortage)
  | noWindow (shortage : Shortage)
  | noChild (parent : WindowId) (shortage : Shortage)
  deriving DecidableEq, Repr

/-- The text for something that could not be allocated on the bench. -/
def Shortage.benchMessage (s : Shortage) : String :=
  "shell error: " ++ s.message

/-- A window id as messages show it: the number of its slot, and the number of times that
slot was filled or vacated. An id of generation zero, which no slot ever has, is shown as
null. -/
def Id.text (w : WindowId) : String :=
  if w.generation = 0 then "WindowId(null)"
  else s!"WindowId({w.slot + 1}v{2 * w.generation - 1})"

/-- The text the bench halts with. -/
def Halt.message : Halt → String
  | .fault f => f.message
  | .noOutput name s => s!"failed to add output {name}: " ++ s.benchMessage
  | .noWindow s => "failed to add window: " ++ s.benchMessage
  | .noChild parent s => s!"failed to add child of {parent.text}: " ++ s.benchMessage

/-- A computation on the bench that may halt it. -/
abbrev Trial := ExceptT Halt (StateM Bench)

/-- Runs a computation on a bench. -/
def Trial.on {α : Type} (t : Trial α) (b : Bench) : Except Halt α × Bench :=
  t.run.run b

namespace Bench

/-- A bench without records. -/
def fresh (config : Config) : Bench where
  desktop := .fresh config
  lastSurface := 0
  lastOutput := 0
  lastSeat := 0
  nextX := 0

/-- Changes the desktop. -/
def apply (f : Desktop → Desktop) : Trial Unit :=
  modify fun b => { b with desktop := f b.desktop }

/-- Changes the desktop by an operation that has a result. -/
def perform {α : Type} (f : Desktop → α × Desktop) : Trial α :=
  modifyGet fun b =>
    let (a, desktop) := f b.desktop
    (a, { b with desktop })

/-- Halts the bench if a value could not be made. -/
def orFault {α : Type} : Except Fault α → Trial α
  | .ok a => return a
  | .error f => throw (.fault f)

/-! ## Outputs -/

/-- Adds an output with the given area. When that succeeds, the next output placed beside
the others begins no further left than where this one ends. -/
def tryAddOutput (name : String) (area : Rect) : Trial (Except Shortage OutputId) := do
  let handle ← modifyGet fun b : Bench =>
    (⟨b.lastOutput + 1⟩, { b with lastOutput := b.lastOutput + 1 })
  match ← perform (·.outputAdded handle name area) with
  | .error shortage => return .error shortage
  | .ok o =>
    let right ← orFault (Coord.ofInt? (area.loc.x.toInt + area.size.w.toInt))
    modify fun b => { b with nextX := max b.nextX right }
    return .ok o

/-- Adds an output with the given area, or halts the bench when it is refused. -/
def addOutputAt (name : String) (area : Rect) : Trial OutputId := do
  match ← tryAddOutput name area with
  | .ok o => return o
  | .error shortage => throw (.noOutput name shortage)

/-- Adds an output of the given size to the right of all others. -/
def addOutput (name : String) (w h : Coord) : Trial OutputId := do
  addOutputAt name (← orFault (Rect.ofParts (← get).nextX 0 w h))

/-- Removes an output. -/
def removeOutput (o : OutputId) : Trial Unit :=
  apply (·.outputRemoved o)

/-! ## Seats -/

/-- Adds a seat. -/
def addSeat (name : String) (hasKeyboard : Bool) : Trial SeatId := do
  let handle ← modifyGet fun b : Bench =>
    (⟨b.lastSeat + 1⟩, { b with lastSeat := b.lastSeat + 1 })
  perform fun d =>
    let (seat, shell) := d.shell.addSeat handle name hasKeyboard
    (seat, { d with shell })

/-- Removes a seat. -/
def removeSeat (seat : SeatId) : Trial Unit :=
  apply (·.seatRemoved seat)

/-! ## Windows -/

/-- Adds a window, which is placed and focused but not mapped. -/
def tryAddWindow (appId : Option String) (parent : Option WindowId) :
    Trial (Except Shortage WindowId) := do
  let surface ← modifyGet fun b : Bench =>
    (⟨b.lastSurface + 1⟩, { b with lastSurface := b.lastSurface + 1 })
  perform (·.windowAdded surface appId parent)

/-- Adds a root window. -/
def addWindow (appId : Option String) : Trial WindowId := do
  match ← tryAddWindow appId none with
  | .ok w => return w
  | .error shortage => throw (.noWindow shortage)

/-- Adds a child of a window. -/
def addChild (parent : WindowId) (appId : Option String) : Trial WindowId := do
  match ← tryAddWindow appId (some parent) with
  | .ok w => return w
  | .error shortage => throw (.noChild parent shortage)

/-- Commits to a window. -/
def commit (w : WindowId) (width height : Coord) (offset geometry : Point) : Trial Unit := do
  let size ← orFault (Size.ofParts width height)
  match ← perform (·.windowCommitted w ⟨size, offset, geometry⟩) with
  | none => return ()
  | some f => throw (.fault f)

/-- Commits a buffer of the given size. -/
def map (w : WindowId) (width height : Coord) : Trial Unit :=
  commit w width height .origin .origin

/-- Adds a root window and maps it. -/
def addMappedWindow (appId : Option String) (width height : Coord) : Trial WindowId := do
  let w ← addWindow appId
  map w width height
  return w

/-- Adds a child of a window and maps it. -/
def addMappedChild (parent : WindowId) (width height : Coord) : Trial WindowId := do
  let w ← addChild parent none
  map w width height
  return w

/-- Removes a window. -/
def remove (w : WindowId) : Trial Unit :=
  apply (·.windowRemoved w)

/-! ## Input -/

/-- Focuses a window as a click would. -/
def focus (seat : SeatId) (w : Option WindowId) : Trial Unit :=
  apply (·.focusSeat seat w)

/-- Reports a change of focus by the host. -/
def reportFocus (seat : SeatId) (w : Option WindowId) : Trial Unit :=
  apply (·.keyboardFocusChanged seat w)

/-- Clicks on a window with the primary button. -/
def click (seat : SeatId) (w : WindowId) : Trial Unit :=
  apply (·.pointerButton seat Desktop.leftButton (some w) true)

/-- Holds the primary button on a window and asks to drag it. -/
def startPointerMove (seat : SeatId) (w : WindowId) (location : Point) : Trial GrabOutcome :=
  let request : MoveRequest := ⟨7, some ⟨some w, 1, 7, location⟩, none⟩
  perform fun d =>
    let (outcome, shell) := d.shell.moveRequested w seat request
    (outcome, { d with shell })

/-- Makes the host refuse the next view. -/
def failNextView : Trial Unit :=
  apply (·.tell ({ · with failNextView := true }))

/-! ## Fixtures -/

/-- One output of the usual size. -/
def singleOutput : Trial Unit :=
  discard (addOutput "DP-1" 1920 1080)

/-- One output and one seat with a keyboard. -/
def kiosk : Trial Unit := do
  singleOutput
  discard (addSeat "seat0" true)

/-- Two outputs, the second of which is for media players by `mediaConfig`, and a seat. -/
def dualOutput : Trial Unit := do
  singleOutput
  discard (addOutput "HDMI-A-1" 1280 720)
  discard (addSeat "seat0" true)

/-- A configuration that reserves the second output of `dualOutput` for media players. -/
def mediaConfig : Config :=
  ⟨false, [⟨"HDMI-A-1", some "vlc,mpv"⟩]⟩

/-- A mapped root with a mapped dialog in front of it. -/
def rootWithDialog : Trial Unit := do
  kiosk
  let root ← addMappedWindow (some "app") 1920 1080
  discard (addMappedChild root 400 300)

end Bench

end Kiosk
