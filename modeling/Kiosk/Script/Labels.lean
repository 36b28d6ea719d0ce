import Kiosk.Event
import Kiosk.Script.Step
import Kiosk.Text.Quoted

/-!
# Labels

Turns steps into events by replacing labels with ids (`Labels.resolve`). A label
is claimed by a step that makes a record, and bound to that record once it is
made (`Labels.bind`); when it could not be made the label is free again. Labels
stay bound after their records are gone, so scripts can replay events for stale
ids. No label is bound twice, whatever kind of record it is for.

Handles are counted from one, separately for surfaces, outputs and seats. A step
that claims a label uses a handle up even when its record is not made.
-/

namespace Kiosk

/-- The labels in use and the handles given out. -/
structure Labels where
  windows : Assoc String WindowId
  outputs : Assoc String OutputId
  seats : Assoc String SeatId
  lastSurface : Nat
  lastOutput : Nat
  lastSeat : Nat
  /-- The label that waits for the record its step is about to make. -/
  pending : Option String
  deriving Inhabited

/-- Why a step cannot be turned into an event. -/
inductive StepError where
  /-- No record of that kind goes by the label. -/
  | unknownLabel (kind : Kind) (label : String)
  | labelBound (label : String)
  | fault (fault : Fault)
  deriving DecidableEq, Repr

/-- The word for a kind of record in messages. -/
def Kind.word : Kind → String
  | .window => "window"
  | .output => "output"
  | .seat => "seat"

/-- The message for a step that cannot be turned into an event. -/
def StepError.message : StepError → String
  | .unknownLabel kind label => s!"unknown {kind.word} label " ++ Quoted.quote label
  | .labelBound label => "label " ++ Quoted.quote label ++ " is already bound"
  | .fault f => f.message

/-- A computation on labels that may fail. What it did to the labels before it failed
stays done. -/
abbrev Resolve := ExceptT StepError (StateM Labels)

namespace Labels

/-- No labels, and no handles given out. -/
def fresh : Labels where
  windows := .empty
  outputs := .empty
  seats := .empty
  lastSurface := 0
  lastOutput := 0
  lastSeat := 0
  pending := none

/-! ## Looking up -/

/-- The window a label stands for. -/
def window (label : String) : Resolve WindowId := do
  match (← get).windows.get? label with
  | some w => return w
  | none => throw (.unknownLabel .window label)

/-- The output a label stands for. -/
def output (label : String) : Resolve OutputId := do
  match (← get).outputs.get? label with
  | some o => return o
  | none => throw (.unknownLabel .output label)

/-- The seat a label stands for. -/
def seat (label : String) : Resolve SeatId := do
  match (← get).seats.get? label with
  | some seat => return seat
  | none => throw (.unknownLabel .seat label)

/-- The window a label stands for, if there is a label. -/
def window? : Option String → Resolve (Option WindowId)
  | some label => some <$> window label
  | none => return none

/-- The output a label stands for, if there is a label. -/
def output? : Option String → Resolve (Option OutputId)
  | some label => some <$> output label
  | none => return none

/-! ## Claiming -/

/-- Whether a label is bound. -/
def isBound (l : Labels) (label : String) : Bool :=
  l.windows.contains label || l.outputs.contains label || l.seats.contains label

/-- Reserves a label for the record a step is about to make. -/
def claim (label : String) : Resolve Unit := do
  if (← get).isBound label then throw (.labelBound label)
  else modify ({ · with pending := some label })

/-- The next handle for a surface. -/
def nextSurface : Resolve SurfaceHandle :=
  modifyGet fun l => (⟨l.lastSurface + 1⟩, { l with lastSurface := l.lastSurface + 1 })

/-- The next handle for an output. -/
def nextOutput : Resolve OutputHandle :=
  modifyGet fun l => (⟨l.lastOutput + 1⟩, { l with lastOutput := l.lastOutput + 1 })

/-- The next handle for a seat. -/
def nextSeat : Resolve SeatHandle :=
  modifyGet fun l => (⟨l.lastSeat + 1⟩, { l with lastSeat := l.lastSeat + 1 })

/-! ## Steps as events -/

/-- A size as written, checked. -/
def checkedSize (size : Point) : Resolve Size :=
  match Size.ofParts size.x size.y with
  | .ok size => return size
  | .error f => throw (.fault f)

/-- The serial of every request to be dragged. -/
def moveSerial : UInt32 := 1

/-- A request to be dragged that matches what the device holds. -/
def moveRequest (w : WindowId) (location : Point) : Device → MoveRequest
  | .pointer => ⟨moveSerial, some ⟨some w, 1, moveSerial, location⟩, none⟩
  | .touch => ⟨moveSerial, none, some ⟨some w, moveSerial, location⟩⟩

/-- The event a step stands for. -/
def eventOf : Step → Resolve Event
  | .windowAdded label appId parent => do
    let parent ← window? parent
    claim label
    return .windowAdded (← nextSurface) appId parent
  | .windowRemoved w => return .windowRemoved (← window w)
  | .windowCommitted w size offset geometry => do
    let w ← window w
    return .windowCommitted w ⟨← checkedSize size, offset, geometry⟩
  | .parentChanged w parent => do
    let w ← window w
    return .parentChanged w (← window? parent)
  | .fullscreenRequested w fullscreen o => do
    let w ← window w
    return .fullscreenRequested w fullscreen (← output? o)
  | .maximizeRequested w maximized => return .maximizeRequested (← window w) maximized
  | .minimizeRequested w => return .minimizeRequested (← window w)
  | .resizeRequested w => return .resizeRequested (← window w)
  | .moveRequested w s device location => do
    let w ← window w
    return .moveRequested w (← seat s) (moveRequest w location device)
  | .xwaylandPositionSet w position => return .xwaylandPositionSet (← window w) position
  | .appIdChanged w appId => return .appIdChanged (← window w) appId
  | .outputAdded label name loc size => do
    claim label
    let handle ← nextOutput
    return .outputAdded handle name ⟨loc, ← checkedSize size⟩
  | .outputRemoved o => return .outputRemoved (← output o)
  | .outputResized o loc size => do
    let o ← output o
    return .outputResized o ⟨loc, ← checkedSize size⟩
  | .outputMoved o delta => return .outputMoved (← output o) delta
  | .seatAdded label hasKeyboard => do
    claim label
    return .seatAdded (← nextSeat) label hasKeyboard
  | .seatCapabilitiesChanged s hasKeyboard =>
    return .seatCapabilitiesChanged (← seat s) hasKeyboard
  | .seatRemoved s => return .seatRemoved (← seat s)
  | .keyboardFocusChanged s w => do
    let s ← seat s
    return .keyboardFocusChanged s (← window? w)
  | .pointerButton s button w defaultGrab => do
    let s ← seat s
    return .pointerButton s button (← window? w) defaultGrab
  | .touchDown s w defaultGrab => do
    let s ← seat s
    return .touchDown s (← window? w) defaultGrab
  | .grabMotion s location => return .grabMotion (← seat s) location
  | .grabReleased s => return .grabReleased (← seat s)

/-- The event a step stands for, with the labels as they are after looking it up. -/
def resolve (l : Labels) (step : Step) : Except StepError Event × Labels :=
  ((eventOf step).run).run l

/-! ## Binding -/

/-- Binds the pending label to the record an event made, or frees it. -/
def bind (l : Labels) (reply : Reply) : Labels :=
  match l.pending with
  | none => l
  | some label =>
    let l := { l with pending := none }
    match reply with
    | .window w => { l with windows := l.windows.insert label w }
    | .output o => { l with outputs := l.outputs.insert label o }
    | .seat s => { l with seats := l.seats.insert label s }
    | _ => l

end Labels

end Kiosk
