import Kiosk.Desktop.Pointing
import Kiosk.Script.Step
import Kiosk.Toml.Document
import Kiosk.Toml.Mismatch

/-!
# The grammar of scripts

A script is a TOML document with an array of tables `step`. The key `event` of a
step names its kind, and each kind has its own keys, some of which may be left
out (`StepKind.fields`). Other keys are ignored.

A step is read in this order: its kind; then its keys as they come in the
document, each of which must have the shape its kind gives it; then the missing
keys, in the order in which its kind lists them. A step may also be written as an
array that holds the kind and then the values of its keys in that order.
-/

namespace Kiosk

open Toml

/-- The kinds of steps. -/
inductive StepKind where
  | windowAdded
  | windowRemoved
  | windowCommitted
  | parentChanged
  | fullscreenRequested
  | maximizeRequested
  | minimizeRequested
  | resizeRequested
  | moveRequested
  | xwaylandPositionSet
  | appIdChanged
  | outputAdded
  | outputRemoved
  | outputResized
  | outputMoved
  | seatAdded
  | seatCapabilitiesChanged
  | seatRemoved
  | keyboardFocusChanged
  | pointerButton
  | touchDown
  | grabMotion
  | grabReleased
  deriving DecidableEq, Repr

/-- The shape a value must have. -/
inductive FieldShape where
  | text
  | flag
  | number
  | point
  | area
  | device
  deriving DecidableEq, Repr

/-- A key of a step. -/
structure FieldSpec where
  key : String
  shape : FieldShape
  required : Bool
  deriving DecidableEq, Repr

namespace Device

/-- The device of the given name. -/
def ofName (name : String) : Except Mismatch Device :=
  match name with
  | "pointer" => .ok .pointer
  | "touch" => .ok .touch
  | _ => .error (.unknownVariant name ["pointer", "touch"])

/-- Reads a device: its name, or a table with its name as the only key and nothing under
it. A date counts as a table with a key that names no device. -/
def ofValue : Value → Except Mismatch Device
  | .string name => ofName name
  | .table [(name, v)] => do
    let device ← ofName name
    match v with
    | .table [] => return device
    | v => .error (.wrongType v .unit)
  | .table entries => .error (.wrongValue (.table entries) .singleKey)
  | .datetime => ofName "$__toml_private_datetime"
  | v => .error (.wrongType v .device)

end Device

/-- The value as an array of the four numbers of an area: its corner and its size. -/
def areaOfValue (v : Value) : Except Mismatch (Point × Point) := do
  match ← v.asCoords 4 with
  | [x, y, w, h] => return (⟨x, y⟩, ⟨w, h⟩)
  | coords => .error (.wrongLength coords.length (.arrayOf 4))

/-- Fails unless a value has the given shape. -/
def FieldShape.check (v : Value) : FieldShape → Except Mismatch Unit
  | .text => v.asString.map fun _ => ()
  | .flag => v.asBool.map fun _ => ()
  | .number => v.asUInt32.map fun _ => ()
  | .point => v.asPoint.map fun _ => ()
  | .area => (areaOfValue v).map fun _ => ()
  | .device => (Device.ofValue v).map fun _ => ()

namespace StepKind

/-- The name of a kind in a script. -/
def name : StepKind → String
  | .windowAdded => "window-added"
  | .windowRemoved => "window-removed"
  | .windowCommitted => "window-committed"
  | .parentChanged => "parent-changed"
  | .fullscreenRequested => "fullscreen-requested"
  | .maximizeRequested => "maximize-requested"
  | .minimizeRequested => "minimize-requested"
  | .resizeRequested => "resize-requested"
  | .moveRequested => "move-requested"
  | .xwaylandPositionSet => "xwayland-position-set"
  | .appIdChanged => "app-id-changed"
  | .outputAdded => "output-added"
  | .outputRemoved => "output-removed"
  | .outputResized => "output-resized"
  | .outputMoved => "output-moved"
  | .seatAdded => "seat-added"
  | .seatCapabilitiesChanged => "seat-capabilities-changed"
  | .seatRemoved => "seat-removed"
  | .keyboardFocusChanged => "keyboard-focus-changed"
  | .pointerButton => "pointer-button"
  | .touchDown => "touch-down"
  | .grabMotion => "grab-motion"
  | .grabReleased => "grab-released"

/-- All kinds, in the order in which messages list them. -/
def all : List StepKind := [
  .windowAdded, .windowRemoved, .windowCommitted, .parentChanged, .fullscreenRequested,
  .maximizeRequested, .minimizeRequested, .resizeRequested, .moveRequested,
  .xwaylandPositionSet, .appIdChanged, .outputAdded, .outputRemoved, .outputResized,
  .outputMoved, .seatAdded, .seatCapabilitiesChanged, .seatRemoved, .keyboardFocusChanged,
  .pointerButton, .touchDown, .grabMotion, .grabReleased]

/-- The kind of the given name. -/
def ofName (name : String) : Except Mismatch StepKind :=
  match all.find? (·.name = name) with
  | some kind => .ok kind
  | none => .error (.unknownVariant name (all.map StepKind.name))

/-- The name of a kind as messages about the number of its elements spell it: every word
with a capital letter, and without the dashes. -/
def title (kind : StepKind) : String :=
  String.join ((kind.name.splitOn "-").map String.capitalize)

/-- A key that must be there. -/
private def must (key : String) (shape : FieldShape) : FieldSpec := ⟨key, shape, true⟩

/-- A key that may be left out. -/
private def may (key : String) (shape : FieldShape) : FieldSpec := ⟨key, shape, false⟩

/-- The keys of the steps of each kind. -/
def fields : StepKind → List FieldSpec
  | .windowAdded => [must "label" .text, may "app-id" .text, may "parent" .text]
  | .windowRemoved => [must "window" .text]
  | .windowCommitted =>
    [must "window" .text, must "size" .point, may "offset" .point, may "geometry" .point]
  | .parentChanged => [must "window" .text, may "parent" .text]
  | .fullscreenRequested => [must "window" .text, must "fullscreen" .flag, may "output" .text]
  | .maximizeRequested => [must "window" .text, must "maximized" .flag]
  | .minimizeRequested => [must "window" .text]
  | .resizeRequested => [must "window" .text]
  | .moveRequested =>
    [must "window" .text, must "seat" .text, may "device" .device, must "location" .point]
  | .xwaylandPositionSet => [must "window" .text, must "position" .point]
  | .appIdChanged => [must "window" .text, may "app-id" .text]
  | .outputAdded => [must "label" .text, must "name" .text, must "geometry" .area]
  | .outputRemoved => [must "output" .text]
  | .outputResized => [must "output" .text, must "geometry" .area]
  | .outputMoved => [must "output" .text, must "delta" .point]
  | .seatAdded => [must "label" .text, may "has-keyboard" .flag]
  | .seatCapabilitiesChanged => [must "seat" .text, must "has-keyboard" .flag]
  | .seatRemoved => [must "seat" .text]
  | .keyboardFocusChanged => [must "seat" .text, may "window" .text]
  | .pointerButton =>
    [must "seat" .text, may "button" .number, may "window" .text, may "default-grab" .flag]
  | .touchDown => [must "seat" .text, may "window" .text, may "default-grab" .flag]
  | .grabMotion => [must "seat" .text, must "location" .point]
  | .grabReleased => [must "seat" .text]

end StepKind

namespace Step

/-- The value under a key that must be there. -/
def required {α : Type} (entries : Entries) (key : String) (read : Value → Except Mismatch α) :
    Except Mismatch α :=
  match entries.lookup key with
  | some v => read v
  | none => .error (.missingField key)

/-- The value under a key that may be left out. -/
def optional {α : Type} (entries : Entries) (key : String) (read : Value → Except Mismatch α)
    (default : α) : Except Mismatch α :=
  match entries.lookup key with
  | some v => read v
  | none => .ok default

/-- The text under a key that may be left out. -/
def optionalText (entries : Entries) (key : String) : Except Mismatch (Option String) :=
  optional entries key (·.asString.map some) none

/-- The step of the given kind with the given entries. Missing keys are found in the order
of `StepKind.fields`. -/
def build (kind : StepKind) (es : Entries) : Except Mismatch Step :=
  let text (key : String) : Except Mismatch String := required es key Value.asString
  let text? (key : String) : Except Mismatch (Option String) := optionalText es key
  let point (key : String) : Except Mismatch Point := required es key Value.asPoint
  match kind with
  | .windowAdded => return .windowAdded (← text "label") (← text? "app-id") (← text? "parent")
  | .windowRemoved => return .windowRemoved (← text "window")
  | .windowCommitted => do
    let window ← text "window"
    let size ← point "size"
    let offset ← optional es "offset" Value.asPoint .origin
    let geometry ← optional es "geometry" Value.asPoint .origin
    return .windowCommitted window size offset geometry
  | .parentChanged => return .parentChanged (← text "window") (← text? "parent")
  | .fullscreenRequested => do
    let window ← text "window"
    let fullscreen ← required es "fullscreen" Value.asBool
    return .fullscreenRequested window fullscreen (← text? "output")
  | .maximizeRequested =>
    return .maximizeRequested (← text "window") (← required es "maximized" Value.asBool)
  | .minimizeRequested => return .minimizeRequested (← text "window")
  | .resizeRequested => return .resizeRequested (← text "window")
  | .moveRequested => do
    let window ← text "window"
    let seat ← text "seat"
    let device ← optional es "device" Device.ofValue .pointer
    return .moveRequested window seat device (← point "location")
  | .xwaylandPositionSet => return .xwaylandPositionSet (← text "window") (← point "position")
  | .appIdChanged => return .appIdChanged (← text "window") (← text? "app-id")
  | .outputAdded => do
    let label ← text "label"
    let name ← text "name"
    let (loc, size) ← required es "geometry" areaOfValue
    return .outputAdded label name loc size
  | .outputRemoved => return .outputRemoved (← text "output")
  | .outputResized => do
    let output ← text "output"
    let (loc, size) ← required es "geometry" areaOfValue
    return .outputResized output loc size
  | .outputMoved => return .outputMoved (← text "output") (← point "delta")
  | .seatAdded =>
    return .seatAdded (← text "label") (← optional es "has-keyboard" Value.asBool true)
  | .seatCapabilitiesChanged =>
    return .seatCapabilitiesChanged (← text "seat") (← required es "has-keyboard" Value.asBool)
  | .seatRemoved => return .seatRemoved (← text "seat")
  | .keyboardFocusChanged => return .keyboardFocusChanged (← text "seat") (← text? "window")
  | .pointerButton => do
    let seat ← text "seat"
    let button ← optional es "button" Value.asUInt32 Desktop.leftButton
    let window ← text? "window"
    return .pointerButton seat button window (← optional es "default-grab" Value.asBool true)
  | .touchDown => do
    let seat ← text "seat"
    let window ← text? "window"
    return .touchDown seat window (← optional es "default-grab" Value.asBool true)
  | .grabMotion => return .grabMotion (← text "seat") (← point "location")
  | .grabReleased => return .grabReleased (← text "seat")

/-- Fails at the first entry that has a key of the kind but not its shape. -/
def checkShapes (kind : StepKind) (es : Entries) : Except Mismatch Unit :=
  es.forM fun (key, v) =>
    match kind.fields.find? (·.key = key) with
    | some field => field.shape.check v
    | none => .ok ()

/-- Fails at the first of the given keys whose value among `values` has not its shape or is
missing; `i` keys came before them. -/
def checkElements (kind : StepKind) (i : Nat) :
    List FieldSpec → List Value → Except Mismatch Unit
  | [], [] => .ok ()
  | [], rest => .error (.wrongLength (i + rest.length) (.elements i))
  | field :: fields, [] =>
    if field.required then
      .error (.wrongLength i (.stepElements kind.title kind.fields.length))
    else checkElements kind (i + 1) fields []
  | field :: fields, v :: rest => do
    field.shape.check v
    checkElements kind (i + 1) fields rest

/-- The kind of step a value names. -/
def kindOf : Value → Except Mismatch StepKind
  | .string name => StepKind.ofName name
  | v => .error (.wrongType v .stepKind)

/-- Reads a step written as a table. -/
def ofTable (entries : Entries) : Except Mismatch Step := do
  let kind ← required entries "event" kindOf
  checkShapes kind entries
  build kind entries

/-- Reads a step written as an array. -/
def ofArray : List Value → Except Mismatch Step
  | [] => .error (.missingField "event")
  | event :: values => do
    let kind ← kindOf event
    checkElements kind 0 kind.fields values
    build kind ((kind.fields.map FieldSpec.key).zip values)

/-- Reads a step. A date counts as a table without known keys. -/
def ofValue : Value → Except Mismatch Step
  | .table entries => ofTable entries
  | .array values => ofArray values
  | .datetime => ofTable []
  | v => .error (.wrongType v .step)

/-- The steps of a document given by its root table. -/
def listOf (entries : Entries) : Except Mismatch (List Step) := do
  (← optional entries "step" Value.asArray []).mapM ofValue

/-- The steps of a script. -/
def parse (text : String) : Except Misreading (List Step) :=
  match Toml.parse text with
  | none => .error .malformed
  | some entries => (listOf entries).mapError .mismatch

end Step

end Kiosk
