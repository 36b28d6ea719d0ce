import Kiosk.Geometry
import Kiosk.Handle

/-!
# Commands

What the shell tells the host to do. A command is printed in two ways: as a line
of text (`Command.text`), and as a record of named fields (`Command.fields`) that
makes one JSON object (`Command.record`).
-/

namespace Kiosk

/-- One instruction to the host. -/
inductive Command where
  | setUserData (surface : SurfaceHandle) (attached : Bool)
  | createView (surface : SurfaceHandle) (view : ViewHandle)
  | destroyView (view : ViewHandle)
  | mapView (view : ViewHandle)
  | raiseView (view : ViewHandle)
  | setViewPosition (view : ViewHandle) (position : Point)
  | createBackground (output : OutputHandle) (view : ViewHandle) (area : Rect)
  | setFullscreen (surface : SurfaceHandle) (fullscreen : Bool)
  | setMaximized (surface : SurfaceHandle) (maximized : Bool)
  | setSize (surface : SurfaceHandle) (size : Size)
  | setActivated (surface : SurfaceHandle) (activated : Bool)
  | setKeyboardFocus (seat : SeatHandle) (surface : Option SurfaceHandle)
  | postNoMemory (surface : SurfaceHandle)
  deriving DecidableEq, Repr

/-- The value of one field of a printed command. -/
inductive Field where
  | number (n : Int)
  | flag (b : Bool)
  | word (s : String)
  | null
  deriving DecidableEq, Repr

/-- The value as JSON. Words are names of commands, which need no escapes. -/
def Field.json : Field → String
  | .number n => toString n
  | .flag b => toString b
  | .word s => "\"" ++ s ++ "\""
  | .null => "null"

namespace Command

/-- The command as a line of text. -/
def text : Command → String
  | .setUserData s attached => s!"user-data surface={s.number} attached={attached}"
  | .createView s v => s!"create-view surface={s.number} view={v.number}"
  | .destroyView v => s!"destroy-view view={v.number}"
  | .mapView v => s!"map-view view={v.number}"
  | .raiseView v => s!"raise-view view={v.number}"
  | .setViewPosition v p => s!"position view={v.number} at {p.x},{p.y}"
  | .createBackground o v r =>
    s!"background output={o.number} view={v.number} {r.size.w}x{r.size.h}+{r.loc.x}+{r.loc.y}"
  | .setFullscreen s fullscreen => s!"fullscreen surface={s.number} {fullscreen}"
  | .setMaximized s maximized => s!"maximized surface={s.number} {maximized}"
  | .setSize s size => s!"size surface={s.number} {size.w}x{size.h}"
  | .setActivated s activated => s!"activated surface={s.number} {activated}"
  | .setKeyboardFocus seat (some s) => s!"keyboard-focus seat={seat.number} surface={s.number}"
  | .setKeyboardFocus seat none => s!"keyboard-focus seat={seat.number} none"
  | .postNoMemory s => s!"no-memory surface={s.number}"

/-- A field that holds a handle. -/
private def ref {role : Role} (key : String) (h : Handle role) : String × Field :=
  (key, .number h.number)

/-- A field that holds a coordinate or a length. -/
private def coord (key : String) (c : Coord) : String × Field :=
  (key, .number c.toInt)

/-- The command as named fields, the first of which is its name. -/
def fields : Command → List (String × Field)
  | .setUserData s attached =>
    [("command", .word "set-user-data"), ref "surface" s, ("attached", .flag attached)]
  | .createView s v => [("command", .word "create-view"), ref "surface" s, ref "view" v]
  | .destroyView v => [("command", .word "destroy-view"), ref "view" v]
  | .mapView v => [("command", .word "map-view"), ref "view" v]
  | .raiseView v => [("command", .word "raise-view"), ref "view" v]
  | .setViewPosition v p =>
    [("command", .word "set-view-position"), ref "view" v, coord "x" p.x, coord "y" p.y]
  | .createBackground o v r =>
    [("command", .word "create-background"), ref "output" o, ref "view" v, coord "x" r.loc.x,
      coord "y" r.loc.y, coord "width" r.size.w, coord "height" r.size.h]
  | .setFullscreen s fullscreen =>
    [("command", .word "set-fullscreen"), ref "surface" s, ("fullscreen", .flag fullscreen)]
  | .setMaximized s maximized =>
    [("command", .word "set-maximized"), ref "surface" s, ("maximized", .flag maximized)]
  | .setSize s size =>
    [("command", .word "set-size"), ref "surface" s, coord "width" size.w, coord "height" size.h]
  | .setActivated s activated =>
    [("command", .word "set-activated"), ref "surface" s, ("activated", .flag activated)]
  | .setKeyboardFocus seat surface =>
    [("command", .word "set-keyboard-focus"), ref "seat" seat,
      ("surface", surface.elim .null (.number ·.number))]
  | .postNoMemory s => [("command", .word "post-no-memory"), ref "surface" s]

/-- Named fields as one JSON object. -/
def object (fields : List (String × Field)) : String :=
  "\x7b" ++ ",".intercalate (fields.map fun (key, value) => "\"" ++ key ++ "\":" ++ value.json) ++
    "\x7d"

/-- The command as one JSON object, after the number of the step that caused it. -/
def record (step : Nat) (c : Command) : String :=
  object (("step", .number step) :: c.fields)

end Command

end Kiosk
