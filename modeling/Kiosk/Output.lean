import Kiosk.AppIds
import Kiosk.Geometry
import Kiosk.Handle
import Kiosk.Link
import Kiosk.Store.Roster

/-!
# Outputs

What the shell keeps of one output, and how a window's output is chosen. Outputs
are listed in the order in which they were registered.
-/

namespace Kiosk

/-- The record of one output. -/
structure Output where
  handle : OutputHandle
  name : String
  area : Rect
  appIds : AppIds
  /-- The view that fills the output behind all windows. -/
  background : ViewHandle
  signal : Signal
  deriving DecidableEq, Repr

/-- The record of an output that has just been registered. -/
def Output.ofHandle (handle : OutputHandle) (name : String) (area : Rect) (appIds : AppIds)
    (background : ViewHandle) : Output :=
  { handle, name, area, appIds, background, signal := .empty }

/-- The records of all outputs. -/
abbrev Outputs := Roster .output Output

/-- The first output reserved for `appId`. -/
def Outputs.findByAppId (outputs : Outputs) (appId : String) : Option OutputId :=
  (outputs.toList.find? (·.2.appIds.contains appId)).map Prod.fst

/-- The output windows go to when nothing else decides. -/
def Outputs.default (outputs : Outputs) : Option OutputId :=
  outputs.oldest

/-- What a window's choice of output depends on. -/
structure OutputQuery where
  /-- The output the window is on. -/
  bound : Option OutputId
  appId : Option String
  /-- The output of the window's root. -/
  root : Option OutputId
  /-- The output that holds the input focus. -/
  focused : Option OutputId
  deriving DecidableEq, Repr

/-- The first defined of: the output the window is on, the first output reserved for its
application, its root's output, the focused output, the default output. -/
def OutputQuery.best (q : OutputQuery) (outputs : Outputs) : Option OutputId :=
  q.bound.or <| (q.appId.bind (Outputs.findByAppId outputs)).or <| q.root.or <| q.focused.or <|
    Outputs.default outputs

end Kiosk
