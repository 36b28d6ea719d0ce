import Kiosk.Seat

/-!
# Steps of a script

A script is a list of events in which windows, outputs and seats go by labels. A
step that makes a record names the label for it; other steps name the labels of
the records they are about. Sizes are kept as written and checked only when a
step is carried out.
-/

namespace Kiosk

/-- One event of a script. -/
inductive Step where
  | windowAdded (label : String) (appId parent : Option String)
  | windowRemoved (window : String)
  | windowCommitted (window : String) (size offset geometry : Point)
  | parentChanged (window : String) (parent : Option String)
  | fullscreenRequested (window : String) (fullscreen : Bool) (output : Option String)
  | maximizeRequested (window : String) (maximized : Bool)
  | minimizeRequested (window : String)
  | resizeRequested (window : String)
  | moveRequested (window seat : String) (device : Device) (location : Point)
  | xwaylandPositionSet (window : String) (position : Point)
  | appIdChanged (window : String) (appId : Option String)
  | outputAdded (label name : String) (loc size : Point)
  | outputRemoved (output : String)
  | outputResized (output : String) (loc size : Point)
  | outputMoved (output : String) (delta : Point)
  | seatAdded (label : String) (hasKeyboard : Bool)
  | seatCapabilitiesChanged (seat : String) (hasKeyboard : Bool)
  | seatRemoved (seat : String)
  | keyboardFocusChanged (seat : String) (window : Option String)
  | pointerButton (seat : String) (button : UInt32) (window : Option String)
      (defaultGrab : Bool)
  | touchDown (seat : String) (window : Option String) (defaultGrab : Bool)
  | grabMotion (seat : String) (location : Point)
  | grabReleased (seat : String)
  deriving DecidableEq, Repr

end Kiosk
