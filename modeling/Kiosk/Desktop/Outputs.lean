import Kiosk.Desktop.Commit

/-!
# Outputs that come, go and change

An output has one background at all times. When it goes away its windows stay
where they are, on no output, until something places them again.
-/

namespace Kiosk.Desktop

/-- An output appears: it gets a background, and the application ids configured for its
name. -/
def outputAdded (d : Desktop) (handle : OutputHandle) (name : String) (area : Rect) :
    Except Shortage OutputId × Desktop :=
  match d.host.createBackground handle area with
  | (none, host) => (.error .outputBackground, { d with host })
  | (some background, host) =>
    let appIds := (d.shell.config.outputAppIds name).elim .none AppIds.ofText
    let (o, outputs) := d.shell.outputs.insert (.ofHandle handle name area appIds background)
    (.ok o, ⟨{ d.shell with outputs }, host⟩)

/-- Takes the window a listener of the removed output `o` stands for off that output. -/
def outputGone (o : OutputId) (s : Shell) : Listener → Shell
  | .boundOutput w =>
    if s.outputOf w = some o then s.modifyWindow w ({ · with boundOutput := none }) else s
  | _ => s

/-- An output goes away. -/
def outputRemoved (d : Desktop) (o : OutputId) : Desktop :=
  match d.shell.outputs.get? o with
  | none => d
  | some output =>
    let d := d.update fun s =>
      output.signal.drain.1.foldl (outputGone o) { s with outputs := s.outputs.erase o }
    d.tell (·.destroyView output.background)

/-- Gives `w` the size of its output again, if it fills it, and centres it there. -/
def reconfigure (d : Desktop) (w : WindowId) : Option Fault × Desktop :=
  match d.shell.windows.get? w with
  | none => (none, d)
  | some window =>
    match d.shell.areaOf window with
    | none => (none, d)
    | some area =>
      let d :=
        if window.placement.fillsOutput then d.tell (·.setSize window.surface area.size) else d
      match Rect.centered (some area) window.lastSize with
      | .error fault => (some fault, d)
      | .ok p => (none, d.moveView w p)

/-- Reconfigures windows one after the other, up to the first fault. -/
def reconfigureAll (d : Desktop) : List WindowId → Option Fault × Desktop
  | [] => (none, d)
  | w :: ws =>
    match d.reconfigure w with
    | (some fault, d) => (some fault, d)
    | (none, d) => d.reconfigureAll ws

/-- Gives an output that has changed a background of its new area. When that is refused the
old background moves to the new place. -/
def renewBackground (d : Desktop) (o : OutputId) (output : Output) (area : Rect) : Desktop :=
  match d.host.createBackground output.handle area with
  | (some background, host) =>
    ({ d with host }.update (·.modifyOutput o ({ · with background }))).tell
      (·.destroyView output.background)
  | (none, host) => { d with host }.tell (·.setViewPosition output.background area.loc)

/-- An output gets a new area: its background and the windows that fill it follow. -/
def outputResized (d : Desktop) (o : OutputId) (area : Rect) : Option Fault × Desktop :=
  match d.shell.outputs.get? o with
  | none => (none, d)
  | some output =>
    let d := (d.update (·.modifyOutput o ({ · with area }))).renewBackground o output area
    d.reconfigureAll (d.shell.filledWindowsOn o)

/-- An output moves by `delta`: its background and all windows on it move along. -/
def outputMoved (d : Desktop) (o : OutputId) (delta : Point) : Desktop :=
  match d.shell.outputs.get? o with
  | none => d
  | some output =>
    let area := { output.area with loc := output.area.loc + delta }
    let d := (d.update (·.modifyOutput o ({ · with area }))).tell
      (·.setViewPosition output.background area.loc)
    (d.shell.windowsOn o).foldl (fun d w => d.shiftWindow w delta) d

end Kiosk.Desktop
