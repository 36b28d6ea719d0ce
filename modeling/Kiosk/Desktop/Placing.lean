import Kiosk.Desktop

/-!
# Placing windows

A root window can be fullscreen, maximized or normal; a window with a parent is
always normal. The first two give it the size of its output, the last lets its
client choose. Placing a window that is on no output puts it on its best output
first.
-/

namespace Kiosk.Desktop

/-- Puts `w` on the given output, or on none, without placing it. -/
def setOutput (d : Desktop) (w : WindowId) (o : Option OutputId) : Desktop :=
  d.update (·.setOutput w o)

/-- Puts a window that is on no output on its best one. -/
def ensureOutput (d : Desktop) (w : WindowId) : Desktop :=
  match d.shell.outputOf w with
  | some _ => d
  | none => d.setOutput w (d.shell.bestOutput w)

/-- Returns `w` to the size its client chooses. -/
def setNormal (d : Desktop) (w : WindowId) : Desktop :=
  let d := d.ensureOutput w
  match d.shell.windows.get? w with
  | none => d
  | some window =>
    (d.update (·.modifyWindow w ({ · with placement := .normal }))).tell fun h =>
      ((h.setFullscreen window.surface false).setMaximized window.surface false).setSize
        window.surface .zero

/-- Tells the client of `surface` to leave the placement `previous` and enter `placement`. -/
def announce (h : Host) (surface : SurfaceHandle) (previous placement : Placement) : Host :=
  match placement with
  | .fullscreen =>
    let h := if previous = .maximized then h.setMaximized surface false else h
    h.setFullscreen surface true
  | .maximized =>
    let h := if previous = .fullscreen then h.setFullscreen surface false else h
    h.setMaximized surface true
  | .normal => h

/-- Gives `w` the size of the output it is on, as `placement` says. -/
def fillOutput (d : Desktop) (w : WindowId) (placement : Placement) : Desktop :=
  match d.shell.windows.get? w with
  | none => d
  | some window =>
    let d := d.update (·.modifyWindow w ({ · with placement }))
    let d := d.tell (announce · window.surface window.placement placement)
    match d.shell.areaOf window with
    | some area => d.tell (·.setSize window.surface area.size)
    | none => d

/-- Makes a root window fullscreen on the given output if it is live, else on its best one.
A window with a parent becomes normal instead. -/
def setFullscreen (d : Desktop) (w : WindowId) (o : Option OutputId) : Desktop :=
  match d.shell.windows.get? w with
  | none => d
  | some window =>
    if window.isRoot then
      let o := (o.filter d.shell.outputs.contains).or (d.shell.bestOutput w)
      (d.setOutput w o).fillOutput w .fullscreen
    else d.setNormal w

/-- Maximizes a root window on its best output. A window with a parent becomes normal
instead. -/
def setMaximized (d : Desktop) (w : WindowId) : Desktop :=
  match d.shell.windows.get? w with
  | none => d
  | some window =>
    if window.isRoot then (d.setOutput w (d.shell.bestOutput w)).fillOutput w .maximized
    else d.setNormal w

/-- Makes `w` a child of the given window if that is live, else a root. A child is normal on
the best output, which is looked up anew; a root is fullscreen on the output it is on.
Nothing happens when the parent would be `w` itself or below it. -/
def setParent (d : Desktop) (w : WindowId) (parent : Option WindowId) : Desktop :=
  if d.shell.isLive w then
    match parent.filter d.shell.isLive with
    | some p =>
      if Windows.isAncestorOrSelf d.shell.windows w p then d
      else (d.update fun s => ((s.detach w).attach w p).setOutput w none).setNormal w
    | none =>
      let d := d.update (·.detach w)
      d.setFullscreen w (d.shell.outputOf w)
  else d

/-- The client of `w` asks to enter or leave fullscreen. -/
def fullscreenRequested (d : Desktop) (w : WindowId) (fullscreen : Bool) (o : Option OutputId) :
    Desktop :=
  match d.shell.windows.get? w with
  | none => d
  | some window =>
    if !window.isRoot then d.setNormal w
    else if fullscreen || d.shell.config.enforceRootFullscreen then d.setFullscreen w o
    else if window.placement = .fullscreen then d.setNormal w
    else d

/-- The client of `w` asks to enter or leave the maximized state. -/
def maximizeRequested (d : Desktop) (w : WindowId) (maximized : Bool) : Desktop :=
  match d.shell.windows.get? w with
  | none => d
  | some window =>
    if !window.isRoot then d.setNormal w
    else if d.shell.config.enforceRootFullscreen then d.setFullscreen w none
    else if maximized then d.setMaximized w
    else if window.placement = .maximized then d.setNormal w
    else d

end Kiosk.Desktop
