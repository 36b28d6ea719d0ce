import Kiosk.Desktop

/-!
# The audit

Checks across records that hold of a desktop at any time between events:
`Desktop.audit` is their conjunction.
-/

namespace Kiosk

namespace Shell

/-- Every window counts the seats that focus it. -/
def focusCounted (s : Shell) : Bool :=
  s.windows.toList.all fun (w, window) => window.focusCount = (s.seats.focusedOn w).length

/-- Every window with a parent is in normal placement. -/
def childrenNormal (s : Shell) : Bool :=
  s.windows.toList.all fun (_, window) => window.isRoot || window.placement = .normal

/-- The stacking order lists every mapped window once, and nothing else. -/
def stackingExact (s : Shell) : Bool :=
  let mapped := (s.windows.toList.filter (·.2.mapped)).map Prod.fst
  s.stacking.Nodup && s.stacking.all (mapped.contains ·) && mapped.all (s.stacking.contains ·)

/-- Outputs and parents of windows are live, and children and parents agree. -/
def linksLive (s : Shell) : Bool :=
  s.windows.toList.all fun (w, window) =>
    window.output.all s.outputs.contains &&
    window.parentId.all (fun p => s.isLive p && (s.children.of p).contains w) &&
    (s.children.of w).all fun child => Windows.parentOf s.windows child = some w

end Shell

namespace Desktop

/-- A window is shown activated exactly while some seat focuses it. -/
def activationMatches (d : Desktop) : Bool :=
  d.shell.windows.toList.all fun (_, window) =>
    d.host.isActivated window.surface = (0 < window.focusCount)

/-- All checks. -/
def audit (d : Desktop) : Bool :=
  d.shell.focusCounted && d.shell.childrenNormal && d.activationMatches &&
    d.shell.stackingExact && d.shell.linksLive

end Desktop

end Kiosk
