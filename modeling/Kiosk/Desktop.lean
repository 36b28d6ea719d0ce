import Kiosk.Host
import Kiosk.Shell

/-!
# Desktops

A shell together with the host it commands. Every operation is a function from
desktops to desktops, so what it tells the host and what it changes in the
records can be read off the same term.
-/

namespace Kiosk

/-- A shell and its host. -/
structure Desktop where
  shell : Shell
  host : Host
  deriving Inhabited

/-- What could not be allocated. -/
inductive Shortage where
  | shellSurface
  | outputBackground
  deriving DecidableEq, Repr

/-- The text a shortage is reported with. -/
def Shortage.message : Shortage → String
  | .shellSurface => "no memory to allocate shell surface"
  | .outputBackground => "no memory to allocate output background"

namespace Desktop

/-- A shell without records and a host that has been told nothing. -/
def fresh (config : Config) : Desktop :=
  ⟨.fresh config, .fresh⟩

/-- Tells the host something. -/
def tell (d : Desktop) (f : Host → Host) : Desktop :=
  { d with host := f d.host }

/-- Changes the records without telling the host. -/
def update (d : Desktop) (f : Shell → Shell) : Desktop :=
  { d with shell := f d.shell }

/-- Puts the view of `w` at `p`, if `w` is live. -/
def moveView (d : Desktop) (w : WindowId) (p : Point) : Desktop :=
  match d.shell.windows.get? w with
  | none => d
  | some window =>
    (d.update (·.modifyWindow w ({ · with position := p }))).tell
      (·.setViewPosition window.view p)

/-- The commands since the log was last taken, and the desktop with an empty log. -/
def takeLog (d : Desktop) : List Command × Desktop :=
  let (log, host) := d.host.takeLog
  (log, { d with host })

end Desktop

end Kiosk
