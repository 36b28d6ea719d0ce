import Kiosk.Event

/-!
# Runs

A desktop changes by events, by direct calls of single operations, and by its
host being switched between giving and refusing views. `Desktop.act` applies one
such action, and a run applies a list of them. `Reached` and `Dispatched` are the
desktops that runs from a fresh one lead to, with all actions or with events and
host switches only. A fault ends a run.
-/

namespace Kiosk

/-- A direct call of one operation. -/
inductive Call where
  | createWindow (surface : SurfaceHandle) (appId : Option String)
  | destroyWindow (window : WindowId)
  | setParent (window : WindowId) (parent : Option WindowId)
  | setOutput (window : WindowId) (output : Option OutputId)
  | setFullscreen (window : WindowId) (output : Option OutputId)
  | setMaximized (window : WindowId)
  | setNormal (window : WindowId)
  | focusSeat (seat : SeatId) (window : Option WindowId)
  | activateWindow (seat : SeatId) (window : WindowId)
  deriving DecidableEq, Repr

/-- Carries out a direct call. -/
def Desktop.call (d : Desktop) : Call → Reply × Desktop
  | .createWindow surface appId =>
    let (made, d) := d.createWindow surface appId
    (.ofWindow made, d)
  | .destroyWindow w => (.handled, d.destroyWindow w)
  | .setParent w parent => (.handled, d.setParent w parent)
  | .setOutput w o => (.handled, d.setOutput w o)
  | .setFullscreen w o => (.handled, d.setFullscreen w o)
  | .setMaximized w => (.handled, d.setMaximized w)
  | .setNormal w => (.handled, d.setNormal w)
  | .focusSeat seat w => (.handled, d.focusSeat seat w)
  | .activateWindow seat w => (.handled, d.activateWindow seat w)

/-- A setting of the host. -/
inductive HostSwitch where
  | failNextView (value : Bool)
  | clientsConnected (value : Bool)
  deriving DecidableEq, Repr

/-- Sets the host. -/
def Host.switch (h : Host) : HostSwitch → Host
  | .failNextView failNextView => { h with failNextView }
  | .clientsConnected clientsConnected => { h with clientsConnected }

/-- One step of a run. -/
inductive Action where
  | event (e : Event)
  | call (c : Call)
  | switch (s : HostSwitch)
  deriving DecidableEq, Repr

/-- Applies one action. -/
def Desktop.act (d : Desktop) : Action → Reply × Desktop
  | .event e => d.dispatch e
  | .call c => d.call c
  | .switch s => (.handled, d.tell (·.switch s))

/-- The desktops that actions lead to, from a fresh one, without a fault. -/
inductive Reached (config : Config) : Desktop → Prop
  | fresh : Reached config (.fresh config)
  | act {d : Desktop} (a : Action) (h : Reached config d)
      (ok : ∀ fault, (d.act a).1 ≠ .fault fault) : Reached config (d.act a).2

/-- The desktops that events and host switches lead to, from a fresh one, without a fault. -/
inductive Dispatched (config : Config) : Desktop → Prop
  | fresh : Dispatched config (.fresh config)
  | event {d : Desktop} (e : Event) (h : Dispatched config d)
      (ok : ∀ fault, (d.dispatch e).1 ≠ .fault fault) : Dispatched config (d.dispatch e).2
  | switch {d : Desktop} (s : HostSwitch) (h : Dispatched config d) :
      Dispatched config (d.tell (·.switch s))

/-- What events and host switches lead to, calls can lead to. -/
theorem Dispatched.reached {config : Config} {d : Desktop} (h : Dispatched config d) :
    Reached config d := by
  induction h with
  | fresh => exact .fresh
  | event e _ ok ih => exact .act (.event e) ih ok
  | switch s _ ih => exact .act (.switch s) ih (by simp [Desktop.act])

end Kiosk
