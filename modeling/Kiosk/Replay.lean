import Kiosk.Script.Labels

/-!
# Replays

Carries out scripts. `Replay.step` resolves one step, dispatches its event and
binds its label. A refused allocation drops its own step only. `Replay.run` does
this step by step, and stops at the first step that cannot be resolved or whose
event faults.
-/

namespace Kiosk

/-- A desktop that is driven by steps. -/
structure Replay where
  desktop : Desktop
  labels : Labels
  deriving Inhabited

/-- What became of one step. -/
structure StepOutcome where
  result : Except StepError Reply
  /-- What the host was told. -/
  commands : List Command

/-- Whether nothing can follow: the step could not be resolved, or its event faulted. -/
def StepOutcome.stops (o : StepOutcome) : Bool :=
  match o.result with
  | .error _ => true
  | .ok (.fault _) => true
  | .ok _ => false

namespace Replay

/-- A replay that has not begun. -/
def fresh (config : Config) : Replay :=
  ⟨.fresh config, .fresh⟩

/-- Carries out one step. A step that cannot be resolved leaves the desktop alone. -/
def step (r : Replay) (s : Step) : StepOutcome × Replay :=
  match r.labels.resolve s with
  | (.error e, labels) => (⟨.error e, []⟩, { r with labels })
  | (.ok event, labels) =>
    let (reply, desktop) := r.desktop.dispatch event
    let (commands, desktop) := desktop.takeLog
    (⟨.ok reply, commands⟩, ⟨desktop, labels.bind reply⟩)

/-- Carries out steps up to the first one that stops. Before a step whose number, counted
from `n`, is in `failAt` the host is set to refuse the next view. -/
def run (failAt : List Nat) (n : Nat) (r : Replay) : List Step → List StepOutcome × Replay
  | [] => ([], r)
  | s :: rest =>
    let desktop :=
      if n ∈ failAt then r.desktop.tell ({ · with failNextView := true }) else r.desktop
    let (outcome, r) := { r with desktop }.step s
    if outcome.stops then ([outcome], r)
    else
      let (outcomes, r) := run failAt (n + 1) r rest
      (outcome :: outcomes, r)

end Replay

end Kiosk
