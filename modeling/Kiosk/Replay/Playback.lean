import Kiosk.Replay

/-!
# Playbacks

A playback carries out a script and prints what the host is told. Steps wait in a
queue, from which each turn of an event loop takes a batch. A step that cannot be
resolved asks the loop to stop, and the loop looks for that between turns: the
rest of the batch is still carried out, and a later failure replaces an earlier
one. A fault ends the playback at once, and what its own step told the host is
not printed.
-/

namespace Kiosk

/-- How commands are printed. -/
inductive Format where
  | text
  /-- One JSON object a line. -/
  | json
  deriving DecidableEq, Repr

/-- One command as a line. The step number is right-aligned in three columns. -/
def Format.line (format : Format) (step : Nat) (c : Command) : String :=
  match format with
  | .text =>
    let digits := toString step
    "[" ++ String.ofList (List.replicate (3 - digits.length) ' ') ++ digits ++ "] " ++ c.text
  | .json => c.record step

/-- A script being played. -/
structure Playback where
  replay : Replay
  format : Format
  /-- How many steps were taken from the queue. -/
  stepsRun : Nat
  /-- The lines printed so far. -/
  lines : List String
  /-- The last step that could not be resolved, and why. -/
  failure : Option (Nat × StepError)
  fault : Option Fault

namespace Playback

/-- How many steps one turn of the loop takes from the queue. -/
def batchSize : Nat := 1024

/-- A playback that has not begun. -/
def fresh (config : Config) (format : Format) : Playback :=
  ⟨.fresh config, format, 0, [], none, none⟩

/-- Carries out one step, unless a fault has ended the playback. -/
def step (p : Playback) (s : Step) : Playback :=
  if p.fault.isSome then p
  else
    let n := p.stepsRun + 1
    let (outcome, replay) := p.replay.step s
    let p := { p with replay, stepsRun := n }
    match outcome.result with
    | .error (.fault f) => { p with fault := some f }
    | .error e => { p with failure := some (n, e) }
    | .ok (.fault f) => { p with fault := some f }
    | .ok _ => { p with lines := p.lines ++ outcome.commands.map (p.format.line n) }

/-- Whether the loop takes no further turn. -/
def stopped (p : Playback) : Bool :=
  p.failure.isSome || p.fault.isSome

/-- Plays the steps in the queue, in at most `turns` turns of the loop. -/
def turns (p : Playback) : Nat → List Step → Playback
  | 0, _ => p
  | n + 1, queue =>
    if p.stopped || queue.isEmpty then p
    else ((queue.take batchSize).foldl step p).turns n (queue.drop batchSize)

/-- Plays a whole script. No more turns are taken than there are steps. -/
def play (p : Playback) (script : List Step) : Playback :=
  p.turns script.length script

end Playback

end Kiosk
