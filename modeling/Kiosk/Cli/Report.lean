import Kiosk.Cli.Arguments
import Kiosk.Cli.Folder
import Kiosk.Toml.Mismatch

/-!
# Reports

What is said about a command that failed: a message, followed by its causes, each
the cause of the one before it.
-/

namespace Kiosk.Cli

/-- A message and the causes behind it, nearest first. -/
structure Report where
  message : String
  causes : List String
  deriving DecidableEq, Repr

namespace Report

/-- The text of a misreading, as reports show it. -/
def misreading (m : Toml.Misreading) : String :=
  "TOML parse error: " ++ m.message

/-- The report on a command line that does not fit. -/
def ofUsage (e : UsageError) : Report :=
  ⟨e.message, []⟩

/-- The report on a configuration that cannot be read. -/
def configUnreadable (path : String) (e : FileError) : Report :=
  ⟨s!"failed to load {path}", ["failed to read config: " ++ e.message, e.message]⟩

/-- The report on a configuration that does not make sense. -/
def configMisread (path : String) (m : Toml.Misreading) : Report :=
  ⟨s!"failed to load {path}", ["failed to parse config: " ++ misreading m, misreading m]⟩

/-- The report on a script that cannot be read. -/
def scriptUnreadable (path : String) (e : FileError) : Report :=
  ⟨s!"failed to read {path}", [e.message]⟩

/-- The report on a script that does not make sense. -/
def scriptMisread (path : String) (m : Toml.Misreading) : Report :=
  ⟨s!"failed to parse {path}", [misreading m]⟩

/-- The report on a step that cannot be resolved. -/
def ofStep (n : Nat) (e : StepError) : Report :=
  ⟨s!"step {n}", [e.message]⟩

/-- A cause among several, after its number in five columns. -/
private def numbered (cause : String) (i : Nat) : String :=
  let digits := toString i
  String.ofList (List.replicate (5 - digits.length) ' ') ++ digits ++ ": " ++ cause

/-- The report as text. A single cause is indented; several are numbered from zero. -/
def text (r : Report) : String :=
  let head := "Error: " ++ r.message
  match r.causes with
  | [] => head
  | [cause] => head ++ "\n\nCaused by:\n    " ++ cause
  | causes =>
    head ++ "\n\nCaused by:\n" ++
      "\n".intercalate (causes.zipIdx.map fun (cause, i) => numbered cause i)

end Report

end Kiosk.Cli
