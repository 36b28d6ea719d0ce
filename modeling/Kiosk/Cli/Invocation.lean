import Kiosk.Cli.Report
import Kiosk.Config.Toml
import Kiosk.Script.Grammar

/-!
# Invocations

One run of the command line: arguments, then the configuration, then the script,
then the playback; the first failure ends it. Files are read through a function,
so the same definition serves a disk and a folder in memory.

Without `--config`, the configuration is looked for in the user's configuration
directory, then in the system's. A file that is not there or does not make sense
is passed over, and when none is left the defaults hold.
-/

namespace Kiosk.Cli

/-- The directories an invocation depends on. -/
structure Environment where
  /-- The user's configuration directory, when it is set. -/
  xdgConfigHome : Option String
  home : Option String
  deriving DecidableEq, Repr

/-- What an invocation comes to. -/
inductive Ending where
  | finished
  | failed (report : Report)
  | faulted (fault : Fault)
  deriving DecidableEq, Repr

/-- The exit code of an ending. -/
def Ending.code : Ending → UInt8
  | .finished => 0
  | .failed _ => 1
  | .faulted _ => 101

/-- The lines an invocation prints, and what it comes to. -/
structure Outcome where
  lines : List String
  ending : Ending

/-- A path below a directory. -/
def join (directory path : String) : String :=
  if directory = "" ∨ directory.endsWith "/" then directory ++ path
  else directory ++ "/" ++ path

/-- The user's configuration directory: the one that is set, or else the usual one. -/
def Environment.configDirectory (env : Environment) : Option String :=
  env.xdgConfigHome.or (env.home.map (join · ".config"))

/-- The places where a configuration is looked for, in order. -/
def Environment.configPaths (env : Environment) : List String :=
  (env.configDirectory.map (join · "kiosk-shell/config.toml")).toList ++
    ["/etc/kiosk-shell/config.toml"]

/-- What a playback comes to. -/
def Ending.ofPlayback (p : Playback) : Ending :=
  match p.fault, p.failure with
  | some f, _ => .faulted f
  | none, some (n, e) => .failed (.ofStep n e)
  | none, none => .finished

section

variable {m : Type → Type} [Monad m] (read : String → m (Except FileError String))

/-- The configuration at the given path. -/
def loadConfig (path : String) : m (Except Report Config) := do
  match ← read path with
  | .error e => return .error (.configUnreadable path e)
  | .ok text => return (Config.parse text).mapError (.configMisread path)

/-- The first configuration found at one of the given paths, or the defaults. -/
def findConfig : List String → m Config
  | [] => return default
  | path :: paths => do
    match ← loadConfig read path with
    | .ok config => return config
    | .error _ => findConfig paths

/-- The configuration an invocation runs under. -/
def chooseConfig (env : Environment) : Option String → m (Except Report Config)
  | some path => loadConfig read path
  | none => .ok <$> findConfig read env.configPaths

/-- The script at the given path. -/
def loadScript (path : String) : m (Except Report (List Step)) := do
  match ← read path with
  | .error e => return .error (.scriptUnreadable path e)
  | .ok text => return (Step.parse text).mapError (.scriptMisread path)

/-- Runs the command line on the given words, without the name of the program. -/
def invoke (env : Environment) (words : List String) : m Outcome := do
  match Arguments.parse words with
  | .error e => return ⟨[], .failed (.ofUsage e)⟩
  | .ok arguments =>
    match ← chooseConfig read env arguments.config with
    | .error report => return ⟨[], .failed report⟩
    | .ok config =>
      match ← loadScript read arguments.script with
      | .error report => return ⟨[], .failed report⟩
      | .ok script =>
        let p := (Playback.fresh config arguments.format).play script
        return ⟨p.lines, .ofPlayback p⟩

end

end Kiosk.Cli
