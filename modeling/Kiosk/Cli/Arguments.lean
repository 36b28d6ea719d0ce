import Kiosk.Replay.Playback

/-!
# Arguments

The command line takes the name of one script, perhaps `--config` with the name of
a configuration, and perhaps `--json`, in any order. Whatever follows `--config`
is its argument, even if it looks like an option. The last `--config` counts.
Arguments are looked at from left to right, and the first that does not fit is
the one complained about.
-/

namespace Kiosk.Cli

/-- What the command line asks for. -/
structure Arguments where
  script : String
  config : Option String
  format : Format
  deriving DecidableEq, Repr

/-- Why a command line does not fit. -/
inductive UsageError where
  | missingConfigPath
  | unknownOption (option : String)
  | secondScript
  | noScript
  deriving DecidableEq, Repr

/-- The message for a command line that does not fit. -/
def UsageError.message : UsageError → String
  | .missingConfigPath => "missing path after --config"
  | .unknownOption option => s!"unknown option: {option}"
  | .secondScript => "only one script can be replayed at a time"
  | .noScript => "usage: kiosk-replay [--json] [--config PATH] SCRIPT"

/-- Whether a word looks like an option. -/
def isOption (word : String) : Bool :=
  ['-', '-'].isPrefixOf word.toList

/-- Reads the words of a command line, given what the words before them said. -/
def Arguments.read (script config : Option String) (format : Format) :
    List String → Except UsageError Arguments
  | [] =>
    match script with
    | some script => .ok { script, config, format }
    | none => .error .noScript
  | word :: words =>
    if word = "--json" then read script config .json words
    else if word = "--config" then
      match words with
      | [] => .error .missingConfigPath
      | path :: words => read script (some path) format words
    else if isOption word then .error (.unknownOption word)
    else if script.isSome then .error .secondScript
    else read (some word) config format words

/-- Reads a command line, without the name of the program. -/
def Arguments.parse (words : List String) : Except UsageError Arguments :=
  read none none .text words

end Kiosk.Cli
