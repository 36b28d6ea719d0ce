import Kiosk.Config
import Kiosk.Toml.Document
import Kiosk.Toml.Mismatch

/-!
# Configurations in TOML

A configuration is written as a flag `enforce_root_fullscreen` and an array of
tables `output`, each with a `name` and perhaps `app-ids`. Everything may be left
out, and other keys are ignored. Entries are looked at in the order of the
document. `Config.parse` reads such a text and `Config.render` writes one.
-/

namespace Kiosk

open Toml

/-- Takes one entry of a section into account. -/
def OutputSection.withEntry (o : OutputSection) (key : String) (v : Value) :
    Except Mismatch OutputSection :=
  match key with
  | "name" => v.asString.map fun name => { o with name }
  | "app-ids" => v.asString.map fun appIds => { o with appIds := some appIds }
  | _ => .ok o

/-- Reads a section: a table, or an array of a name and application ids, either of which may
be missing at the end. A date counts as a table without known keys. -/
def OutputSection.ofValue : Value → Except Mismatch OutputSection
  | .table entries => entries.foldlM (fun o (key, v) => o.withEntry key v) ⟨"", none⟩
  | .array items =>
    (["name", "app-ids"].zip items).foldlM (fun o (key, v) => o.withEntry key v) ⟨"", none⟩
  | .datetime => .ok ⟨"", none⟩
  | v => .error (.wrongType v .outputSection)

namespace Config

/-- Takes one entry of the root table into account. -/
def withEntry (c : Config) (key : String) (v : Value) : Except Mismatch Config :=
  match key with
  | "enforce_root_fullscreen" => v.asBool.map fun b => { c with enforceRootFullscreen := b }
  | "output" => do
    let outputs ← (← v.asArray).mapM OutputSection.ofValue
    return { c with outputs }
  | _ => .ok c

/-- The configuration in a TOML text. -/
def parse (text : String) : Except Misreading Config :=
  match Toml.parse text with
  | none => .error .malformed
  | some entries =>
    (entries.foldlM (fun (c : Config) (key, v) => c.withEntry key v) default).mapError .mismatch

/-- One character of a TOML string on one line. -/
private def escapeChar (c : Char) : List Char :=
  if c = '"' then ['\\', '"']
  else if c = '\\' then ['\\', '\\']
  else if isText c then [c]
  else
    let digits := Nat.toDigits 16 c.toNat
    '\\' :: 'u' :: List.replicate (4 - digits.length) '0' ++ digits

/-- A TOML string on one line. -/
def renderString (s : String) : String :=
  String.ofList ('"' :: s.toList.flatMap escapeChar ++ ['"'])

/-- The section of an output as TOML. -/
def renderSection (o : OutputSection) : String :=
  "\n[[output]]\nname = " ++ renderString o.name ++ "\n" ++
    o.appIds.elim "" fun appIds => "app-ids = " ++ renderString appIds ++ "\n"

/-- The configuration as TOML. -/
def render (c : Config) : String :=
  s!"enforce_root_fullscreen = {c.enforceRootFullscreen}\n" ++
    String.join (c.outputs.map renderSection)

end Config

end Kiosk
