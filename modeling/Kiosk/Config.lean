/-!
# Configuration

What an installation can set: whether root windows are kept fullscreen, and one
section per output, matched by name, with the application ids reserved for it.
-/

namespace Kiosk

/-- The settings of one output. -/
structure OutputSection where
  name : String
  /-- Application ids separated by commas. -/
  appIds : Option String
  deriving DecidableEq, Repr, Inhabited

/-- The settings of a shell. -/
structure Config where
  /-- Answer every fullscreen or maximize request of a root window with fullscreen. -/
  enforceRootFullscreen : Bool
  outputs : List OutputSection
  deriving DecidableEq, Repr

namespace Config

/-- Nothing set. -/
def default : Config := ⟨false, []⟩

instance : Inhabited Config := ⟨default⟩

/-- The application ids of the first section named `name`. Later sections of that name
do not count, even when the first one sets no ids. -/
def outputAppIds (c : Config) (name : String) : Option String :=
  (c.outputs.find? (·.name = name)).bind OutputSection.appIds

/-- The field `field` of the first section of kind `part` whose `key` is `value`. Only the
application ids of outputs by name are kept in this form. -/
def getString (c : Config) (part key value field : String) : Option String :=
  if part = "output" ∧ key = "name" ∧ field = "app-ids" then c.outputAppIds value else none

end Config

end Kiosk
