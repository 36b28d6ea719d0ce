/-!
# Lists of application ids

An output can be reserved for some applications by a text of application ids
separated by commas. Ids are compared as they stand: blanks count, and `"a,b"`
names `"a"` and `"b"` but not `"a,b"`. The empty text names the empty id; naming
no id at all is the default.
-/

namespace Kiosk

/-- The application ids an output is reserved for, in the order given. -/
structure AppIds where
  tokens : List String
  deriving DecidableEq, Repr

namespace AppIds

/-- The parts of `cs` between commas. -/
def splitCommas : List Char → List (List Char)
  | [] => [[]]
  | c :: cs =>
    if c = ',' then [] :: splitCommas cs
    else match splitCommas cs with
      | part :: parts => (c :: part) :: parts
      | [] => [[c]]

/-- No application ids. -/
def none : AppIds := ⟨[]⟩

instance : Inhabited AppIds := ⟨none⟩

/-- The ids in a text, which are its parts between commas. -/
def ofText (text : String) : AppIds :=
  ⟨(splitCommas text.toList).map String.ofList⟩

/-- Whether `appId` is one of the ids. -/
def contains (a : AppIds) (appId : String) : Bool :=
  a.tokens.contains appId

/-- Whether there are no ids. -/
def isEmpty (a : AppIds) : Bool :=
  a.tokens.isEmpty

end AppIds

end Kiosk
