import Kiosk.Toml.Value

/-!
# Tables under construction

A document adds to its tables bit by bit: by headers, by headers of arrays of
tables, and by dotted keys. What may still be added depends on how a table came
to be. Paths go down from the root by key; a path through an array of tables goes
through the last table of it.
-/

namespace Kiosk.Toml

/-- How a table came to be. -/
inductive Origin where
  /-- By a header of its own, or as the root. -/
  | header
  /-- By the header of a table below it. -/
  | implied
  /-- By a dotted key. -/
  | dotted
  deriving DecidableEq, Repr

/-- An item of a table under construction. -/
inductive Node where
  /-- A value, to which nothing can be added. -/
  | leaf (v : Value)
  | table (origin : Origin) (entries : List (String × Node))
  /-- An array of tables, last one first. -/
  | tables (items : List (List (String × Node)))

/-- The items of a table under construction, in order of their introduction. -/
abbrev Nodes := List (String × Node)

namespace Nodes

/-- Changes the item under `k`, or adds one after the others, or fails. -/
def upsert (k : String) (f : Option Node → Option Node) : Nodes → Option Nodes
  | [] => (f none).map fun n => [(k, n)]
  | (j, n) :: rest =>
    if j = k then (f (some n)).map fun n => (j, n) :: rest
    else (upsert k f rest).map ((j, n) :: ·)

/-- Changes the table at the end of a path, making the tables on the way that are missing. A
path of a dotted key passes no table that has a header of its own. -/
def within (dotted : Bool) (f : Origin → Nodes → Option Nodes) :
    List String → Origin → Nodes → Option Nodes
  | [], origin, nodes => f origin nodes
  | k :: path, _, nodes =>
    nodes.upsert k fun
      | none =>
        let fresh : Origin := if dotted then .dotted else .implied
        (within dotted f path fresh []).map (.table fresh)
      | some (.table origin sub) =>
        if dotted ∧ origin = .header then none
        else (within dotted f path origin sub).map (.table origin)
      | some (.tables (last :: others)) =>
        (within dotted f path .header last).map fun last => .tables (last :: others)
      | some (.tables []) => none
      | some (.leaf _) => none

/-- Adds `k` with the value `v` to a table. The key must be new. -/
def addLeaf (k : String) (v : Value) (nodes : Nodes) : Option Nodes :=
  nodes.upsert k fun
    | none => some (.leaf v)
    | some _ => none

/-- Adds a value under a dotted key, given as the path to its table and its last part. A
table reached by a path of some length must have come from a dotted key, and one reached
without a path must not. -/
def addValue (path : List String) (k : String) (v : Value) (origin : Origin) (nodes : Nodes) :
    Option Nodes :=
  nodes.within true
    (fun origin nodes =>
      if (origin = .dotted) = path.isEmpty then none else nodes.addLeaf k v)
    path origin

/-- Opens the table `k` by a header. One that was only implied so far moves to the end. -/
def openTable (k : String) (nodes : Nodes) : Option Nodes :=
  match nodes.lookup k with
  | none => some (nodes ++ [(k, .table .header [])])
  | some (.table .implied sub) =>
    some (nodes.filter (·.1 ≠ k) ++ [(k, .table .header sub)])
  | some _ => none

/-- Opens a new last table of the array of tables `k`. -/
def openItem (k : String) (nodes : Nodes) : Option Nodes :=
  nodes.upsert k fun
    | none => some (.tables [[]])
    | some (.tables items) => some (.tables ([] :: items))
    | some _ => none

end Nodes

mutual

/-- A finished item. -/
def Node.value : Node → Value
  | .leaf v => v
  | .table _ nodes => .table (entriesOf nodes)
  | .tables items => .array (itemsOf items [])

/-- The entries of a finished table. -/
def entriesOf : Nodes → Entries
  | [] => []
  | (k, n) :: rest => (k, n.value) :: entriesOf rest

/-- The tables of a finished array of tables, in the order of the document, in front of
those already finished. -/
def itemsOf : List Nodes → List Value → List Value
  | [], done => done
  | nodes :: rest, done => itemsOf rest (.table (entriesOf nodes) :: done)

end

end Kiosk.Toml
