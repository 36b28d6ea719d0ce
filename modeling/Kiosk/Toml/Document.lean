import Kiosk.Toml.Number
import Kiosk.Toml.Tree

/-!
# Documents

Reads values, and from them a whole TOML document (`Toml.parse`). A document is
read line by line; every line adds to the tables under construction, or opens the
table that the next lines add to.
-/

namespace Kiosk.Toml

/-! ## Values -/

/-- Reads the items of an array up to its closing bracket; `n` bounds their number. -/
def arrayRest (item : Reader Value) : Nat → Reader (List Value)
  | 0, _ => none
  | n + 1, cs =>
    match skipLines false cs with
    | ']' :: cs => some ([], cs)
    | cs => do
      let (v, cs) ← item cs
      match skipLines false cs with
      | ',' :: cs =>
        let (vs, cs) ← arrayRest item n cs
        return (v :: vs, cs)
      | ']' :: cs => return ([v], cs)
      | _ => none

/-- Splits a key into the path to its table and its last part. -/
def splitKey : List String → Option (List String × String)
  | [] => none
  | [k] => some ([], k)
  | k :: ks => (splitKey ks).map fun (path, last) => (k :: path, last)

/-- Reads a key, the equals sign and the value after it. -/
def keyValue (item : Reader Value) (cs : List Char) :
    Option ((List String × String × Value) × List Char) := do
  let (ks, cs) ← key cs
  let (path, k) ← splitKey ks
  let (v, cs) ← item (skipBlanks (← expect '=' cs))
  return ((path, k, v), cs)

/-- Reads the entries of an inline table, after the first of which has been announced, up to
its closing brace; `n` bounds their number. -/
def inlineRest (item : Reader Value) : Nat → Nodes → Reader Nodes
  | 0, _, _ => none
  | n + 1, nodes, cs => do
    let ((path, k, v), cs) ← keyValue item cs
    let nodes ← nodes.addValue path k v .header
    match skipBlanks cs with
    | ',' :: cs => inlineRest item n nodes cs
    | '\x7d' :: cs => return (nodes, cs)
    | _ => none

/-- Reads an inline table after its opening brace. -/
def inlineTable (item : Reader Value) (cs : List Char) : Option (Value × List Char) :=
  match skipBlanks cs with
  | '\x7d' :: cs => some (.table [], cs)
  | cs => (inlineRest item (cs.length + 1) [] cs).map fun (nodes, cs) =>
      (.table (entriesOf nodes), cs)

/-- Reads a value in which arrays and inline tables are at most `n` deep. -/
def value (n : Nat) (cs : List Char) : Option (Value × List Char) :=
  match cs with
  | [] => none
  | c :: rest =>
    if c = '"' ∨ c = '\'' then (string cs).map fun (s, cs) => (.string s, cs)
    else if c = '[' then
      match n with
      | 0 => none
      | n + 1 => (arrayRest (value n) (rest.length + 1) rest).map fun (vs, cs) => (.array vs, cs)
    else if c = '\x7b' then
      match n with
      | 0 => none
      | n + 1 => inlineTable (value n) rest
    else
      match cs with
      | 't' :: 'r' :: 'u' :: 'e' :: cs => some (.boolean true, cs)
      | 'f' :: 'a' :: 'l' :: 's' :: 'e' :: cs => some (.boolean false, cs)
      | cs => number cs

/-! ## Lines -/

/-- A document under construction. -/
structure Draft where
  nodes : Nodes
  /-- The path to the table that lines add to. -/
  current : List String

namespace Draft

/-- Adds a value to the current table. -/
def add (d : Draft) (path : List String) (k : String) (v : Value) : Option Draft := do
  let nodes ← d.nodes.within false (fun origin nodes => nodes.addValue path k v origin)
    d.current .header
  return { d with nodes }

/-- Makes another table the current one; `enter` opens it in the table above it. -/
def moveTo (d : Draft) (enter : String → Nodes → Option Nodes) (ks : List String) :
    Option Draft := do
  let (path, k) ← splitKey ks
  let nodes ← d.nodes.within false (fun _ nodes => enter k nodes) path .header
  return ⟨nodes, ks⟩

end Draft

/-- Reads one line. -/
def line (d : Draft) (cs : List Char) : Option (Draft × List Char) :=
  match skipBlanks cs with
  | '[' :: '[' :: cs => do
    let (ks, cs) ← key cs
    let cs ← expect ']' (← expect ']' cs)
    return (← d.moveTo Nodes.openItem ks, ← restOfLine cs)
  | '[' :: cs => do
    let (ks, cs) ← key cs
    let cs ← expect ']' cs
    return (← d.moveTo Nodes.openTable ks, ← restOfLine cs)
  | cs =>
    match restOfLine cs with
    | some cs => some (d, cs)
    | none => do
      let ((path, k, v), cs) ← keyValue (value maxDepth) cs
      return (← d.add path k v, ← restOfLine cs)

/-- Reads at most `n` lines, which must be all. -/
def lines : Nat → Draft → List Char → Option Draft
  | _, d, [] => some d
  | 0, _, _ :: _ => none
  | n + 1, d, cs => do
    let (d, cs) ← line d cs
    lines n d cs

/-- Drops a byte order mark. -/
def dropMark : List Char → List Char
  | '\ufeff' :: cs => cs
  | cs => cs

/-- The entries of the root table of a document, or nothing when the text is not TOML. -/
def parse (text : String) : Option Entries :=
  let cs := dropMark text.toList
  (lines cs.length ⟨[], []⟩ cs).map fun d => entriesOf d.nodes

end Kiosk.Toml
