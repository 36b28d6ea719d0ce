/-!
# Blanks, strings and keys of TOML

Readers of the smallest parts of a document. A reader takes the characters that
are left and gives what it read with what is left after it, or nothing when the
characters do not begin with what it reads.
-/

namespace Kiosk.Toml

/-- Reads a value of type `α` from the front of a text. -/
abbrev Reader (α : Type) := List Char → Option (α × List Char)

/-! ## Blanks and comments -/

/-- Whether `c` separates tokens within a line. -/
def isBlank (c : Char) : Bool :=
  c = ' ' || c = '\t'

/-- Whether `c` may stand in a comment or a literal string: no control character but the
tab. -/
def isText (c : Char) : Bool :=
  c = '\t' || (0x20 ≤ c.toNat && c.toNat ≠ 0x7f)

/-- Skips blanks within a line. -/
def skipBlanks (cs : List Char) : List Char :=
  cs.dropWhile isBlank

/-- Skips blanks, ends of lines and comments. The flag says whether a comment has begun. -/
def skipLines : Bool → List Char → List Char
  | _, [] => []
  | _, '\n' :: cs => skipLines false cs
  | _, '\r' :: '\n' :: cs => skipLines false cs
  | true, c :: cs => if isText c then skipLines true cs else c :: cs
  | false, c :: cs =>
    if isBlank c then skipLines false cs
    else if c = '#' then skipLines true cs
    else c :: cs

/-- Reads the end of a line, or the end of the text. -/
def lineEnd : List Char → Option (List Char)
  | [] => some []
  | '\n' :: cs => some cs
  | '\r' :: '\n' :: cs => some cs
  | _ => none

/-- Reads what may follow a statement: blanks, a comment, and the end of the line. -/
def restOfLine (cs : List Char) : Option (List Char) :=
  match skipBlanks cs with
  | '#' :: cs => lineEnd (cs.dropWhile isText)
  | cs => lineEnd cs

/-- Reads the character `c`. -/
def expect (c : Char) : List Char → Option (List Char)
  | d :: cs => if d = c then some cs else none
  | [] => none

/-! ## Strings -/

/-- The value of a hexadecimal digit. -/
def hexDigit? (c : Char) : Option Nat :=
  if '0' ≤ c ∧ c ≤ '9' then some (c.toNat - '0'.toNat)
  else if 'a' ≤ c ∧ c ≤ 'f' then some (c.toNat - 'a'.toNat + 10)
  else if 'A' ≤ c ∧ c ≤ 'F' then some (c.toNat - 'A'.toNat + 10)
  else none

/-- The character whose number the hexadecimal digits spell. -/
def charOfHex? (digits : List Char) : Option Char := do
  let n ← digits.foldlM (fun n c => (hexDigit? c).map (16 * n + ·)) 0
  if h : n.isValidChar then some (Char.ofNatAux n h) else none

/-- The character a backslash and a letter stand for. -/
def escaped? : Char → Option Char
  | 'b' => some '\x08'
  | 't' => some '\t'
  | 'n' => some '\n'
  | 'f' => some '\x0c'
  | 'r' => some '\r'
  | '"' => some '"'
  | '\\' => some '\\'
  | _ => none

/-- Puts a character in front of what a reader reads. -/
def andThen (c : Option Char) (r : Option (List Char × List Char)) :
    Option (List Char × List Char) :=
  match c, r with
  | some c, some (s, cs) => some (c :: s, cs)
  | _, _ => none

/-- Reads a string with escapes up to its closing quote. -/
def basicRest : Reader (List Char)
  | '"' :: cs => some ([], cs)
  | '\\' :: 'u' :: a :: b :: c :: d :: cs => andThen (charOfHex? [a, b, c, d]) (basicRest cs)
  | '\\' :: 'U' :: a :: b :: c :: d :: e :: f :: g :: h :: cs =>
    andThen (charOfHex? [a, b, c, d, e, f, g, h]) (basicRest cs)
  | '\\' :: c :: cs => andThen (escaped? c) (basicRest cs)
  | c :: cs => if isText c then andThen (some c) (basicRest cs) else none
  | [] => none

/-- Reads a string without escapes up to its closing quote. -/
def literalRest : Reader (List Char)
  | '\'' :: cs => some ([], cs)
  | c :: cs => if isText c then andThen (some c) (literalRest cs) else none
  | [] => none

/-- Up to two quotes that belong to a string although they stand before three that close it,
when `cs` is what follows the first three. -/
def closingQuotes (quote : Char) : Reader (List Char)
  | a :: b :: cs =>
    if a = quote then
      if b = quote then some ([a, b], cs) else some ([a], b :: cs)
    else some ([], a :: b :: cs)
  | [a] => if a = quote then some ([a], []) else some ([], [a])
  | [] => some ([], [])

/-- Reads a string with escapes over several lines up to its closing quotes. The flag says
whether a backslash at the end of a line is trimming the blanks after it. -/
def multiBasicRest : Bool → Reader (List Char)
  | _, '"' :: '"' :: '"' :: cs => closingQuotes '"' cs
  | _, '\\' :: 'u' :: a :: b :: c :: d :: cs =>
    andThen (charOfHex? [a, b, c, d]) (multiBasicRest false cs)
  | _, '\\' :: 'U' :: a :: b :: c :: d :: e :: f :: g :: h :: cs =>
    andThen (charOfHex? [a, b, c, d, e, f, g, h]) (multiBasicRest false cs)
  | _, '\\' :: c :: cs =>
    match escaped? c with
    | some c => andThen (some c) (multiBasicRest false cs)
    | none =>
      if ((skipBlanks (c :: cs)).head?.any fun c => c = '\n' || c = '\r') then
        multiBasicRest true (c :: cs)
      else none
  | trimming, '\r' :: '\n' :: cs =>
    if trimming then multiBasicRest true cs else andThen (some '\n') (multiBasicRest false cs)
  | trimming, '\n' :: cs =>
    if trimming then multiBasicRest true cs else andThen (some '\n') (multiBasicRest false cs)
  | trimming, c :: cs =>
    if trimming && isBlank c then multiBasicRest true cs
    else if isText c then andThen (some c) (multiBasicRest false cs)
    else none
  | _, [] => none

/-- Reads a string without escapes over several lines up to its closing quotes. -/
def multiLiteralRest : Reader (List Char)
  | '\'' :: '\'' :: '\'' :: cs => closingQuotes '\'' cs
  | '\r' :: '\n' :: cs => andThen (some '\n') (multiLiteralRest cs)
  | '\n' :: cs => andThen (some '\n') (multiLiteralRest cs)
  | c :: cs => if isText c then andThen (some c) (multiLiteralRest cs) else none
  | [] => none

/-- Drops the end of line that may follow the opening quotes of a string over several
lines. -/
def dropFirstLineEnd : List Char → List Char
  | '\n' :: cs => cs
  | '\r' :: '\n' :: cs => cs
  | cs => cs

/-- Reads a string on one line. -/
def lineString : Reader String
  | '"' :: cs => (basicRest cs).map fun (s, cs) => (String.ofList s, cs)
  | '\'' :: cs => (literalRest cs).map fun (s, cs) => (String.ofList s, cs)
  | _ => none

/-- Reads a string. -/
def string : Reader String
  | '"' :: '"' :: '"' :: cs =>
    (multiBasicRest false (dropFirstLineEnd cs)).map fun (s, cs) => (String.ofList s, cs)
  | '\'' :: '\'' :: '\'' :: cs =>
    (multiLiteralRest (dropFirstLineEnd cs)).map fun (s, cs) => (String.ofList s, cs)
  | cs => lineString cs

/-! ## Keys -/

/-- Whether `c` may stand in a key without quotes. -/
def isBare (c : Char) : Bool :=
  c.isAlphanum || c = '_' || c = '-'

/-- Reads one part of a key. -/
def keyPart : Reader String
  | c :: cs =>
    if isBare c then
      some (String.ofList (c :: cs.takeWhile isBare), cs.dropWhile isBare)
    else lineString (c :: cs)
  | [] => none

/-- Reads a key of at most `n` parts with points between them, and the blanks around it. -/
def keyParts : Nat → Reader (List String)
  | 0, _ => none
  | n + 1, cs => do
    let (part, cs) ← keyPart (skipBlanks cs)
    match skipBlanks cs with
    | '.' :: cs =>
      let (parts, cs) ← keyParts n cs
      return (part :: parts, cs)
    | cs => return ([part], cs)

/-- How deep arrays, inline tables and dotted keys may go. -/
def maxDepth : Nat := 79

/-- Reads a key. -/
def key : Reader (List String) :=
  keyParts maxDepth

end Kiosk.Toml
