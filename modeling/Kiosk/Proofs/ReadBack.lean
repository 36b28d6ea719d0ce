import Kiosk.Command
import Mathlib.Logic.Function.Basic

/-!
# Printed commands read back

Both forms in which a command is printed say all of it: the line of text and the record can be read
back (`Printed.ofText?_text`, `Printed.ofRecord?_record`), so no two commands are printed alike
(`Printed.read_back`). That holds of lengths below zero as well, which no command of the shell has
but the forms allow for (`Printed`).

Reading goes from front to back. A number ends where its digits end, so the text that follows it
must not begin with a digit (`Stops`); that is all that the forms have to see to.
-/

namespace Kiosk

/-! ## Readers -/

/-- A reader takes what it reads from the front of a text. -/
abbrev Reader := StateT (List Char) Option

/-- The text does not begin with a digit. -/
def Stops (cs : List Char) : Bool := cs.head?.all (!·.isDigit)

namespace Reader

/-- Reads just `s`. -/
def literal (s : String) : Reader Unit := fun cs =>
  if s.toList.isPrefixOf cs then some ((), cs.drop s.toList.length) else none

/-- Reads `s`, and then what `r` reads. -/
def past {α : Type} (s : String) (r : Reader α) : Reader α := do
  literal s
  r

/-- Reads what stands before the first `c`, and that `c`. -/
def upTo (c : Char) : Reader String := fun cs =>
  match cs.dropWhile (· ≠ c) with
  | [] => none
  | _ :: rest => some (String.ofList (cs.takeWhile (· ≠ c)), rest)

/-- Reads digits, at least one. -/
def natural : Reader Nat := fun cs =>
  match cs.takeWhile Char.isDigit with
  | [] => none
  | digits => some (Nat.ofDigitChars 10 digits 0, cs.dropWhile Char.isDigit)

/-- Reads digits, after a sign if the number is below zero. -/
def integer : Reader Int :=
  (do literal "-"; return -(← natural)) <|> return (← natural)

def coord : Reader Coord := return Int32.ofInt (← integer)

def handle {role : Role} : Reader (Handle role) := return ⟨← natural⟩

def flag : Reader Bool :=
  (do literal "true"; return true) <|> (do literal "false"; return false)

/-- Reads a handle by the given reader, unless the word for none stands there. -/
def orNone {role : Role} (word : String) (some? : Reader (Handle role)) :
    Reader (Option (Handle role)) :=
  (do literal word; return none) <|> (return some (← some?))

/-- Reads a word between quotes. -/
def quoted : Reader String := past "\"" (upTo '"')

/-- Reads a field of a record, the value of which is read by `value`. -/
def field {α : Type} (key : String) (value : Reader α) : Reader α :=
  past "\"" (past key (past "\":" value))

/-- Reads a field that is not the first of its record. -/
def next {α : Type} (key : String) (value : Reader α) : Reader α :=
  past "," (field key value)

/-- The reader reads `cs` as `a`, up to where `rest` begins. -/
def Reads {α : Type} (r : Reader α) (cs : List Char) (a : α) (rest : List Char) : Prop :=
  r.run cs = some (a, rest)

/-- The reader cannot read `cs`. -/
def Fails {α : Type} (r : Reader α) (cs : List Char) : Prop := r.run cs = none

variable {α β : Type} {s word : String} {c : Char} {cs mid rest : List Char} {r r' : Reader α}
  {f : α → Reader β} {a : α} {b : β}

/-! ### One reader after the other -/

theorem Reads.pure (a : α) (rest : List Char) : Reads (pure a) rest a rest := rfl

theorem Reads.bind (h : Reads r cs a mid) (h' : Reads (f a) mid b rest) :
    Reads (r >>= f) cs b rest := by
  rw [Reads, StateT.run_bind, h]
  exact h'

theorem Fails.bind (h : Fails r cs) (f : α → Reader β) : Fails (r >>= f) cs := by
  rw [Fails, StateT.run_bind, h]
  rfl

/-- The first reader is followed if it can read. -/
theorem Reads.orElse (h : Reads r cs a rest) (r' : Reader α) : Reads (r <|> r') cs a rest := by
  show (r.run cs).orElse (fun _ => r'.run cs) = _
  rw [h]
  rfl

/-- The second reader is followed if the first cannot read. -/
theorem Fails.orElse (h : Fails r cs) (h' : Reads r' cs a rest) : Reads (r <|> r') cs a rest := by
  show (r.run cs).orElse (fun _ => r'.run cs) = _
  rw [h]
  exact h'

/-- A word is read off the start of a text. -/
theorem literal_reads (s : String) (rest : List Char) :
    Reads (literal s) (s.toList ++ rest) () rest := by
  simp [Reads, literal, StateT.run]

theorem literal_fails (h : s.toList.isPrefixOf cs = false) : Fails (literal s) cs := by
  simp [Fails, literal, StateT.run, h]

theorem Reads.past (h : Reads r cs a rest) : Reads (past s r) (s.toList ++ cs) a rest :=
  (literal_reads s cs).bind h

/-- What comes before the first delimiter is read. -/
theorem upTo_reads (h : c ∉ cs) (rest : List Char) :
    Reads (upTo c) (cs ++ c :: rest) (String.ofList cs) rest := by
  have hne : ∀ b ∈ cs, decide (b ≠ c) = true := fun b hb => by
    rw [decide_eq_true_iff]
    rintro rfl
    exact h hb
  rw [Reads, StateT.run, upTo, List.dropWhile_append_of_pos hne, List.takeWhile_append_of_pos hne]
  simp

/-! ### Numbers -/

theorem isDigit_of_mem_toString {n : Nat} (h : c ∈ (toString n).toList) : c.isDigit := by
  rw [Nat.toString_eq_ofList_toDigits, String.toList_ofList] at h
  exact Nat.isDigit_of_mem_toDigits (by decide) (by decide) h

theorem toList_toString_ne_nil (n : Nat) : (toString n).toList ≠ [] := by
  rw [Nat.toString_eq_ofList_toDigits, String.toList_ofList]
  exact Nat.toDigits_ne_nil

/-- A word that does not begin with a digit is not the beginning of a number. -/
theorem literal_fails_toString (hs : s.toList.head?.any (!·.isDigit)) (n : Nat) :
    Fails (literal s) ((toString n).toList ++ rest) := by
  refine literal_fails ?_
  cases hn : (toString n).toList with
  | nil => exact absurd hn (toList_toString_ne_nil n)
  | cons d ds =>
    have hd : d.isDigit := isDigit_of_mem_toString (hn ▸ List.mem_cons_self)
    cases hcs : s.toList with
    | nil => simp [hcs] at hs
    | cons c cs =>
      have hne : c ≠ d := by
        rintro rfl
        simp [hcs, hd] at hs
      simp [List.isPrefixOf, hne]

/-- A number is read to its last digit, if no digit follows it. -/
theorem natural_reads (n : Nat) (h : Stops rest) :
    Reads natural ((toString n).toList ++ rest) n rest := by
  have hdigits : ∀ b ∈ (toString n).toList, b.isDigit = true := fun b => isDigit_of_mem_toString
  have hstop : rest.takeWhile Char.isDigit = [] ∧ rest.dropWhile Char.isDigit = rest := by
    cases rest with
    | nil => exact ⟨rfl, rfl⟩
    | cons b rest =>
      have hb : b.isDigit = false := by simpa [Stops] using h
      simp [hb]
  rw [Reads, StateT.run, natural, List.takeWhile_append_of_pos hdigits,
    List.dropWhile_append_of_pos hdigits, hstop.1, hstop.2, List.append_nil]
  split
  · next hnil => exact absurd hnil (toList_toString_ne_nil n)
  · rw [Nat.toString_eq_ofList_toDigits, String.toList_ofList, Nat.ofDigitChars_ten_toDigits]

/-- A sign is read before the digits. -/
theorem integer_reads (n : Int) (h : Stops rest) :
    Reads integer ((toString n).toList ++ rest) n rest := by
  cases n with
  | ofNat n =>
    have hsign : Fails (literal "-") ((toString n).toList ++ rest) :=
      literal_fails_toString (by decide) n
    exact (hsign.bind _).orElse ((natural_reads n h).bind (.pure _ rest))
  | negSucc n =>
    have htext : (toString (Int.negSucc n)).toList ++ rest =
        "-".toList ++ ((toString (n + 1)).toList ++ rest) := by
      rw [← List.append_assoc, ← String.toList_append]
      rfl
    have hneg : Reads (pure (-((n + 1 : Nat) : Int))) rest (Int.negSucc n) rest := rfl
    rw [htext]
    exact ((literal_reads "-" _).bind ((natural_reads (n + 1) h).bind hneg)).orElse _

/-! ### Values -/

theorem coord_reads (c : Coord) (h : Stops rest) :
    Reads coord ((toString c).toList ++ rest) c rest := by
  have hread : Reads coord ((toString c).toList ++ rest) (Int32.ofInt c.toInt) rest :=
    (integer_reads c.toInt h).bind (.pure _ rest)
  rwa [Int32.ofInt_toInt] at hread

theorem handle_reads {role : Role} (handle : Handle role) (h : Stops rest) :
    Reads Reader.handle ((toString handle.number).toList ++ rest) handle rest :=
  (natural_reads handle.number h).bind (.pure _ rest)

theorem flag_reads (b : Bool) (rest : List Char) :
    Reads flag ((toString b).toList ++ rest) b rest := by
  cases b with
  | true => exact ((literal_reads "true" rest).bind (.pure true rest)).orElse _
  | false =>
    have hnot : Fails (literal "true") ((toString false).toList ++ rest) := literal_fails rfl
    exact (hnot.bind _).orElse ((literal_reads "false" rest).bind (.pure false rest))

theorem orNone_reads_none {role : Role} (word : String) (r : Reader (Handle role))
    (rest : List Char) : Reads (orNone word r) (word.toList ++ rest) none rest :=
  ((literal_reads word rest).bind (.pure none rest)).orElse _

/-- A handle is not mistaken for the word that stands for none. -/
theorem orNone_reads_some {role : Role} {r : Reader (Handle role)} {handle : Handle role}
    (hword : Fails (literal word) cs) (h : Reads r cs handle rest) :
    Reads (orNone word r) cs (some handle) rest :=
  (hword.bind _).orElse (h.bind (.pure _ rest))

theorem quoted_reads (h : '"' ∉ s.toList) (rest : List Char) :
    Reads quoted ("\"".toList ++ (s.toList ++ ("\"".toList ++ rest))) s rest := by
  have hread := upTo_reads h rest
  rw [String.ofList_toList] at hread
  exact hread.past

theorem Reads.field {key : String} (h : Reads r cs a rest) :
    Reads (field key r) ("\"".toList ++ (key.toList ++ ("\":".toList ++ cs))) a rest :=
  h.past.past.past

theorem Reads.next {key : String} (h : Reads r cs a rest) : Reads (next key r)
    (",".toList ++ ("\"".toList ++ (key.toList ++ ("\":".toList ++ cs)))) a rest :=
  h.field.past

end Reader

/-! ## Commands with any lengths -/

/-- A command as it can be printed. Its lengths may be any coordinates. -/
inductive Printed where
  | setUserData (surface : SurfaceHandle) (attached : Bool)
  | createView (surface : SurfaceHandle) (view : ViewHandle)
  | destroyView (view : ViewHandle)
  | mapView (view : ViewHandle)
  | raiseView (view : ViewHandle)
  | setViewPosition (view : ViewHandle) (position : Point)
  | createBackground (output : OutputHandle) (view : ViewHandle) (loc : Point)
      (width height : Coord)
  | setFullscreen (surface : SurfaceHandle) (fullscreen : Bool)
  | setMaximized (surface : SurfaceHandle) (maximized : Bool)
  | setSize (surface : SurfaceHandle) (width height : Coord)
  | setActivated (surface : SurfaceHandle) (activated : Bool)
  | setKeyboardFocus (seat : SeatHandle) (surface : Option SurfaceHandle)
  | postNoMemory (surface : SurfaceHandle)
  deriving DecidableEq, Repr

/-- A command of the shell. -/
def Command.printed : Command → Printed
  | .setUserData s attached => .setUserData s attached
  | .createView s v => .createView s v
  | .destroyView v => .destroyView v
  | .mapView v => .mapView v
  | .raiseView v => .raiseView v
  | .setViewPosition v p => .setViewPosition v p
  | .createBackground o v r => .createBackground o v r.loc r.size.w r.size.h
  | .setFullscreen s fullscreen => .setFullscreen s fullscreen
  | .setMaximized s maximized => .setMaximized s maximized
  | .setSize s size => .setSize s size.w size.h
  | .setActivated s activated => .setActivated s activated
  | .setKeyboardFocus seat s => .setKeyboardFocus seat s
  | .postNoMemory s => .postNoMemory s

namespace Printed

/-- The command as a line of text. -/
def text : Printed → String
  | setUserData s attached =>
    "user-data surface=" ++ toString s.number ++ " attached=" ++ toString attached
  | createView s v => "create-view surface=" ++ toString s.number ++ " view=" ++ toString v.number
  | destroyView v => "destroy-view view=" ++ toString v.number
  | mapView v => "map-view view=" ++ toString v.number
  | raiseView v => "raise-view view=" ++ toString v.number
  | setViewPosition v p =>
    "position view=" ++ toString v.number ++ " at " ++ toString p.x ++ "," ++ toString p.y
  | createBackground o v loc width height =>
    "background output=" ++ toString o.number ++ " view=" ++ toString v.number ++ " " ++
      toString width ++ "x" ++ toString height ++ "+" ++ toString loc.x ++ "+" ++ toString loc.y
  | setFullscreen s fullscreen =>
    "fullscreen surface=" ++ toString s.number ++ " " ++ toString fullscreen
  | setMaximized s maximized =>
    "maximized surface=" ++ toString s.number ++ " " ++ toString maximized
  | setSize s width height =>
    "size surface=" ++ toString s.number ++ " " ++ toString width ++ "x" ++ toString height
  | setActivated s activated =>
    "activated surface=" ++ toString s.number ++ " " ++ toString activated
  | setKeyboardFocus seat s =>
    "keyboard-focus seat=" ++ toString seat.number ++
      s.elim " none" fun s => " surface=" ++ toString s.number
  | postNoMemory s => "no-memory surface=" ++ toString s.number

/-- The name of the command in its record. -/
def name : Printed → String
  | setUserData .. => "set-user-data"
  | createView .. => "create-view"
  | destroyView .. => "destroy-view"
  | mapView .. => "map-view"
  | raiseView .. => "raise-view"
  | setViewPosition .. => "set-view-position"
  | createBackground .. => "create-background"
  | setFullscreen .. => "set-fullscreen"
  | setMaximized .. => "set-maximized"
  | setSize .. => "set-size"
  | setActivated .. => "set-activated"
  | setKeyboardFocus .. => "set-keyboard-focus"
  | postNoMemory .. => "post-no-memory"

/-- The fields of the command in its record, without its name. -/
def details : Printed → List (String × Field)
  | setUserData s attached => [("surface", .number s.number), ("attached", .flag attached)]
  | createView s v => [("surface", .number s.number), ("view", .number v.number)]
  | destroyView v => [("view", .number v.number)]
  | mapView v => [("view", .number v.number)]
  | raiseView v => [("view", .number v.number)]
  | setViewPosition v p =>
    [("view", .number v.number), ("x", .number p.x.toInt), ("y", .number p.y.toInt)]
  | createBackground o v loc width height =>
    [("output", .number o.number), ("view", .number v.number), ("x", .number loc.x.toInt),
      ("y", .number loc.y.toInt), ("width", .number width.toInt), ("height", .number height.toInt)]
  | setFullscreen s fullscreen =>
    [("surface", .number s.number), ("fullscreen", .flag fullscreen)]
  | setMaximized s maximized => [("surface", .number s.number), ("maximized", .flag maximized)]
  | setSize s width height =>
    [("surface", .number s.number), ("width", .number width.toInt),
      ("height", .number height.toInt)]
  | setActivated s activated => [("surface", .number s.number), ("activated", .flag activated)]
  | setKeyboardFocus seat s =>
    [("seat", .number seat.number), ("surface", s.elim .null (.number ·.number))]
  | postNoMemory s => [("surface", .number s.number)]

/-- The command as one JSON object, after the number of the step that caused it. -/
def record (step : Nat) (p : Printed) : String :=
  Command.object (("step", .number step) :: ("command", .word p.name) :: p.details)

end Printed

theorem Size.eq_of_parts {s t : Size} (hw : s.w = t.w) (hh : s.h = t.h) : s = t := by
  cases s
  cases t
  cases hw
  cases hh
  rfl

namespace Command

/-- A command and what it prints have the same text. -/
theorem text_printed (c : Command) : c.printed.text = c.text := by
  cases c with
  | setKeyboardFocus seat s =>
    cases s with
    | none => rfl
    | some s => exact (String.append_assoc ..).symm
  | _ => rfl

theorem record_printed (step : Nat) (c : Command) :
    c.printed.record step = c.record step := by
  cases c <;> rfl

/-- Nothing of a command is lost in what can be printed of it. -/
theorem printed_injective : Function.Injective printed := by
  intro c c' h
  cases c with
  | createBackground o v area =>
    cases c' with
    | createBackground o' v' area' =>
      obtain ⟨loc, size⟩ := area
      obtain ⟨loc', size'⟩ := area'
      simp only [printed, Printed.createBackground.injEq] at h
      obtain ⟨rfl, rfl, rfl, hw, hh⟩ := h
      rw [Size.eq_of_parts hw hh]
    | _ => cases h
  | setSize s size =>
    cases c' with
    | setSize s' size' =>
      simp only [printed, Printed.setSize.injEq] at h
      obtain ⟨rfl, hw, hh⟩ := h
      rw [Size.eq_of_parts hw hh]
    | _ => cases h
  | _ =>
    cases c' <;> cases h
    rfl

end Command

/-! ## Lines of text -/

namespace Printed

open Reader

/-- Reads the rest of a line of text that begins with `head` and an equals sign. -/
def afterHead : String → Reader Printed
  | "user-data surface" => return .setUserData (← handle) (← past " attached=" flag)
  | "create-view surface" => return .createView (← handle) (← past " view=" handle)
  | "destroy-view view" => return .destroyView (← handle)
  | "map-view view" => return .mapView (← handle)
  | "raise-view view" => return .raiseView (← handle)
  | "position view" =>
    return .setViewPosition (← handle) ⟨← past " at " coord, ← past "," coord⟩
  | "background output" => do
    let output ← handle
    let view ← past " view=" handle
    let width ← past " " coord
    let height ← past "x" coord
    let loc := ⟨← past "+" coord, ← past "+" coord⟩
    return .createBackground output view loc width height
  | "fullscreen surface" => return .setFullscreen (← handle) (← past " " flag)
  | "maximized surface" => return .setMaximized (← handle) (← past " " flag)
  | "size surface" =>
    return .setSize (← handle) (← past " " coord) (← past "x" coord)
  | "activated surface" => return .setActivated (← handle) (← past " " flag)
  | "keyboard-focus seat" =>
    return .setKeyboardFocus (← handle) (← orNone " none" (past " surface=" handle))
  | "no-memory surface" => return .postNoMemory (← handle)
  | _ => failure

/-- Reads a line of text. -/
def line : Reader Printed := do afterHead (← upTo '=')

/-- The command that is printed as `text`. -/
def ofText? (text : String) : Option Printed :=
  match line.run text.toList with
  | some (p, []) => some p
  | _ => none

variable {rest : List Char}

/-- The rest of a line is read by what stands before its first equals sign. -/
theorem line_reads_head (head : String) {cs : List Char} {p : Printed}
    (hhead : '=' ∉ head.toList) (h : Reads (afterHead head) cs p rest) :
    Reads line ((head ++ "=").toList ++ cs) p rest := by
  have hread := upTo_reads hhead cs
  rw [String.ofList_toList] at hread
  rw [String.toList_append, List.append_assoc]
  exact hread.bind h

/-- A line of text is read up to its end. -/
theorem line_reads (p : Printed) (h : Stops rest) : Reads line (p.text.toList ++ rest) p rest := by
  unfold text
  cases p <;> simp only [String.toList_append, List.append_assoc]
  case setUserData s attached =>
    exact line_reads_head "user-data surface" (by decide) <|
      (handle_reads s rfl).bind <| (flag_reads attached rest).past.bind <| .pure _ rest
  case createView s v =>
    exact line_reads_head "create-view surface" (by decide) <|
      (handle_reads s rfl).bind <| (handle_reads v h).past.bind <| .pure _ rest
  case destroyView v =>
    exact line_reads_head "destroy-view view" (by decide) <|
      (handle_reads v h).bind <| .pure _ rest
  case mapView v =>
    exact line_reads_head "map-view view" (by decide) <| (handle_reads v h).bind <| .pure _ rest
  case raiseView v =>
    exact line_reads_head "raise-view view" (by decide) <|
      (handle_reads v h).bind <| .pure _ rest
  case setViewPosition v p =>
    exact line_reads_head "position view" (by decide) <|
      (handle_reads v rfl).bind <| (coord_reads p.x rfl).past.bind <|
        (coord_reads p.y h).past.bind <| .pure _ rest
  case createBackground o v loc width height =>
    exact line_reads_head "background output" (by decide) <|
      (handle_reads o rfl).bind <| (handle_reads v rfl).past.bind <|
        (coord_reads width rfl).past.bind <| (coord_reads height rfl).past.bind <|
        (coord_reads loc.x rfl).past.bind <| (coord_reads loc.y h).past.bind <| .pure _ rest
  case setFullscreen s fullscreen =>
    exact line_reads_head "fullscreen surface" (by decide) <|
      (handle_reads s rfl).bind <| (flag_reads fullscreen rest).past.bind <| .pure _ rest
  case setMaximized s maximized =>
    exact line_reads_head "maximized surface" (by decide) <|
      (handle_reads s rfl).bind <| (flag_reads maximized rest).past.bind <| .pure _ rest
  case setSize s width height =>
    exact line_reads_head "size surface" (by decide) <|
      (handle_reads s rfl).bind <| (coord_reads width rfl).past.bind <|
        (coord_reads height h).past.bind <| .pure _ rest
  case setActivated s activated =>
    exact line_reads_head "activated surface" (by decide) <|
      (handle_reads s rfl).bind <| (flag_reads activated rest).past.bind <| .pure _ rest
  case setKeyboardFocus seat s =>
    cases s with
    | none =>
      exact line_reads_head "keyboard-focus seat" (by decide) <|
        (handle_reads seat rfl).bind <| (orNone_reads_none " none" _ rest).bind <| .pure _ rest
    | some s =>
      dsimp only [Option.elim]
      simp only [String.toList_append, List.append_assoc]
      exact line_reads_head "keyboard-focus seat" (by decide) <|
        (handle_reads seat rfl).bind <|
          (orNone_reads_some (literal_fails rfl) (handle_reads s h).past).bind <| .pure _ rest
  case postNoMemory s =>
    exact line_reads_head "no-memory surface" (by decide) <| (handle_reads s h).bind <| .pure _ rest

/-- The text of a command can be read back. -/
theorem ofText?_text (p : Printed) : ofText? p.text = some p := by
  have hread : line.run p.text.toList = some (p, []) := by
    have h : Reads line (p.text.toList ++ []) p [] := p.line_reads rfl
    rwa [List.append_nil] at h
  rw [ofText?, hread]

/-! ## Records -/

/-- Reads the fields of a record that come after the name of the command. -/
def afterName : String → Reader Printed
  | "set-user-data" => return .setUserData (← next "surface" handle) (← next "attached" flag)
  | "create-view" => return .createView (← next "surface" handle) (← next "view" handle)
  | "destroy-view" => return .destroyView (← next "view" handle)
  | "map-view" => return .mapView (← next "view" handle)
  | "raise-view" => return .raiseView (← next "view" handle)
  | "set-view-position" =>
    return .setViewPosition (← next "view" handle) ⟨← next "x" coord, ← next "y" coord⟩
  | "create-background" =>
    return .createBackground (← next "output" handle) (← next "view" handle)
      ⟨← next "x" coord, ← next "y" coord⟩ (← next "width" coord) (← next "height" coord)
  | "set-fullscreen" => return .setFullscreen (← next "surface" handle) (← next "fullscreen" flag)
  | "set-maximized" => return .setMaximized (← next "surface" handle) (← next "maximized" flag)
  | "set-size" =>
    return .setSize (← next "surface" handle) (← next "width" coord) (← next "height" coord)
  | "set-activated" => return .setActivated (← next "surface" handle) (← next "activated" flag)
  | "set-keyboard-focus" =>
    return .setKeyboardFocus (← next "seat" handle) (← next "surface" (orNone "null" handle))
  | "post-no-memory" => return .postNoMemory (← next "surface" handle)
  | _ => failure

/-- Reads a record. -/
def entry : Reader (Nat × Printed) := do
  literal "\x7b"
  let step ← field "step" natural
  let p ← afterName (← next "command" quoted)
  literal "\x7d"
  return (step, p)

/-- The command that is printed as `record`, and the step that caused it. -/
def ofRecord? (record : String) : Option (Nat × Printed) :=
  match entry.run record.toList with
  | some (e, []) => some e
  | _ => none

/-- The text of a field. -/
def member (f : String × Field) : List Char :=
  "\"".toList ++ (f.1.toList ++ ("\":".toList ++ f.2.json.toList))

theorem toList_object (f : String × Field) (fs : List (String × Field)) :
    (Command.object (f :: fs)).toList = "\x7b".toList ++
      (member f ++ (fs.flatMap (fun f => ",".toList ++ member f) ++ "\x7d".toList)) := by
  have hmember (f : String × Field) :
      ("\"" ++ f.1 ++ "\":" ++ f.2.json).toList = member f := by
    simp only [String.toList_append, List.append_assoc, member]
  have hjoin : (",".intercalate ((f :: fs).map fun f => "\"" ++ f.1 ++ "\":" ++ f.2.json)).toList =
      member f ++ fs.flatMap fun f => ",".toList ++ member f := by
    rw [String.toList_intercalate, List.map_map]
    simp only [Function.comp_def, hmember]
    induction fs generalizing f with
    | nil => simp
    | cons g fs ih =>
      rw [List.map_cons, List.map_cons, List.intercalate_cons_cons, ← List.map_cons, ih,
        List.flatMap_cons, List.append_assoc, List.append_assoc]
  show ("\x7b" ++ ",".intercalate ((f :: fs).map fun f => "\"" ++ f.1 ++ "\":" ++ f.2.json) ++
    "\x7d").toList = _
  rw [String.toList_append, String.toList_append, hjoin, List.append_assoc, List.append_assoc]

/-- The members of a record are read in the order in which they are written. -/
theorem afterName_reads (p : Printed) (h : Stops rest) : Reads (afterName p.name)
    (p.details.flatMap (fun f => ",".toList ++ member f) ++ rest) p rest := by
  unfold details
  cases p <;>
    simp only [List.flatMap_cons, List.flatMap_nil, List.append_assoc, List.nil_append, member]
  case setUserData s attached =>
    exact (handle_reads s rfl).next.bind <| (flag_reads attached rest).next.bind <| .pure _ rest
  case createView s v =>
    exact (handle_reads s rfl).next.bind <| (handle_reads v h).next.bind <| .pure _ rest
  case destroyView v => exact (handle_reads v h).next.bind <| .pure _ rest
  case mapView v => exact (handle_reads v h).next.bind <| .pure _ rest
  case raiseView v => exact (handle_reads v h).next.bind <| .pure _ rest
  case setViewPosition v p =>
    exact (handle_reads v rfl).next.bind <| (coord_reads p.x rfl).next.bind <|
      (coord_reads p.y h).next.bind <| .pure _ rest
  case createBackground o v loc width height =>
    exact (handle_reads o rfl).next.bind <| (handle_reads v rfl).next.bind <|
      (coord_reads loc.x rfl).next.bind <| (coord_reads loc.y rfl).next.bind <|
      (coord_reads width rfl).next.bind <| (coord_reads height h).next.bind <| .pure _ rest
  case setFullscreen s fullscreen =>
    exact (handle_reads s rfl).next.bind <| (flag_reads fullscreen rest).next.bind <| .pure _ rest
  case setMaximized s maximized =>
    exact (handle_reads s rfl).next.bind <| (flag_reads maximized rest).next.bind <| .pure _ rest
  case setSize s width height =>
    exact (handle_reads s rfl).next.bind <| (coord_reads width rfl).next.bind <|
      (coord_reads height h).next.bind <| .pure _ rest
  case setActivated s activated =>
    exact (handle_reads s rfl).next.bind <| (flag_reads activated rest).next.bind <| .pure _ rest
  case setKeyboardFocus seat s =>
    refine (handle_reads seat rfl).next.bind ?_
    cases s with
    | none => exact (orNone_reads_none "null" _ rest).next.bind <| .pure _ rest
    | some s =>
      have hword : Fails (literal "null") ((toString s.number).toList ++ rest) :=
        literal_fails_toString (by decide) s.number
      exact (orNone_reads_some hword (handle_reads s h)).next.bind <| .pure _ rest
  case postNoMemory s => exact (handle_reads s h).next.bind <| .pure _ rest

theorem name_unquoted (p : Printed) : '"' ∉ p.name.toList := by
  cases p <;> unfold name <;> dsimp only <;> decide

/-- The text of a record begins with the step and the name of the command. -/
theorem toList_record (step : Nat) (p : Printed) :
    (p.record step).toList = "\x7b".toList ++
      ("\"".toList ++ ("step".toList ++ ("\":".toList ++ ((toString step).toList ++
      (",".toList ++ ("\"".toList ++ ("command".toList ++ ("\":".toList ++
      ("\"".toList ++ (p.name.toList ++ ("\"".toList ++
      (p.details.flatMap (fun f => ",".toList ++ member f) ++ "\x7d".toList)))))))))))) := by
  have hstep : member ("step", .number step) =
      "\"".toList ++ ("step".toList ++ ("\":".toList ++ (toString step).toList)) := rfl
  have hcommand : member ("command", .word p.name) = "\"".toList ++ ("command".toList ++
      ("\":".toList ++ ("\"".toList ++ (p.name.toList ++ "\"".toList)))) := by
    generalize p.name = word
    show "\"".toList ++ ("command".toList ++ ("\":".toList ++ ("\"" ++ word ++ "\"").toList)) = _
    rw [String.toList_append, String.toList_append, List.append_assoc]
  show (Command.object (_ :: _ :: p.details)).toList = _
  rw [toList_object, List.flatMap_cons, hstep, hcommand]
  simp only [List.append_assoc]

theorem entry_reads (step : Nat) (p : Printed) (rest : List Char) :
    Reads entry ((p.record step).toList ++ rest) (step, p) rest := by
  rw [toList_record]
  simp only [List.append_assoc]
  exact (literal_reads "\x7b" _).bind <| (natural_reads step rfl).field.bind <|
    (quoted_reads p.name_unquoted _).next.bind <| (p.afterName_reads rfl).bind <|
    (literal_reads "\x7d" rest).bind <| .pure _ rest

/-- The record of a command, with its step, can be read back. -/
theorem ofRecord?_record (step : Nat) (p : Printed) :
    ofRecord? (p.record step) = some (step, p) := by
  have hread : entry.run (p.record step).toList = some ((step, p), []) := by
    have h := entry_reads step p []
    rwa [List.append_nil] at h
  rw [ofRecord?, hread]

/-- Each of the two printed forms has a reader that undoes it, for commands with any lengths, and
the commands of the shell are printed as these are. So no two commands are printed alike. -/
theorem read_back :
    (∀ p, ofText? p.text = some p) ∧
      (∀ step p, ofRecord? (p.record step) = some (step, p)) ∧
      (∀ c : Command, c.printed.text = c.text ∧
        ∀ step, c.printed.record step = c.record step) ∧
      Function.Injective text ∧ (∀ step, Function.Injective (record step)) ∧
      Function.Injective Command.text ∧ ∀ step, Function.Injective (Command.record step) := by
  have htext : Function.Injective text := fun p p' h =>
    Option.some.inj (by rw [← ofText?_text p, h, ofText?_text])
  have hrecord (step : Nat) : Function.Injective (record step) := fun p p' h => by
    have hread : some (step, p) = some (step, p') := by
      rw [← ofRecord?_record, h, ofRecord?_record]
    exact (Prod.mk.inj (Option.some.inj hread)).2
  refine ⟨ofText?_text, ofRecord?_record, fun c => ⟨c.text_printed, c.record_printed⟩, htext,
    hrecord, fun c c' h => ?_, fun step c c' h => ?_⟩
  · rw [← c.text_printed, ← c'.text_printed] at h
    exact Command.printed_injective (htext h)
  · rw [← c.record_printed, ← c'.record_printed] at h
    exact Command.printed_injective (hrecord step h)

end Printed

end Kiosk
