import Kiosk.Store.Arena

/-!
# Links that notice when their target goes away

Windows and outputs are pointed at by other records: a child points at its
parent, a window at the output it is on, a seat at the window it focuses, a drag
at the window it moves. Each target owns a `Signal`. Whoever points at it
subscribes a `Listener` and keeps the token it is given beside the id it points
at, as a `Link`. When the target goes away its signal is drained, and each
listener says which link has to be cleared or redirected.
-/

namespace Kiosk

/-- The number of one subscription to one signal. -/
abbrev Token := Nat

/-- Whose link ends when the target goes away. -/
inductive Listener where
  /-- The window's parent link: it moves up to the target's own parent. -/
  | parent (child : WindowId)
  /-- The window's place on the target output. -/
  | boundOutput (window : WindowId)
  /-- The seat's keyboard focus on the target window. -/
  | seatFocus (seat : SeatId)
  /-- The seat's drag of the target window. -/
  | grab (seat : SeatId)
  deriving DecidableEq, Repr

/-- A link to a record, with its subscription to that record's signal. -/
structure Link (kind : Kind) where
  source : Id kind
  token : Token
  deriving DecidableEq, Repr

/-- The listeners of one record, in the order in which they subscribed. -/
structure Signal where
  /-- The token of the next subscription; all tokens handed out are smaller. -/
  nextToken : Token
  listeners : List (Token × Listener)
  deriving DecidableEq, Repr

namespace Signal

/-- The signal that nobody has subscribed to. -/
def empty : Signal := ⟨0, []⟩

instance : Inhabited Signal := ⟨empty⟩

/-- Adds a listener after the others, under a token never handed out before. -/
def subscribe (s : Signal) (listener : Listener) : Token × Signal :=
  (s.nextToken, ⟨s.nextToken + 1, s.listeners ++ [(s.nextToken, listener)]⟩)

/-- Drops the listener subscribed under `token`. -/
def unsubscribe (s : Signal) (token : Token) : Signal :=
  { s with listeners := s.listeners.filter (·.1 ≠ token) }

/-- Whether a listener is subscribed under `token`. -/
def subscribed (s : Signal) (token : Token) : Bool :=
  s.listeners.any (·.1 = token)

/-- All listeners in order, and the signal without them. Tokens go on from where they were. -/
def drain (s : Signal) : List Listener × Signal :=
  (s.listeners.map Prod.snd, { s with listeners := [] })

/-- The number of listeners. -/
def size (s : Signal) : Nat :=
  s.listeners.length

end Signal

end Kiosk
