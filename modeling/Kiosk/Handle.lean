/-!
# Handles of the host

The host owns surfaces, views, outputs and seats. The shell refers to them only
by numbers chosen on the host's side, one numbering per role.
-/

namespace Kiosk

/-- What a handle stands for on the host's side. -/
inductive Role where
  | surface
  | view
  | output
  | seat
  deriving DecidableEq, Repr

/-- A number the host knows one of its objects by. -/
structure Handle (role : Role) where
  number : Nat
  deriving DecidableEq, Repr, Inhabited

abbrev SurfaceHandle := Handle .surface
abbrev ViewHandle := Handle .view
abbrev OutputHandle := Handle .output
abbrev SeatHandle := Handle .seat

end Kiosk
