import Kiosk.Proofs.Steady

/-!
# What a change of focus leaves alone

When a seat moves its keyboard focus, windows change in their focus counts and
signals, and seats in what they focus. `Desktop.Turned` says that all else of
windows, families and seats is what it was, with each record compared after that
is blanked out (`Window.unattended`, `Seat.unfocused`).
-/

namespace Kiosk

/-- A window's record without what its focus is counted by. -/
def Window.unattended (window : Window) : Window :=
  { window with focusCount := 0, signal := .empty }

/-- A seat's record without what it focuses. -/
def Seat.unfocused (record : Seat) : Seat := { record with focused := none }

/-- A property of seats that `f` keeps is what it was, under every id. -/
theorem Shell.map_modifySeat {α : Type} (g : Seat → α) {f : Seat → Seat} (h : ∀ r, g (f r) = g r)
    (s : Shell) (seat j : SeatId) :
    ((s.modifySeat seat f).seats.get? j).map g = (s.seats.get? j).map g := by
  rw [get?_modifySeat]
  split
  · next hj =>
    rw [hj, Option.map_map]
    exact congrArg (fun f => (s.seats.get? seat).map f) (funext h)
  · rfl

namespace Desktop

variable {d d' d'' : Desktop} {w : WindowId} {seat : SeatId}

/-- `d'` is `d` up to the focus of seats. -/
structure Turned (d d' : Desktop) : Prop where
  windows : ∀ w, (d'.shell.windows.get? w).map Window.unattended =
    (d.shell.windows.get? w).map Window.unattended
  children : d'.shell.children = d.shell.children
  stacking : d'.shell.stacking = d.shell.stacking
  seats : ∀ seat, (d'.shell.seats.get? seat).map Seat.unfocused =
    (d.shell.seats.get? seat).map Seat.unfocused
  order : d'.shell.seats.order = d.shell.seats.order

namespace Turned

theorem refl (d : Desktop) : Turned d d := ⟨fun _ => rfl, rfl, rfl, fun _ => rfl, rfl⟩

theorem trans (h : Turned d d') (h' : Turned d' d'') : Turned d d'' where
  windows w := (h'.windows w).trans (h.windows w)
  children := h'.children.trans h.children
  stacking := h'.stacking.trans h.stacking
  seats seat := (h'.seats seat).trans (h.seats seat)
  order := h'.order.trans h.order

/-- What the host is told does not matter. -/
theorem tell (h : Turned d d') (f : Host → Host) : Turned d (d'.tell f) :=
  ⟨h.windows, h.children, h.stacking, h.seats, h.order⟩

/-- A property of windows that has to do with the rest of the record only. -/
theorem map_eq {α : Type} (h : Turned d d') (g : Window → α) (hg : ∀ r, g r.unattended = g r)
    (w : WindowId) : (d'.shell.windows.get? w).map g = (d.shell.windows.get? w).map g := by
  have := congrArg (Option.map g) (h.windows w)
  rw [Option.map_map, Option.map_map] at this
  rwa [show g ∘ Window.unattended = g from funext hg] at this

/-- Turning seats to other windows lets no window go. -/
theorem isLive (h : Turned d d') (w : WindowId) : d'.shell.isLive w = d.shell.isLive w := by
  have := congrArg Option.isSome (h.windows w)
  rwa [Option.isSome_map, Option.isSome_map] at this

theorem contains (h : Turned d d') (seat : SeatId) :
    d'.shell.seats.contains seat = d.shell.seats.contains seat := by
  have := congrArg Option.isSome (h.seats seat)
  rwa [Option.isSome_map, Option.isSome_map] at this

theorem parentOf (h : Turned d d') :
    Windows.parentOf d'.shell.windows = Windows.parentOf d.shell.windows := by
  funext w
  have := congrArg (·.bind id) (h.map_eq Window.parentId (fun _ => rfl) w)
  rwa [Option.bind_map, Option.bind_map] at this

theorem modifyWindow {f : Window → Window} (hf : ∀ r, (f r).unattended = r.unattended)
    (d : Desktop) (w : WindowId) : Turned d (d.update (·.modifyWindow w f)) :=
  { Turned.refl d with windows := Shell.map_modifyWindow Window.unattended hf d.shell w }

theorem modifySeat {f : Seat → Seat} (hf : ∀ r, (f r).unfocused = r.unfocused) (d : Desktop)
    (seat : SeatId) : Turned d (d.update (·.modifySeat seat f)) :=
  { Turned.refl d with seats := Shell.map_modifySeat Seat.unfocused hf d.shell seat }

end Turned

theorem releaseFocus_turned (d : Desktop) (seat : SeatId) : Turned d (d.releaseFocus seat) := by
  unfold releaseFocus
  split
  · exact .refl d
  · next link _ =>
    have hseat := Turned.modifySeat (f := ({ · with focused := none })) (fun _ => rfl) d seat
    dsimp only
    split
    · exact hseat
    · next window _ =>
      have hunwatch := Turned.modifyWindow
        (f := fun r => { r with signal := r.signal.unsubscribe link.token }) (fun _ => rfl)
        (d.update (·.modifySeat seat ({ · with focused := none }))) link.source
      have hreleased := (hseat.trans hunwatch).trans (.modifyWindow
        (f := ({ · with focusCount := window.focusCount - 1 })) (fun _ => rfl) _ link.source)
      split
      · exact hreleased.tell _
      · exact hreleased

theorem takeFocus_turned (d : Desktop) (seat : SeatId) (w : WindowId) :
    Turned d (d.takeFocus seat w) := by
  unfold takeFocus
  cases hw : d.shell.windows.get? w with
  | none => exact .refl d
  | some window =>
    obtain ⟨s', he, rfl, -⟩ := Shell.watchWindow_of_live hw (.seatFocus seat)
    have hwatch := Turned.modifyWindow
      (f := ({ · with signal := (window.signal.subscribe (.seatFocus seat)).2 })) (fun _ => rfl) d w
    have hcount (d : Desktop) : Turned d (d.update fun s =>
        (s.modifyWindow w ({ · with focusCount := window.focusCount + 1 })).modifySeat seat
          ({ · with focused := some ⟨w, window.signal.nextToken⟩ })) :=
      (Turned.modifyWindow (f := ({ · with focusCount := window.focusCount + 1 })) (fun _ => rfl) d
        w).trans (.modifySeat (fun _ => by rfl) _ seat)
    rw [he]
    refine .trans ?_ (hcount _)
    split
    · exact hwatch.tell _
    · exact hwatch

/-- A seat that is turned to another window changes the counts of two windows and its own focus. -/
theorem keyboardFocusChanged_turned (d : Desktop) (seat : SeatId) (focus : Option WindowId) :
    Turned d (d.keyboardFocusChanged seat focus) :=
  keyboardFocusChanged_cases (P := Turned d) seat focus (.refl d) (d.releaseFocus_turned seat)
    fun w _ _ _ => (d.releaseFocus_turned seat).trans (takeFocus_turned _ seat w)

theorem focusSeat_turned (d : Desktop) (seat : SeatId) (w : Option WindowId) :
    Turned d (d.focusSeat seat w) :=
  focusSeat_cases (P := Turned d) seat w (.refl d) fun _ =>
    ((Turned.refl d).tell _).trans (keyboardFocusChanged_turned _ seat w)

theorem foldl_focusSeat_turned (w : Option WindowId) : ∀ (seats : List SeatId) (d : Desktop),
    Turned d (seats.foldl (fun d seat => d.focusSeat seat w) d)
  | [], d => .refl d
  | seat :: seats, d => (d.focusSeat_turned seat w).trans (foldl_focusSeat_turned w seats _)

end Desktop

end Kiosk
