import Kiosk.Proofs.Handover
import Kiosk.Proofs.Idle

/-!
# Who is seated

Seats appear, go away, and get and lose their keyboards in the events that say so. No other
action changes more of a seat than what it focuses: up to that, the seats after an action are
those of `Action.reseat` (`unfocused_act`).
-/

namespace Kiosk

variable {d : Desktop} {s s' : Shell} {seat j : SeatId} {handle : SeatHandle} {record : Seat}
  {a : Action}

namespace Shell

/-- The handle of a seat. -/
def handleOf (s : Shell) (seat : SeatId) : Option SeatHandle := (s.seats.get? seat).map Seat.handle

theorem handleOf_eq (hr : s.seats.get? seat = some record) :
    s.handleOf seat = some record.handle :=
  congrArg (Option.map Seat.handle) hr

/-- A seat's handle is not touched by what happens to its focus. -/
theorem handleOf_of_unfocused {seats : Seats} (h : (s'.seats.get? j).map Seat.unfocused =
    (seats.get? j).map Seat.unfocused) : s'.handleOf j = (seats.get? j).map Seat.handle := by
  have hhandle := congrArg (Option.map Seat.handle) h
  rwa [Option.map_map, Option.map_map] at hhandle

theorem hasKeyboard_of_unfocused {seats : Seats} (h : (s'.seats.get? j).map Seat.unfocused =
    (seats.get? j).map Seat.unfocused) :
    s'.hasKeyboard j = (seats.get? j).any Seat.hasKeyboard := by
  have hkeyboard := congrArg (Option.any Seat.hasKeyboard) h
  rwa [Option.any_map, Option.any_map] at hkeyboard

/-- The handle `handle` is that of `seat`, if that is there, and of no other seat. -/
def Owns (s : Shell) (seat : SeatId) (handle : SeatHandle) : Prop :=
  ∀ j handle', s.handleOf j = some handle' → (handle' = handle ↔ j = seat)

theorem Owns.congr (h : s.Owns seat handle)
    (hs : ∀ j, (s'.seats.get? j).map Seat.unfocused = (s.seats.get? j).map Seat.unfocused) :
    s'.Owns seat handle :=
  fun j handle' hj => h j handle' ((handleOf_of_unfocused (hs j)).symm.trans hj)

/-- No two seats have the same handle. -/
def SeatsDistinct (s : Shell) : Prop := (s.seats.toList.map (·.2.handle)).Nodup

instance : DecidablePred SeatsDistinct :=
  fun s => inferInstanceAs (Decidable (s.seats.toList.map (·.2.handle)).Nodup)

/-- When no two seats have the same handle, a handle tells its seat. -/
theorem SeatsDistinct.owns (h : s.SeatsDistinct) (ho : s.seats.Ordered)
    (hseat : s.handleOf seat = some handle) : s.Owns seat handle := by
  intro j handle' hj
  obtain ⟨record, hr, rfl⟩ := Option.map_eq_some_iff.1 hseat
  obtain ⟨record', hr', rfl⟩ := Option.map_eq_some_iff.1 hj
  constructor
  · intro he
    have hsame := List.inj_on_of_nodup_map h (ho.mem_toList.2 hr') (ho.mem_toList.2 hr) he
    exact congrArg Prod.fst hsame
  · rintro rfl
    rw [Option.some.inj (hr'.symm.trans hr)]

theorem seats_moveRequested (s : Shell) (w : WindowId) (seat : SeatId) (request : MoveRequest) :
    (s.moveRequested w seat request).2.seats = s.seats := by
  unfold moveRequested
  split
  · next window _ _ hw _ =>
    split
    · rfl
    · obtain ⟨s', he, rfl, -⟩ := watchWindow_of_live hw (.grab seat)
      rw [he]
      rfl
  · rfl

end Shell

/-! ## Operations -/

namespace Desktop

theorem unfocused_windowGone (w : WindowId) (parent : Option WindowId) (d : Desktop) (l : Listener)
    (j : SeatId) : ((windowGone w parent d l).shell.seats.get? j).map Seat.unfocused =
      (d.shell.seats.get? j).map Seat.unfocused := by
  cases l with
  | parent child =>
    exact congrArg (fun seats : Seats => (seats.get? j).map Seat.unfocused)
      (d.setParent_steady child parent).shell.seats
  | boundOutput x => rfl
  | seatFocus seat =>
    show ((Desktop.shell (if _ then _ else d)).seats.get? j).map Seat.unfocused = _
    split
    · exact Shell.map_modifySeat Seat.unfocused (fun _ => by rfl) d.shell seat j
    · rfl
  | grab seat =>
    show ((Desktop.shell (if _ then _ else d)).seats.get? j).map Seat.unfocused = _
    split <;> rfl

theorem unfocused_foldl_windowGone (w : WindowId) (parent : Option WindowId) (j : SeatId) :
    ∀ (ls : List Listener) (d : Desktop),
      ((ls.foldl (windowGone w parent) d).shell.seats.get? j).map Seat.unfocused =
        (d.shell.seats.get? j).map Seat.unfocused
  | [], _ => rfl
  | l :: ls, d => (unfocused_foldl_windowGone w parent j ls _).trans
      (unfocused_windowGone w parent d l j)

/-- When a window ends, the seats keep all but their focus. -/
theorem unfocused_destroyWindow (d : Desktop) (w : WindowId) (j : SeatId) :
    ((d.destroyWindow w).shell.seats.get? j).map Seat.unfocused =
      (d.shell.seats.get? j).map Seat.unfocused := by
  unfold destroyWindow
  split
  · rfl
  · next window _ =>
    have hfold := unfocused_foldl_windowGone w window.parentId j window.signal.drain.1
      (d.erased w window)
    have hdrop := (dropLinks_steady (window.signal.drain.1.foldl (windowGone w window.parentId)
      (d.erased w window)).shell w window).seats
    exact (congrArg (fun seats : Seats => (seats.get? j).map Seat.unfocused) hdrop).trans hfold

theorem unfocused_windowRemoved (d : Desktop) (w : WindowId) (j : SeatId) :
    ((d.windowRemoved w).shell.seats.get? j).map Seat.unfocused =
      (d.shell.seats.get? j).map Seat.unfocused := by
  unfold windowRemoved
  split
  · exact (unfocused_destroyWindow _ w j).trans ((foldl_focusSeat_turned _ _ d).seats j)
  · rfl

/-- When a window comes, the seats keep all but their focus. -/
theorem unfocused_windowAdded (d : Desktop) (surface : SurfaceHandle) (appId : Option String)
    (parent : Option WindowId) (j : SeatId) :
    ((d.windowAdded surface appId parent).2.shell.seats.get? j).map Seat.unfocused =
      (d.shell.seats.get? j).map Seat.unfocused := by
  have hcreated := (d.createWindow_idle surface appId).seats
  unfold windowAdded
  split
  · next he =>
    rw [he] at hcreated
    rw [hcreated]
  · next w d₁ he =>
    rw [he] at hcreated
    refine ((foldl_focusSeat_turned _ _ _).seats j).trans ?_
    rw [← hcreated]
    split
    · rw [(d₁.setParent_steady w _).shell.seats]
    · rw [(d₁.setFullscreen_settles w none).steady.shell.seats]

theorem unfocused_activateWindow (d : Desktop) (seat : SeatId) (w : WindowId) (j : SeatId) :
    ((d.activateWindow seat w).shell.seats.get? j).map Seat.unfocused =
      (d.shell.seats.get? j).map Seat.unfocused := by
  unfold activateWindow
  split
  · rfl
  · refine ((focusSeat_turned _ seat (some w)).seats j).trans ?_
    split <;> rfl

theorem unfocused_touchDown (d : Desktop) (seat : SeatId) (focus : Option WindowId)
    (defaultGrab : Bool) (j : SeatId) :
    ((d.touchDown seat focus defaultGrab).shell.seats.get? j).map Seat.unfocused =
      (d.shell.seats.get? j).map Seat.unfocused := by
  unfold touchDown
  split
  · exact d.unfocused_activateWindow seat _ j
  · rfl

/-- A seat other than the one that goes away stays, with its focus. -/
theorem get?_seatRemoved (d : Desktop) (seat j : SeatId) :
    (d.seatRemoved seat).shell.seats.get? j =
      if j = seat then none else (d.releaseFocus seat).shell.seats.get? j := by
  show (((d.releaseFocus seat).shell.endGrab seat).seats.erase seat).get? j = _
  rw [Roster.get?_erase, Shell.seats_endGrab]

end Desktop

/-! ## Actions -/

/-- The seats after an event, up to what they focus. -/
def Event.reseat (e : Event) (seats : Seats) : Seats :=
  match e with
  | .seatAdded handle name hasKeyboard => (seats.insert (.ofHandle handle name hasKeyboard)).2
  | .seatCapabilitiesChanged seat hasKeyboard => seats.modify seat ({ · with hasKeyboard })
  | .seatRemoved seat => seats.erase seat
  | _ => seats

/-- The seats after an action, up to what they focus. -/
def Action.reseat (a : Action) (seats : Seats) : Seats :=
  match a with
  | .event e => e.reseat seats
  | _ => seats

/-- Events that concern no seat leave the seats as they are. -/
theorem Event.reseat_idle {e : Event} (he : e.isIdle) (seats : Seats) : e.reseat seats = seats := by
  cases e <;> first | rfl | cases he

namespace Desktop

theorem unfocused_dispatch (d : Desktop) (e : Event) (j : SeatId) :
    ((d.dispatch e).2.shell.seats.get? j).map Seat.unfocused =
      ((e.reseat d.shell.seats).get? j).map Seat.unfocused := by
  by_cases he : e.isIdle
  · rw [(dispatch_idle he d).seats, Event.reseat_idle he]
  cases e with
  | windowAdded surface appId parent => exact d.unfocused_windowAdded surface appId parent j
  | windowRemoved w => exact d.unfocused_windowRemoved w j
  | moveRequested w seat request =>
    exact congrArg (fun seats : Seats => (seats.get? j).map Seat.unfocused)
      (d.shell.seats_moveRequested w seat request)
  | seatAdded | seatCapabilitiesChanged => rfl
  | seatRemoved seat =>
    show (((d.seatRemoved seat).shell.seats.get? j).map Seat.unfocused) =
      ((d.shell.seats.erase seat).get? j).map Seat.unfocused
    rw [get?_seatRemoved, Roster.get?_erase]
    split
    · rfl
    · exact (d.releaseFocus_turned seat).seats j
  | keyboardFocusChanged seat focus => exact (d.keyboardFocusChanged_turned seat focus).seats j
  | pointerButton seat button focus defaultGrab =>
    show ((Desktop.shell (if _ then _ else d)).seats.get? j).map Seat.unfocused = _
    split
    · exact d.unfocused_touchDown seat focus defaultGrab j
    · rfl
  | touchDown seat focus defaultGrab => exact d.unfocused_touchDown seat focus defaultGrab j
  | grabReleased seat =>
    exact congrArg (fun seats : Seats => (seats.get? j).map Seat.unfocused)
      (d.shell.seats_endGrab seat)
  | _ => exact absurd rfl he

theorem unfocused_call (d : Desktop) (c : Call) (j : SeatId) :
    ((d.call c).2.shell.seats.get? j).map Seat.unfocused =
      (d.shell.seats.get? j).map Seat.unfocused := by
  by_cases hc : c.isIdle
  · rw [(call_idle hc d).seats]
  cases c with
  | destroyWindow w => exact d.unfocused_destroyWindow w j
  | focusSeat seat w => exact (d.focusSeat_turned seat w).seats j
  | activateWindow seat w => exact d.unfocused_activateWindow seat w j
  | _ => exact absurd rfl hc

/-- But for the focus, what an action does to the seats is told by the action alone. -/
theorem unfocused_act (d : Desktop) (a : Action) (j : SeatId) :
    ((d.act a).2.shell.seats.get? j).map Seat.unfocused =
      ((a.reseat d.shell.seats).get? j).map Seat.unfocused := by
  cases a with
  | event e => exact d.unfocused_dispatch e j
  | call c => exact d.unfocused_call c j
  | switch s => rfl

end Desktop

/-! ## Who is there after an action -/

/-- The handle of the seat that appears. -/
def Action.seatHandle? : Action → Option SeatHandle
  | .event (.seatAdded handle _ _) => some handle
  | _ => none

namespace Desktop

theorem handleOf_act (d : Desktop) (a : Action) (j : SeatId) :
    (d.act a).2.shell.handleOf j = ((a.reseat d.shell.seats).get? j).map Seat.handle :=
  Shell.handleOf_of_unfocused (d.unfocused_act a j)

/-- A seat that appears has an id that no seat had. -/
theorem exists_handleOf_act (d : Desktop) (ha : a.seatHandle? = some handle) :
    ∃ seat, d.shell.handleOf seat = none ∧ ∀ j, (d.act a).2.shell.handleOf j =
      if j = seat then some handle else d.shell.handleOf j := by
  obtain ⟨name, hasKeyboard, rfl⟩ :
      ∃ name hasKeyboard, a = .event (.seatAdded handle name hasKeyboard) := by
    unfold Action.seatHandle? at ha
    split at ha
    · cases ha
      exact ⟨_, _, rfl⟩
    · cases ha
  let record := Seat.ofHandle handle name hasKeyboard
  refine ⟨(d.shell.seats.insert record).1, ?_, fun j => ?_⟩
  · rw [Shell.handleOf, Roster.get?, Roster.insert, Arena.get?_insert_self]
    rfl
  · show (((d.shell.seats.insert record).2.get? j).map Seat.handle) = _
    rw [Roster.get?_insert]
    split <;> rfl

/-- Without such an event all seats are old ones. -/
theorem handleOf_of_act (ha : a.seatHandle? = none)
    (h : (d.act a).2.shell.handleOf j = some handle) : d.shell.handleOf j = some handle := by
  rw [handleOf_act] at h
  cases a with
  | call c => exact h
  | switch s => exact h
  | event e =>
    cases e with
    | seatAdded => cases ha
    | seatCapabilitiesChanged seat hasKeyboard =>
      have hget := d.shell.seats.get?_modify seat j ({ · with hasKeyboard })
      rw [Action.reseat, Event.reseat, hget] at h
      split at h
      · next hj => rwa [Option.map_map, ← hj] at h
      · exact h
    | seatRemoved seat =>
      rw [Action.reseat, Event.reseat, Roster.get?_erase] at h
      split at h
      · cases h
      · exact h
    | _ => exact h

/-- A seat stays until it is removed, and stays without a keyboard until it is given one. -/
theorem keyless_act (hseat : d.shell.handleOf seat = some handle)
    (hkeyless : d.shell.hasKeyboard seat = false) (hkept : a ≠ .event (.seatRemoved seat))
    (hunplugged : a ≠ .event (.seatCapabilitiesChanged seat true)) :
    (d.act a).2.shell.handleOf seat = some handle ∧
      (d.act a).2.shell.hasKeyboard seat = false := by
  rw [handleOf_act, Shell.hasKeyboard_of_unfocused (d.unfocused_act a seat)]
  cases a with
  | call c => exact ⟨hseat, hkeyless⟩
  | switch s => exact ⟨hseat, hkeyless⟩
  | event e =>
    cases e with
    | seatAdded handle' name hasKeyboard =>
      rw [Action.reseat, Event.reseat, Roster.get?_insert]
      split
      · next hnew =>
        rw [hnew, Shell.handleOf, Roster.get?, Roster.insert, Arena.get?_insert_self] at hseat
        cases hseat
      · exact ⟨hseat, hkeyless⟩
    | seatCapabilitiesChanged j hasKeyboard =>
      rw [Action.reseat, Event.reseat, Roster.get?_modify]
      split
      · next hj =>
        subst hj
        obtain ⟨record, hr, rfl⟩ := Option.map_eq_some_iff.1 hseat
        rw [hr]
        cases hasKeyboard with
        | true => exact absurd rfl hunplugged
        | false => exact ⟨rfl, rfl⟩
      · exact ⟨hseat, hkeyless⟩
    | seatRemoved j =>
      rw [Action.reseat, Event.reseat, Roster.get?_erase]
      split
      · next hj => exact absurd (hj ▸ rfl) hkept
      · exact ⟨hseat, hkeyless⟩
    | _ => exact ⟨hseat, hkeyless⟩

end Desktop

end Kiosk
