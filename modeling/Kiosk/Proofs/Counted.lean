import Kiosk.Proofs.Handover

/-!
# Focus counts

A window's focus count is the number of seats that focus it, on every desktop that actions lead
to and whatever surfaces its windows were made for (`Reached.counted`). A seat that leaves a
window takes one off its count, and one that comes adds one (`Desktop.focusCountOf_releaseFocus`,
`Desktop.focusCountOf_takeFocus`); no other count changes.
-/

namespace Kiosk

variable {config : Config} {d d' : Desktop} {s s' : Shell} {w x : WindowId} {seat : SeatId}
  {surface : SurfaceHandle} {appId : Option String}

namespace Shell

/-- The focus counts of the windows that are there are the numbers of seats. -/
def Counted (s : Shell) : Prop :=
  ∀ w, s.isLive w → s.focusCountOf w = some (s.seats.focusedOn w).length

theorem fresh_counted (config : Config) : (fresh config).Counted := by
  intro w hw
  rw [isLive, Arena.contains, show (fresh config).windows.get? w = none from Arena.get?_empty w]
    at hw
  cases hw

theorem Counted.of_focusCountOf (h : s.Counted)
    (hcount : ∀ x, s'.isLive x → s.isLive x ∧ s'.focusCountOf x = s.focusCountOf x)
    (hfocus : ∀ x, s'.isLive x → s'.seats.focusedOn x = s.seats.focusedOn x) : s'.Counted := by
  intro x hx
  obtain ⟨hlive, hsame⟩ := hcount x hx
  rw [hsame, hfocus x hx, h x hlive]

/-- A window that no seat knows of is not focused. -/
theorem focusedOn_of_not_live (h : s.Sound) (hw : s.isLive w = false) :
    s.seats.focusedOn w = [] := by
  rw [focusedOn_eq]
  refine List.filter_eq_nil_iff.2 fun seat _ => ?_
  rw [decide_eq_true_iff]
  intro hf
  exact Bool.false_ne_true (hw.symm.trans (h.isLive_of_focusedWindow hf))

end Shell

namespace Desktop

/-! ## Seats that come and go -/

/-- A seat that leaves a window takes one off its count. -/
theorem focusCountOf_releaseFocus (h : d.shell.Sound) (seat : SeatId) (x : WindowId) :
    (d.releaseFocus seat).shell.focusCountOf x = if d.shell.focusedWindow seat = some x
      then (d.shell.focusCountOf x).map (· - 1) else d.shell.focusCountOf x := by
  split
  · next hf =>
    have hfocus : ((d.shell.seats.get? seat).bind Seat.focused).map Link.source = some x :=
      Option.map_bind.trans hf
    obtain ⟨link, hlink, rfl⟩ := Option.map_eq_some_iff.1 hfocus
    obtain ⟨window, hw⟩ := Option.isSome_iff_exists.1 (h.isLive_of_focusedWindow hf)
    have hold : d.shell.focusCountOf link.source = some window.focusCount :=
      congrArg (Option.map Window.focusCount) hw
    have hfocal := Shell.focal_modifyWindow
      (s := d.shell.modifySeat seat ({ · with focused := none }))
      (f := fun r => { r with signal := r.signal.unsubscribe link.token }) (fun _ => rfl) hw
      (window.focusCount - 1) link.source
    rw [if_pos rfl] at hfocal
    have hcount := congrArg (Option.map Prod.snd) hfocal
    rw [Option.map_map] at hcount
    rw [releaseFocus_of_some hlink hw, hold]
    exact hcount
  · next hf => exact (releaseFocus_frees h seat).2 x hf

/-- A seat that comes to a window adds one to its count. -/
theorem focusCountOf_takeFocus (hw : d.shell.isLive w) (seat : SeatId) (x : WindowId) :
    (d.takeFocus seat w).shell.focusCountOf x = if x = w
      then (d.shell.focusCountOf x).map (· + 1) else d.shell.focusCountOf x := by
  obtain ⟨window, hw⟩ := Option.isSome_iff_exists.1 hw
  have hold : d.shell.focusCountOf w = some window.focusCount :=
    congrArg (Option.map Window.focusCount) hw
  have hfocal := Shell.focal_modifyWindow (s := d.shell)
    (f := ({ · with signal := (window.signal.subscribe (.seatFocus seat)).2 })) (fun _ => rfl) hw
    (window.focusCount + 1) x
  have hcount := congrArg (Option.map Prod.snd) hfocal
  rw [Option.map_map] at hcount
  rw [takeFocus_of_some hw]
  by_cases hx : x = w
  · subst hx
    rw [if_pos rfl] at hcount ⊢
    rw [hold]
    exact hcount
  · rw [if_neg hx] at hcount ⊢
    rw [Option.map_map] at hcount
    exact hcount

theorem releaseFocus_counted (h : d.shell.Sound) (ho : d.shell.seats.Ordered)
    (hc : d.shell.Counted) (seat : SeatId) : (d.releaseFocus seat).shell.Counted := by
  have hturned := d.releaseFocus_turned seat
  have hfocus := (releaseFocus_frees h seat).1
  intro x hx
  have hold := hc x ((hturned.isLive x).symm.trans hx)
  rw [focusCountOf_releaseFocus h]
  split
  · next hf =>
    have hlength := Shell.length_focusedOn (t := (d.releaseFocus seat).shell) ho.nodup
      ((ho.mem seat).2 (Shell.contains_of_focusedWindow hf)) hturned.order hf
      (by simp [hfocus]) fun j hj => (hfocus j).trans (if_neg hj)
    rw [hold, ← hlength]
    rfl
  · next hf =>
    rw [hold, Shell.focusedOn_congr hturned.order fun j => ?_]
    rw [hfocus]
    split
    · next hj => exact iff_of_false (by simp) (hj ▸ hf)
    · rfl

theorem takeFocus_counted (ho : d.shell.seats.Ordered) (hc : d.shell.Counted)
    (hs : d.shell.seats.contains seat) (hfree : d.shell.focusedWindow seat = none)
    (hw : d.shell.isLive w) : (d.takeFocus seat w).shell.Counted := by
  have hturned := d.takeFocus_turned seat w
  have hfocus := (takeFocus_counts hs hw).1
  intro x hx
  have hold := hc x ((hturned.isLive x).symm.trans hx)
  rw [focusCountOf_takeFocus hw]
  split
  · next he =>
    subst he
    have hself : (d.takeFocus seat x).shell.focusedWindow seat = some x := by simp [hfocus]
    have hlength := Shell.length_focusedOn (t := d.shell) (hturned.order ▸ ho.nodup)
      (hturned.order ▸ (ho.mem seat).2 hs) hturned.order.symm hself (by simp [hfree])
      fun j hj => ((hfocus j).trans (if_neg hj)).symm
    rw [hold, ← hlength]
    rfl
  · next hne =>
    rw [hold, Shell.focusedOn_congr hturned.order fun j => ?_]
    rw [hfocus]
    split
    · next hj =>
      rw [hj, hfree]
      exact iff_of_false (fun he => hne (Option.some.inj he).symm) (by simp)
    · rfl

theorem keyboardFocusChanged_counted (h : d.shell.Sound) (ho : d.shell.seats.Ordered)
    (hc : d.shell.Counted) (seat : SeatId) (focus : Option WindowId) :
    (d.keyboardFocusChanged seat focus).shell.Counted := by
  have hturned := d.releaseFocus_turned seat
  have hreleased := releaseFocus_counted h ho hc seat
  refine keyboardFocusChanged_cases (P := fun d' => d'.shell.Counted) seat focus hc hreleased
    fun w _ hseat hlive => takeFocus_counted (ho.congr hturned.order hturned.contains) hreleased
      ((hturned.contains seat).trans hseat) (focusedWindow_releaseFocus h seat)
      ((hturned.isLive w).trans hlive)

/-- A window is made under an id that was not in use, and no other window's record changes. -/
theorem createWindow_of_ok (he : (d.createWindow surface appId).1 = .ok w) :
    ∃ view windows, (d.createWindow surface appId).2.shell = { d.shell with windows } ∧
      d.shell.windows.get? w = none ∧ ∀ x, windows.get? x =
        if x = w then some (.ofSurface surface view appId) else d.shell.windows.get? x := by
  cases hf : d.host.failNextView with
  | true =>
    rw [createWindow, Host.createView, Host.allocateView, if_pos hf] at he
    cases he
  | false =>
    have hmade := createWindow_made hf surface appId
    rw [createWindow, Host.createView, Host.allocateView, if_neg (by simp [hf])] at he
    obtain rfl : (d.shell.windows.insert _).1 = w := Except.ok.inj he
    refine ⟨⟨d.host.lastView + 1⟩, (d.shell.windows.insert _).2, ?_, Arena.get?_insert_self ..,
      Arena.get?_insert _ _⟩
    rw [hmade]

theorem createWindow_counted (h : d.shell.Sound) (hc : d.shell.Counted) (surface : SurfaceHandle)
    (appId : Option String) : (d.createWindow surface appId).2.shell.Counted := by
  cases hf : d.host.failNextView with
  | true =>
    rw [createWindow_refused hf]
    exact hc
  | false =>
    obtain ⟨w, he, -⟩ := createWindow_made_layout hf surface appId
    obtain ⟨view, windows, hshell, hnew, hget⟩ := createWindow_of_ok he
    rw [hshell]
    intro x hx
    replace hx : (windows.get? x).isSome := hx
    show (windows.get? x).map Window.focusCount = some (d.shell.seats.focusedOn x).length
    rw [hget] at hx ⊢
    split at hx
    · next hxw =>
      rw [if_pos hxw, hxw, Shell.focusedOn_of_not_live h]
      · rfl
      · rw [Shell.isLive, Arena.contains, hnew]
        rfl
    · next hxw =>
      rw [if_neg hxw]
      exact hc x hx

theorem Drift.counted (hd : Drift d d') (hc : d.shell.Counted) : d'.shell.Counted := by
  refine hc.of_focusCountOf (fun x hx => ⟨hd.isLive hx, ?_⟩) fun x hx =>
    Shell.focusedOn_congr hd.order (hd.focus x hx)
  obtain ⟨r', hr'⟩ := Option.isSome_iff_exists.1 hx
  have hr' : d'.shell.windows.get? x = some r' := hr'
  obtain ⟨r, hr, hfocal⟩ := hd.windows x r' hr'
  rw [Shell.focusCountOf, hr', Shell.focusCountOf, hr]
  exact congrArg some (congrArg Prod.snd hfocal).symm

theorem addSeat_counted (hc : d.shell.Counted) (handle : SeatHandle) (name : String)
    (hasKeyboard : Bool) :
    (d.update fun s => (s.addSeat handle name hasKeyboard).2).shell.Counted := by
  have hfree : (Seat.ofHandle handle name hasKeyboard).focusedWindow = none := rfl
  exact hc.of_focusCountOf (fun _ hx => ⟨hx, rfl⟩) fun x _ => Seats.focusedOn_insert hfree x

theorem seatRemoved_counted (h : d.shell.Sound) (ho : d.shell.seats.Ordered)
    (hc : d.shell.Counted) (seat : SeatId) : (d.seatRemoved seat).shell.Counted := by
  have hended := (endGrab_drift _ seat).counted (releaseFocus_counted h ho hc seat)
  have hfree : ((d.releaseFocus seat).shell.endGrab seat).focusedWindow seat = none := by
    rw [Shell.focusedWindow, Shell.seats_endGrab]
    exact focusedWindow_releaseFocus h seat
  exact hended.of_focusCountOf (fun _ hx => ⟨hx, rfl⟩) fun x _ => Seats.focusedOn_erase hfree x

end Desktop

/-! ## Moves -/

theorem Move.counted (h : d.shell.Sound) (ho : d.shell.seats.Ordered) (hc : d.shell.Counted)
    (hm : Move d d') : d'.shell.Counted :=
  hm.drift_cases (P := fun d => d.shell.Counted) (fun hd => hd.counted hc)
    (Desktop.createWindow_counted h hc) (Desktop.addSeat_counted hc)
    (Desktop.keyboardFocusChanged_counted h ho hc) (Desktop.seatRemoved_counted h ho hc)

/-- Windows count the seats that focus them. -/
theorem Reached.counted (h : Reached config d) : d.shell.Counted :=
  (h.of_moves (P := fun d => d.shell.Sound ∧ d.shell.seats.Ordered ∧ d.shell.Counted)
    ⟨Shell.fresh_sound config, Roster.ordered_empty, Shell.fresh_counted config⟩
    fun hd hm => ⟨hm.sound hd.1, hm.seats_ordered hd.2.1, hm.counted hd.1 hd.2.1 hd.2.2⟩).2.2

end Kiosk
