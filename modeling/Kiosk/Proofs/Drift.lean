import Kiosk.Proofs.Steady

/-!
# What leaves the focus alone

Most moves have nothing to do with the keyboard focus. `Desktop.Drift` says what
they leave as it is: the windows that stay keep surface and focus count, no seat
comes, goes or moves its focus between them, and the host is told nothing about
activation, nor to make a window's view (`Host.Calm`). Destroying a window is
such a move as well, seen from the windows that stay. The few moves that are not
are left over in `Move.drift_cases`.
-/

namespace Kiosk

/-- Whether the command activates a surface or makes a view for one. -/
def Command.isFocal : Command → Bool
  | .setActivated .. => true
  | .createView .. => true
  | _ => false

/-- What a window's record has to do with focus. -/
def Window.focal (window : Window) : SurfaceHandle × Nat := (window.surface, window.focusCount)

/-! ## Hosts -/

namespace Host

/-- The surfaces that views were made for, oldest first. -/
def createdSurfaces (h : Host) : List SurfaceHandle :=
  h.log.filterMap fun
    | .createView s _ => some s
    | _ => none

/-- `h'` is `h` told nothing about activation and about new windows. -/
structure Calm (h h' : Host) : Prop where
  activated : h'.activated = h.activated
  log : ∃ cs, h'.log = h.log ++ cs ∧ ∀ c ∈ cs, c.isFocal = false

variable {h h' h'' : Host}

namespace Calm

theorem refl (h : Host) : Calm h h := ⟨rfl, [], by simp, by simp⟩

theorem trans (hc : Calm h h') (hc' : Calm h' h'') : Calm h h'' := by
  obtain ⟨cs, hl, hf⟩ := hc.log
  obtain ⟨cs', hl', hf'⟩ := hc'.log
  refine ⟨hc'.activated.trans hc.activated, cs ++ cs', by rw [hl', hl, List.append_assoc],
    fun c hm => ?_⟩
  exact (List.mem_append.1 hm).elim (hf c) (hf' c)

/-- One command that does not matter. -/
theorem of_record {c : Command} (hc : c.isFocal = false) (ha : h'.activated = h.activated)
    (hl : h'.log = h.log) : Calm h (h'.record c) :=
  ⟨ha, [c], by rw [record, hl], by simpa using hc⟩

theorem isActivated (hc : Calm h h') (surface : SurfaceHandle) :
    h'.isActivated surface = h.isActivated surface := by
  rw [Host.isActivated, hc.activated, Host.isActivated]

/-- What is read off the commands that matter. -/
theorem filterMap_log {α : Type} {g : Command → Option α} (hc : Calm h h')
    (hg : ∀ c, c.isFocal = false → g c = none) : h'.log.filterMap g = h.log.filterMap g := by
  obtain ⟨cs, hl, hf⟩ := hc.log
  rw [hl, List.filterMap_append, List.filterMap_eq_nil_iff.2 fun c hm => hg c (hf c hm),
    List.append_nil]

theorem createdSurfaces (hc : Calm h h') : h'.createdSurfaces = h.createdSurfaces :=
  hc.filterMap_log fun c hf => by cases c <;> first | rfl | cases hf

/-- What a surface was told of its activation stays the same. -/
theorem activationChanges (hc : Calm h h') (surface : SurfaceHandle) :
    h'.activationChanges surface = h.activationChanges surface :=
  hc.filterMap_log fun c hf => by cases c <;> first | rfl | cases hf

end Calm

/-- Placement flags and sizes neither activate a surface nor give it a view. -/
theorem Steady.calm (hs : Steady h h') : Calm h h' := by
  obtain ⟨cs, hl, hp⟩ := hs.log
  have hactivated : h'.still.activated = h.still.activated := congrArg Host.activated hs.still
  refine ⟨hactivated, cs, hl, fun c hm => ?_⟩
  have := hp c hm
  cases c <;> first | rfl | cases this

theorem createBackground_calm (h : Host) (o : OutputHandle) (area : Rect) :
    Calm h (h.createBackground o area).2 := by
  cases hf : h.failNextView with
  | true =>
    rw [Desktop.createBackground_refused hf]
    exact ⟨rfl, [], by simp, by simp⟩
  | false =>
    rw [Desktop.createBackground_made hf]
    exact ⟨rfl, [_], rfl, by simp [Command.isFocal]⟩

end Host

/-! ## Desktops -/

namespace Desktop

/-- From `d` to `d'` nothing happened to the focus of the windows that stay. -/
structure Drift (d d' : Desktop) : Prop where
  windows : ∀ x r', d'.shell.windows.get? x = some r' →
    ∃ r, d.shell.windows.get? x = some r ∧ r.focal = r'.focal
  order : d'.shell.seats.order = d.shell.seats.order
  seats : ∀ seat, d'.shell.seats.contains seat = d.shell.seats.contains seat
  focus : ∀ x, d'.shell.isLive x → ∀ seat,
    d'.shell.focusedWindow seat = some x ↔ d.shell.focusedWindow seat = some x
  host : d.host.Calm d'.host

variable {d d' d'' : Desktop} {w : WindowId} {o : OutputId} {seat : SeatId}

namespace Drift

theorem isLive (h : Drift d d') (hw : d'.shell.isLive w) : d.shell.isLive w := by
  obtain ⟨r', hr'⟩ := Option.isSome_iff_exists.1 hw
  obtain ⟨r, hr, -⟩ := h.windows w r' hr'
  exact Option.isSome_iff_exists.2 ⟨r, hr⟩

theorem trans (h : Drift d d') (h' : Drift d' d'') : Drift d d'' where
  windows x r'' hr'' := by
    obtain ⟨r', hr', hf'⟩ := h'.windows x r'' hr''
    obtain ⟨r, hr, hf⟩ := h.windows x r' hr'
    exact ⟨r, hr, hf.trans hf'⟩
  order := h'.order.trans h.order
  seats seat := (h'.seats seat).trans (h.seats seat)
  focus x hx seat := (h'.focus x hx seat).trans (h.focus x (h'.isLive hx) seat)
  host := h.host.trans h'.host

/-- All windows stay, and seats keep their focus. -/
theorem of_map
    (hw : ∀ x, (d'.shell.windows.get? x).map Window.focal =
      (d.shell.windows.get? x).map Window.focal)
    (ho : d'.shell.seats.order = d.shell.seats.order)
    (hs : ∀ seat, (d'.shell.seats.get? seat).map Seat.focused =
      (d.shell.seats.get? seat).map Seat.focused)
    (hh : d.host.Calm d'.host) : Drift d d' where
  windows x _ hr' := exists_of_map_eq (hw x) hr'
  order := ho
  seats seat := by
    have := congrArg Option.isSome (hs seat)
    rwa [Option.isSome_map, Option.isSome_map] at this
  focus x _ seat := by
    have hfocus (s : Shell) : s.focusedWindow seat =
        ((s.seats.get? seat).map Seat.focused).bind (·.map Link.source) := by
      rw [Option.bind_map]
      rfl
    rw [hfocus, hs, ← hfocus]
  host := hh

/-- A change of windows only. -/
theorem of_windows
    (hw : ∀ x, (d'.shell.windows.get? x).map Window.focal =
      (d.shell.windows.get? x).map Window.focal)
    (hs : d'.shell.seats = d.shell.seats) (hh : d.host.Calm d'.host) : Drift d d' :=
  of_map hw (by rw [hs]) (fun _ => by rw [hs]) hh

theorem refl (d : Desktop) : Drift d d := of_windows (fun _ => rfl) rfl (.refl _)

end Drift

theorem Wane.drift (h : Wane d d') : Drift d d' where
  windows x r' hr' := by
    obtain ⟨r, hr, hs⟩ := h.windows x r' hr'
    have hfocal : r.still.focal = r'.still.focal := congrArg Window.focal hs
    exact ⟨r, hr, hfocal⟩
  order := h.order
  seats := h.seats
  focus := h.focus
  host := h.host.calm

theorem Steady.drift (h : Steady d d') : Drift d d' := h.wane.drift

/-- What the host is told may matter little enough. -/
theorem tell_drift {f : Host → Host} (h : d.host.Calm (f d.host)) : Drift d (d.tell f) :=
  .of_windows (fun _ => rfl) rfl h

theorem modifyWindow_drift {f : Window → Window} (hf : ∀ r, (f r).focal = r.focal) (d : Desktop)
    (w : WindowId) : Drift d (d.update (·.modifyWindow w f)) :=
  .of_windows (Shell.map_modifyWindow Window.focal hf d.shell w) rfl (.refl _)

theorem modifyOutput_drift (d : Desktop) (o : OutputId) (f : Output → Output) :
    Drift d (d.update (·.modifyOutput o f)) :=
  .of_windows (fun _ => rfl) rfl (.refl _)

theorem moveView_drift (d : Desktop) (w : WindowId) (p : Point) : Drift d (d.moveView w p) := by
  unfold moveView
  split
  · exact .refl d
  · exact (modifyWindow_drift (fun _ => by rfl) d w).trans (tell_drift (.of_record rfl rfl rfl))

theorem mapWindow_drift (d : Desktop) (w : WindowId) (view : ViewHandle) :
    Drift d (d.mapWindow w view) := by
  have hmapped := modifyWindow_drift (f := ({ · with mapped := true })) (fun _ => rfl) d w
  refine hmapped.trans (.of_windows (fun _ => rfl) rfl ?_)
  exact .of_record rfl rfl rfl

theorem raiseWindow_drift (d : Desktop) (w : WindowId) (view : ViewHandle) :
    Drift d (d.raiseWindow w view) :=
  .of_windows (fun _ => rfl) rfl (.of_record rfl rfl rfl)

/-- A seat that loses its keyboard keeps its focus. -/
theorem setHasKeyboard_drift (d : Desktop) (seat : SeatId) (hasKeyboard : Bool) :
    Drift d (d.update (·.setHasKeyboard seat hasKeyboard)) := by
  refine .of_map (fun _ => rfl) rfl (fun j => ?_) (.refl _)
  show ((d.shell.modifySeat seat _).seats.get? j).map Seat.focused = _
  rw [Shell.get?_modifySeat]
  split
  · next hj =>
    rw [hj, Option.map_map]
    rfl
  · rfl

theorem endGrab_drift (d : Desktop) (seat : SeatId) : Drift d (d.update (·.endGrab seat)) := by
  show Drift d ⟨d.shell.endGrab seat, d.host⟩
  unfold Shell.endGrab
  split
  · exact .refl d
  · next grab _ =>
    exact .of_windows (Shell.map_modifyWindow Window.focal (fun _ => by rfl) _ grab.window.source)
      rfl (.refl _)

theorem moveRequested_drift (d : Desktop) (w : WindowId) (seat : SeatId) (request : MoveRequest) :
    Drift d (d.update fun s => (s.moveRequested w seat request).2) := by
  show Drift d ⟨(d.shell.moveRequested w seat request).2, d.host⟩
  unfold Shell.moveRequested
  split
  · next window _ _ hw _ =>
    split
    · exact .refl d
    · obtain ⟨s', he, rfl, -⟩ := Shell.watchWindow_of_live hw (.grab seat)
      rw [he]
      exact .of_windows (Shell.map_modifyWindow Window.focal (fun _ => by rfl) d.shell w) rfl
        (.refl _)
  · exact .refl d

/-! ## Outputs -/

theorem outputAdded_drift (d : Desktop) (handle : OutputHandle) (name : String) (area : Rect) :
    Drift d (d.outputAdded handle name area).2 := by
  have hcalm := d.host.createBackground_calm handle area
  unfold outputAdded
  split
  · next he =>
    rw [he] at hcalm
    exact .of_windows (fun _ => rfl) rfl hcalm
  · next he =>
    rw [he] at hcalm
    exact .of_windows (fun _ => rfl) rfl hcalm

theorem renewBackground_drift (d : Desktop) (o : OutputId) (output : Output) (area : Rect) :
    Drift d (d.renewBackground o output area) := by
  have hcalm := d.host.createBackground_calm output.handle area
  unfold renewBackground
  split
  · next background host he =>
    rw [he] at hcalm
    exact .of_windows (fun _ => rfl) rfl (hcalm.trans (.of_record rfl rfl rfl))
  · next host he =>
    rw [he] at hcalm
    exact .of_windows (fun _ => rfl) rfl (hcalm.trans (.of_record rfl rfl rfl))

theorem outputRemoved_drift (d : Desktop) (o : OutputId) : Drift d (d.outputRemoved o) := by
  unfold outputRemoved
  split
  · exact .refl d
  · next output _ =>
    have hgone := foldl_outputGone_steady o output.signal.drain.1
      { d.shell with outputs := d.shell.outputs.erase o }
    exact .of_windows (hgone.map_eq Window.focal fun _ => rfl) hgone.seats (.of_record rfl rfl rfl)

/-! ## Destroyed windows -/

theorem destroyWindow_drift (d : Desktop) (w : WindowId) : Drift d (d.destroyWindow w) := by
  cases hw : d.shell.windows.get? w with
  | none =>
    rw [destroyWindow, hw]
    exact .refl d
  | some window =>
    obtain ⟨d₁, hwane, -, he⟩ := destroyWindow_eq hw
    have herased : Drift d (d.erased w window) := by
      refine ⟨fun x r hr => ⟨r, ?_, rfl⟩, rfl, fun _ => rfl, fun _ _ _ => Iff.rfl,
        .of_record rfl rfl rfl⟩
      rw [get?_erased] at hr
      split at hr
      · cases hr
      · exact hr
    rw [he]
    exact (herased.trans hwane.drift).trans (tell_drift (.of_record rfl rfl rfl))

end Desktop

/-! ## Moves -/

open Desktop

/-- A move leaves the focus alone, unless it makes a window, or a seat comes, goes or turns. -/
theorem Move.drift_cases {d d' : Desktop} {P : Desktop → Prop} (hm : Move d d')
    (drift : ∀ {d'}, Drift d d' → P d')
    (create : ∀ surface appId, P (d.createWindow surface appId).2)
    (addSeat : ∀ handle name hasKeyboard,
      P (d.update fun s => (s.addSeat handle name hasKeyboard).2))
    (focus : ∀ seat focus, P (d.keyboardFocusChanged seat focus))
    (removeSeat : ∀ seat, P (d.seatRemoved seat)) : P d' := by
  cases hm with
  | settle hsettling => exact drift hsettling.steady.drift
  | detach w => exact drift (update_steady (d.shell.detach_steady w)).drift
  | @adopt w p _ _ _ =>
    have hsteady := (d.shell.detach_steady w).trans (Shell.attach_steady _ w p)
    exact drift (update_steady hsteady).drift
  | create surface appId => exact create surface appId
  | destroy w => exact drift (d.destroyWindow_drift w)
  | note w f hf => exact drift (modifyWindow_drift (fun r => by rw [hf r]; rfl) d w)
  | moveView w at_ => exact drift (d.moveView_drift w at_)
  | map _ _ _ => exact drift (d.mapWindow_drift _ _)
  | raise _ _ => exact drift (d.raiseWindow_drift _ _)
  | tellSize _ _ => exact drift (tell_drift (.of_record rfl rfl rfl))
  | addSeat handle name hasKeyboard => exact addSeat handle name hasKeyboard
  | setHasKeyboard seat hasKeyboard => exact drift (d.setHasKeyboard_drift seat hasKeyboard)
  | tellFocus _ _ => exact drift (tell_drift (.of_record rfl rfl rfl))
  | focus seat window => exact focus seat window
  | removeSeat seat => exact removeSeat seat
  | grab w seat request => exact drift (d.moveRequested_drift w seat request)
  | endGrab seat => exact drift (d.endGrab_drift seat)
  | addOutput handle name area => exact drift (d.outputAdded_drift handle name area)
  | removeOutput o => exact drift (d.outputRemoved_drift o)
  | @renewOutput o output _ area =>
    exact drift ((d.modifyOutput_drift o _).trans (renewBackground_drift _ o output area))
  | @shiftOutput o output _ area =>
    exact drift ((d.modifyOutput_drift o _).trans (tell_drift (.of_record rfl rfl rfl)))
  | switch s =>
    refine drift (tell_drift ⟨?_, [], ?_, by simp⟩)
    · cases s <;> rfl
    · cases s <;> exact (List.append_nil _).symm

end Kiosk
