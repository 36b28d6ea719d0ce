import Kiosk.Proofs.Turned

/-!
# What no seat notices

Most operations have nothing to do with seats. `Desktop.Idle` says what they leave as it is:
seats and drags, the surfaces of the windows that are there, and what the host was told of
the keyboard focus (`Host.Idle`). The events and calls that may do more are those for which
`Event.isIdle` and `Call.isIdle` are false.
-/

namespace Kiosk

/-- The seat whose keyboard focus the command moves. -/
def Command.seat? : Command → Option SeatHandle
  | .setKeyboardFocus handle _ => some handle
  | _ => none

/-- The surface that `w` shows. -/
def Shell.surfaceOf (s : Shell) (w : WindowId) : Option SurfaceHandle :=
  (s.windows.get? w).map Window.surface

/-- The windows of `s` are there in `s'`, with their surfaces. -/
def Shell.KeepsSurfaces (s s' : Shell) : Prop :=
  ∀ x surface, s.surfaceOf x = some surface → s'.surfaceOf x = some surface

theorem Shell.KeepsSurfaces.of_eq {s s' : Shell} (h : ∀ x, s'.surfaceOf x = s.surfaceOf x) :
    s.KeepsSurfaces s' :=
  fun x _ hx => (h x).trans hx

/-- A surface that is kept twice over is kept. -/
theorem Shell.KeepsSurfaces.trans {s s' s'' : Shell} (h : s.KeepsSurfaces s')
    (h' : s'.KeepsSurfaces s'') : s.KeepsSurfaces s'' :=
  fun x surface hx => h' x surface (h x surface hx)

/-! ## Hosts -/

/-- `h'` is `h` told nothing about the keyboard focus. -/
structure Host.Idle (h h' : Host) : Prop where
  keyboardFocus : h'.keyboardFocus = h.keyboardFocus
  log : ∃ cs, h'.log = h.log ++ cs ∧ ∀ c ∈ cs, c.seat? = none

namespace Host

variable {h h' h'' : Host}

theorem Idle.refl (h : Host) : Idle h h := ⟨rfl, [], by simp, by simp⟩

theorem Idle.trans (hi : Idle h h') (hi' : Idle h' h'') : Idle h h'' := by
  obtain ⟨cs, hl, hc⟩ := hi.log
  obtain ⟨cs', hl', hc'⟩ := hi'.log
  refine ⟨hi'.keyboardFocus.trans hi.keyboardFocus, cs ++ cs',
    by rw [hl', hl, List.append_assoc], fun c hm => ?_⟩
  exact (List.mem_append.1 hm).elim (hc c) (hc' c)

/-- A host that is told one command is idle if the command moves no keyboard focus. -/
theorem Idle.of_record {c : Command} (hc : c.seat? = none)
    (hk : h'.keyboardFocus = h.keyboardFocus) (hl : h'.log = h.log) : Idle h (h'.record c) :=
  ⟨hk, [c], by rw [record, hl], by simpa using hc⟩

theorem Steady.idle (hs : Steady h h') : Idle h h' := by
  obtain ⟨cs, hl, hp⟩ := hs.log
  have hkeyboard : h'.still.keyboardFocus = h.still.keyboardFocus :=
    congrArg Host.keyboardFocus hs.still
  refine ⟨hkeyboard, cs, hl, fun c hm => ?_⟩
  have hplacing := hp c hm
  cases c <;> first | rfl | cases hplacing

theorem setViewPosition_idle (h : Host) (view : ViewHandle) (p : Point) :
    Idle h (h.setViewPosition view p) :=
  .of_record rfl rfl rfl

/-- A background is allocated, or there is no memory; no seat is told of either. -/
theorem createBackground_idle (h : Host) (handle : OutputHandle) (area : Rect) :
    Idle h (h.createBackground handle area).2 := by
  cases hf : h.failNextView with
  | true =>
    rw [Desktop.createBackground_refused hf]
    exact ⟨rfl, [], by simp, by simp⟩
  | false =>
    rw [Desktop.createBackground_made hf]
    exact ⟨rfl, [_], rfl, by simp [Command.seat?]⟩

/-- The switches of a host say nothing to anyone. -/
theorem switch_idle (h : Host) (s : HostSwitch) : Idle h (h.switch s) := by
  cases s <;> exact ⟨rfl, [], by simp [switch], by simp⟩

end Host

/-! ## Desktops -/

/-- From `d` to `d'` nothing happened that concerns a seat. -/
structure Desktop.Idle (d d' : Desktop) : Prop where
  surfaces : d.shell.KeepsSurfaces d'.shell
  seats : d'.shell.seats = d.shell.seats
  grabs : d'.shell.grabs = d.shell.grabs
  host : d.host.Idle d'.host

namespace Desktop

variable {d d' d'' : Desktop}

theorem Idle.trans (h : Idle d d') (h' : Idle d' d'') : Idle d d'' where
  surfaces := h.surfaces.trans h'.surfaces
  seats := h'.seats.trans h.seats
  grabs := h'.grabs.trans h.grabs
  host := h.host.trans h'.host

/-- The windows stay, and keep their surfaces. -/
theorem Idle.of_map (hw : ∀ x, d'.shell.surfaceOf x = d.shell.surfaceOf x)
    (hs : d'.shell.seats = d.shell.seats) (hg : d'.shell.grabs = d.shell.grabs)
    (hh : d.host.Idle d'.host) : Idle d d' :=
  ⟨.of_eq hw, hs, hg, hh⟩

theorem Idle.refl (d : Desktop) : Idle d d := of_map (fun _ => rfl) rfl rfl (.refl _)

theorem Steady.idle (h : Steady d d') : Idle d d' :=
  .of_map (h.shell.map_eq Window.surface fun _ => rfl) h.shell.seats h.shell.grabs h.host.idle

/-- A call to the host that moves no keyboard focus concerns no seat. -/
theorem tell_idle {f : Host → Host} (h : d.host.Idle (f d.host)) : Idle d (d.tell f) :=
  .of_map (fun _ => rfl) rfl rfl h

/-- All of a window's record but its surface may change. -/
theorem modifyWindow_idle {f : Window → Window} (hf : ∀ r, (f r).surface = r.surface)
    (d : Desktop) (w : WindowId) : Idle d (d.update (·.modifyWindow w f)) :=
  .of_map (Shell.map_modifyWindow Window.surface hf d.shell w) rfl rfl (.refl _)

/-- A loop concerns no seat when none of its steps does. -/
theorem foldl_idle {α : Type} {f : Desktop → α → Desktop} (hf : ∀ d a, Idle d (f d a)) :
    ∀ (as : List α) (d : Desktop), Idle d (as.foldl f d)
  | [], d => .refl d
  | a :: as, d => (hf d a).trans (foldl_idle hf as (f d a))

/-! ### Windows -/

theorem moveView_idle (d : Desktop) (w : WindowId) (p : Point) : Idle d (d.moveView w p) := by
  unfold moveView
  split
  · exact .refl d
  · exact (modifyWindow_idle (fun _ => by rfl) d w).trans
      (tell_idle (Host.setViewPosition_idle _ _ p))

theorem shiftWindow_idle (d : Desktop) (w : WindowId) (offset : Point) :
    Idle d (d.shiftWindow w offset) := by
  unfold shiftWindow
  split
  · exact .refl d
  · exact d.moveView_idle w _

/-- A window that comes to the top for the first time is not focused by that. -/
theorem mapWindow_idle (d : Desktop) (w : WindowId) (view : ViewHandle) :
    Idle d (d.mapWindow w view) := by
  have hmapped := modifyWindow_idle (f := ({ · with mapped := true })) (fun _ => rfl) d w
  exact hmapped.trans (.of_map (fun _ => rfl) rfl rfl (.of_record rfl rfl rfl))

/-- Raising a window and focusing it are two things. -/
theorem raiseWindow_idle (d : Desktop) (w : WindowId) (view : ViewHandle) :
    Idle d (d.raiseWindow w view) :=
  .of_map (fun _ => rfl) rfl rfl (.of_record rfl rfl rfl)

/-- Mapping a window, moving it and noting its size concern no seat. -/
theorem finishCommit_idle (d : Desktop) (w : WindowId) (window : Window) (commit : Commit) :
    Idle d (d.finishCommit w window commit) := by
  have hmap : Idle d (if window.mapped then d else d.mapWindow w window.view) := by
    split
    · exact .refl d
    · exact d.mapWindow_idle w window.view
  unfold finishCommit
  generalize (if window.mapped then d else d.mapWindow w window.view) = d' at hmap ⊢
  refine (hmap.trans ?_).trans (modifyWindow_idle (fun _ => by rfl) _ w)
  split
  · exact .refl _
  · exact shiftWindow_idle _ w commit.offset

/-- The focus does not follow what a client draws. -/
theorem windowCommitted_idle (d : Desktop) (w : WindowId) (commit : Commit) :
    Idle d (d.windowCommitted w commit).2 := by
  unfold windowCommitted
  split
  · exact .refl d
  · split
    · exact .refl d
    · split
      · split
        · exact .refl d
        · exact (d.moveView_idle w _).trans (finishCommit_idle _ w _ commit)
      · exact d.finishCommit_idle w _ commit

/-- A new window is none of those that are there. -/
theorem createWindow_idle (d : Desktop) (surface : SurfaceHandle) (appId : Option String) :
    Idle d (d.createWindow surface appId).2 := by
  cases hf : d.host.failNextView with
  | true =>
    rw [createWindow_refused hf]
    exact .of_map (fun _ => rfl) rfl rfl (.of_record rfl rfl rfl)
  | false =>
    rw [createWindow_made hf]
    refine ⟨fun x s hx => ?_, rfl, rfl, ⟨rfl, [_, _], List.append_assoc .., ?_⟩⟩
    · have hnew := d.shell.windows.get?_insert_self
        (.ofSurface surface ⟨d.host.lastView + 1⟩ appId)
      have hne : x ≠ (d.shell.windows.insert
          (.ofSurface surface ⟨d.host.lastView + 1⟩ appId)).1 := by
        rintro rfl
        rw [Shell.surfaceOf, hnew] at hx
        cases hx
      rw [Shell.surfaceOf, Arena.get?_insert, if_neg hne]
      exact hx
    · simp [Command.seat?]

theorem grabMotion_idle (d : Desktop) (seat : SeatId) (location : Point) :
    Idle d (d.grabMotion seat location) := by
  unfold grabMotion
  split
  · exact .refl d
  · exact d.moveView_idle _ _

/-! ### Outputs -/

theorem modifyOutput_idle (d : Desktop) (o : OutputId) (f : Output → Output) :
    Idle d (d.update (·.modifyOutput o f)) :=
  .of_map (fun _ => rfl) rfl rfl (.refl _)

theorem outputAdded_idle (d : Desktop) (handle : OutputHandle) (name : String) (area : Rect) :
    Idle d (d.outputAdded handle name area).2 := by
  have hhost := d.host.createBackground_idle handle area
  unfold outputAdded
  split
  · next he =>
    rw [he] at hhost
    exact .of_map (fun _ => rfl) rfl rfl hhost
  · next he =>
    rw [he] at hhost
    exact .of_map (fun _ => rfl) rfl rfl hhost

/-- Windows lose their output with their surfaces, and the seats focused on them, kept. -/
theorem outputRemoved_idle (d : Desktop) (o : OutputId) : Idle d (d.outputRemoved o) := by
  unfold outputRemoved
  split
  · exact .refl d
  · next output _ =>
    have hgone := foldl_outputGone_steady o output.signal.drain.1
      { d.shell with outputs := d.shell.outputs.erase o }
    exact .of_map (hgone.map_eq Window.surface fun _ => rfl) hgone.seats hgone.grabs
      (.of_record rfl rfl rfl)

theorem reconfigure_idle (d : Desktop) (w : WindowId) : Idle d (d.reconfigure w).2 := by
  unfold reconfigure
  split
  · exact .refl d
  · next window _ =>
    split
    · exact .refl d
    · next area _ =>
      have hsize : Idle d (if window.placement.fillsOutput then
          d.tell (·.setSize window.surface area.size) else d) := by
        split
        · exact tell_idle (.of_record rfl rfl rfl)
        · exact .refl d
      dsimp only
      split
      · exact hsize
      · exact hsize.trans (moveView_idle _ w _)

/-- No seat notices how many of the windows were told their size. -/
theorem reconfigureAll_idle : ∀ (ws : List WindowId) (d : Desktop), Idle d (d.reconfigureAll ws).2
  | [], d => .refl d
  | w :: ws, d => by
    have hone := d.reconfigure_idle w
    unfold reconfigureAll
    split
    · next he => exact he ▸ hone
    · next he =>
      rw [he] at hone
      exact hone.trans (reconfigureAll_idle ws _)

/-- The views of a background are not surfaces that a seat could be focused on. -/
theorem renewBackground_idle (d : Desktop) (o : OutputId) (output : Output) (area : Rect) :
    Idle d (d.renewBackground o output area) := by
  have hhost := d.host.createBackground_idle output.handle area
  unfold renewBackground
  split
  · next he =>
    rw [he] at hhost
    exact .of_map (fun _ => rfl) rfl rfl (hhost.trans (.of_record rfl rfl rfl))
  · next he =>
    rw [he] at hhost
    exact .of_map (fun _ => rfl) rfl rfl (hhost.trans (.of_record rfl rfl rfl))

theorem outputResized_idle (d : Desktop) (o : OutputId) (area : Rect) :
    Idle d (d.outputResized o area).2 := by
  unfold outputResized
  split
  · exact .refl d
  · next output _ =>
    exact ((d.modifyOutput_idle o _).trans (renewBackground_idle _ o output area)).trans
      (reconfigureAll_idle _ _)

theorem outputMoved_idle (d : Desktop) (o : OutputId) (delta : Point) :
    Idle d (d.outputMoved o delta) := by
  unfold outputMoved
  split
  · exact .refl d
  · next output _ =>
    exact ((d.modifyOutput_idle o _).trans (tell_idle (Host.setViewPosition_idle _ _ _))).trans
      (foldl_idle (fun d w => d.shiftWindow_idle w delta) _ _)

end Desktop

/-! ## Actions -/

/-- Whether the event concerns no seat, nor ends a window's life. -/
def Event.isIdle : Event → Bool
  | windowAdded .. => false
  | windowRemoved .. => false
  | moveRequested .. => false
  | seatAdded .. => false
  | seatCapabilitiesChanged .. => false
  | seatRemoved .. => false
  | keyboardFocusChanged .. => false
  | pointerButton .. => false
  | touchDown .. => false
  | grabReleased .. => false
  | _ => true

/-- Whether the call concerns no seat, nor ends a window's life. -/
def Call.isIdle : Call → Bool
  | destroyWindow .. => false
  | focusSeat .. => false
  | activateWindow .. => false
  | _ => true

namespace Desktop

/-- What an idle event does, no seat notices. -/
theorem dispatch_idle {e : Event} (he : e.isIdle) (d : Desktop) : d.Idle (d.dispatch e).2 := by
  cases e with
  | windowCommitted w commit => exact d.windowCommitted_idle w commit
  | parentChanged w parent => exact (d.setParent_steady w parent).idle
  | fullscreenRequested w fullscreen o =>
    exact (d.fullscreenRequested_settles w fullscreen o).steady.idle
  | maximizeRequested w maximized => exact (d.maximizeRequested_settles w maximized).steady.idle
  | minimizeRequested | resizeRequested => exact .refl d
  | xwaylandPositionSet w at_ => exact modifyWindow_idle (fun _ => by rfl) d w
  | appIdChanged w appId => exact modifyWindow_idle (fun _ => by rfl) d w
  | outputAdded handle name area => exact d.outputAdded_idle handle name area
  | outputRemoved o => exact d.outputRemoved_idle o
  | outputResized o area => exact d.outputResized_idle o area
  | outputMoved o delta => exact d.outputMoved_idle o delta
  | grabMotion seat location => exact d.grabMotion_idle seat location
  | _ => cases he

/-- What an idle call does, no seat notices. -/
theorem call_idle {c : Call} (hc : c.isIdle) (d : Desktop) : d.Idle (d.call c).2 := by
  cases c with
  | createWindow surface appId => exact d.createWindow_idle surface appId
  | setParent w parent => exact (d.setParent_steady w parent).idle
  | setOutput w o => exact (Settling.output d w o).steady.idle
  | setFullscreen w o => exact (d.setFullscreen_settles w o).steady.idle
  | setMaximized w => exact (d.setMaximized_settles w).steady.idle
  | setNormal w => exact (d.setNormal_settles w).steady.idle
  | _ => cases hc

end Desktop

end Kiosk
