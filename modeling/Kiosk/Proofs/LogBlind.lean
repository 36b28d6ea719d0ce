import Kiosk.Proofs.Moves

/-!
# What was logged before

The log is a record for those who watch, and no operation reads it: an operation on a desktop
with more at the start of its log (`Desktop.prepend`) is that operation on the desktop without
it. So the commands of an action are those the log grows by (`Desktop.log_act`), and what a
run shows, its answers, commands and records, is the same whatever was logged before it
(`Desktop.transcript_prepend`).
-/

namespace Kiosk

variable {cs : List Command}

/-! ## Hosts -/

/-- The host, told `cs` before all else. -/
def Host.prepend (cs : List Command) (h : Host) : Host :=
  { h with log := cs ++ h.log }

/-- The desktop, its host told `cs` before all else. -/
def Desktop.prepend (cs : List Command) (d : Desktop) : Desktop :=
  d.tell (·.prepend cs)

namespace Host

/-- A command that is recorded goes to the end of the log, so what stands at the start stays there.
-/
@[simp]
theorem record_prepend (h : Host) (c : Command) :
    (h.prepend cs).record c = (h.record c).prepend cs := by
  simp only [record, prepend, List.append_assoc]

@[simp]
theorem setUserData_prepend (h : Host) (surface : SurfaceHandle) (w : Option WindowId) :
    (h.prepend cs).setUserData surface w = (h.setUserData surface w).prepend cs :=
  record_prepend { h with userData := h.userData.set surface w } _

/-- Views are numbered by a counter of their own, not by the length of the log. -/
@[simp]
theorem allocateView_prepend (h : Host) :
    (h.prepend cs).allocateView = (h.allocateView.1, h.allocateView.2.prepend cs) := by
  unfold allocateView
  rw [show (h.prepend cs).failNextView = h.failNextView from rfl]
  split <;> rfl

/-- The view a surface gets, if there is memory for one, does not depend on what was logged. -/
@[simp]
theorem createView_prepend (h : Host) (surface : SurfaceHandle) :
    (h.prepend cs).createView surface =
      ((h.createView surface).1, (h.createView surface).2.prepend cs) := by
  unfold createView
  rw [allocateView_prepend]
  rcases h.allocateView with ⟨_ | view, h⟩
  · rfl
  · simp only [record_prepend]

/-- The background an output gets, if there is memory for one, does not depend on what was logged.
-/
@[simp]
theorem createBackground_prepend (h : Host) (handle : OutputHandle) (area : Rect) :
    (h.prepend cs).createBackground handle area =
      ((h.createBackground handle area).1, (h.createBackground handle area).2.prepend cs) := by
  unfold createBackground
  rw [allocateView_prepend]
  rcases h.allocateView with ⟨_ | view, h⟩
  · rfl
  · exact congrArg _ (record_prepend { h with
      viewPositions := h.viewPositions.insert view area.loc } _)

@[simp]
theorem destroyView_prepend (h : Host) (view : ViewHandle) :
    (h.prepend cs).destroyView view = (h.destroyView view).prepend cs :=
  record_prepend { h with
    liveViews := h.liveViews.filter (· ≠ view)
    viewStack := h.viewStack.filter (· ≠ view)
    viewPositions := h.viewPositions.erase view } _

@[simp]
theorem mapView_prepend (h : Host) (view : ViewHandle) :
    (h.prepend cs).mapView view = (h.mapView view).prepend cs :=
  record_prepend (h.onTop view) _

@[simp]
theorem raiseView_prepend (h : Host) (view : ViewHandle) :
    (h.prepend cs).raiseView view = (h.raiseView view).prepend cs :=
  record_prepend (h.onTop view) _

@[simp]
theorem setViewPosition_prepend (h : Host) (view : ViewHandle) (p : Point) :
    (h.prepend cs).setViewPosition view p = (h.setViewPosition view p).prepend cs :=
  record_prepend { h with viewPositions := h.viewPositions.insert view p } _

@[simp]
theorem setFullscreen_prepend (h : Host) (surface : SurfaceHandle) (b : Bool) :
    (h.prepend cs).setFullscreen surface b = (h.setFullscreen surface b).prepend cs :=
  record_prepend { h with fullscreen := h.fullscreen.insert surface b } _

@[simp]
theorem setMaximized_prepend (h : Host) (surface : SurfaceHandle) (b : Bool) :
    (h.prepend cs).setMaximized surface b = (h.setMaximized surface b).prepend cs :=
  record_prepend { h with maximized := h.maximized.insert surface b } _

@[simp]
theorem setSize_prepend (h : Host) (surface : SurfaceHandle) (size : Size) :
    (h.prepend cs).setSize surface size = (h.setSize surface size).prepend cs :=
  record_prepend { h with sizes := h.sizes.insert surface size } _

@[simp]
theorem setActivated_prepend (h : Host) (surface : SurfaceHandle) (b : Bool) :
    (h.prepend cs).setActivated surface b = (h.setActivated surface b).prepend cs :=
  record_prepend { h with activated := h.activated.insert surface b } _

@[simp]
theorem setKeyboardFocus_prepend (h : Host) (handle : SeatHandle)
    (surface : Option SurfaceHandle) : (h.prepend cs).setKeyboardFocus handle surface =
      (h.setKeyboardFocus handle surface).prepend cs :=
  record_prepend { h with keyboardFocus := h.keyboardFocus.set handle surface } _

/-- Whether the client hears of the shortage is up to its connection. -/
@[simp]
theorem postNoMemory_prepend (h : Host) (surface : SurfaceHandle) :
    (h.prepend cs).postNoMemory surface =
      ((h.postNoMemory surface).1, (h.postNoMemory surface).2.prepend cs) :=
  congrArg _ (record_prepend h _)

/-- The placement flags to set are told by the two placements, not by what was sent before. -/
@[simp]
theorem announce_prepend (h : Host) (surface : SurfaceHandle) (previous placement : Placement) :
    Desktop.announce (h.prepend cs) surface previous placement =
      (Desktop.announce h surface previous placement).prepend cs := by
  unfold Desktop.announce
  cases placement with
  | normal => rfl
  | fullscreen => dsimp only; split <;> simp
  | maximized => dsimp only; split <;> simp

end Host

/-! ## Operations -/

namespace Desktop

@[simp]
theorem shell_prepend (d : Desktop) : (d.prepend cs).shell = d.shell := rfl

@[simp]
theorem host_prepend (d : Desktop) : (d.prepend cs).host = d.host.prepend cs := rfl

@[simp]
theorem mk_prepend (s : Shell) (h : Host) : (⟨s, h.prepend cs⟩ : Desktop) = prepend cs ⟨s, h⟩ := rfl

@[simp]
theorem update_prepend (d : Desktop) (f : Shell → Shell) :
    (d.prepend cs).update f = (d.update f).prepend cs := rfl

/-- A call to the host that commutes with a longer log does so on the desktop. -/
@[simp]
theorem tell_prepend (d : Desktop) {f : Host → Host}
    (hf : f (d.host.prepend cs) = (f d.host).prepend cs) :
    (d.prepend cs).tell f = (d.tell f).prepend cs :=
  congrArg (Desktop.mk d.shell) hf

/-- The condition is asked on the records, so the branch is the same under a longer log. -/
@[simp]
theorem ite_prepend (c : Prop) [Decidable c] (d d' : Desktop) :
    (if c then d.prepend cs else d'.prepend cs) = (if c then d else d').prepend cs :=
  (apply_ite (prepend cs) c d d').symm

@[simp]
theorem moveView_prepend (d : Desktop) (w : WindowId) (p : Point) :
    (d.prepend cs).moveView w p = (d.moveView w p).prepend cs := by
  unfold moveView
  rw [shell_prepend]
  split <;> simp

/-! ### Placing -/

@[simp]
theorem setOutput_prepend (d : Desktop) (w : WindowId) (o : Option OutputId) :
    (d.prepend cs).setOutput w o = (d.setOutput w o).prepend cs := rfl

@[simp]
theorem ensureOutput_prepend (d : Desktop) (w : WindowId) :
    (d.prepend cs).ensureOutput w = (d.ensureOutput w).prepend cs := by
  unfold ensureOutput
  rw [shell_prepend]
  split <;> rfl

@[simp]
theorem setNormal_prepend (d : Desktop) (w : WindowId) :
    (d.prepend cs).setNormal w = (d.setNormal w).prepend cs := by
  simp only [setNormal, ensureOutput_prepend, shell_prepend]
  split <;> simp

/-- A window is given an output's size even if the log shows that it was given that size before. -/
@[simp]
theorem fillOutput_prepend (d : Desktop) (w : WindowId) (placement : Placement) :
    (d.prepend cs).fillOutput w placement = (d.fillOutput w placement).prepend cs := by
  simp only [fillOutput, shell_prepend]
  split
  · rfl
  · simp only [update_prepend, tell_prepend, Host.announce_prepend, shell_prepend]
    split <;> simp

@[simp]
theorem setFullscreen_prepend (d : Desktop) (w : WindowId) (o : Option OutputId) :
    (d.prepend cs).setFullscreen w o = (d.setFullscreen w o).prepend cs := by
  simp only [setFullscreen, shell_prepend]
  split
  · rfl
  · simp only [setOutput_prepend, fillOutput_prepend, setNormal_prepend, ite_prepend]

@[simp]
theorem setMaximized_prepend (d : Desktop) (w : WindowId) :
    (d.prepend cs).setMaximized w = (d.setMaximized w).prepend cs := by
  simp only [setMaximized, shell_prepend]
  split
  · rfl
  · simp only [setOutput_prepend, fillOutput_prepend, setNormal_prepend, ite_prepend]

/-- Adoption, refusal and release are decided on the records alone. -/
@[simp]
theorem setParent_prepend (d : Desktop) (w : WindowId) (parent : Option WindowId) :
    (d.prepend cs).setParent w parent = (d.setParent w parent).prepend cs := by
  simp only [setParent, shell_prepend, update_prepend, setFullscreen_prepend, setNormal_prepend]
  cases parent.filter d.shell.isLive <;> simp only [ite_prepend]

@[simp]
theorem fullscreenRequested_prepend (d : Desktop) (w : WindowId) (fullscreen : Bool)
    (o : Option OutputId) : (d.prepend cs).fullscreenRequested w fullscreen o =
      (d.fullscreenRequested w fullscreen o).prepend cs := by
  simp only [fullscreenRequested, shell_prepend]
  split
  · rfl
  · simp only [setFullscreen_prepend, setNormal_prepend, ite_prepend]

@[simp]
theorem maximizeRequested_prepend (d : Desktop) (w : WindowId) (maximized : Bool) :
    (d.prepend cs).maximizeRequested w maximized =
      (d.maximizeRequested w maximized).prepend cs := by
  simp only [maximizeRequested, shell_prepend]
  split
  · rfl
  · simp only [setFullscreen_prepend, setMaximized_prepend, setNormal_prepend, ite_prepend]

/-! ### Commits -/

@[simp]
theorem mapWindow_prepend (d : Desktop) (w : WindowId) (view : ViewHandle) :
    (d.prepend cs).mapWindow w view = (d.mapWindow w view).prepend cs := by
  simp [mapWindow]

@[simp]
theorem shiftWindow_prepend (d : Desktop) (w : WindowId) (offset : Point) :
    (d.prepend cs).shiftWindow w offset = (d.shiftWindow w offset).prepend cs := by
  simp only [shiftWindow, shell_prepend]
  split <;> simp

@[simp]
theorem finishCommit_prepend (d : Desktop) (w : WindowId) (window : Window) (commit : Commit) :
    (d.prepend cs).finishCommit w window commit =
      (d.finishCommit w window commit).prepend cs := by
  simp only [finishCommit, mapWindow_prepend, ite_prepend, shiftWindow_prepend, update_prepend]

/-- What a commit does to the records, faults included, and what it tells the host, is free of the
log. -/
@[simp]
theorem windowCommitted_prepend (d : Desktop) (w : WindowId) (commit : Commit) :
    (d.prepend cs).windowCommitted w commit =
      ((d.windowCommitted w commit).1, (d.windowCommitted w commit).2.prepend cs) := by
  simp only [windowCommitted, shell_prepend]
  split
  · rfl
  · split
    · rfl
    · split
      · split
        · rfl
        · simp
      · simp

/-! ### Focus and pointing -/

/-- The surface is deactivated when the count of its seats falls to zero: the count is kept, not
read off the log. -/
@[simp]
theorem releaseFocus_prepend (d : Desktop) (seat : SeatId) :
    (d.prepend cs).releaseFocus seat = (d.releaseFocus seat).prepend cs := by
  simp only [releaseFocus, shell_prepend]
  split
  · rfl
  · simp only [update_prepend, shell_prepend]
    split
    · rfl
    · simp

/-- The surface is activated when its count of seats was zero. -/
@[simp]
theorem takeFocus_prepend (d : Desktop) (seat : SeatId) (w : WindowId) :
    (d.prepend cs).takeFocus seat w = (d.takeFocus seat w).prepend cs := by
  simp only [takeFocus, shell_prepend]
  split
  · simp only [host_prepend, mk_prepend]
    split <;> simp
  · rfl

/-- What a seat had focused is known from its record, not from the commands sent for it. -/
@[simp]
theorem keyboardFocusChanged_prepend (d : Desktop) (seat : SeatId) (focus : Option WindowId) :
    (d.prepend cs).keyboardFocusChanged seat focus =
      (d.keyboardFocusChanged seat focus).prepend cs := by
  unfold keyboardFocusChanged
  rw [shell_prepend]
  split
  · rfl
  · next record _ =>
    cases focus.filter d.shell.isLive <;>
      simp only [releaseFocus_prepend, takeFocus_prepend, ite_prepend]

/-- The host is told of the focus whatever it was told last. -/
@[simp]
theorem focusSeat_prepend (d : Desktop) (seat : SeatId) (w : Option WindowId) :
    (d.prepend cs).focusSeat seat w = (d.focusSeat seat w).prepend cs := by
  simp only [focusSeat, shell_prepend]
  split
  · rfl
  · simp

@[simp]
theorem seatRemoved_prepend (d : Desktop) (seat : SeatId) :
    (d.prepend cs).seatRemoved seat = (d.seatRemoved seat).prepend cs := by
  simp [seatRemoved]

@[simp]
theorem raiseWindow_prepend (d : Desktop) (w : WindowId) (view : ViewHandle) :
    (d.prepend cs).raiseWindow w view = (d.raiseWindow w view).prepend cs := by
  simp [raiseWindow]

@[simp]
theorem activateWindow_prepend (d : Desktop) (seat : SeatId) (w : WindowId) :
    (d.prepend cs).activateWindow seat w = (d.activateWindow seat w).prepend cs := by
  simp only [activateWindow, shell_prepend]
  split
  · rfl
  · simp only [raiseWindow_prepend, ite_prepend, focusSeat_prepend]

@[simp]
theorem touchDown_prepend (d : Desktop) (seat : SeatId) (focus : Option WindowId)
    (defaultGrab : Bool) : (d.prepend cs).touchDown seat focus defaultGrab =
      (d.touchDown seat focus defaultGrab).prepend cs := by
  unfold touchDown
  split <;> simp

@[simp]
theorem pointerButton_prepend (d : Desktop) (seat : SeatId) (button : UInt32)
    (focus : Option WindowId) (defaultGrab : Bool) :
    (d.prepend cs).pointerButton seat button focus defaultGrab =
      (d.pointerButton seat button focus defaultGrab).prepend cs := by
  unfold pointerButton
  split <;> simp

@[simp]
theorem grabMotion_prepend (d : Desktop) (seat : SeatId) (location : Point) :
    (d.prepend cs).grabMotion seat location = (d.grabMotion seat location).prepend cs := by
  simp only [grabMotion, shell_prepend]
  split <;> simp

/-! ### Windows that come and go -/

/-- A loop commutes with a longer log when each of its steps does. -/
theorem foldl_prepend {α : Type} {f : Desktop → α → Desktop}
    (hf : ∀ d a, f (d.prepend cs) a = (f d a).prepend cs) :
    ∀ (as : List α) (d : Desktop), as.foldl f (d.prepend cs) = (as.foldl f d).prepend cs
  | [], _ => rfl
  | a :: as, d => by rw [List.foldl_cons, hf, foldl_prepend hf as, List.foldl_cons]

/-- A window that cannot be created for want of memory cannot be created under a longer log either.
-/
@[simp]
theorem createWindow_prepend (d : Desktop) (surface : SurfaceHandle) (appId : Option String) :
    (d.prepend cs).createWindow surface appId =
      ((d.createWindow surface appId).1, (d.createWindow surface appId).2.prepend cs) := by
  simp only [createWindow, host_prepend, Host.createView_prepend]
  rcases d.host.createView surface with ⟨_ | view, h⟩ <;> simp

/-- A new window is placed and focused in the same way whatever was logged. -/
@[simp]
theorem windowAdded_prepend (d : Desktop) (surface : SurfaceHandle) (appId : Option String)
    (parent : Option WindowId) : (d.prepend cs).windowAdded surface appId parent =
      ((d.windowAdded surface appId parent).1,
        (d.windowAdded surface appId parent).2.prepend cs) := by
  simp only [windowAdded, createWindow_prepend]
  rcases d.createWindow surface appId with ⟨_ | w, d⟩
  · rfl
  · simp only [shell_prepend]
    split <;> simp [foldl_prepend]

/-- What a listener does when its window ends goes by its own record. -/
@[simp]
theorem windowGone_prepend (w : WindowId) (parent : Option WindowId) (d : Desktop) (l : Listener) :
    windowGone w parent (d.prepend cs) l = (windowGone w parent d l).prepend cs := by
  cases l with
  | parent child => exact setParent_prepend d child parent
  | boundOutput x => rfl
  | seatFocus seat =>
    by_cases h : d.shell.focusedWindow seat = some w <;> simp [windowGone, h]
  | grab seat =>
    by_cases h : (d.shell.grabs.get? seat).any (·.window.source = w) <;> simp [windowGone, h]

/-- The end of a window and all that hear of it, as one operation, leave the start of the log alone.
-/
@[simp]
theorem destroyWindow_prepend (d : Desktop) (w : WindowId) :
    (d.prepend cs).destroyWindow w = (d.destroyWindow w).prepend cs := by
  simp only [destroyWindow, shell_prepend]
  split <;> simp [foldl_prepend]

@[simp]
theorem windowRemoved_prepend (d : Desktop) (w : WindowId) :
    (d.prepend cs).windowRemoved w = (d.windowRemoved w).prepend cs := by
  by_cases h : d.shell.isLive w <;> simp [windowRemoved, h, foldl_prepend]

/-! ### Outputs -/

/-- An output that is turned down for want of memory is turned down under a longer log too. -/
@[simp]
theorem outputAdded_prepend (d : Desktop) (handle : OutputHandle) (name : String) (area : Rect) :
    (d.prepend cs).outputAdded handle name area =
      ((d.outputAdded handle name area).1, (d.outputAdded handle name area).2.prepend cs) := by
  simp only [outputAdded, host_prepend, Host.createBackground_prepend]
  rcases d.host.createBackground handle area with ⟨_ | view, h⟩ <;> rfl

@[simp]
theorem outputRemoved_prepend (d : Desktop) (o : OutputId) :
    (d.prepend cs).outputRemoved o = (d.outputRemoved o).prepend cs := by
  simp only [outputRemoved, shell_prepend]
  split <;> simp

/-- A window of an output that changed is told its size, or there is a fault, whatever was
logged. -/
@[simp]
theorem reconfigure_prepend (d : Desktop) (w : WindowId) : (d.prepend cs).reconfigure w =
    ((d.reconfigure w).1, (d.reconfigure w).2.prepend cs) := by
  simp only [reconfigure, shell_prepend]
  split
  · rfl
  · split
    · rfl
    · split <;> simp

/-- The windows are told one after the other up to the first fault, which is the same one. -/
@[simp]
theorem reconfigureAll_prepend : ∀ (ws : List WindowId) (d : Desktop),
    (d.prepend cs).reconfigureAll ws =
      ((d.reconfigureAll ws).1, (d.reconfigureAll ws).2.prepend cs)
  | [], _ => rfl
  | w :: ws, d => by
    simp only [reconfigureAll, reconfigure_prepend]
    rcases d.reconfigure w with ⟨_ | fault, d⟩
    · exact reconfigureAll_prepend ws d
    · rfl

/-- The old background is kept, or replaced, as without the longer log. -/
@[simp]
theorem renewBackground_prepend (d : Desktop) (o : OutputId) (output : Output) (area : Rect) :
    (d.prepend cs).renewBackground o output area =
      (d.renewBackground o output area).prepend cs := by
  simp only [renewBackground, host_prepend, Host.createBackground_prepend]
  rcases d.host.createBackground output.handle area with ⟨_ | view, h⟩ <;> simp

@[simp]
theorem outputResized_prepend (d : Desktop) (o : OutputId) (area : Rect) :
    (d.prepend cs).outputResized o area =
      ((d.outputResized o area).1, (d.outputResized o area).2.prepend cs) := by
  simp only [outputResized, shell_prepend]
  split <;> simp

@[simp]
theorem outputMoved_prepend (d : Desktop) (o : OutputId) (delta : Point) :
    (d.prepend cs).outputMoved o delta = (d.outputMoved o delta).prepend cs := by
  simp only [outputMoved, shell_prepend]
  split <;> simp [foldl_prepend]

/-! ### Actions -/

/-- An event is answered, and changes the records, as if nothing had been logged before. -/
theorem dispatch_prepend (d : Desktop) (e : Event) :
    (d.prepend cs).dispatch e = ((d.dispatch e).1, (d.dispatch e).2.prepend cs) := by
  cases e <;> simp [dispatch]

/-- A direct call does what it does whatever was logged before. -/
theorem call_prepend (d : Desktop) (c : Call) :
    (d.prepend cs).call c = ((d.call c).1, (d.call c).2.prepend cs) := by
  cases c <;> simp [call]

/-- An action does not depend on what was logged before. -/
theorem act_prepend (d : Desktop) (a : Action) :
    (d.prepend cs).act a = ((d.act a).1, (d.act a).2.prepend cs) := by
  cases a with
  | event e => exact d.dispatch_prepend e
  | call c => exact d.call_prepend c
  | switch s => cases s <;> rfl

end Desktop

/-! ## What a run shows -/

/-- What an action brings about: the answer, the commands it issues, and the records after it. -/
structure Outcome where
  reply : Reply
  commands : List Command
  shell : Shell

namespace Desktop

/-- What an action brings about on `d`. -/
def outcome (d : Desktop) (a : Action) : Outcome where
  reply := (d.act a).1
  commands := (d.act a).2.host.log.drop d.host.log.length
  shell := (d.act a).2.shell

/-- What actions bring about one after the other, up to the first fault. -/
def transcript (d : Desktop) : List Action → List Outcome
  | [] => []
  | a :: as =>
    match d.act a with
    | (.fault _, _) => [d.outcome a]
    | (_, d') => d.outcome a :: d'.transcript as

/-- Taking the log out and putting it back at the start changes nothing. -/
theorem prepend_takeLog (d : Desktop) : d.takeLog.2.prepend d.takeLog.1 = d := by
  simp [takeLog, Host.takeLog, prepend, tell, Host.prepend]

/-- The log grows by the commands that are issued. -/
theorem log_act (d : Desktop) (a : Action) :
    (d.act a).2.host.log = d.host.log ++ (d.outcome a).commands := by
  have hact : (d.takeLog.2.prepend d.takeLog.1).act a = _ := act_prepend _ a
  rw [prepend_takeLog] at hact
  have hprefix : d.host.log <+: (d.act a).2.host.log := by
    rw [hact]
    exact List.prefix_append _ _
  exact (List.prefix_iff_eq_append.1 hprefix).symm

/-- The answer, the commands and the records an action leads to do not show what was logged before
it. -/
theorem outcome_prepend (d : Desktop) (a : Action) : (d.prepend cs).outcome a = d.outcome a := by
  have hlog : (cs ++ (d.act a).2.host.log).drop (cs ++ d.host.log).length =
      (d.act a).2.host.log.drop d.host.log.length := by
    rw [List.length_append, ← List.drop_drop, List.drop_left]
  simp only [outcome, act_prepend]
  exact congrArg (Outcome.mk _ · _) hlog

/-- What a run shows does not depend on what was logged before. -/
theorem transcript_prepend : ∀ (as : List Action) (d : Desktop),
    (d.prepend cs).transcript as = d.transcript as
  | [], _ => rfl
  | a :: as, d => by
    unfold transcript
    rw [act_prepend, outcome_prepend]
    rcases d.act a with ⟨reply, d'⟩
    cases reply with
    | fault => rfl
    | window | output | seat | grab | handled | refused =>
      exact congrArg (_ :: ·) (transcript_prepend as d')

/-- Two desktops that differ in their logs only cannot be told apart from then on. -/
theorem transcript_eq_of_takeLog {d d' : Desktop} (h : d.takeLog.2 = d'.takeLog.2)
    (as : List Action) : d.transcript as = d'.transcript as := by
  rw [← prepend_takeLog d, ← prepend_takeLog d', transcript_prepend, transcript_prepend, h]

end Desktop

end Kiosk
