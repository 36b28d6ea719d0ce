import Kiosk.Proofs.Attention
import Kiosk.Proofs.Carrying
import Kiosk.Proofs.Drags
import Kiosk.Proofs.Views

/-!
# Windows that follow the device that drags them

A drag remembers which window it moves, and how far that window was from the device when the drag
began. Nothing changes either (`Desktop.get?_grabs_act`): an action ends the drag
(`Action.endsDrag`), or leaves it as it is. So wherever other events put the window in the
meantime, the next motion of the device puts it where it was at first, moved by as much as the
device has moved (`Reached.drag_follows`).
-/

namespace Kiosk

variable {config : Config} {d d' : Desktop} {s : Shell} {w x : WindowId} {seat j : SeatId}
  {as : List Action} {grab : Grab} {window : Window}

/-- Whether the action ends the drag of `w` by `seat`. -/
def Action.endsDrag (seat : SeatId) (w : WindowId) : Action → Bool
  | event (.grabReleased j) => j = seat
  | event (.seatRemoved j) => j = seat
  | event (.windowRemoved x) => x = w
  | call (.destroyWindow x) => x = w
  | _ => false

/-! ## One action -/

namespace Shell

theorem dragged_of_grab (hg : s.grabs.get? seat = some grab) :
    s.dragged seat = some grab.window.source :=
  congrArg (Option.map fun grab : Grab => grab.window.source) hg

theorem get?_grabs_endGrab (s : Shell) (j seat : SeatId) :
    (s.endGrab j).grabs.get? seat = if seat = j then none else s.grabs.get? seat := by
  unfold endGrab
  split
  · next hnone =>
    split
    · next h => rw [h, hnone]
    · rfl
  · exact Assoc.get?_erase ..

/-- A seat that drags starts no other drag. -/
theorem get?_grabs_moveRequested (hg : s.grabs.get? seat = some grab) (w : WindowId) (j : SeatId)
    (request : MoveRequest) : (s.moveRequested w j request).2.grabs.get? seat = some grab := by
  unfold moveRequested
  split
  · next window device location hw _ =>
    split
    · exact hg
    · next hfree =>
      obtain ⟨s', he, rfl, -⟩ := watchWindow_of_live hw (.grab j)
      have hne : seat ≠ j := by
        rintro rfl
        simp [Assoc.contains, hg] at hfree
      rw [he]
      exact (Assoc.get?_insert ..).trans ((if_neg hne).trans hg)
  · exact hg

/-- The window that a seat drags tells it when it goes. -/
theorem Sound.hears_grab (h : s.Sound) (hg : s.grabs.get? seat = some grab)
    (hw : s.windows.get? grab.window.source = some window) :
    .grab seat ∈ window.signal.drain.1 := by
  have hlink : s.web.link (.grab seat) = some grab.window.toWindow :=
    congrArg (Option.map fun grab : Grab => grab.window.toWindow) hg
  have hsignal : s.web.signal (.window grab.window.source) = some window.signal :=
    congrArg (Option.map Window.signal) hw
  have hheard := (h.exact.heard _ _ hsignal grab.window.token (.grab seat)).2 hlink
  exact List.mem_map.2 ⟨_, hheard, rfl⟩

end Shell

namespace Desktop

theorem get?_grabs_destroyWindow_of_grab (h : d.shell.Sound)
    (hg : d.shell.grabs.get? seat = some grab) (w : WindowId) :
    (d.destroyWindow w).shell.grabs.get? seat =
      if w = grab.window.source then none else some grab := by
  obtain ⟨window, hwindow⟩ := Option.isSome_iff_exists.1 <|
    h.isLive_of_dragged (Shell.dragged_of_grab hg)
  split
  · next hw =>
    rw [hw, get?_grabs_destroyWindow hwindow, if_pos (h.hears_grab hg hwindow), hg]
    exact Option.filter_some_neg (by simp)
  · next hw =>
    cases hx : d.shell.windows.get? w with
    | none => rwa [destroyWindow, hx]
    | some other =>
      have hkept : (some grab).filter (·.window.source ≠ w) = some grab :=
        Option.filter_some_pos (by simpa using Ne.symm hw)
      rw [get?_grabs_destroyWindow hx, hg, hkept, ite_self]

theorem get?_grabs_windowRemoved (h : d.shell.Sound) (hg : d.shell.grabs.get? seat = some grab)
    (w : WindowId) : (d.windowRemoved w).shell.grabs.get? seat =
      if w = grab.window.source then none else some grab := by
  cases hw : d.shell.isLive w with
  | false =>
    have hne : w ≠ grab.window.source := by
      rintro rfl
      rw [h.isLive_of_dragged (Shell.dragged_of_grab hg)] at hw
      cases hw
    rw [windowRemoved, hw, if_neg hne]
    exact hg
  | true =>
    rw [windowRemoved, hw]
    refine get?_grabs_destroyWindow_of_grab (sound_of_moves h (moves_foldl ?_ _ _)) ?_ w
    · exact fun d seat => d.focusSeat_moves seat _
    · rw [grabs_foldl_focusSeat, hg]

/-- An action ends a drag, or leaves it as it is. -/
theorem get?_grabs_act (h : d.shell.Sound) (hg : d.shell.grabs.get? seat = some grab)
    (a : Action) : (d.act a).2.shell.grabs.get? seat =
      if a.endsDrag seat grab.window.source then none else some grab := by
  have hsame {d' : Desktop} (he : d'.shell.grabs = d.shell.grabs) :
      d'.shell.grabs.get? seat = some grab := by
    rw [he, hg]
  cases a with
  | switch s => exact hg
  | call c =>
    cases c with
    | destroyWindow w =>
      simp only [Action.endsDrag, decide_eq_true_eq]
      exact get?_grabs_destroyWindow_of_grab h hg w
    | focusSeat j w => exact hsame (d.grabs_focusSeat j w)
    | activateWindow j w => exact hsame (d.grabs_activateWindow j w)
    | _ => exact hsame (call_idle rfl d).grabs
  | event e =>
    cases e with
    | windowAdded surface appId parent => exact hsame (d.grabs_windowAdded surface appId parent)
    | windowRemoved w =>
      simp only [Action.endsDrag, decide_eq_true_eq]
      exact get?_grabs_windowRemoved h hg w
    | moveRequested w j request => exact Shell.get?_grabs_moveRequested hg w j request
    | seatAdded | seatCapabilitiesChanged => exact hg
    | seatRemoved j =>
      simp only [Action.endsDrag, decide_eq_true_eq]
      refine (Shell.get?_grabs_endGrab _ j seat).trans ?_
      rw [grabs_releaseFocus, hg]
      simp only [eq_comm]
    | keyboardFocusChanged j focus => exact hsame (d.grabs_keyboardFocusChanged j focus)
    | pointerButton j button focus defaultGrab =>
      refine hsame (?_ : (d.pointerButton j button focus defaultGrab).shell.grabs = _)
      unfold pointerButton
      split
      · exact d.grabs_touchDown j focus defaultGrab
      · rfl
    | touchDown j focus defaultGrab => exact hsame (d.grabs_touchDown j focus defaultGrab)
    | grabReleased j =>
      simp only [Action.endsDrag, decide_eq_true_eq]
      refine (Shell.get?_grabs_endGrab _ j seat).trans ?_
      rw [hg]
      simp only [eq_comm]
    | _ => exact hsame (dispatch_idle rfl d).grabs

/-! ## The device moves -/

/-- From `d` to `d'` the window `w` was put at `p`, and no other window was moved. -/
structure PutsAt (w : WindowId) (p : Point) (d d' : Desktop) : Prop where
  moved : ∃ window, d.shell.windows.get? w = some window ∧
    d'.shell.windows.get? w = some { window with position := p } ∧
    d'.host.viewPositions.get? window.view = some p
  others : ∀ x ≠ w, d'.shell.windows.get? x = d.shell.windows.get? x
  views : ∀ x r, x ≠ w → d.shell.windows.get? x = some r →
    d'.host.viewPositions.get? r.view = d.host.viewPositions.get? r.view

theorem moveView_putsAt (h : d.Viewed) (hw : d.shell.isLive w) (p : Point) :
    PutsAt w p d (d.moveView w p) := by
  obtain ⟨window, hwindow⟩ := Option.isSome_iff_exists.1 hw
  refine ⟨⟨window, hwindow, ?_, ?_⟩, fun x hx => ?_, fun x r hx hr => ?_⟩
  · rw [get?_moveView hwindow, if_pos rfl]
  · rw [viewPositions_moveView hwindow, Assoc.get?_insert, if_pos rfl]
  · rw [get?_moveView hwindow, if_neg hx]
  · rw [viewPositions_moveView hwindow, Assoc.get?_insert, if_neg (h.view_ne hwindow hr hx)]

theorem grabMotion_putsAt (h : Reached config d) (hg : d.shell.grabs.get? seat = some grab)
    (location : Point) :
    PutsAt grab.window.source (location + grab.offset) d (d.grabMotion seat location) := by
  rw [grabMotion, hg]
  exact moveView_putsAt h.viewed (h.sound.isLive_of_dragged (Shell.dragged_of_grab hg)) _

/-! ## Runs -/

/-- The drag goes on exactly until an action ends it. -/
theorem drag_goes_on_iff (h : Reached config d) (hg : d.shell.grabs.get? seat = some grab)
    (hrun : d.run as = some d') : d.Throughout (·.shell.grabs.contains seat) as ↔
      ∀ a ∈ as, a.endsDrag seat grab.window.source = false := by
  have hdrags : d.shell.grabs.contains seat := Option.isSome_iff_exists.2 ⟨grab, hg⟩
  induction as generalizing d with
  | nil => exact iff_of_true hdrags (by simp)
  | cons a as ih =>
    obtain ⟨hok, hrest⟩ := run_cons hrun
    have hact := get?_grabs_act h.sound hg a
    rw [List.forall_mem_cons]
    cases ha : a.endsDrag seat grab.window.source with
    | true =>
      rw [ha, if_pos rfl] at hact
      -- The seat drags nothing after `a`, whatever it drags later.
      refine iff_of_false (fun hgoes => ?_) (by simp)
      have hcontains : (d.act a).2.shell.grabs.contains seat := hgoes.2.first
      rw [Assoc.contains, hact] at hcontains
      cases hcontains
    | false =>
      rw [ha, if_neg (by simp)] at hact
      have hstill : (d.act a).2.shell.grabs.contains seat := Option.isSome_iff_exists.2 ⟨_, hact⟩
      exact and_congr (iff_of_true hdrags rfl) (ih (h.act a hok) hact hrest hstill)

/-- A drag that goes on is the drag that began. -/
theorem grab_kept (h : Reached config d) (hg : d.shell.grabs.get? seat = some grab)
    (hrun : d.run as = some d') (hgoes : ∀ a ∈ as, a.endsDrag seat grab.window.source = false) :
    d'.shell.grabs.get? seat = some grab := by
  induction as generalizing d with
  | nil =>
    cases hrun
    exact hg
  | cons a as ih =>
    obtain ⟨hok, hrest⟩ := run_cons hrun
    obtain ⟨ha, hgoes⟩ := List.forall_mem_cons.1 hgoes
    have hact := get?_grabs_act h.sound hg a
    rw [ha, if_neg (by simp)] at hact
    exact ih (h.act a hok) hact hrest hgoes

end Desktop

theorem Shell.get?_grabs_of_started {request : MoveRequest} {device : Device} {start : Point}
    (hw : s.windows.get? w = some window) (hr : request.deviceFor w = some (device, start))
    (hstarted : (s.moveRequested w seat request).1 = .started device) :
    ∃ token, (s.moveRequested w seat request).2.grabs.get? seat =
      some { device, window := ⟨w, token⟩, offset := window.position - start } := by
  obtain ⟨s', he, -, -⟩ := watchWindow_of_live hw (.grab seat)
  unfold moveRequested at hstarted ⊢
  rw [hw, hr] at hstarted ⊢
  dsimp only at hstarted ⊢
  split at hstarted
  · cases hstarted
  · next hfree =>
    rw [if_neg hfree, he]
    exact ⟨_, (Assoc.get?_insert ..).trans (if_pos rfl)⟩

/-- While a drag goes on, whatever else happens, a motion of the device puts the window where it
was when the drag began, moved by as much as the device has moved since, and moves no other
window. Both the difference and the sum stop at the ends of the range. -/
theorem Reached.drag_follows {request : MoveRequest} {device : Device} {start : Point}
    (h : Reached config d) (hw : d.shell.windows.get? w = some window)
    (hr : request.deviceFor w = some (device, start))
    (hstarted : (d.dispatch (.moveRequested w seat request)).1 = .grab (.started device))
    (hrun : (d.dispatch (.moveRequested w seat request)).2.run as = some d')
    (hgoes : (d.dispatch (.moveRequested w seat request)).2.Throughout
      (·.shell.grabs.contains seat) as) (location : Point) :
    d'.shell.dragged seat = some w ∧
      Desktop.PutsAt w (location + (window.position - start)) d'
        (d'.dispatch (.grabMotion seat location)).2 := by
  have hbegun : Reached config (d.dispatch (.moveRequested w seat request)).2 :=
    .act (.event (.moveRequested w seat request)) h fun fault hf => by
      rw [Desktop.act, hstarted] at hf
      cases hf
  obtain ⟨token, hg⟩ := Shell.get?_grabs_of_started hw hr (Reply.grab.inj hstarted)
  have hkept := Desktop.grab_kept hbegun hg hrun ((Desktop.drag_goes_on_iff hbegun hg hrun).1 hgoes)
  refine ⟨Shell.dragged_of_grab hkept, ?_⟩
  exact Desktop.grabMotion_putsAt (Reached.run as hbegun hrun) hkept location

/-- The crowd, with two seats and another child of the first window. -/
def tugRun : List Action := crowdRun ++
  [.event (.seatAdded ⟨1⟩ "left" true),
    .event (.seatAdded ⟨2⟩ "right" true),
    .event (.windowAdded ⟨5⟩ none (some ⟨0, 1⟩)),
    .event (.windowCommitted ⟨4, 1⟩ ⟨⟨660, 440, by decide, by decide⟩, .origin, .origin⟩)]

/-- One seat holds the first child, and asks to drag it. -/
def tugRequest : MoveRequest := ⟨5, some ⟨some ⟨1, 1⟩, 1, 5, ⟨500, 300⟩⟩, none⟩

/-- The child is moved with its seat, by its client and with its output. The other seat drags the
other child. -/
def tugging : List Action :=
  [.event (.grabMotion ⟨0, 1⟩ ⟨900, 900⟩),
    .event (.moveRequested ⟨4, 1⟩ ⟨1, 1⟩ ⟨8, none, some ⟨some ⟨4, 1⟩, 8, .origin⟩⟩),
    .event (.windowCommitted ⟨1, 1⟩ ⟨⟨660, 440, by decide, by decide⟩, ⟨7, -3⟩, .origin⟩),
    .event (.outputMoved ⟨0, 1⟩ ⟨50, 60⟩),
    .event (.keyboardFocusChanged ⟨0, 1⟩ none),
    .event (.outputResized ⟨0, 1⟩ ⟨.origin, ⟨1440, 960, by decide, by decide⟩⟩),
    .event (.grabMotion ⟨1, 1⟩ ⟨30, 40⟩)]

theorem isSome_tugRun : ((Desktop.fresh .default).run tugRun).isSome := by decide +kernel

/-- The drag has begun. -/
def tugStart : Desktop :=
  ((((Desktop.fresh .default).run tugRun).get isSome_tugRun).dispatch
    (.moveRequested ⟨1, 1⟩ ⟨0, 1⟩ tugRequest)).2

theorem isSome_tugging : (tugStart.run tugging).isSome := by decide +kernel

/-- The device was 40 to the right of the child and 110 below it, and ends up so far to the left
that the child stops at the end of the range. -/
theorem drag_follows_tugRun : ∃ d window d', Reached .default d ∧
    d.shell.windows.get? ⟨1, 1⟩ = some window ∧ window.position = ⟨460, 190⟩ ∧
    tugRequest.deviceFor ⟨1, 1⟩ = some (.pointer, ⟨500, 300⟩) ∧
    (d.dispatch (.moveRequested ⟨1, 1⟩ ⟨0, 1⟩ tugRequest)).1 = .grab (.started .pointer) ∧
    (d.dispatch (.moveRequested ⟨1, 1⟩ ⟨0, 1⟩ tugRequest)).2.run tugging = some d' ∧
    (d.dispatch (.moveRequested ⟨1, 1⟩ ⟨0, 1⟩ tugRequest)).2.Throughout
      (·.shell.grabs.contains ⟨0, 1⟩) tugging ∧
    d'.shell.dragged ⟨0, 1⟩ = some ⟨1, 1⟩ ∧
    Desktop.PutsAt ⟨1, 1⟩ ⟨-2147483648, 290⟩ d'
      (d'.dispatch (.grabMotion ⟨0, 1⟩ ⟨-2147483630, 400⟩)).2 := by
  have hreached : Reached .default _ := Reached.run _ .fresh (Option.some_get isSome_tugRun).symm
  have hwindow : (((Desktop.fresh .default).run tugRun).get isSome_tugRun).shell.windows.get?
      ⟨1, 1⟩ = some _ := (Option.some_get (by decide +kernel)).symm
  have hdevice : tugRequest.deviceFor ⟨1, 1⟩ = some (.pointer, ⟨500, 300⟩) := by decide
  have hstarted : ((((Desktop.fresh .default).run tugRun).get isSome_tugRun).dispatch
      (.moveRequested ⟨1, 1⟩ ⟨0, 1⟩ tugRequest)).1 = .grab (.started .pointer) := by
    decide +kernel
  have hrun := (Option.some_get isSome_tugging).symm
  have hgoes : tugStart.Throughout (·.shell.grabs.contains ⟨0, 1⟩) tugging := by decide +kernel
  obtain ⟨hdragged, hputs⟩ :=
    Reached.drag_follows hreached hwindow hdevice hstarted hrun hgoes ⟨-2147483630, 400⟩
  exact ⟨_, _, _, hreached, hwindow, by decide +kernel, hdevice, hstarted, hrun, hgoes, hdragged,
    hputs⟩

end Kiosk
