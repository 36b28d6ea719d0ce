import Kiosk.Run
import Mathlib.Logic.Relation

/-!
# Moves

What an action consists of. Every event and every call is a sequence of `Move`s,
each of them one operation that keeps the records in order (`act_moves`), so a
property of all reachable desktops is proved by looking at each move once
(`Reached.of_moves`).

The calls that place a window are sequences of the smaller `Settling` moves, which
concern outputs and placements only. A change of parent is one move of links,
after which the window settles (`setParent_some`, `setParent_none`).
-/

namespace Kiosk

open Relation (ReflTransGen)

variable {d d' : Desktop} {w p : WindowId}

/-- One change among those that place a window. -/
inductive Settling : Desktop → Desktop → Prop
  | output (d : Desktop) (w : WindowId) (o : Option OutputId) : Settling d (d.setOutput w o)
  | normal {d : Desktop} {w : WindowId} {window : Window}
      (hw : d.shell.windows.get? w = some window) :
      Settling d ((d.update (·.modifyWindow w ({ · with placement := .normal }))).tell fun h =>
        ((h.setFullscreen window.surface false).setMaximized window.surface false).setSize
          window.surface .zero)
  | fill (d : Desktop) (w : WindowId) (placement : Placement) :
      Settling d (d.fillOutput w placement)

/-- Any number of such changes. -/
abbrev Settles : Desktop → Desktop → Prop := ReflTransGen Settling

/-- One operation that keeps the records in order. -/
inductive Move : Desktop → Desktop → Prop
  | settle {d d' : Desktop} (h : Settling d d') : Move d d'
  | detach (d : Desktop) (w : WindowId) : Move d (d.update (·.detach w))
  | adopt {d : Desktop} {w p : WindowId} (hw : d.shell.isLive w) (hp : d.shell.isLive p)
      (h : Windows.isAncestorOrSelf d.shell.windows w p = false) :
      Move d (d.update fun s => (s.detach w).attach w p)
  | create (d : Desktop) (surface : SurfaceHandle) (appId : Option String) :
      Move d (d.createWindow surface appId).2
  | destroy (d : Desktop) (w : WindowId) : Move d (d.destroyWindow w)
  /-- A note of what a client reported, which nothing else depends on. -/
  | note (d : Desktop) (w : WindowId) (f : Window → Window)
      (hf : ∀ r, f r = { r with
        appId := (f r).appId, lastSize := (f r).lastSize,
        xwaylandPosition := (f r).xwaylandPosition }) :
      Move d (d.update (·.modifyWindow w f))
  | moveView (d : Desktop) (w : WindowId) (at_ : Point) : Move d (d.moveView w at_)
  /-- A window is mapped where it was put before. -/
  | map {d : Desktop} {w : WindowId} {window : Window}
      (hw : d.shell.windows.get? w = some window) (hm : window.mapped = false)
      (hp : d.host.viewPositions.get? window.view = some window.position) :
      Move d (d.mapWindow w window.view)
  | raise {d : Desktop} {w : WindowId} {window : Window}
      (hw : d.shell.windows.get? w = some window) (hm : window.mapped = true) :
      Move d (d.raiseWindow w window.view)
  | tellSize {d : Desktop} {w : WindowId} {window : Window}
      (hw : d.shell.windows.get? w = some window) (size : Size) :
      Move d (d.tell (·.setSize window.surface size))
  | addSeat (d : Desktop) (handle : SeatHandle) (name : String) (hasKeyboard : Bool) :
      Move d (d.update fun s => (s.addSeat handle name hasKeyboard).2)
  | setHasKeyboard (d : Desktop) (seat : SeatId) (hasKeyboard : Bool) :
      Move d (d.update (·.setHasKeyboard seat hasKeyboard))
  | tellFocus (d : Desktop) (handle : SeatHandle) (w : Option WindowId) :
      Move d (d.tell (·.setKeyboardFocus handle ((w.bind d.shell.windows.get?).map Window.surface)))
  | focus (d : Desktop) (seat : SeatId) (focus : Option WindowId) :
      Move d (d.keyboardFocusChanged seat focus)
  | removeSeat (d : Desktop) (seat : SeatId) : Move d (d.seatRemoved seat)
  | grab (d : Desktop) (w : WindowId) (seat : SeatId) (request : MoveRequest) :
      Move d (d.update fun s => (s.moveRequested w seat request).2)
  | endGrab (d : Desktop) (seat : SeatId) : Move d (d.update (·.endGrab seat))
  | addOutput (d : Desktop) (handle : OutputHandle) (name : String) (area : Rect) :
      Move d (d.outputAdded handle name area).2
  | removeOutput (d : Desktop) (o : OutputId) : Move d (d.outputRemoved o)
  | renewOutput {d : Desktop} {o : OutputId} {output : Output}
      (ho : d.shell.outputs.get? o = some output) (area : Rect) :
      Move d ((d.update (·.modifyOutput o ({ · with area }))).renewBackground o output area)
  | shiftOutput {d : Desktop} {o : OutputId} {output : Output}
      (ho : d.shell.outputs.get? o = some output) (area : Rect) :
      Move d ((d.update (·.modifyOutput o ({ · with area }))).tell
        (·.setViewPosition output.background area.loc))
  | switch (d : Desktop) (s : HostSwitch) : Move d (d.tell (·.switch s))

/-- Any number of moves. -/
abbrev Moves : Desktop → Desktop → Prop := ReflTransGen Move

theorem Settles.moves (h : Settles d d') : Moves d d' :=
  h.lift id fun _ _ => Move.settle

theorem Move.moves (h : Move d d') : Moves d d' := .single h

theorem moves_foldl {α : Type} {f : Desktop → α → Desktop} (hf : ∀ d a, Moves d (f d a)) :
    ∀ (as : List α) (d : Desktop), Moves d (as.foldl f d)
  | [], _ => .refl
  | a :: as, d => (hf d a).trans (moves_foldl hf as (f d a))

namespace Desktop

/-! ## Placing -/

theorem ensureOutput_settles (d : Desktop) (w : WindowId) : Settles d (d.ensureOutput w) := by
  unfold ensureOutput
  split
  · exact .refl
  · exact .single (.output d w _)

theorem setNormal_settles (d : Desktop) (w : WindowId) : Settles d (d.setNormal w) := by
  refine (d.ensureOutput_settles w).trans ?_
  unfold setNormal
  dsimp only
  split
  · exact .refl
  · next window hw => exact .single (.normal hw)

theorem setFullscreen_settles (d : Desktop) (w : WindowId) (o : Option OutputId) :
    Settles d (d.setFullscreen w o) := by
  unfold setFullscreen
  split
  · exact .refl
  · split
    · exact .tail (.single (.output d w _)) (.fill _ w _)
    · exact d.setNormal_settles w

theorem setMaximized_settles (d : Desktop) (w : WindowId) : Settles d (d.setMaximized w) := by
  unfold setMaximized
  split
  · exact .refl
  · split
    · exact .tail (.single (.output d w _)) (.fill _ w _)
    · exact d.setNormal_settles w

theorem fullscreenRequested_settles (d : Desktop) (w : WindowId) (fullscreen : Bool)
    (o : Option OutputId) : Settles d (d.fullscreenRequested w fullscreen o) := by
  unfold fullscreenRequested
  split
  · exact .refl
  · split
    · exact d.setNormal_settles w
    · split
      · exact d.setFullscreen_settles w o
      · split
        · exact d.setNormal_settles w
        · exact .refl

theorem maximizeRequested_settles (d : Desktop) (w : WindowId) (maximized : Bool) :
    Settles d (d.maximizeRequested w maximized) := by
  unfold maximizeRequested
  split
  · exact .refl
  · split
    · exact d.setNormal_settles w
    · split
      · exact d.setFullscreen_settles w none
      · split
        · exact d.setMaximized_settles w
        · split
          · exact d.setNormal_settles w
          · exact .refl

/-! ## Changes of parent -/

theorem setParent_of_not_live (h : d.shell.isLive w = false) (parent : Option WindowId) :
    d.setParent w parent = d := by
  simp only [setParent, h, Bool.false_eq_true, if_false]

/-- A parent that is gone counts as none. -/
theorem setParent_stale (h : d.shell.isLive p = false) (w : WindowId) :
    d.setParent w (some p) = d.setParent w none := by
  simp only [setParent, Option.filter, h, Bool.false_eq_true, if_false]

theorem setParent_refused (hp : d.shell.isLive p)
    (h : Windows.isAncestorOrSelf d.shell.windows w p) : d.setParent w (some p) = d := by
  simp only [setParent, Option.filter, hp, h, if_true, ite_self]

theorem setParent_some (hw : d.shell.isLive w) (hp : d.shell.isLive p)
    (h : Windows.isAncestorOrSelf d.shell.windows w p = false) :
    Settles (d.update fun s => (s.detach w).attach w p) (d.setParent w (some p)) := by
  simp only [setParent, Option.filter, hw, hp, h, if_true, Bool.false_eq_true, if_false]
  exact .head (.output (d.update fun s => (s.detach w).attach w p) w none) (setNormal_settles _ w)

theorem setParent_none (hw : d.shell.isLive w) :
    Settles (d.update (·.detach w)) (d.setParent w none) := by
  simp only [setParent, Option.filter, hw, if_true]
  exact setFullscreen_settles _ w _

/-- What a change of parent comes to: nothing, a new root, or a new child. -/
theorem setParent_cases {P : Desktop → Prop} (parent : Option WindowId) (hsame : P d)
    (hnone : d.shell.isLive w → P (d.setParent w none))
    (hsome : ∀ p, parent = some p → d.shell.isLive w → d.shell.isLive p →
      Windows.isAncestorOrSelf d.shell.windows w p = false → P (d.setParent w (some p))) :
    P (d.setParent w parent) := by
  cases hw : d.shell.isLive w with
  | false =>
    rw [setParent_of_not_live hw]
    exact hsame
  | true =>
    cases parent with
    | none => exact hnone hw
    | some p =>
      cases hp : d.shell.isLive p with
      | false =>
        rw [setParent_stale hp]
        exact hnone hw
      | true =>
        cases h : Windows.isAncestorOrSelf d.shell.windows w p with
        | true =>
          rw [setParent_refused hp h]
          exact hsame
        | false => exact hsome p rfl hw hp h

theorem setParent_moves (d : Desktop) (w : WindowId) (parent : Option WindowId) :
    Moves d (d.setParent w parent) :=
  setParent_cases (P := Moves d) parent .refl
    (fun hw => .head (.detach d w) (setParent_none hw).moves)
    fun _ _ hw hp h => .head (.adopt hw hp h) (setParent_some hw hp h).moves

/-! ## Focus -/

/-- What a change of focus comes to: nothing, a seat that leaves its window, or one that turns to
another. -/
theorem keyboardFocusChanged_cases {P : Desktop → Prop} (seat : SeatId) (focus : Option WindowId)
    (hsame : P d) (hreleased : P (d.releaseFocus seat))
    (htaken : ∀ w, focus = some w → d.shell.seats.contains seat → d.shell.isLive w →
      P ((d.releaseFocus seat).takeFocus seat w)) :
    P (d.keyboardFocusChanged seat focus) := by
  unfold keyboardFocusChanged
  split
  · exact hsame
  · next record hr =>
    dsimp only
    split
    · exact hsame
    · split
      · exact hreleased
      · next w hw =>
        obtain ⟨hfocus, hlive⟩ := Option.filter_eq_some_iff.1 hw
        exact htaken w hfocus (Option.isSome_iff_exists.2 ⟨record, hr⟩) hlive

/-- What moving the focus of a seat comes to: nothing, or a change that the host is told before. -/
theorem focusSeat_cases {P : Desktop → Prop} (seat : SeatId) (w : Option WindowId) (hsame : P d)
    (htold : ∀ handle : SeatHandle, P ((d.tell (·.setKeyboardFocus handle
      ((w.bind d.shell.windows.get?).map Window.surface))).keyboardFocusChanged seat w)) :
    P (d.focusSeat seat w) := by
  unfold focusSeat
  split
  · exact hsame
  · split
    · exact htold _
    · exact hsame

theorem focusSeat_moves (d : Desktop) (seat : SeatId) (w : Option WindowId) :
    Moves d (d.focusSeat seat w) :=
  focusSeat_cases (P := Moves d) seat w .refl
    fun handle => .tail (.single (.tellFocus d handle w)) (.focus _ seat w)

theorem activateWindow_moves (d : Desktop) (seat : SeatId) (w : WindowId) :
    Moves d (d.activateWindow seat w) := by
  unfold activateWindow
  split
  · exact .refl
  · next window hw =>
    refine .trans ?_ (focusSeat_moves _ seat (some w))
    split
    · next h => exact .single (.raise hw (Bool.and_eq_true_iff.1 h).2)
    · exact .refl

theorem touchDown_moves (d : Desktop) (seat : SeatId) (focus : Option WindowId)
    (defaultGrab : Bool) : Moves d (d.touchDown seat focus defaultGrab) := by
  unfold touchDown
  split
  · exact d.activateWindow_moves seat _
  · exact .refl

/-! ## Windows that come and go -/

/-- The host without the refusal that was asked for. -/
theorem createWindow_refused (hf : d.host.failNextView = true) (surface : SurfaceHandle)
    (appId : Option String) : (d.createWindow surface appId).2 =
      ⟨d.shell, ({ d.host with failNextView := false }.postNoMemory surface).2⟩ := by
  rw [createWindow, Host.createView, Host.allocateView, if_pos hf]

/-- The view is the next one, and the id the next one of the arena. -/
theorem createWindow_made (hf : d.host.failNextView = false) (surface : SurfaceHandle)
    (appId : Option String) : (d.createWindow surface appId).2 =
      let view : ViewHandle := ⟨d.host.lastView + 1⟩
      let e := d.shell.windows.insert (.ofSurface surface view appId)
      let host := { d.host with lastView := view.number, liveViews := d.host.liveViews ++ [view] }
      ⟨{ d.shell with windows := e.2 },
        (host.record (.createView surface view)).setUserData surface (some e.1)⟩ := by
  rw [createWindow, Host.createView, Host.allocateView, if_neg (by simp [hf])]

theorem windowAdded_moves (d : Desktop) (surface : SurfaceHandle) (appId : Option String)
    (parent : Option WindowId) : Moves d (d.windowAdded surface appId parent).2 := by
  have hc := Move.create d surface appId
  unfold windowAdded
  split
  · next he => exact (he ▸ hc).moves
  · next w d' he =>
    rw [he] at hc
    refine .head hc (.trans ?_ (moves_foldl (fun d seat => d.focusSeat_moves seat _) _ _))
    split
    · exact setParent_moves d' w _
    · exact (setFullscreen_settles d' w none).moves

theorem windowRemoved_moves (d : Desktop) (w : WindowId) : Moves d (d.windowRemoved w) := by
  unfold windowRemoved
  split
  · exact .tail (moves_foldl (fun d seat => d.focusSeat_moves seat _) _ _) (.destroy _ w)
  · exact .refl

/-! ## Commits and positions -/

/-- What moving a window's view leaves of the records. -/
theorem get?_moveView {window : Window} (hw : d.shell.windows.get? w = some window) (at_ : Point)
    (x : WindowId) : (d.moveView w at_).shell.windows.get? x =
      if x = w then some { window with position := at_ } else d.shell.windows.get? x := by
  rw [moveView, hw]
  show (d.shell.modifyWindow w _).windows.get? x = _
  rw [Shell.modifyWindow, Arena.get?_modify, hw]
  rfl

/-- What mapping a window leaves of the records. -/
theorem get?_mapWindow {window : Window} (hw : d.shell.windows.get? w = some window)
    (view : ViewHandle) (x : WindowId) : (d.mapWindow w view).shell.windows.get? x =
      if x = w then some { window with mapped := true } else d.shell.windows.get? x := by
  show (d.shell.modifyWindow w _).windows.get? x = _
  rw [Shell.modifyWindow, Arena.get?_modify, hw]
  rfl

theorem shiftWindow_moves (d : Desktop) (w : WindowId) (offset : Point) :
    Moves d (d.shiftWindow w offset) := by
  unfold shiftWindow
  split
  · exact .refl
  · exact .single (.moveView d w _)

theorem viewPositions_moveView {window : Window} (hw : d.shell.windows.get? w = some window)
    (at_ : Point) : (d.moveView w at_).host.viewPositions =
      d.host.viewPositions.insert window.view at_ := by
  rw [moveView, hw]
  rfl

/-- `window` is the record before the window was positioned. -/
theorem finishCommit_moves {window window' : Window} (hw : d.shell.windows.get? w = some window')
    (hv : window'.view = window.view) (hm : window'.mapped = window.mapped)
    (hp : window.mapped = false → d.host.viewPositions.get? window.view = some window'.position)
    (commit : Commit) : Moves d (d.finishCommit w window commit) := by
  have hmap : Moves d (if window.mapped then d else d.mapWindow w window.view) := by
    split
    · exact .refl
    · next h =>
      have hunmapped : window.mapped = false := by simpa using h
      have hplaced := hp hunmapped
      rw [← hv] at hplaced ⊢
      exact .single (.map hw (hm.trans hunmapped) hplaced)
  unfold finishCommit
  generalize (if window.mapped then d else d.mapWindow w window.view) = d' at hmap ⊢
  refine .tail (.trans hmap ?_) (.note _ w _ fun r => rfl)
  split
  · exact .refl
  · exact shiftWindow_moves _ w _

theorem windowCommitted_moves (d : Desktop) (w : WindowId) (commit : Commit) :
    Moves d (d.windowCommitted w commit).2 := by
  unfold windowCommitted
  split
  · exact .refl
  · next window hw =>
    split
    · exact .refl
    · split
      · split
        · exact .refl
        · next at_ _ =>
          refine .head (.moveView d w at_)
            (finishCommit_moves ((get?_moveView hw at_ w).trans (if_pos rfl)) rfl rfl (fun _ => ?_)
              commit)
          rw [viewPositions_moveView hw, Assoc.get?_insert, if_pos rfl]
      · next h =>
        refine finishCommit_moves hw rfl rfl (fun hm => ?_) commit
        rw [hm] at h
        exact absurd rfl h

/-! ## Outputs -/

theorem createBackground_refused {h : Host} (hf : h.failNextView = true) (handle : OutputHandle)
    (area : Rect) : h.createBackground handle area = (none, { h with failNextView := false }) := by
  rw [Host.createBackground, Host.allocateView, if_pos hf]

theorem createBackground_made {h : Host} (hf : h.failNextView = false) (handle : OutputHandle)
    (area : Rect) : h.createBackground handle area =
      let view : ViewHandle := ⟨h.lastView + 1⟩
      let host := { h with
        lastView := view.number, liveViews := h.liveViews ++ [view],
        viewPositions := h.viewPositions.insert view area.loc }
      (some view, host.record (.createBackground handle view area)) := by
  rw [Host.createBackground, Host.allocateView, if_neg (by simp [hf])]

theorem reconfigure_moves (d : Desktop) (w : WindowId) : Moves d (d.reconfigure w).2 := by
  unfold reconfigure
  split
  · exact .refl
  · next window hw =>
    split
    · exact .refl
    · next area _ =>
      have hsize : Moves d (if window.placement.fillsOutput then
          d.tell (·.setSize window.surface area.size) else d) := by
        split
        · exact .single (.tellSize hw _)
        · exact .refl
      dsimp only
      split
      · exact hsize
      · exact .tail hsize (.moveView _ w _)

theorem reconfigureAll_moves : ∀ (ws : List WindowId) (d : Desktop), Moves d (d.reconfigureAll ws).2
  | [], _ => .refl
  | w :: ws, d => by
    have h := d.reconfigure_moves w
    unfold reconfigureAll
    split
    · next he => exact he ▸ h
    · next d' he =>
      rw [he] at h
      exact h.trans (reconfigureAll_moves ws d')

theorem outputResized_moves (d : Desktop) (o : OutputId) (area : Rect) :
    Moves d (d.outputResized o area).2 := by
  unfold outputResized
  split
  · exact .refl
  · next output ho => exact .head (.renewOutput ho area) (reconfigureAll_moves _ _)

theorem outputMoved_moves (d : Desktop) (o : OutputId) (delta : Point) :
    Moves d (d.outputMoved o delta) := by
  unfold outputMoved
  split
  · exact .refl
  · next output ho =>
    exact .head (.shiftOutput ho _) (moves_foldl (fun d w => d.shiftWindow_moves w delta) _ _)

theorem grabMotion_moves (d : Desktop) (seat : SeatId) (location : Point) :
    Moves d (d.grabMotion seat location) := by
  unfold grabMotion
  split
  · exact .refl
  · exact .single (.moveView d _ _)

/-! ## Actions -/

theorem dispatch_moves (d : Desktop) (e : Event) : Moves d (d.dispatch e).2 := by
  cases e with
  | windowAdded surface appId parent => exact d.windowAdded_moves surface appId parent
  | windowRemoved w => exact d.windowRemoved_moves w
  | windowCommitted w commit => exact d.windowCommitted_moves w commit
  | parentChanged w parent => exact d.setParent_moves w parent
  | fullscreenRequested w fullscreen o => exact (d.fullscreenRequested_settles w fullscreen o).moves
  | maximizeRequested w maximized => exact (d.maximizeRequested_settles w maximized).moves
  | minimizeRequested w => exact .refl
  | resizeRequested w => exact .refl
  | moveRequested w seat request => exact .single (.grab d w seat request)
  | xwaylandPositionSet w at_ => exact .single (.note d w _ fun _ => rfl)
  | appIdChanged w appId => exact .single (.note d w _ fun _ => rfl)
  | outputAdded handle name area => exact .single (.addOutput d handle name area)
  | outputRemoved o => exact .single (.removeOutput d o)
  | outputResized o area => exact d.outputResized_moves o area
  | outputMoved o delta => exact d.outputMoved_moves o delta
  | seatAdded handle name hasKeyboard => exact .single (.addSeat d handle name hasKeyboard)
  | seatCapabilitiesChanged seat hasKeyboard => exact .single (.setHasKeyboard d seat hasKeyboard)
  | seatRemoved seat => exact .single (.removeSeat d seat)
  | keyboardFocusChanged seat focus => exact .single (.focus d seat focus)
  | pointerButton seat button focus defaultGrab =>
    show Moves d (d.pointerButton seat button focus defaultGrab)
    unfold pointerButton
    split
    · exact d.touchDown_moves seat focus defaultGrab
    · exact .refl
  | touchDown seat focus defaultGrab => exact d.touchDown_moves seat focus defaultGrab
  | grabMotion seat location => exact d.grabMotion_moves seat location
  | grabReleased seat => exact .single (.endGrab d seat)

theorem call_moves (d : Desktop) (c : Call) : Moves d (d.call c).2 := by
  cases c with
  | createWindow surface appId => exact .single (.create d surface appId)
  | destroyWindow w => exact .single (.destroy d w)
  | setParent w parent => exact d.setParent_moves w parent
  | setOutput w o => exact .single (.settle (.output d w o))
  | setFullscreen w o => exact (d.setFullscreen_settles w o).moves
  | setMaximized w => exact (d.setMaximized_settles w).moves
  | setNormal w => exact (d.setNormal_settles w).moves
  | focusSeat seat w => exact d.focusSeat_moves seat w
  | activateWindow seat w => exact d.activateWindow_moves seat w

/-- An action is a sequence of moves, also when it ends in a fault. -/
theorem act_moves (d : Desktop) (a : Action) : Moves d (d.act a).2 := by
  cases a with
  | event e => exact d.dispatch_moves e
  | call c => exact d.call_moves c
  | switch s => exact .single (.switch d s)

end Desktop

/-! ## Runs -/

/-- What actions lead to one after the other, unless one of them faults. -/
def Desktop.run (d : Desktop) : List Action → Option Desktop
  | [] => some d
  | a :: as =>
    match d.act a with
    | (.fault _, _) => none
    | (_, d) => d.run as

theorem Desktop.run_cons {a : Action} {as : List Action} (h : d.run (a :: as) = some d') :
    (∀ fault, (d.act a).1 ≠ .fault fault) ∧ (d.act a).2.run as = some d' := by
  rw [run] at h
  split at h
  · cases h
  · next reply d'' hne he =>
    rw [he]
    exact ⟨hne, h⟩

/-- Runs of events stay within what is dispatched. -/
theorem Dispatched.run {config : Config} : ∀ (es : List Event) {d : Desktop}, Dispatched config d →
    d.run (es.map .event) = some d' → Dispatched config d'
  | [], _, h, hr => by
    cases hr
    exact h
  | e :: es, _, h, hr =>
    have hr := Desktop.run_cons hr
    Dispatched.run es (.event e h hr.1) hr.2

/-- Runs stay within what is reached. -/
theorem Reached.run {config : Config} : ∀ (as : List Action) {d : Desktop}, Reached config d →
    d.run as = some d' → Reached config d'
  | [], _, h, hr => by
    cases hr
    exact h
  | a :: as, _, h, hr =>
    have hr := Desktop.run_cons hr
    Reached.run as (.act a h hr.1) hr.2

/-- The size of the outputs of the runs that show what results come to. -/
def outputSize : Size := ⟨1920, 1080, by decide, by decide⟩

/-- A run in which a window, its child and its grandchild appear on one output, and the seat
that focuses the grandchild starts to drag it. -/
def familyRun : List Action :=
  [.event (.seatAdded ⟨7⟩ "seat0" true),
    .event (.outputAdded ⟨3⟩ "DP-1" ⟨.origin, outputSize⟩),
    .event (.windowAdded ⟨10⟩ none none),
    .event (.windowAdded ⟨11⟩ none (some ⟨0, 1⟩)),
    .event (.windowAdded ⟨12⟩ none (some ⟨1, 1⟩)),
    .event (.moveRequested ⟨2, 1⟩ ⟨0, 1⟩ ⟨5, some ⟨some ⟨2, 1⟩, 1, 5, .origin⟩, none⟩)]

theorem isSome_familyRun : ((Desktop.fresh .default).run familyRun).isSome := by decide +kernel

/-- What holds of a fresh desktop and is kept by every move holds of all reachable ones. -/
theorem Reached.of_moves {config : Config} {P : Desktop → Prop} (fresh : P (.fresh config))
    (step : ∀ {d d'}, P d → Move d d' → P d') (h : Reached config d) : P d := by
  induction h with
  | fresh => exact fresh
  | @act d a _ _ ih =>
    have hm := d.act_moves a
    generalize (d.act a).2 = d' at hm
    induction hm with
    | refl => exact ih
    | tail _ h ih => exact step ih h

end Kiosk
