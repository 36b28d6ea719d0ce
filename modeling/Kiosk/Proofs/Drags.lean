import Kiosk.Proofs.Bindings
import Kiosk.Proofs.Idle
import Kiosk.Proofs.Since

/-!
# Drags of windows that fill their output

A seat starts to drag a window in normal placement only, but nothing ends the drag when the
window is placed anew. So a seat drags a window that fills its output exactly if, while it was
dragged, one of a few events made it so (`Event.Fills`), and it has stayed so
(`Desktop.drags_filled_iff`). Only what is dragged is moved by the device that drags.
-/

namespace Kiosk

open Function (update update_self)

variable {config : Config} {d d' : Desktop} {s s' s'' : Shell} {w x : WindowId} {seat j : SeatId}
  {e : Event} {r r' : Stance} {as : List Action} {grab : Grab}

/-! ## Drags -/

namespace Shell

/-- The window that `seat` drags. -/
def dragged (s : Shell) (seat : SeatId) : Option WindowId :=
  (s.grabs.get? seat).map (·.window.source)

/-- Whether `w` has the size of its output. -/
def fills (s : Shell) (w : WindowId) : Bool :=
  (s.windows.get? w).any (·.placement.fillsOutput)

theorem Sound.isLive_of_dragged (h : s.Sound) (hd : s.dragged seat = some w) : s.isLive w := by
  obtain ⟨grab, hg, rfl⟩ := Option.map_eq_some_iff.1 hd
  have hlink : s.web.link (.grab seat) = some (grab.window.toWindow) :=
    congrArg (Option.map fun grab : Grab => grab.window.toWindow) hg
  rw [← Shell.isSome_signal_window]
  exact h.exact.live _ _ _ hlink

/-- From `s` to `s'` no seat started to drag. -/
def Releases (s s' : Shell) : Prop :=
  ∀ seat w, s'.dragged seat = some w → s.dragged seat = some w

theorem Releases.of_eq (h : s'.grabs = s.grabs) : Releases s s' := fun seat w hd => by
  rwa [dragged, h] at hd

theorem Releases.trans (h : Releases s s') (h' : Releases s' s'') : Releases s s'' :=
  fun seat w hd => h seat w (h' seat w hd)

theorem Releases.erase (s : Shell) (seat : SeatId) :
    Releases s { s with grabs := s.grabs.erase seat } := by
  intro j w hd
  rw [dragged, Assoc.get?_erase] at hd
  split at hd
  · cases hd
  · exact hd

theorem endGrab_releases (s : Shell) (seat : SeatId) : Releases s (s.endGrab seat) := by
  unfold endGrab
  split
  · exact .of_eq rfl
  · exact .erase s seat

/-- A seat starts to drag a window that does not fill its output. -/
theorem dragged_moveRequested {request : MoveRequest}
    (hd : (s.moveRequested x j request).2.dragged seat = some w) :
    s.dragged seat = some w ∨ s.fills w = false := by
  unfold moveRequested at hd
  split at hd
  · next window device location hx _ =>
    split at hd
    · exact .inl hd
    · next hfree =>
      obtain ⟨s', he, rfl, -⟩ := watchWindow_of_live hx (.grab j)
      rw [he, dragged, Assoc.get?_insert] at hd
      split at hd
      · cases hd
        refine .inr ?_
        rw [fills, hx]
        simp only [Bool.or_eq_true, not_or] at hfree
        exact Bool.eq_false_iff.2 hfree.1.1.1
      · exact .inl hd
  · exact .inl hd

end Shell

namespace Desktop

theorem grabs_releaseFocus (d : Desktop) (seat : SeatId) :
    (d.releaseFocus seat).shell.grabs = d.shell.grabs := by
  unfold releaseFocus
  split
  · rfl
  · dsimp only
    split
    · rfl
    · split <;> rfl

theorem grabs_takeFocus (d : Desktop) (seat : SeatId) (w : WindowId) :
    (d.takeFocus seat w).shell.grabs = d.shell.grabs := by
  unfold takeFocus
  cases hw : d.shell.windows.get? w with
  | none => rfl
  | some window =>
    obtain ⟨s', he, rfl, -⟩ := Shell.watchWindow_of_live hw (.seatFocus seat)
    rw [he]
    dsimp only
    split <;> rfl

theorem grabs_keyboardFocusChanged (d : Desktop) (seat : SeatId) (focus : Option WindowId) :
    (d.keyboardFocusChanged seat focus).shell.grabs = d.shell.grabs :=
  keyboardFocusChanged_cases (P := fun d' => d'.shell.grabs = d.shell.grabs) seat focus rfl
    (d.grabs_releaseFocus seat) fun w _ _ _ =>
      (grabs_takeFocus _ seat w).trans (d.grabs_releaseFocus seat)

theorem grabs_focusSeat (d : Desktop) (seat : SeatId) (w : Option WindowId) :
    (d.focusSeat seat w).shell.grabs = d.shell.grabs :=
  focusSeat_cases (P := fun d' => d'.shell.grabs = d.shell.grabs) seat w rfl fun _ =>
    grabs_keyboardFocusChanged _ seat w

theorem grabs_foldl_focusSeat (w : Option WindowId) : ∀ (seats : List SeatId) (d : Desktop),
    (seats.foldl (fun d seat => d.focusSeat seat w) d).shell.grabs = d.shell.grabs
  | [], _ => rfl
  | seat :: seats, d => (grabs_foldl_focusSeat w seats _).trans (d.grabs_focusSeat seat w)

theorem grabs_activateWindow (d : Desktop) (seat : SeatId) (w : WindowId) :
    (d.activateWindow seat w).shell.grabs = d.shell.grabs := by
  unfold activateWindow
  split
  · rfl
  · refine (grabs_focusSeat _ seat _).trans ?_
    split <;> rfl

theorem grabs_touchDown (d : Desktop) (seat : SeatId) (focus : Option WindowId)
    (defaultGrab : Bool) : (d.touchDown seat focus defaultGrab).shell.grabs = d.shell.grabs := by
  unfold touchDown
  split
  · exact d.grabs_activateWindow seat _
  · rfl

/-- A drag of `w` ends when its seat hears that `w` is gone. -/
theorem get?_grabs_windowGone (w : WindowId) (parent : Option WindowId) (d : Desktop)
    (l : Listener) (seat : SeatId) : (windowGone w parent d l).shell.grabs.get? seat =
      if l = .grab seat then (d.shell.grabs.get? seat).filter (·.window.source ≠ w)
      else d.shell.grabs.get? seat := by
  cases l with
  | parent child =>
    rw [if_neg (by simp)]
    exact congrArg (·.get? seat) (d.setParent_steady child parent).shell.grabs
  | boundOutput x =>
    rw [if_neg (by simp)]
    rfl
  | seatFocus j =>
    rw [if_neg (by simp)]
    show (Desktop.shell (if _ then _ else d)).grabs.get? seat = _
    split <;> rfl
  | grab j =>
    show (Desktop.shell (if _ then _ else d)).grabs.get? seat = _
    rcases eq_or_ne j seat with rfl | hne
    · rw [if_pos rfl]
      split
      · next hsource =>
        obtain ⟨grab, hg, hsource⟩ := (Option.any_eq_true _ _).1 hsource
        rw [hg, Option.filter_some_neg (by simpa using hsource)]
        exact (Assoc.get?_erase ..).trans (if_pos rfl)
      · next hsource =>
        cases hg : d.shell.grabs.get? j with
        | none => rfl
        | some grab =>
          rw [hg] at hsource
          exact (Option.filter_some_pos (by simpa using hsource)).symm
    · have hother : Listener.grab j ≠ .grab seat := by simpa using hne
      rw [if_neg hother]
      split
      · exact (Assoc.get?_erase ..).trans (if_neg hne.symm)
      · rfl

theorem get?_grabs_foldl_windowGone (w : WindowId) (parent : Option WindowId) (seat : SeatId) :
    ∀ (ls : List Listener) (d : Desktop),
      (ls.foldl (windowGone w parent) d).shell.grabs.get? seat =
        if .grab seat ∈ ls then (d.shell.grabs.get? seat).filter (·.window.source ≠ w)
        else d.shell.grabs.get? seat
  | [], _ => rfl
  | l :: ls, d => by
    rw [List.foldl_cons, get?_grabs_foldl_windowGone w parent seat ls, get?_grabs_windowGone]
    by_cases hl : l = .grab seat
    · simp [hl]
    · simp [hl, Ne.symm hl]

theorem get?_grabs_destroyWindow {window : Window} (hw : d.shell.windows.get? w = some window)
    (seat : SeatId) : (d.destroyWindow w).shell.grabs.get? seat =
      if .grab seat ∈ window.signal.drain.1 then
        (d.shell.grabs.get? seat).filter (·.window.source ≠ w)
      else d.shell.grabs.get? seat := by
  have hgone := get?_grabs_foldl_windowGone w window.parentId seat window.signal.drain.1
    (d.erased w window)
  rw [destroyWindow, hw]
  exact (congrArg (·.get? seat) (dropLinks_steady _ w window).grabs).trans hgone

theorem destroyWindow_releases (d : Desktop) (w : WindowId) :
    Shell.Releases d.shell (d.destroyWindow w).shell := by
  intro seat x hd
  cases hw : d.shell.windows.get? w with
  | none => rwa [destroyWindow, hw] at hd
  | some window =>
    rw [Shell.dragged, get?_grabs_destroyWindow hw] at hd
    split at hd
    · obtain ⟨grab, hg, hx⟩ := Option.map_eq_some_iff.1 hd
      exact Option.map_eq_some_iff.2 ⟨grab, (Option.filter_eq_some_iff.1 hg).1, hx⟩
    · exact hd

theorem windowRemoved_releases (d : Desktop) (w : WindowId) :
    Shell.Releases d.shell (d.windowRemoved w).shell := by
  unfold windowRemoved
  split
  · exact Shell.Releases.trans (.of_eq (grabs_foldl_focusSeat _ _ d)) (destroyWindow_releases _ w)
  · exact .of_eq rfl

theorem grabs_windowAdded (d : Desktop) (surface : SurfaceHandle) (appId : Option String)
    (parent : Option WindowId) :
    (d.windowAdded surface appId parent).2.shell.grabs = d.shell.grabs := by
  have hcreated := (d.createWindow_idle surface appId).grabs
  unfold windowAdded
  split
  · next he => rwa [he] at hcreated
  · next w d' he =>
    rw [he] at hcreated
    refine (grabs_foldl_focusSeat _ _ _).trans (Eq.trans ?_ hcreated)
    split
    · exact (d'.setParent_steady w _).shell.grabs
    · exact (d'.setFullscreen_settles w none).steady.shell.grabs

/-- A drag starts when it is asked for, and at no other time. -/
theorem dispatch_releases (d : Desktop) (he : ∀ w seat request, e ≠ .moveRequested w seat request) :
    Shell.Releases d.shell (d.dispatch e).2.shell := by
  cases e with
  | windowAdded surface appId parent => exact .of_eq (d.grabs_windowAdded surface appId parent)
  | windowRemoved w => exact d.windowRemoved_releases w
  | moveRequested w seat request => exact absurd rfl (he w seat request)
  | seatAdded | seatCapabilitiesChanged => exact .of_eq rfl
  | seatRemoved seat =>
    exact Shell.Releases.trans (.of_eq (d.grabs_releaseFocus seat)) (Shell.endGrab_releases _ seat)
  | keyboardFocusChanged seat focus => exact .of_eq (d.grabs_keyboardFocusChanged seat focus)
  | pointerButton seat button focus defaultGrab =>
    show Shell.Releases d.shell (d.pointerButton seat button focus defaultGrab).shell
    unfold pointerButton
    split
    · exact .of_eq (d.grabs_touchDown seat focus defaultGrab)
    · exact .of_eq rfl
  | touchDown seat focus defaultGrab => exact .of_eq (d.grabs_touchDown seat focus defaultGrab)
  | grabReleased seat => exact d.shell.endGrab_releases seat
  | _ => exact .of_eq (dispatch_idle rfl d).grabs

end Desktop

/-! ## Windows that fill their output -/

namespace Shell

theorem fills_stance (s : Shell) (w : WindowId) :
    s.fills w = (s.stance w).any (·.placement.fillsOutput) := by
  rw [stance, Option.any_map]
  rfl

theorem fills_congr (h : s'.stance w = s.stance w) : s'.fills w = s.fills w := by
  rw [fills_stance, h, fills_stance]

theorem fills_of_layout (h : d'.layout = d.layout.place w r r') :
    d'.shell.fills w = r'.placement.fillsOutput := by
  have hstance : d'.shell.stance = update d.shell.stance w (some r') := congrArg Layout.stance h
  rw [fills_stance, hstance, update_self]
  rfl

end Shell

namespace Desktop

theorem fills_setNormal (hw : d.layout.stance w = some r) : (d.setNormal w).shell.fills w = false :=
  Shell.fills_of_layout (setNormal_layout hw)

/-- A root fills its output then, and a child does not. -/
theorem fills_setFullscreen (hw : d.layout.stance w = some r) (o : Option OutputId) :
    (d.setFullscreen w o).shell.fills w = r.parent.isNone := by
  by_cases hr : r.parent = none
  · rw [hr]
    exact Shell.fills_of_layout (setFullscreen_layout hw hr o)
  · rw [setFullscreen_of_child hw hr, fills_setNormal hw]
    exact (Option.isNone_eq_false_iff.2 (Option.isSome_iff_ne_none.2 hr)).symm

theorem fills_setMaximized (hw : d.layout.stance w = some r) :
    (d.setMaximized w).shell.fills w = r.parent.isNone := by
  by_cases hr : r.parent = none
  · rw [hr]
    exact Shell.fills_of_layout (setMaximized_layout hw hr)
  · rw [setMaximized_of_child hw hr, fills_setNormal hw]
    exact (Option.isNone_eq_false_iff.2 (Option.isSome_iff_ne_none.2 hr)).symm

end Desktop

/-- The events that make `w`, which is live and does not fill its output, do so. -/
inductive Event.Fills (s : Shell) (w : WindowId) : Event → Prop
  /-- `w` is to be a root. -/
  | parentChanged {parent : Option WindowId} (h : parent.filter s.isLive = none) :
      Fills s w (.parentChanged w parent)
  | fullscreenRequested {fullscreen : Bool} {o : Option OutputId}
      (hroot : Windows.parentOf s.windows w = none)
      (h : fullscreen ∨ s.config.enforceRootFullscreen) :
      Fills s w (.fullscreenRequested w fullscreen o)
  | maximizeRequested {maximized : Bool} (hroot : Windows.parentOf s.windows w = none)
      (h : maximized ∨ s.config.enforceRootFullscreen) :
      Fills s w (.maximizeRequested w maximized)
  /-- The parent of `w` goes away, and it was a root. -/
  | windowRemoved {p : WindowId} (hp : Windows.parentOf s.windows w = some p)
      (hroot : Windows.parentOf s.windows p = none) : Fills s w (.windowRemoved p)

namespace Desktop

/-- A window in normal placement that stands as `r`. -/
theorem fills_fullscreenRequested (hw : d.layout.stance w = some r) (hn : d.shell.fills w = false)
    (fullscreen : Bool) (o : Option OutputId) :
    (d.fullscreenRequested w fullscreen o).shell.fills w =
      (r.parent.isNone && (fullscreen || d.shell.config.enforceRootFullscreen)) := by
  obtain ⟨window, hwindow, -⟩ := Shell.stance_eq_some_iff.1 hw
  have hroot : window.isRoot = r.parent.isNone := by
    rw [Bool.eq_iff_iff, Option.isNone_iff_eq_none]
    exact isRoot_iff hwindow hw
  rw [fullscreenRequested, hwindow]
  dsimp only
  rw [hroot]
  cases hp : r.parent.isNone with
  | false =>
    rw [if_pos (by simp), Bool.false_and]
    exact fills_setNormal hw
  | true =>
    rw [if_neg (by simp), Bool.true_and]
    split
    · next h => rw [fills_setFullscreen hw, hp, h]
    · next h =>
      rw [Bool.eq_false_iff.2 h]
      split
      · exact fills_setNormal hw
      · exact hn

theorem fills_maximizeRequested (hw : d.layout.stance w = some r) (hn : d.shell.fills w = false)
    (maximized : Bool) : (d.maximizeRequested w maximized).shell.fills w =
      (r.parent.isNone && (maximized || d.shell.config.enforceRootFullscreen)) := by
  obtain ⟨window, hwindow, -⟩ := Shell.stance_eq_some_iff.1 hw
  have hroot : window.isRoot = r.parent.isNone := by
    rw [Bool.eq_iff_iff, Option.isNone_iff_eq_none]
    exact isRoot_iff hwindow hw
  rw [maximizeRequested, hwindow]
  dsimp only
  rw [hroot]
  cases hp : r.parent.isNone with
  | false =>
    rw [if_pos (by simp), Bool.false_and]
    exact fills_setNormal hw
  | true =>
    rw [if_neg (by simp), Bool.true_and]
    cases d.shell.config.enforceRootFullscreen with
    | true => rw [if_pos rfl, fills_setFullscreen hw, hp, Bool.or_true]
    | false =>
      rw [if_neg (by simp), Bool.or_false]
      cases maximized with
      | true => rw [if_pos rfl, fills_setMaximized hw, hp]
      | false =>
        rw [if_neg (by simp)]
        split
        · exact fills_setNormal hw
        · exact hn

/-- A new root is fullscreen, and a new child normal. -/
theorem fills_setParent (hw : d.layout.stance w = some r) (hn : d.shell.fills w = false)
    (parent : Option WindowId) :
    (d.setParent w parent).shell.fills w = (parent.filter d.shell.isLive).isNone := by
  have hroot : (d.setParent w none).shell.fills w = true :=
    Shell.fills_of_layout (setParent_none_layout hw)
  cases parent with
  | none => exact hroot
  | some p =>
    rw [Option.filter_some]
    cases hp : d.shell.isLive p with
    | false =>
      rw [setParent_stale hp]
      exact hroot
    | true =>
      cases h : Windows.isAncestorOrSelf d.shell.windows w p with
      | true =>
        rw [setParent_refused hp h]
        exact hn
      | false =>
        obtain ⟨output, hplace⟩ := setParent_some_layout hw hp h
        exact Shell.fills_of_layout hplace

/-- The children of a removed root fill their outputs, and no other window comes to do so. -/
theorem fills_windowRemoved_iff (h : Reached config d) (hn : d.shell.fills w = false) :
    (d.windowRemoved x).shell.fills w ↔ (Event.windowRemoved x).Fills d.shell w := by
  have hsame (hp : Windows.parentOf d.shell.windows w ≠ some x)
      (hs : (d.windowRemoved x).shell.stance w = d.shell.stance w) :
      (d.windowRemoved x).shell.fills w ↔ (Event.windowRemoved x).Fills d.shell w := by
    refine iff_of_false (by rw [Shell.fills_congr hs, hn]; simp) ?_
    rintro ⟨⟩
    exact hp ‹_›
  cases hx : d.shell.isLive x with
  | false =>
    refine hsame (fun hp => ?_) (by rw [windowRemoved, hx]; rfl)
    rw [h.sound.isLive_of_parentOf hp] at hx
    cases hx
  | true =>
    have hspliced := h.windowRemoved_spliced hx
    by_cases hp : Windows.parentOf d.shell.windows w = some x
    · obtain ⟨r, r', -, hr', hpromoted⟩ := hspliced.promoted w hp
      rw [Shell.fills_stance, hr', Option.any_some, hpromoted.placement]
      constructor
      · intro hfills
        refine .windowRemoved hp (Decidable.byContradiction fun hroot => ?_)
        rw [if_neg hroot] at hfills
        cases hfills
      · rintro ⟨⟩
        rw [if_pos ‹_›]
        rfl
    · rcases eq_or_ne w x with rfl | hne
      · have hgone : (d.windowRemoved w).shell.windows.get? w = none :=
          Option.isNone_iff_eq_none.1 (Option.isSome_eq_false_iff.1 hspliced.gone)
        refine iff_of_false (by rw [Shell.fills, hgone]; simp) ?_
        rintro ⟨⟩
        exact hp ‹_›
      · exact hsame hp (hspliced.others w hne hp)

theorem fills_outputRemoved (d : Desktop) (o : OutputId) (w : WindowId) :
    (d.outputRemoved o).shell.fills w = d.shell.fills w := by
  unfold outputRemoved
  split
  · rfl
  · next output _ =>
    rw [Shell.fills_stance, Shell.fills_stance]
    rcases stance_foldl_outputGone o output.signal.drain.1
      { d.shell with outputs := d.shell.outputs.erase o } w with hs | hs
    · exact congrArg (Option.any _) hs
    · refine (congrArg (Option.any _) hs).trans ?_
      rw [Option.any_map]
      rfl

end Desktop

/-- Whether the event can place windows that are there already. -/
def Event.places : Event → Bool
  | windowRemoved .. => true
  | parentChanged .. => true
  | fullscreenRequested .. => true
  | maximizeRequested .. => true
  | _ => false

namespace Desktop

/-- All other events leave windows filling their outputs, or not, as they did. -/
theorem fills_dispatch_eq (h : d.shell.Sound) (hw : d.shell.isLive w) (he : e.places = false) :
    (d.dispatch e).2.shell.fills w = d.shell.fills w := by
  have hlayout {d' : Desktop} (hl : d'.layout = d.layout) : d'.shell.fills w = d.shell.fills w :=
    Shell.fills_congr (congrFun (congrArg Layout.stance hl) w)
  cases e with
  | windowAdded surface appId parent =>
    exact Shell.fills_congr (stance_windowAdded h surface appId parent hw)
  | windowRemoved | parentChanged | fullscreenRequested | maximizeRequested => cases he
  | windowCommitted x commit => exact hlayout (d.windowCommitted_layout x commit)
  | minimizeRequested | resizeRequested | seatAdded | seatCapabilitiesChanged => exact hlayout rfl
  | moveRequested x seat request => exact hlayout (d.moveRequested_aside x seat request).layout
  | xwaylandPositionSet x at_ => exact hlayout (modifyWindow_layout (fun _ => by rfl) d x)
  | appIdChanged x appId => exact hlayout (modifyWindow_layout (fun _ => by rfl) d x)
  | outputAdded handle name area =>
    exact Shell.fills_congr (congrFun (d.stance_outputAdded handle name area) w)
  | outputRemoved o => exact d.fills_outputRemoved o w
  | outputResized o area => exact Shell.fills_congr (congrFun (d.stance_outputResized o area) w)
  | outputMoved o delta => exact hlayout (d.outputMoved_layout o delta)
  | seatRemoved seat => exact hlayout (d.seatRemoved_aside seat).layout
  | keyboardFocusChanged seat focus =>
    exact hlayout (d.keyboardFocusChanged_aside seat focus).layout
  | pointerButton seat button focus defaultGrab =>
    exact hlayout (d.pointerButton_layout seat button focus defaultGrab)
  | touchDown seat focus defaultGrab => exact hlayout (d.touchDown_layout seat focus defaultGrab)
  | grabMotion seat location => exact hlayout (d.grabMotion_layout seat location)
  | grabReleased seat => exact hlayout (d.endGrab_aside seat).layout

/-- What makes a window in normal placement fill its output. -/
theorem fills_dispatch_iff (h : Reached config d) (hw : d.shell.isLive w)
    (hn : d.shell.fills w = false) (e : Event) :
    (d.dispatch e).2.shell.fills w ↔ e.Fills d.shell w := by
  obtain ⟨r, hr⟩ := exists_stance hw
  have hparent : Windows.parentOf d.shell.windows w = r.parent :=
    (d.shell.parentOf_stance w).trans (congrArg (·.bind Stance.parent) hr)
  have hother {d' : Desktop} (he : ¬ e.Fills d.shell w)
      (hs : d'.shell.stance w = d.shell.stance w) : d'.shell.fills w ↔ e.Fills d.shell w :=
    iff_of_false (by rw [Shell.fills_congr hs, hn]; simp) he
  cases e with
  | windowRemoved x => exact fills_windowRemoved_iff h hn
  | parentChanged x parent =>
    rcases eq_or_ne w x with rfl | hne
    · show (d.setParent w parent).shell.fills w ↔ _
      rw [fills_setParent hr hn, Option.isNone_iff_eq_none]
      exact ⟨fun hp => .parentChanged hp, by rintro ⟨hp⟩; exact hp⟩
    · refine hother (by rintro ⟨⟩; exact hne rfl) ?_
      exact (setParent_placed (P := fun _ => True) h.sound fun _ _ _ _ _ => trivial).others w hne
  | fullscreenRequested x fullscreen o =>
    rcases eq_or_ne w x with rfl | hne
    · show (d.fullscreenRequested w fullscreen o).shell.fills w ↔ _
      rw [fills_fullscreenRequested hr hn, Bool.and_eq_true, Bool.or_eq_true,
        Option.isNone_iff_eq_none, ← hparent]
      exact ⟨fun hf => .fullscreenRequested hf.1 hf.2, by rintro ⟨⟩; exact ⟨‹_›, ‹_›⟩⟩
    · exact hother (by rintro ⟨⟩; exact hne rfl)
        ((d.fullscreenRequested_placed h.sound x fullscreen o).others w hne)
  | maximizeRequested x maximized =>
    rcases eq_or_ne w x with rfl | hne
    · show (d.maximizeRequested w maximized).shell.fills w ↔ _
      rw [fills_maximizeRequested hr hn, Bool.and_eq_true, Bool.or_eq_true,
        Option.isNone_iff_eq_none, ← hparent]
      exact ⟨fun hf => .maximizeRequested hf.1 hf.2, by rintro ⟨⟩; exact ⟨‹_›, ‹_›⟩⟩
    · exact hother (by rintro ⟨⟩; exact hne rfl)
        ((d.maximizeRequested_placed h.sound (fun _ => True) x maximized).others w hne)
  | _ =>
    refine iff_of_false ?_ (by rintro ⟨⟩)
    rw [fills_dispatch_eq h.sound hw rfl, hn]
    simp

/-- The device that drags moves no window but the one that is dragged. -/
theorem get?_grabMotion (hx : d.shell.dragged seat ≠ some x) (location : Point) :
    (d.grabMotion seat location).shell.windows.get? x = d.shell.windows.get? x := by
  unfold grabMotion
  split
  · rfl
  · next grab hg =>
    have hne : x ≠ grab.window.source := by
      rintro rfl
      exact hx (congrArg (Option.map fun grab : Grab => grab.window.source) hg)
    unfold moveView
    split
    · rfl
    · exact (Shell.get?_modifyWindow ..).trans (if_neg hne)

/-! ## Runs -/

/-- `seat` drags `w`, which fills its output. -/
def DragsFilled (seat : SeatId) (w : WindowId) (d : Desktop) : Prop :=
  d.shell.dragged seat = some w ∧ d.shell.fills w

/-- A seat comes to drag a window that fills its output by an event that makes the window it drags
do so. -/
theorem dragsFilled_dispatch (h : Reached config d) (hbefore : ¬ d.DragsFilled seat w)
    (hafter : (d.dispatch e).2.DragsFilled seat w) :
    d.shell.dragged seat = some w ∧ e.Fills d.shell w := by
  obtain ⟨hdrag, hfills⟩ := hafter
  by_cases he : ∃ x j request, e = .moveRequested x j request
  · obtain ⟨x, j, request, rfl⟩ := he
    have hsame : (d.dispatch (.moveRequested x j request)).2.shell.fills w = d.shell.fills w :=
      Shell.fills_congr
        (congrFun (congrArg Layout.stance (d.moveRequested_aside x j request).layout) w)
    rw [hsame] at hfills
    rcases Shell.dragged_moveRequested hdrag with hold | hnormal
    · exact absurd ⟨hold, hfills⟩ hbefore
    · rw [hnormal] at hfills
      cases hfills
  · have hold := d.dispatch_releases (fun x j request hr => he ⟨x, j, request, hr⟩) seat w hdrag
    have hnormal : d.shell.fills w = false := Bool.eq_false_iff.2 fun hf => hbefore ⟨hold, hf⟩
    exact ⟨hold, (fills_dispatch_iff h (h.sound.isLive_of_dragged hold) hnormal e).1 hfills⟩

/-- In a run of events, a seat drags a window that fills its output exactly if an event made the
window do so while the seat dragged it, and both have gone on since. Only a window that is
dragged is moved by the device that drags. -/
theorem drags_filled_iff (hrun : (fresh config).run as = some d) (hcalls : ∀ c, .call c ∉ as) :
    (∀ seat w, d.DragsFilled seat w ↔ ∃ d₁ e,
      (fresh config).HoldsSince (DragsFilled seat w) as d₁ (.event e) ∧
      d₁.shell.dragged seat = some w ∧ e.Fills d₁.shell w) ∧
    ∀ seat location w, d.shell.dragged seat ≠ some w →
      (d.dispatch (.grabMotion seat location)).2.shell.windows.get? w =
        d.shell.windows.get? w := by
  refine ⟨fun seat w => ?_, fun seat location w hw => get?_grabMotion hw location⟩
  have hfirst : ¬ (fresh config).DragsFilled seat w := by
    rintro ⟨hdrag, -⟩
    cases hdrag
  rw [exists_holdsSince_iff hrun hfirst]
  constructor
  · rintro ⟨d₁, a, hsince⟩
    obtain ⟨hbefore, hafter⟩ := hsince.first
    cases a with
    | event e => exact ⟨d₁, e, hsince, dragsFilled_dispatch hsince.reached hbefore hafter⟩
    | call c => exact absurd hsince.mem (hcalls c)
    | switch s => exact absurd hafter hbefore
  · rintro ⟨d₁, e, hsince, -⟩
    exact ⟨d₁, .event e, hsince⟩

end Desktop

/-- The grandchild in a family of three is made a root while it is dragged. -/
def liftedRun : List Action := familyRun ++ [.event (.parentChanged ⟨2, 1⟩ none)]

theorem isSome_liftedRun : ((Desktop.fresh .default).run liftedRun).isSome := by decide +kernel

/-- The seat goes on to drag it. -/
theorem drags_filled_liftedRun : ∃ d, (Desktop.fresh .default).run liftedRun = some d ∧
    (∀ c, .call c ∉ liftedRun) ∧ d.DragsFilled ⟨0, 1⟩ ⟨2, 1⟩ ∧
    ∃ d₁ e, (Desktop.fresh .default).HoldsSince (Desktop.DragsFilled ⟨0, 1⟩ ⟨2, 1⟩) liftedRun d₁
        (.event e) ∧
      d₁.shell.dragged ⟨0, 1⟩ = some ⟨2, 1⟩ ∧ e.Fills d₁.shell ⟨2, 1⟩ := by
  have hrun := (Option.some_get isSome_liftedRun).symm
  have hcalls : ∀ c, .call c ∉ liftedRun := by simp [liftedRun, familyRun]
  have hdrags : (((Desktop.fresh .default).run liftedRun).get isSome_liftedRun).DragsFilled
      ⟨0, 1⟩ ⟨2, 1⟩ := by
    constructor <;> decide +kernel
  exact ⟨_, hrun, hcalls, hdrags, ((Desktop.drags_filled_iff hrun hcalls).1 _ _).1 hdrags⟩

/-- A window that fills its output can be dragged, and is moved then. -/
theorem not_undragged :
    (¬ ∀ config d seat w, Dispatched config d → d.shell.dragged seat = some w →
      d.shell.fills w = false) ∧
    ¬ ∀ config d seat location w, Dispatched config d → d.shell.fills w →
      ((d.dispatch (.grabMotion seat location)).2.shell.windows.get? w).map Window.position =
        (d.shell.windows.get? w).map Window.position := by
  have hcalls : ∀ c, .call c ∉ liftedRun := by simp [liftedRun, familyRun]
  have hdispatched := Dispatched.of_run hcalls (Option.some_get isSome_liftedRun).symm
  constructor
  · intro hnormal
    exact absurd (hnormal .default _ ⟨0, 1⟩ ⟨2, 1⟩ hdispatched (by decide +kernel))
      (by decide +kernel)
  · intro hstays
    exact absurd (hstays .default _ ⟨0, 1⟩ ⟨300, 150⟩ ⟨2, 1⟩ hdispatched (by decide +kernel))
      (by decide +kernel)

end Kiosk
