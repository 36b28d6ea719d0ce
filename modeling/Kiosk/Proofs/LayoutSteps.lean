import Kiosk.Proofs.Aside
import Kiosk.Proofs.Focus
import Kiosk.Proofs.Layout

/-!
# What events and calls do to the layout

Each event and each call takes the layout of a desktop through steps
(`Desktop.dispatch_steps`, `Desktop.call_steps`), most of them through none. So
what holds of the layout of a fresh desktop and is kept by every step holds of
all that runs lead to (`Reached.of_steps`).

One event makes a window without placing it, as only a call is meant to: the one
that announces a window below itself (`Desktop.BelowItself`). The id of a window
is given out when the window is made, so an event can name it beforehand. By the
time the parent is looked up it is there, and turned down as a parent of itself.
-/

namespace Kiosk

open Relation (ReflTransGen)

variable {config : Config} {d d' : Desktop} {direct : Prop} {w p : WindowId} {o : OutputId}
  {r : Stance} {window : Window}

namespace Desktop

/-! ## What leaves the layout alone -/

theorem Aside.layout (h : Aside d d') : d'.layout = d.layout := by
  refine Layout.ext (funext (h.map_eq Window.stance fun _ => rfl)) ?_ ?_ ?_ ?_
  · show d'.shell.extent = d.shell.extent
    funext o
    rw [Shell.extent, h.outputs]
    rfl
  · have htold : d'.host.plain.told = d.host.plain.told := congrArg Host.told h.host
    exact htold
  · obtain ⟨cs, hlog, hcs⟩ := h.log
    show d'.host.createdSurfaces = d.host.createdSurfaces
    rw [Host.createdSurfaces, hlog, List.filterMap_append, Host.createdSurfaces]
    refine (congrArg _ (List.filterMap_eq_nil_iff.2 fun c hc => ?_)).trans (List.append_nil _)
    have hadvice := (hcs c hc).1
    cases c <;> first | rfl | cases hadvice
  · exact congrArg Config.enforceRootFullscreen h.config

/-- The host may be told what no window's placement depends on. -/
theorem tell_layout {f : Host → Host} (h : d.host.Calm (f d.host))
    (ht : (f d.host).told = d.host.told) : (d.tell f).layout = d.layout :=
  Layout.ext rfl rfl ht h.createdSurfaces rfl

theorem setViewPosition_layout (d : Desktop) (v : ViewHandle) (at_ : Point) :
    (d.tell (·.setViewPosition v at_)).layout = d.layout :=
  tell_layout (.of_record rfl rfl rfl) rfl

theorem destroyView_layout (d : Desktop) (v : ViewHandle) :
    (d.tell (·.destroyView v)).layout = d.layout :=
  tell_layout (.of_record rfl rfl rfl) rfl

/-- A change of windows that does not concern how they stand. -/
theorem modifyWindow_layout {f : Window → Window} (hf : ∀ r, (f r).stance = r.stance) (d : Desktop)
    (w : WindowId) : (d.update (·.modifyWindow w f)).layout = d.layout :=
  Layout.ext (Shell.stance_modifyWindow_of_eq hf d.shell w) rfl rfl rfl rfl

theorem moveView_layout (d : Desktop) (w : WindowId) (at_ : Point) :
    (d.moveView w at_).layout = d.layout := by
  unfold moveView
  split
  · rfl
  · next window _ =>
    exact (setViewPosition_layout _ window.view at_).trans
      (modifyWindow_layout (fun _ => by rfl) d w)

theorem mapWindow_layout (d : Desktop) (w : WindowId) (view : ViewHandle) :
    (d.mapWindow w view).layout = d.layout :=
  Layout.ext (Shell.stance_modifyWindow_of_eq (f := ({ · with mapped := true })) (fun _ => rfl)
    d.shell w) rfl rfl (d.mapWindow_drift w view).host.createdSurfaces rfl

theorem raiseWindow_layout (d : Desktop) (w : WindowId) (view : ViewHandle) :
    (d.raiseWindow w view).layout = d.layout :=
  Layout.ext rfl rfl rfl (d.raiseWindow_drift w view).host.createdSurfaces rfl

theorem shiftWindow_layout (d : Desktop) (w : WindowId) (offset : Point) :
    (d.shiftWindow w offset).layout = d.layout := by
  unfold shiftWindow
  split
  · rfl
  · exact d.moveView_layout w _

theorem foldl_shiftWindow_layout (offset : Point) : ∀ (ws : List WindowId) (d : Desktop),
    (ws.foldl (fun d w => d.shiftWindow w offset) d).layout = d.layout
  | [], _ => rfl
  | w :: ws, d => (foldl_shiftWindow_layout offset ws _).trans (d.shiftWindow_layout w offset)

theorem finishCommit_layout (d : Desktop) (w : WindowId) (window : Window) (commit : Commit) :
    (d.finishCommit w window commit).layout = d.layout := by
  have hmap : (if window.mapped then d else d.mapWindow w window.view).layout = d.layout := by
    split
    · rfl
    · exact d.mapWindow_layout w window.view
  unfold finishCommit
  dsimp only
  rw [modifyWindow_layout fun _ => by rfl]
  split
  · exact hmap
  · exact (shiftWindow_layout _ w commit.offset).trans hmap

theorem windowCommitted_layout (d : Desktop) (w : WindowId) (commit : Commit) :
    (d.windowCommitted w commit).2.layout = d.layout := by
  unfold windowCommitted
  split
  · rfl
  · next window _ =>
    split
    · rfl
    · split
      · split
        · rfl
        · exact (finishCommit_layout _ w window commit).trans (d.moveView_layout w _)
      · exact d.finishCommit_layout w window commit

theorem activateWindow_layout (d : Desktop) (seat : SeatId) (w : WindowId) :
    (d.activateWindow seat w).layout = d.layout := by
  unfold activateWindow
  split
  · rfl
  · next window _ =>
    refine (focusSeat_aside _ seat (some w)).layout.trans ?_
    split
    · exact d.raiseWindow_layout w window.view
    · rfl

theorem touchDown_layout (d : Desktop) (seat : SeatId) (focus : Option WindowId)
    (defaultGrab : Bool) : (d.touchDown seat focus defaultGrab).layout = d.layout := by
  unfold touchDown
  split
  · exact d.activateWindow_layout seat _
  · rfl

theorem pointerButton_layout (d : Desktop) (seat : SeatId) (button : UInt32)
    (focus : Option WindowId) (defaultGrab : Bool) :
    (d.pointerButton seat button focus defaultGrab).layout = d.layout := by
  unfold pointerButton
  split
  · exact d.touchDown_layout seat focus defaultGrab
  · rfl

theorem grabMotion_layout (d : Desktop) (seat : SeatId) (location : Point) :
    (d.grabMotion seat location).layout = d.layout := by
  unfold grabMotion
  split
  · rfl
  · exact d.moveView_layout _ _

/-! ## Placing -/

theorem not_live_of_stance (hw : d.layout.stance w = none) : d.shell.isLive w = false :=
  Option.isSome_eq_false_iff.2 (Option.isNone_iff_eq_none.2 (Option.map_eq_none_iff.1 hw))

theorem setNormal_of_not_live (hw : d.layout.stance w = none) : d.setNormal w = d := by
  have hnone : d.shell.windows.get? w = none := Option.map_eq_none_iff.1 hw
  have hensure : d.ensureOutput w = d := by
    unfold ensureOutput
    split
    · rfl
    · rw [setOutput, update, Shell.setOutput_of_not_live (not_live_of_stance hw)]
  unfold setNormal
  dsimp only
  rw [hensure, hnone]

theorem setFullscreen_of_not_live (hw : d.layout.stance w = none) (o : Option OutputId) :
    d.setFullscreen w o = d := by
  rw [setFullscreen, show d.shell.windows.get? w = none from Option.map_eq_none_iff.1 hw]

theorem setMaximized_of_not_live (hw : d.layout.stance w = none) : d.setMaximized w = d := by
  rw [setMaximized, show d.shell.windows.get? w = none from Option.map_eq_none_iff.1 hw]

/-- A window may become normal if it has a parent, or roots need not be fullscreen. -/
theorem setNormal_steps (h : direct ∨ d.layout.enforce = false ∨
    ∀ r, d.layout.stance w = some r → r.parent ≠ none) :
    Layout.Steps direct d.layout (d.setNormal w).layout := by
  cases hw : d.layout.stance w with
  | none =>
    rw [setNormal_of_not_live hw]
  | some r =>
    rw [setNormal_layout hw]
    refine .single (.place hw rfl ⟨fun _ => rfl, fun hd henforce hroot => ?_⟩)
    rcases h with hdirect | hfree | hchild
    · exact absurd hdirect hd
    · exact absurd henforce (by simp [hfree])
    · exact absurd hroot (hchild r hw)

theorem setFullscreen_steps (d : Desktop) (w : WindowId) (o : Option OutputId) :
    Layout.Steps direct d.layout (d.setFullscreen w o).layout := by
  cases hw : d.layout.stance w with
  | none =>
    rw [setFullscreen_of_not_live hw]
  | some r =>
    by_cases hr : r.parent = none
    · rw [setFullscreen_layout hw hr o]
      exact .single (.place hw rfl (.of_root hr rfl))
    · rw [setFullscreen_of_child hw hr]
      exact setNormal_steps (.inr (.inr fun q hq => by cases hw.symm.trans hq; exact hr))

theorem setMaximized_steps (h : direct ∨ d.layout.enforce = false) :
    Layout.Steps direct d.layout (d.setMaximized w).layout := by
  cases hw : d.layout.stance w with
  | none =>
    rw [setMaximized_of_not_live hw]
  | some r =>
    by_cases hr : r.parent = none
    · rw [setMaximized_layout hw hr]
      refine .single (.place hw rfl ⟨fun hchild => absurd hr hchild, fun hd henforce _ => ?_⟩)
      rcases h with hdirect | hfree
      · exact absurd hdirect hd
      · exact absurd henforce (by simp [hfree])
    · rw [setMaximized_of_child hw hr]
      exact setNormal_steps (.inr (.inr fun q hq => by cases hw.symm.trans hq; exact hr))

theorem fullscreenRequested_steps (d : Desktop) (w : WindowId) (fullscreen : Bool)
    (o : Option OutputId) :
    Layout.Steps direct d.layout (d.fullscreenRequested w fullscreen o).layout := by
  unfold fullscreenRequested
  split
  · exact .refl
  · next window hw =>
    split
    · next hchild =>
      refine setNormal_steps (.inr (.inr fun r hr hroot => ?_))
      rw [(isRoot_iff hw hr).2 hroot] at hchild
      cases hchild
    · split
      · exact d.setFullscreen_steps w o
      · next hfree =>
        have hfree : d.layout.enforce = false :=
          (Bool.or_eq_false_iff.1 (Bool.eq_false_iff.2 hfree)).2
        split
        · exact setNormal_steps (.inr (.inl hfree))
        · exact .refl

theorem maximizeRequested_steps (d : Desktop) (w : WindowId) (maximized : Bool) :
    Layout.Steps direct d.layout (d.maximizeRequested w maximized).layout := by
  unfold maximizeRequested
  split
  · exact .refl
  · next window hw =>
    split
    · next hchild =>
      refine setNormal_steps (.inr (.inr fun r hr hroot => ?_))
      rw [(isRoot_iff hw hr).2 hroot] at hchild
      cases hchild
    · split
      · exact d.setFullscreen_steps w none
      · next hfree =>
        have hfree : d.layout.enforce = false := Bool.eq_false_iff.2 hfree
        split
        · exact setMaximized_steps (.inr hfree)
        · split
          · exact setNormal_steps (.inr (.inl hfree))
          · exact .refl

theorem exists_stance (hw : d.shell.isLive w) : ∃ r, d.layout.stance w = some r := by
  obtain ⟨window, hwindow⟩ := Option.isSome_iff_exists.1 hw
  exact ⟨window.stance, congrArg (Option.map Window.stance) hwindow⟩

theorem setParent_steps (d : Desktop) (w : WindowId) (parent : Option WindowId) :
    Layout.Steps direct d.layout (d.setParent w parent).layout := by
  refine setParent_cases (P := fun d' => Layout.Steps direct d.layout d'.layout) parent .refl
    (fun hlive => ?_) fun p _ hlive hp h => ?_
  · obtain ⟨r, hw⟩ := exists_stance hlive
    rw [setParent_none_layout hw]
    exact .single (.place hw rfl (.of_root rfl rfl))
  · obtain ⟨r, hw⟩ := exists_stance hlive
    obtain ⟨output, he⟩ := setParent_some_layout hw hp h
    rw [he]
    exact .single (.place hw rfl (.of_child (Option.some_ne_none p) rfl))

/-! ## Windows that come and go -/

theorem windowGone_steps (w : WindowId) (parent : Option WindowId) (d : Desktop) (l : Listener) :
    Layout.Steps direct d.layout (windowGone w parent d l).layout := by
  cases l with
  | parent child => exact d.setParent_steps child parent
  | boundOutput x => exact .refl
  | seatFocus seat =>
    show Layout.Steps direct d.layout (Desktop.layout (if _ then _ else d))
    split <;> exact .refl
  | grab seat =>
    show Layout.Steps direct d.layout (Desktop.layout (if _ then _ else d))
    split <;> exact .refl

theorem foldl_windowGone_steps (w : WindowId) (parent : Option WindowId) :
    ∀ (ls : List Listener) (d : Desktop),
      Layout.Steps direct d.layout (ls.foldl (windowGone w parent) d).layout
  | [], _ => .refl
  | l :: ls, d => (windowGone_steps w parent d l).trans (foldl_windowGone_steps w parent ls _)

theorem dropLinks_layout (d : Desktop) (w : WindowId) (window : Window) :
    (d.update (dropLinks · w window)).layout = d.layout := by
  have hsteady := dropLinks_steady d.shell w window
  refine Layout.ext ?_ hsteady.extent rfl rfl (congrArg Config.enforceRootFullscreen hsteady.config)
  show (dropLinks d.shell w window).stance = d.shell.stance
  unfold dropLinks
  cases window.parent with
  | none => cases window.boundOutput <;> rfl
  | some link =>
    have hsame := Shell.stance_modifyWindow_of_eq
      (f := fun r => { r with signal := r.signal.unsubscribe link.token }) (fun _ => rfl) d.shell
      link.source
    cases window.boundOutput <;> exact hsame

theorem erased_layout (d : Desktop) (w : WindowId) (window : Window) :
    (d.erased w window).layout = d.layout.vanish w := by
  have hcalm : d.host.Calm (d.host.setUserData window.surface none) := .of_record rfl rfl rfl
  refine Layout.ext (funext fun x => ?_) rfl rfl hcalm.createdSurfaces rfl
  refine Eq.trans ?_ (Function.update_apply _ _ _ _).symm
  show ((d.erased w window).shell.windows.get? x).map Window.stance = _
  rw [get?_erased]
  split <;> rfl

theorem destroyWindow_steps (d : Desktop) (w : WindowId) :
    Layout.Steps direct d.layout (d.destroyWindow w).layout := by
  cases hw : d.shell.windows.get? w with
  | none =>
    rw [destroyWindow, hw]
  | some window =>
    have hgone : Layout.Steps direct (d.erased w window).layout _ :=
      foldl_windowGone_steps w window.parentId window.signal.drain.1 (d.erased w window)
    have he : (d.destroyWindow w).layout = (window.signal.drain.1.foldl
        (windowGone w window.parentId) (d.erased w window)).layout := by
      rw [destroyWindow, hw]
      exact (destroyView_layout _ window.view).trans (dropLinks_layout _ w window)
    rw [he]
    rw [erased_layout] at hgone
    exact .head (.vanish w) hgone

theorem windowRemoved_steps (d : Desktop) (w : WindowId) :
    Layout.Steps direct d.layout (d.windowRemoved w).layout := by
  unfold windowRemoved
  split
  · exact (Layout.Steps.of_eq (foldl_focusSeat_aside _ _ d).layout).trans (destroyWindow_steps _ w)
  · exact .refl

theorem createWindow_refused_layout (hf : d.host.failNextView = true) (surface : SurfaceHandle)
    (appId : Option String) : (d.createWindow surface appId).2.layout = d.layout := by
  have hcalm : d.host.Calm ({ d.host with failNextView := false }.postNoMemory surface).2 :=
    .of_record rfl rfl rfl
  rw [createWindow_refused hf]
  exact Layout.ext rfl rfl rfl hcalm.createdSurfaces rfl

/-- The id of a window that is made was not in use. -/
theorem createWindow_made_layout (hf : d.host.failNextView = false) (surface : SurfaceHandle)
    (appId : Option String) : ∃ w, (d.createWindow surface appId).1 = .ok w ∧
      d.layout.stance w = none ∧
      (d.createWindow surface appId).2.layout = d.layout.create w surface := by
  let record := Window.ofSurface surface ⟨d.host.lastView + 1⟩ appId
  have hfresh := Arena.get?_insert_self d.shell.windows record
  refine ⟨(d.shell.windows.insert record).1, ?_, congrArg (Option.map Window.stance) hfresh, ?_⟩
  · rw [createWindow, Host.createView, Host.allocateView, if_neg (by simp [hf])]
  · have hcreated := createdSurfaces_createWindow hf surface appId
    rw [createWindow_made hf] at hcreated ⊢
    refine Layout.ext (funext fun x => ?_) rfl rfl hcreated rfl
    refine Eq.trans ?_ (Function.update_apply _ _ _ _).symm
    show ((d.shell.windows.insert record).2.get? x).map Window.stance = _
    rw [Arena.get?_insert]
    split <;> rfl

/-- A window that has just been made is above no other. -/
theorem isAncestorOrSelf_made (h : d.shell.Sound) (hw : d.layout.stance w = none)
    {surface : SurfaceHandle} (hmade : d'.layout = d.layout.create w surface) (hne : p ≠ w) :
    Windows.isAncestorOrSelf d'.shell.windows w p = false := by
  refine Bool.eq_false_iff.2 fun hup => ?_
  rcases (Windows.isAncestorOrSelf_iff.1 hup).cases_tail with heq | ⟨x, -, hx⟩
  · exact hne heq.symm
  · have hx : (d'.layout.stance x).bind Stance.parent = some w :=
      (Shell.parentOf_stance d'.shell x).symm.trans hx
    rw [hmade, Layout.stance_create] at hx
    split at hx
    · cases hx
    · have hlive := h.isLive_of_parentOf ((Shell.parentOf_stance d.shell x).trans hx)
      rw [not_live_of_stance hw] at hlive
      cases hlive

/-- A window that appears is made under an id that was not in use, and then placed. -/
theorem windowAdded_layout (d : Desktop) (surface : SurfaceHandle) (appId : Option String)
    (parent : Option WindowId) :
    (∃ shortage, (d.windowAdded surface appId parent).1 = .error shortage) ∧
      (d.windowAdded surface appId parent).2.layout = d.layout ∨
    ∃ w d₁, d₁ = (d.createWindow surface appId).2 ∧ d.layout.stance w = none ∧
      d₁.layout = d.layout.create w surface ∧
      (d.windowAdded surface appId parent).1 = .ok w ∧
      (d.windowAdded surface appId parent).2.layout =
        (match parent.filter d₁.shell.isLive with
        | some p => d₁.setParent w (some p)
        | none => d₁.setFullscreen w none).layout := by
  cases hf : d.host.failNextView with
  | true =>
    have he := createWindow_refused_layout hf surface appId
    unfold windowAdded
    split
    · next shortage _ hc =>
      rw [hc] at he
      exact .inl ⟨⟨shortage, rfl⟩, he⟩
    · next hc =>
      rw [createWindow, Host.createView, Host.allocateView, if_pos hf] at hc
      cases hc
  | false =>
    obtain ⟨w, hc, hw, he⟩ := createWindow_made_layout hf surface appId
    unfold windowAdded
    rw [show d.createWindow surface appId = (.ok w, (d.createWindow surface appId).2) from
      Prod.ext hc rfl]
    exact .inr ⟨w, _, rfl, hw, he, rfl, (foldl_focusSeat_aside _ _ _).layout⟩

/-- A window that is announced below itself is made, and not placed. -/
theorem windowAdded_below_itself_layout {surface : SurfaceHandle} {appId : Option String}
    (he : (d.windowAdded surface appId (some w)).1 = .ok w) :
    d.layout.stance w = none ∧
      (d.windowAdded surface appId (some w)).2.layout = d.layout.create w surface := by
  rcases d.windowAdded_layout surface appId (some w) with
    ⟨⟨shortage, hrefused⟩, -⟩ | ⟨x, d₁, -, hw, hd, hmade, hplaced⟩
  · cases he.symm.trans hrefused
  obtain rfl := Except.ok.inj (he.symm.trans hmade)
  have hlive : d₁.shell.isLive w := by
    refine Shell.isLive_of_stance (r := .new surface) ?_
    show d₁.layout.stance w = _
    rw [hd, Layout.stance_create, if_pos rfl]
  rw [Option.filter_some_pos hlive] at hplaced
  dsimp only at hplaced
  rw [setParent_refused hlive (Windows.isAncestorOrSelf_iff.2 .refl), hd] at hplaced
  exact ⟨hw, hplaced⟩

theorem ok_of_ofWindow {made : Except Shortage WindowId} (h : Reply.ofWindow made = .window w) :
    made = .ok w := by
  cases made <;> cases h
  rfl

/-- A window that is not announced below itself is placed at once. -/
theorem windowAdded_steps (h : d.shell.Sound) (surface : SurfaceHandle) (appId : Option String)
    (parent : Option WindowId)
    (hk : ∀ w, parent = some w → (d.windowAdded surface appId parent).1 ≠ .ok w) :
    Layout.Steps direct d.layout (d.windowAdded surface appId parent).2.layout := by
  rcases d.windowAdded_layout surface appId parent with
    ⟨-, hsame⟩ | ⟨w, d₁, -, hw, he, hmade, hplaced⟩
  · exact .of_eq hsame
  rw [hplaced]
  have hw₁ : d₁.layout.stance w = some (.new surface) := by
    rw [he, Layout.stance_create, if_pos rfl]
  split
  · next p hparent =>
    obtain ⟨rfl, hp⟩ := Option.filter_eq_some_iff.1 hparent
    have hne : p ≠ w := by
      rintro rfl
      exact hk p rfl hmade
    obtain ⟨output, hplace⟩ := setParent_some_layout hw₁ hp (isAncestorOrSelf_made h hw he hne)
    rw [hplace, he]
    exact .single (.appear hw (.of_child (Option.some_ne_none p) rfl))
  · rw [setFullscreen_layout hw₁ rfl none, he]
    exact .single (.appear hw (.of_root rfl rfl))

/-! ## Outputs -/

theorem told_createBackground (h : Host) (handle : OutputHandle) (area : Rect) :
    (h.createBackground handle area).2.told = h.told := by
  cases hf : h.failNextView with
  | true =>
    rw [createBackground_refused hf]
    rfl
  | false =>
    rw [createBackground_made hf]
    rfl

theorem outputAdded_steps (h : d.shell.Sound) (handle : OutputHandle) (name : String)
    (area : Rect) : Layout.Steps direct d.layout (d.outputAdded handle name area).2.layout := by
  have htold := told_createBackground d.host handle area
  have hcreated := (d.outputAdded_drift handle name area).host.createdSurfaces
  unfold outputAdded at hcreated ⊢
  split
  · next host he =>
    rw [he] at htold hcreated
    exact .of_eq (Layout.ext rfl rfl htold hcreated rfl)
  · next background host he =>
    rw [he] at htold hcreated
    dsimp only at hcreated ⊢
    generalize (d.shell.config.outputAppIds name).elim .none AppIds.ofText = appIds at hcreated ⊢
    let record := Output.ofHandle handle name area appIds background
    have hfresh : d.shell.outputs.get? (d.shell.outputs.insert record).1 = none :=
      Arena.get?_insert_self d.shell.outputs.arena record
    have hadded : (Desktop.mk { d.shell with outputs := (d.shell.outputs.insert record).2 }
        host).layout = d.layout.setExtent (d.shell.outputs.insert record).1 (some area.size) := by
      refine Layout.ext rfl (funext fun j => ?_) htold hcreated rfl
      refine Eq.trans ?_ (Function.update_apply _ _ _ _).symm
      show ((d.shell.outputs.insert record).2.get? j).map (·.area.size) = _
      rw [Roster.get?_insert]
      split <;> rfl
    rw [hadded]
    refine .single (.addOutput (fun w r hw ho => ?_) area.size)
    have hlive : (d.shell.outputs.get? _).isSome := h.contains_output hw ho
    rw [hfresh] at hlive
    cases hlive

theorem setArea_layout {output : Output} (ho : d.shell.outputs.get? o = some output) (area : Rect) :
    (d.update (·.modifyOutput o ({ · with area }))).layout =
      d.layout.setExtent o (some area.size) := by
  refine Layout.ext rfl (funext fun j => ?_) rfl rfl rfl
  refine Eq.trans ?_ (Function.update_apply _ _ _ _).symm
  show ((d.shell.modifyOutput o _).outputs.get? j).map (·.area.size) = _
  rw [Shell.get?_modifyOutput, ho]
  split <;> rfl

theorem outputMoved_layout (d : Desktop) (o : OutputId) (delta : Point) :
    (d.outputMoved o delta).layout = d.layout := by
  unfold outputMoved
  split
  · rfl
  · next output ho =>
    have hextent : d.layout.extent o = some output.area.size := congrArg (Option.map _) ho
    exact (foldl_shiftWindow_layout delta _ _).trans ((setViewPosition_layout _ _ _).trans
      ((setArea_layout ho _).trans (Layout.setExtent_self hextent)))

theorem renewBackground_layout (d : Desktop) (o : OutputId) (output : Output) (area : Rect) :
    (d.renewBackground o output area).layout = d.layout := by
  have htold := told_createBackground d.host output.handle area
  have hcreated := (d.renewBackground_drift o output area).host.createdSurfaces
  unfold renewBackground at hcreated ⊢
  split
  · next background host he =>
    rw [he] at htold hcreated
    exact Layout.ext rfl (Shell.extent_modifyOutput (fun _ => by rfl) _ o) htold hcreated rfl
  · next host he =>
    rw [he] at htold hcreated
    exact Layout.ext rfl rfl htold hcreated rfl

theorem tellSize_layout (d : Desktop) (surface : SurfaceHandle) (size : Size) :
    (d.tell (·.setSize surface size)).layout = d.layout.tell [surface] size := by
  have hcalm : d.host.Calm (d.host.setSize surface size) := .of_record rfl rfl rfl
  refine Layout.ext rfl rfl ?_ hcalm.createdSurfaces rfl
  show (d.host.setSize surface size).told = _
  rw [Host.told_setSize]
  funext s
  rcases eq_or_ne s surface with rfl | hs
  · simp [Layout.tell, layout]
  · simp [Layout.tell, layout, hs]

theorem reconfigure_layout {size : Size} (hw : d.layout.stance w = some r)
    (hf : r.placement.fillsOutput) (ho : r.output = some o) (he : d.layout.extent o = some size)
    (ok : (d.reconfigure w).1 = none) :
    (d.reconfigure w).2.layout = d.layout.tell [r.surface] size := by
  obtain ⟨window, hwindow, rfl⟩ := Shell.stance_eq_some_iff.1 hw
  have harea : (d.shell.areaOf window).map Rect.size = some size := by
    rw [← extent_areaOf, show window.output = some o from ho]
    exact he
  obtain ⟨area, hsome, rfl⟩ := Option.map_eq_some_iff.1 harea
  have hfills : window.placement.fillsOutput = true := hf
  unfold reconfigure at ok ⊢
  rw [hwindow] at ok ⊢
  dsimp only at ok ⊢
  rw [hsome] at ok ⊢
  dsimp only at ok ⊢
  rw [if_pos hfills] at ok ⊢
  split at ok
  · cases ok
  · next p _ =>
    exact (moveView_layout _ w p).trans (d.tellSize_layout window.surface area.size)

theorem reconfigureAll_layout {size : Size} : ∀ (ws : List WindowId) {d : Desktop},
    (∀ w ∈ ws, ∃ r, d.layout.stance w = some r ∧ r.placement.fillsOutput ∧ r.output = some o) →
    d.layout.extent o = some size → (d.reconfigureAll ws).1 = none →
    ∃ surfaces, (d.reconfigureAll ws).2.layout = d.layout.tell surfaces size ∧
      ∀ s, s ∈ surfaces ↔ ∃ w ∈ ws, ∃ r, d.layout.stance w = some r ∧ r.surface = s
  | [], d, _, _, _ => ⟨[], (d.layout.tell_nil size).symm, by simp⟩
  | w :: ws, d, hws, he, ok => by
    obtain ⟨r, hw, hf, ho⟩ := hws w List.mem_cons_self
    cases hd : d.reconfigure w with
    | mk fault d' =>
      rw [reconfigureAll, hd] at ok ⊢
      cases fault with
      | some fault => cases ok
      | none =>
        have hl := reconfigure_layout hw hf ho he (by rw [hd])
        rw [hd] at hl
        have hstance : d'.layout.stance = d.layout.stance := by
          rw [hl]
          rfl
        have hrest : ∀ x ∈ ws, ∃ q, d'.layout.stance x = some q ∧ q.placement.fillsOutput ∧
            q.output = some o := by
          rw [hstance]
          exact fun x hx => hws x (List.mem_cons_of_mem w hx)
        obtain ⟨surfaces, heq, hmem⟩ := reconfigureAll_layout ws hrest (by rw [hl]; exact he) ok
        refine ⟨r.surface :: surfaces, heq.trans (by rw [hl, Layout.tell_cons]), fun s => ?_⟩
        rw [List.mem_cons, hmem, hstance, List.exists_mem_cons_iff]
        refine or_congr_left ⟨?_, ?_⟩
        · rintro rfl
          exact ⟨r, hw, rfl⟩
        · rintro ⟨q, hq, rfl⟩
          cases hw.symm.trans hq
          rfl

/-- The windows on an output, mapped or not. -/
theorem mem_windowsOn {s : Shell}
    (hm : ∀ w, w ∈ s.stacking ↔ ∃ window, s.windows.get? w = some window ∧ window.mapped = true) :
    w ∈ s.windowsOn o ↔ s.outputOf w = some o := by
  rw [Shell.windowsOn, List.mem_filter, decide_eq_true_eq]
  refine and_iff_right_of_imp fun ho => List.mem_append.2 ?_
  obtain ⟨window, hw, -⟩ := Option.bind_eq_some_iff.1 ho
  cases hmapped : window.mapped with
  | true => exact .inl ((hm w).2 ⟨window, hw, hmapped⟩)
  | false =>
    refine .inr (List.mem_map.2 ⟨(w, window), List.mem_filter.2 ⟨Arena.mem_toList.2 hw, ?_⟩, rfl⟩)
    simp [hmapped]

theorem mem_filledWindowsOn {s : Shell}
    (hm : ∀ w, w ∈ s.stacking ↔ ∃ window, s.windows.get? w = some window ∧ window.mapped = true) :
    w ∈ s.filledWindowsOn o ↔
      ∃ r, s.stance w = some r ∧ r.placement.fillsOutput ∧ r.output = some o := by
  rw [Shell.filledWindowsOn, List.mem_filter, mem_windowsOn hm, Shell.outputOf, Shell.stance]
  cases s.windows.get? w with
  | none => simp
  | some window => simp [Window.stance, and_comm]

/-- Nobody needs to be mapped to be told. -/
theorem outputResized_steps
    (hm : ∀ w, w ∈ d.shell.stacking ↔
      ∃ window, d.shell.windows.get? w = some window ∧ window.mapped = true)
    (o : OutputId) (area : Rect) (ok : (d.outputResized o area).1 = none) :
    Layout.Steps direct d.layout (d.outputResized o area).2.layout := by
  unfold outputResized at ok ⊢
  split at ok
  · exact .refl
  · next output ho =>
    have hl := (renewBackground_layout (d.update (·.modifyOutput o ({ · with area }))) o output
      area).trans (setArea_layout ho area)
    have hrecords : ((d.update (·.modifyOutput o ({ · with area }))).renewBackground o output
        area).shell.windows = d.shell.windows ∧ ((d.update (·.modifyOutput o
          ({ · with area }))).renewBackground o output area).shell.stacking = d.shell.stacking := by
      unfold renewBackground
      split <;> exact ⟨rfl, rfl⟩
    dsimp only at ok ⊢
    generalize (d.update (·.modifyOutput o ({ · with area }))).renewBackground o output area = d₂
      at ok hl hrecords ⊢
    have hstance : d₂.shell.stance = d.shell.stance := congrArg Layout.stance hl
    have hextent : d₂.layout.extent o = some area.size := by
      rw [hl]
      exact Function.update_self ..
    have hfilled (w : WindowId) : w ∈ d₂.shell.filledWindowsOn o ↔ ∃ r, d.layout.stance w = some r ∧
        r.placement.fillsOutput ∧ r.output = some o := by
      rw [mem_filledWindowsOn (by rw [hrecords.1, hrecords.2]; exact hm), hstance]
      rfl
    obtain ⟨surfaces, heq, hmem⟩ := reconfigureAll_layout (d₂.shell.filledWindowsOn o)
      (fun w hw => by rw [show d₂.layout.stance = _ from hstance]; exact (hfilled w).1 hw)
      hextent ok
    rw [heq, hl]
    refine .single (.resize area.size fun s => (hmem s).trans ⟨?_, ?_⟩)
    · rintro ⟨w, hw, r, hr, rfl⟩
      obtain ⟨q, hq, hf, ho⟩ := (hfilled w).1 hw
      rw [show d₂.layout.stance = _ from hstance] at hr
      cases hr.symm.trans hq
      exact ⟨w, r, hq, hf, ho, rfl⟩
    · rintro ⟨w, r, hr, hf, ho, rfl⟩
      refine ⟨w, (hfilled w).2 ⟨r, hr, hf, ho⟩, r, ?_, rfl⟩
      rw [show d₂.layout.stance = _ from hstance]
      exact hr

theorem stance_outputGone (o : OutputId) (s : Shell) (l : Listener) (w : WindowId) :
    (outputGone o s l).stance w = s.stance w ∨
      (outputGone o s l).stance w = (s.stance w).map ({ · with output := none }) := by
  cases l with
  | boundOutput x =>
    by_cases ho : s.outputOf x = some o
    · rw [outputGone, if_pos ho]
      show ((s.modifyWindow x _).windows.get? w).map Window.stance = _ ∨
        ((s.modifyWindow x _).windows.get? w).map Window.stance = _
      rw [Shell.get?_modifyWindow]
      split
      · next hw => exact .inr (by rw [hw, Option.map_map, Shell.stance, Option.map_map]; rfl)
      · exact .inl rfl
    · rw [outputGone, if_neg ho]
      exact .inl rfl
  | parent | seatFocus | grab => exact .inl rfl

theorem stance_foldl_outputGone (o : OutputId) : ∀ (ls : List Listener) (s : Shell) (w : WindowId),
    (ls.foldl (outputGone o) s).stance w = s.stance w ∨
      (ls.foldl (outputGone o) s).stance w = (s.stance w).map ({ · with output := none })
  | [], _, _ => .inl rfl
  | l :: ls, s, w => by
    rcases stance_foldl_outputGone o ls (outputGone o s l) w with hrest | hrest <;>
      rcases stance_outputGone o s l w with hone | hone <;> rw [List.foldl_cons, hrest, hone]
    · exact .inl rfl
    · exact .inr rfl
    · exact .inr rfl
    · exact .inr (by rw [Option.map_map]; rfl)

theorem outputRemoved_steps (d : Desktop) (o : OutputId) :
    Layout.Steps direct d.layout (d.outputRemoved o).layout := by
  unfold outputRemoved
  split
  · exact .refl
  · next output ho =>
    let s : Shell := { d.shell with outputs := d.shell.outputs.erase o }
    have hsteady := foldl_outputGone_steady o output.signal.drain.1 s
    have herased : s.extent = (d.layout.setExtent o none).extent := by
      funext j
      refine Eq.trans ?_ (Function.update_apply _ _ _ _).symm
      show ((d.shell.outputs.erase o).get? j).map (·.area.size) = _
      rw [Roster.get?_erase]
      split <;> rfl
    have hcalm : d.host.Calm (d.host.destroyView output.background) := .of_record rfl rfl rfl
    have hstep : Layout.Step direct d.layout { d.layout.setExtent o none with stance := _ } :=
      .removeOutput o (stance_foldl_outputGone o output.signal.drain.1 s)
    refine .single ?_
    convert hstep using 1
    exact Layout.ext rfl (hsteady.extent.trans herased) rfl hcalm.createdSurfaces
      (congrArg Config.enforceRootFullscreen hsteady.config)

/-! ## Actions -/

/-- The action announces the window `w` that it makes below itself. -/
def BelowItself (d : Desktop) (a : Action) (w : WindowId) : Prop :=
  ∃ surface appId, a = .event (.windowAdded surface appId (some w)) ∧ (d.act a).1 = .window w

/-- A window that an action announces below itself is new, and is made and not placed. -/
theorem BelowItself.layout {a : Action} (h : d.BelowItself a w) :
    d.layout.stance w = none ∧ ∃ surface, (d.act a).2.layout = d.layout.create w surface := by
  obtain ⟨surface, appId, rfl, hreply⟩ := h
  obtain ⟨hw, hmade⟩ := windowAdded_below_itself_layout (ok_of_ofWindow hreply)
  exact ⟨hw, surface, hmade⟩

/-- An event that does not fault takes steps, unless it announces a window below itself. -/
theorem dispatch_steps (h : Reached config d) (e : Event)
    (ok : ∀ fault, (d.dispatch e).1 ≠ .fault fault) (hb : ∀ w, ¬ d.BelowItself (.event e) w) :
    Layout.Steps direct d.layout (d.dispatch e).2.layout := by
  cases e with
  | windowAdded surface appId parent =>
    refine d.windowAdded_steps h.sound surface appId parent fun w hw hmade => ?_
    subst hw
    exact hb w ⟨surface, appId, rfl, congrArg Reply.ofWindow hmade⟩
  | windowRemoved w => exact d.windowRemoved_steps w
  | windowCommitted w commit => exact .of_eq (d.windowCommitted_layout w commit)
  | parentChanged w parent => exact d.setParent_steps w parent
  | fullscreenRequested w fullscreen o => exact d.fullscreenRequested_steps w fullscreen o
  | maximizeRequested w maximized => exact d.maximizeRequested_steps w maximized
  | minimizeRequested w => exact .refl
  | resizeRequested w => exact .refl
  | moveRequested w seat request => exact .of_eq (d.moveRequested_aside w seat request).layout
  | xwaylandPositionSet w at_ => exact .of_eq (modifyWindow_layout (fun _ => by rfl) d w)
  | appIdChanged w appId => exact .of_eq (modifyWindow_layout (fun _ => by rfl) d w)
  | outputAdded handle name area => exact d.outputAdded_steps h.sound handle name area
  | outputRemoved o => exact d.outputRemoved_steps o
  | outputResized o area =>
    have hnone : (d.outputResized o area).1 = none := by
      cases hfault : (d.outputResized o area).1 with
      | none => rfl
      | some fault => exact absurd (congrArg Reply.ofFault hfault) (ok fault)
    exact outputResized_steps h.mem_stacking o area hnone
  | outputMoved o delta => exact .of_eq (d.outputMoved_layout o delta)
  | seatAdded handle name hasKeyboard => exact .of_eq rfl
  | seatCapabilitiesChanged seat hasKeyboard => exact .of_eq rfl
  | seatRemoved seat => exact .of_eq (d.seatRemoved_aside seat).layout
  | keyboardFocusChanged seat focus => exact .of_eq (d.keyboardFocusChanged_aside seat focus).layout
  | pointerButton seat button focus defaultGrab =>
    exact .of_eq (d.pointerButton_layout seat button focus defaultGrab)
  | touchDown seat focus defaultGrab => exact .of_eq (d.touchDown_layout seat focus defaultGrab)
  | grabMotion seat location => exact .of_eq (d.grabMotion_layout seat location)
  | grabReleased seat => exact .of_eq (d.endGrab_aside seat).layout

/-- An event takes steps, or makes a window that it announces below itself. -/
theorem dispatch_steps_or_create (h : Reached config d) (e : Event)
    (ok : ∀ fault, (d.dispatch e).1 ≠ .fault fault) :
    Layout.Steps direct d.layout (d.dispatch e).2.layout ∨
      ∃ w surface, d.BelowItself (.event e) w ∧ d.layout.stance w = none ∧
        (d.dispatch e).2.layout = d.layout.create w surface := by
  by_cases hb : ∃ w, d.BelowItself (.event e) w
  · obtain ⟨w, hb⟩ := hb
    obtain ⟨hw, surface, hmade⟩ := hb.layout
    exact .inr ⟨w, surface, hb, hw, hmade⟩
  · exact .inl (d.dispatch_steps h e ok (not_exists.1 hb))

theorem call_steps (d : Desktop) (c : Call) : Layout.Steps True d.layout (d.call c).2.layout := by
  cases c with
  | createWindow surface appId =>
    cases hf : d.host.failNextView with
    | true => exact .of_eq (createWindow_refused_layout hf surface appId)
    | false =>
      obtain ⟨w, -, hw, he⟩ := createWindow_made_layout hf surface appId
      show Layout.Steps True d.layout (d.createWindow surface appId).2.layout
      rw [he]
      exact .single (.create trivial hw surface)
  | destroyWindow w => exact d.destroyWindow_steps w
  | setParent w parent => exact d.setParent_steps w parent
  | setOutput w o =>
    show Layout.Steps True d.layout (d.setOutput w o).layout
    cases hw : d.layout.stance w with
    | none => rw [setOutput, update, Shell.setOutput_of_not_live (not_live_of_stance hw)]
    | some r =>
      rw [setOutput_layout hw]
      exact .single (.rebind trivial hw _)
  | setFullscreen w o => exact d.setFullscreen_steps w o
  | setMaximized w => exact setMaximized_steps (.inl trivial)
  | setNormal w => exact setNormal_steps (.inl trivial)
  | focusSeat seat w => exact .of_eq (d.focusSeat_aside seat w).layout
  | activateWindow seat w => exact .of_eq (d.activateWindow_layout seat w)

end Desktop

/-! ## Runs -/

/-- On a fresh desktop no window stands anywhere. -/
theorem Desktop.stance_fresh (config : Config) (w : WindowId) :
    (fresh config).layout.stance w = none :=
  congrArg (Option.map Window.stance) (Arena.get?_empty w)

/-- What holds of the layout of a fresh desktop and is kept by every step holds of all reachable
ones. -/
theorem Reached.of_steps {P : Layout → Prop} (fresh : P (Desktop.fresh config).layout)
    (step : ∀ {L L'}, P L → Layout.Step True L L' → P L') (h : Reached config d) : P d.layout := by
  induction h with
  | fresh => exact fresh
  | @act d a h ok ih =>
    have hsteps : Layout.Steps True d.layout (d.act a).2.layout := by
      cases a with
      | event e =>
        rcases d.dispatch_steps_or_create h e ok with hsteps | ⟨w, surface, -, hw, hmade⟩
        · exact hsteps
        · rw [show (d.act (.event e)).2.layout = _ from hmade]
          exact .single (.create trivial hw surface)
      | call c => exact d.call_steps c
      | switch s => exact .of_eq (d.switch_aside s).layout
    exact hsteps.keep ih step

/-- Likewise for what events lead to, where the only other steps are those of windows that are
announced below themselves. -/
theorem Dispatched.of_steps {P : Layout → Prop} (fresh : P (Desktop.fresh config).layout)
    (step : ∀ {L L'}, P L → Layout.Step False L L' → P L')
    (create : ∀ {L w surface}, P L → L.stance w = none → P (L.create w surface))
    (h : Dispatched config d) : P d.layout := by
  induction h with
  | fresh => exact fresh
  | @event d e h ok ih =>
    rcases d.dispatch_steps_or_create h.reached e ok with hsteps | ⟨w, surface, -, hw, hmade⟩
    · exact hsteps.keep ih step
    · rw [hmade]
      exact create ih hw
  | switch s h ih =>
    rw [(Desktop.switch_aside _ s).layout]
    exact ih

end Kiosk
