import Kiosk.Proofs.Steady

/-!
# Views and where they are

Windows and outputs own one view each. The host numbers views upwards, so a new
view is nobody's yet, and the views in use stay distinct: what the host is told
about one moves no other. That carries the invariant `Viewed`, by which the
position in a mapped window's record is where the host has its view.
-/

namespace Kiosk

/-- What a window's record has to do with where it is shown. -/
def Window.pose (window : Window) : ViewHandle × Bool × Point :=
  (window.view, window.mapped, window.position)

/-- The view a live record owns: that of a window, or the background of an output. -/
def Shell.viewOf (s : Shell) : Target → Option ViewHandle
  | .window w => (s.windows.get? w).map Window.view
  | .output o => (s.outputs.get? o).map Output.background

namespace Desktop

variable {d d' d'' : Desktop} {w : WindowId} {o : OutputId} {seat : SeatId} {t : Target}
  {view : ViewHandle} {config : Config}

/-- Views in use are distinct and were handed out by the host, and mapped windows are where their
records say. -/
structure Viewed (d : Desktop) : Prop where
  owned : ∀ t u v, d.shell.viewOf t = some v → d.shell.viewOf u = some v → t = u
  numbered : ∀ t v, d.shell.viewOf t = some v → v.number ≤ d.host.lastView
  shown : ∀ w r, d.shell.windows.get? w = some r → r.mapped →
    d.host.viewPositions.get? r.view = some r.position

/-! ## Changes that move no window -/

/-- Records that stay keep their views, and no view of a window moves. -/
structure Unmoved (d d' : Desktop) : Prop where
  windows : ∀ x r', d'.shell.windows.get? x = some r' →
    ∃ r, d.shell.windows.get? x = some r ∧ r.pose = r'.pose
  outputs : ∀ o q', d'.shell.outputs.get? o = some q' →
    ∃ q, d.shell.outputs.get? o = some q ∧ q.background = q'.background
  lastView : d'.host.lastView = d.host.lastView
  positions : ∀ x r', d'.shell.windows.get? x = some r' →
    d'.host.viewPositions.get? r'.view = d.host.viewPositions.get? r'.view

namespace Unmoved

theorem trans (h : Unmoved d d') (h' : Unmoved d' d'') : Unmoved d d'' where
  windows x r'' hr'' := by
    obtain ⟨r', hr', hp'⟩ := h'.windows x r'' hr''
    obtain ⟨r, hr, hp⟩ := h.windows x r' hr'
    exact ⟨r, hr, hp.trans hp'⟩
  outputs o q'' hq'' := by
    obtain ⟨q', hq', hb'⟩ := h'.outputs o q'' hq''
    obtain ⟨q, hq, hb⟩ := h.outputs o q' hq'
    exact ⟨q, hq, hb.trans hb'⟩
  lastView := h'.lastView.trans h.lastView
  positions x r'' hr'' := by
    obtain ⟨r', hr', hp'⟩ := h'.windows x r'' hr''
    have hview : r'.view = r''.view := congrArg Prod.fst hp'
    rw [h'.positions x r'' hr'', ← hview]
    exact h.positions x r' hr'

/-- All records stay, and the host is told nothing about views. -/
theorem of_map
    (hw : ∀ x, (d'.shell.windows.get? x).map Window.pose = (d.shell.windows.get? x).map Window.pose)
    (ho : ∀ o, (d'.shell.outputs.get? o).map Output.background =
      (d.shell.outputs.get? o).map Output.background)
    (hl : d'.host.lastView = d.host.lastView)
    (hp : d'.host.viewPositions = d.host.viewPositions) : Unmoved d d' where
  windows x _ hr' := exists_of_map_eq (hw x) hr'
  outputs o _ hq' := exists_of_map_eq (ho o) hq'
  lastView := hl
  positions x r' _ := by rw [hp]

/-- The host alone is told something. -/
theorem of_host {h : Host} (hl : h.lastView = d.host.lastView)
    (hp : h.viewPositions = d.host.viewPositions) : Unmoved d ⟨d.shell, h⟩ :=
  of_map (fun _ => rfl) (fun _ => rfl) hl hp

theorem refl (d : Desktop) : Unmoved d d := of_host rfl rfl

/-- The host is told about a view that is no window's. -/
theorem of_view {h : Host} (view : ViewHandle)
    (hv : ∀ x r, d.shell.windows.get? x = some r → r.view ≠ view)
    (hl : h.lastView = d.host.lastView)
    (hp : ∀ v, v ≠ view → h.viewPositions.get? v = d.host.viewPositions.get? v) :
    Unmoved d ⟨d.shell, h⟩ where
  windows _ r hr := ⟨r, hr, rfl⟩
  outputs _ q hq := ⟨q, hq, rfl⟩
  lastView := hl
  positions x r hr := hp _ (hv x r hr)

end Unmoved

theorem Wane.unmoved (h : Wane d d') : Unmoved d d' where
  windows x r' hr' := by
    obtain ⟨r, hr, hs⟩ := h.windows x r' hr'
    have hpose : r.still.pose = r'.still.pose := congrArg Window.pose hs
    exact ⟨r, hr, hpose⟩
  outputs o q' hq' := by
    obtain ⟨q, hq, hs⟩ := exists_of_map_eq (h.outputs o) hq'
    have hbackground : q.still.background = q'.still.background := congrArg Output.background hs
    exact ⟨q, hq, hbackground⟩
  lastView := by
    have hlast : d'.host.still.lastView = d.host.still.lastView :=
      congrArg Host.lastView h.host.still
    exact hlast
  positions x r' _ := by
    have hpositions : d'.host.still.viewPositions = d.host.still.viewPositions :=
      congrArg Host.viewPositions h.host.still
    rw [show d'.host.viewPositions = d.host.viewPositions from hpositions]

theorem modifyWindow_unmoved {f : Window → Window} (hf : ∀ r, (f r).pose = r.pose) (d : Desktop)
    (w : WindowId) : Unmoved d (d.update (·.modifyWindow w f)) :=
  .of_map (Shell.map_modifyWindow Window.pose hf d.shell w) (fun _ => rfl) rfl rfl

theorem releaseFocus_unmoved (d : Desktop) (seat : SeatId) : Unmoved d (d.releaseFocus seat) := by
  unfold releaseFocus
  split
  · exact .refl d
  · next link _ =>
    have hseat : Unmoved d (d.update (·.modifySeat seat ({ · with focused := none }))) :=
      .of_map (fun _ => rfl) (fun _ => rfl) rfl rfl
    dsimp only
    split
    · exact hseat
    · next window _ =>
      have hunwatch := (hseat.trans (modifyWindow_unmoved
        (f := fun r => { r with signal := r.signal.unsubscribe link.token }) (fun _ => rfl) _
        link.source)).trans (modifyWindow_unmoved
        (f := ({ · with focusCount := window.focusCount - 1 })) (fun _ => rfl) _ link.source)
      split
      · exact hunwatch.trans (.of_host rfl rfl)
      · exact hunwatch

theorem takeFocus_unmoved (d : Desktop) (seat : SeatId) (w : WindowId) :
    Unmoved d (d.takeFocus seat w) := by
  unfold takeFocus
  cases hw : d.shell.windows.get? w with
  | none => exact .refl d
  | some window =>
    obtain ⟨s', he, rfl, -⟩ := Shell.watchWindow_of_live hw (.seatFocus seat)
    rw [he]
    have hwatch := (modifyWindow_unmoved
      (f := ({ · with signal := (window.signal.subscribe (.seatFocus seat)).2 })) (fun _ => rfl) d
      w).trans (modifyWindow_unmoved (f := ({ · with focusCount := window.focusCount + 1 }))
      (fun _ => rfl) _ w)
    show Unmoved d (Desktop.update (if _ then _ else _) _)
    split
    · exact hwatch.trans (.of_map (fun _ => rfl) (fun _ => rfl) rfl rfl)
    · exact hwatch.trans (.of_map (fun _ => rfl) (fun _ => rfl) rfl rfl)

theorem keyboardFocusChanged_unmoved (d : Desktop) (seat : SeatId) (focus : Option WindowId) :
    Unmoved d (d.keyboardFocusChanged seat focus) :=
  keyboardFocusChanged_cases (P := Unmoved d) seat focus (.refl d) (d.releaseFocus_unmoved seat)
    fun w _ _ _ => (d.releaseFocus_unmoved seat).trans (takeFocus_unmoved _ seat w)

theorem modifyArea_unmoved (d : Desktop) (o : OutputId) (area : Rect) :
    Unmoved d (d.update (·.modifyOutput o ({ · with area }))) := by
  refine .of_map (fun _ => rfl) (fun j => ?_) rfl rfl
  refine (congrArg (Option.map Output.background) (d.shell.get?_modifyOutput o j _)).trans ?_
  split
  · next hj =>
    rw [hj, Option.map_map]
    rfl
  · rfl

theorem endGrab_unmoved (d : Desktop) (seat : SeatId) : Unmoved d (d.update (·.endGrab seat)) := by
  show Unmoved d ⟨d.shell.endGrab seat, d.host⟩
  unfold Shell.endGrab
  split
  · exact .refl d
  · next grab _ =>
    exact .of_map (Shell.map_modifyWindow Window.pose (fun _ => by rfl) _ grab.window.source)
      (fun _ => rfl) rfl rfl

theorem seatRemoved_unmoved (d : Desktop) (seat : SeatId) : Unmoved d (d.seatRemoved seat) :=
  ((d.releaseFocus_unmoved seat).trans (endGrab_unmoved _ seat)).trans
    (.of_map (fun _ => rfl) (fun _ => rfl) rfl rfl)

theorem moveRequested_unmoved (d : Desktop) (w : WindowId) (seat : SeatId) (request : MoveRequest) :
    Unmoved d (d.update fun s => (s.moveRequested w seat request).2) := by
  show Unmoved d ⟨(d.shell.moveRequested w seat request).2, d.host⟩
  unfold Shell.moveRequested
  split
  · next window _ _ hw _ =>
    split
    · exact .refl d
    · obtain ⟨s', he, rfl, -⟩ := Shell.watchWindow_of_live hw (.grab seat)
      rw [he]
      exact .of_map (Shell.map_modifyWindow Window.pose (fun _ => by rfl) d.shell w) (fun _ => rfl)
        rfl rfl
  · exact .refl d

/-! ## Changes that keep the invariant -/

namespace Viewed

/-- A view the host has yet to hand out is nobody's. -/
theorem viewOf_ne (h : Viewed d) (hv : d.host.lastView < view.number) (t : Target) :
    d.shell.viewOf t ≠ some view := by
  intro ht
  have := h.numbered t view ht
  omega

/-- Other windows own other views. -/
theorem view_ne {window r : Window} {x : WindowId} (h : Viewed d)
    (hw : d.shell.windows.get? w = some window) (hx : d.shell.windows.get? x = some r)
    (hne : x ≠ w) : r.view ≠ window.view := by
  intro hsame
  have howned := h.owned (.window x) (.window w) r.view
    (congrArg (Option.map Window.view) hx)
    ((congrArg (Option.map Window.view) hw).trans (congrArg some hsame.symm))
  exact hne (Target.window.inj howned)

/-- Backgrounds are no windows' views. -/
theorem view_ne_background {output : Output} {r : Window} {x : WindowId} (h : Viewed d)
    (ho : d.shell.outputs.get? o = some output) (hx : d.shell.windows.get? x = some r) :
    r.view ≠ output.background := by
  intro hsame
  have howned := h.owned (.window x) (.output o) r.view
    (congrArg (Option.map Window.view) hx)
    ((congrArg (Option.map Output.background) ho).trans (congrArg some hsame.symm))
  cases howned

theorem unmoved (h : Viewed d) (hu : Unmoved d d') : Viewed d' := by
  have hviews {t : Target} {v : ViewHandle} (ht : d'.shell.viewOf t = some v) :
      d.shell.viewOf t = some v := by
    cases t with
    | window x =>
      obtain ⟨r', hr', rfl⟩ := Option.map_eq_some_iff.1 ht
      obtain ⟨r, hr, hpose⟩ := hu.windows x r' hr'
      exact (congrArg (Option.map Window.view) hr).trans
        (congrArg (fun pose => some (Prod.fst pose)) hpose)
    | output o =>
      obtain ⟨q', hq', rfl⟩ := Option.map_eq_some_iff.1 ht
      obtain ⟨q, hq, hb⟩ := hu.outputs o q' hq'
      exact (congrArg (Option.map Output.background) hq).trans (congrArg some hb)
  refine ⟨fun t u v ht hu => h.owned t u v (hviews ht) (hviews hu), fun t v ht => ?_,
    fun x r' hr' hm => ?_⟩
  · rw [hu.lastView]
    exact h.numbered t v (hviews ht)
  · obtain ⟨r, hr, hpose⟩ := hu.windows x r' hr'
    have hview : r.view = r'.view := congrArg Prod.fst hpose
    have hmapped : r.mapped = r'.mapped := congrArg (fun pose => pose.2.1) hpose
    have hposition : r.position = r'.position := congrArg (fun pose => pose.2.2) hpose
    rw [hu.positions x r' hr', ← hview, ← hposition]
    exact h.shown x r hr (hmapped.trans hm)

/-- The record `t` owns the next view, and no other record changed hands. -/
theorem fresh (h : Viewed d) (hl : d'.host.lastView = d.host.lastView + 1)
    (ht : d'.shell.viewOf t = some ⟨d.host.lastView + 1⟩)
    (hviews : ∀ u, u ≠ t → d'.shell.viewOf u = d.shell.viewOf u)
    (hshown : ∀ x r, d'.shell.windows.get? x = some r → r.mapped →
      d'.host.viewPositions.get? r.view = some r.position) : Viewed d' := by
  have hfresh (u : Target) : d.shell.viewOf u ≠ some ⟨d.host.lastView + 1⟩ :=
    h.viewOf_ne (Nat.lt_succ_self _) u
  refine ⟨fun u u' v hu hu' => ?_, fun u v hu => ?_, hshown⟩
  · by_cases hut : u = t
    · by_cases hut' : u' = t
      · rw [hut, hut']
      · rw [hut, ht] at hu
        rw [hviews u' hut', ← hu] at hu'
        exact absurd hu' (hfresh u')
    · by_cases hut' : u' = t
      · rw [hut', ht] at hu'
        rw [hviews u hut, ← hu'] at hu
        exact absurd hu (hfresh u)
      · rw [hviews u hut] at hu
        rw [hviews u' hut'] at hu'
        exact h.owned u u' v hu hu'
  · rw [hl]
    by_cases hut : u = t
    · rw [hut, ht] at hu
      cases hu
      exact Nat.le_refl _
    · rw [hviews u hut] at hu
      exact Nat.le_succ_of_le (h.numbered u v hu)

/-- The record of one window changes, but for the view it owns. -/
theorem of_window {window : Window} (window' : Window) (h : Viewed d)
    (hw : d.shell.windows.get? w = some window) (hv : window'.view = window.view)
    (hget : ∀ x, d'.shell.windows.get? x =
      if x = w then some window' else d.shell.windows.get? x)
    (ho : d'.shell.outputs = d.shell.outputs) (hl : d'.host.lastView = d.host.lastView)
    (hother : ∀ v, v ≠ window.view → d'.host.viewPositions.get? v = d.host.viewPositions.get? v)
    (hp : window'.mapped → d'.host.viewPositions.get? window.view = some window'.position) :
    Viewed d' := by
  have hviews (t : Target) : d'.shell.viewOf t = d.shell.viewOf t := by
    cases t with
    | window x =>
      refine (congrArg (Option.map Window.view) (hget x)).trans ?_
      split
      · next hx =>
        rw [hx]
        exact (congrArg some hv).trans (congrArg (Option.map Window.view) hw).symm
      · rfl
    | output o =>
      show (d'.shell.outputs.get? o).map _ = _
      rw [ho]
      rfl
  refine ⟨fun t u v ht hu => h.owned t u v (hviews t ▸ ht) (hviews u ▸ hu), fun t v ht => ?_,
    fun x r hr hm => ?_⟩
  · rw [hviews] at ht
    rw [hl]
    exact h.numbered t v ht
  · rw [hget] at hr
    split at hr
    · cases hr
      rw [hv]
      exact hp hm
    · next hx =>
      rw [hother _ (h.view_ne hw hr hx)]
      exact h.shown x r hr hm

theorem moveView (h : Viewed d) (w : WindowId) (at_ : Point) : Viewed (d.moveView w at_) := by
  cases hw : d.shell.windows.get? w with
  | none =>
    rw [Desktop.moveView, hw]
    exact h
  | some window =>
    have hpositions := viewPositions_moveView hw at_
    refine h.of_window { window with position := at_ } hw rfl (get?_moveView hw at_) ?_ ?_
      (fun v hv => ?_) fun _ => ?_
    · rw [Desktop.moveView, hw]
      rfl
    · rw [Desktop.moveView, hw]
      rfl
    · rw [hpositions, Assoc.get?_insert, if_neg hv]
    · rw [hpositions, Assoc.get?_insert, if_pos rfl]

theorem mapWindow {window : Window} (h : Viewed d) (hw : d.shell.windows.get? w = some window)
    (hp : d.host.viewPositions.get? window.view = some window.position) :
    Viewed (d.mapWindow w window.view) :=
  h.of_window { window with mapped := true } hw rfl (get?_mapWindow hw window.view) rfl rfl
    (fun _ _ => rfl) fun _ => hp

theorem createWindow (h : Viewed d) (surface : SurfaceHandle) (appId : Option String) :
    Viewed (d.createWindow surface appId).2 := by
  cases hf : d.host.failNextView with
  | true =>
    rw [createWindow_refused hf]
    exact h.unmoved (.of_host rfl rfl)
  | false =>
    rw [createWindow_made hf]
    have hget := Arena.get?_insert d.shell.windows
      (.ofSurface surface ⟨d.host.lastView + 1⟩ appId)
    refine h.fresh (t := .window
      (d.shell.windows.insert (.ofSurface surface ⟨d.host.lastView + 1⟩ appId)).1)
      rfl ?_ (fun u hu => ?_) fun x r hr hm => ?_
    · refine (congrArg (Option.map Window.view) (hget _)).trans ?_
      rw [if_pos rfl]
      rfl
    · cases u with
      | window x =>
        refine (congrArg (Option.map Window.view) (hget x)).trans ?_
        rw [if_neg (by simpa using hu)]
        rfl
      | output o => rfl
    · have hr := (hget x).symm.trans hr
      split at hr
      · cases hr
        cases hm
      · exact h.shown x r hr hm

/-- The host puts the next view somewhere, which no window's view is. -/
theorem view_ne_fresh (h : Viewed d) {x : WindowId} {r : Window}
    (hr : d.shell.windows.get? x = some r) : r.view ≠ ⟨d.host.lastView + 1⟩ := by
  intro hsame
  exact h.viewOf_ne (Nat.lt_succ_self _) (.window x)
    ((congrArg (Option.map Window.view) hr).trans (congrArg some hsame))

theorem outputAdded (h : Viewed d) (handle : OutputHandle) (name : String) (area : Rect) :
    Viewed (d.outputAdded handle name area).2 := by
  rw [Desktop.outputAdded]
  cases hf : d.host.failNextView with
  | true =>
    rw [createBackground_refused hf]
    exact h.unmoved (.of_host rfl rfl)
  | false =>
    rw [createBackground_made hf]
    have hget := Roster.get?_insert d.shell.outputs (.ofHandle handle name area
      ((d.shell.config.outputAppIds name).elim .none AppIds.ofText) ⟨d.host.lastView + 1⟩)
    refine h.fresh (t := .output (d.shell.outputs.insert (.ofHandle handle name area
      ((d.shell.config.outputAppIds name).elim .none AppIds.ofText) ⟨d.host.lastView + 1⟩)).1)
      rfl ?_ (fun u hu => ?_) fun x r hr hm => ?_
    · refine (congrArg (Option.map Output.background) (hget _)).trans ?_
      rw [if_pos rfl]
      rfl
    · cases u with
      | window x => rfl
      | output o =>
        refine (congrArg (Option.map Output.background) (hget o)).trans ?_
        rw [if_neg (by simpa using hu)]
        rfl
    · show (d.host.viewPositions.insert _ _).get? r.view = _
      rw [Assoc.get?_insert, if_neg (h.view_ne_fresh hr)]
      exact h.shown x r hr hm

theorem renewBackground {output output' : Output} (h : Viewed d)
    (ho : d.shell.outputs.get? o = some output') (hb : output'.background = output.background)
    (area : Rect) : Viewed (d.renewBackground o output area) := by
  have hother {x : WindowId} {r : Window} (hr : d.shell.windows.get? x = some r) :
      r.view ≠ output.background := hb ▸ h.view_ne_background ho hr
  rw [Desktop.renewBackground]
  cases hf : d.host.failNextView with
  | true =>
    rw [createBackground_refused hf]
    refine h.unmoved (.of_view output.background (fun x r hr => hother hr) rfl fun v hv => ?_)
    show (d.host.viewPositions.insert _ _).get? v = _
    rw [Assoc.get?_insert, if_neg hv]
  | false =>
    rw [createBackground_made hf]
    have hget (j : OutputId) := d.shell.get?_modifyOutput o j
      ({ · with background := ⟨d.host.lastView + 1⟩ })
    refine h.fresh (t := .output o) rfl ?_ (fun u hu => ?_) fun x r hr hm => ?_
    · refine (congrArg (Option.map Output.background) (hget o)).trans ?_
      rw [if_pos rfl, ho]
      rfl
    · cases u with
      | window x => rfl
      | output j =>
        refine (congrArg (Option.map Output.background) (hget j)).trans ?_
        rw [if_neg (by simpa using hu)]
        rfl
    · show ((d.host.viewPositions.insert _ _).erase _).get? r.view = _
      rw [Assoc.get?_erase, if_neg (hother hr), Assoc.get?_insert, if_neg (h.view_ne_fresh hr)]
      exact h.shown x r hr hm

theorem destroyWindow (h : Viewed d) (w : WindowId) : Viewed (d.destroyWindow w) := by
  cases hw : d.shell.windows.get? w with
  | none =>
    rw [Desktop.destroyWindow, hw]
    exact h
  | some window =>
    obtain ⟨d₁, hwane, hgone, he⟩ := destroyWindow_eq hw
    have herased : Unmoved d (d.erased w window) := by
      refine ⟨fun x r hr => ⟨r, ?_, rfl⟩, fun o q hq => ⟨q, hq, rfl⟩, rfl, fun _ _ _ => rfl⟩
      rw [get?_erased] at hr
      split at hr
      · cases hr
      · exact hr
    have hunmoved := herased.trans hwane.unmoved
    rw [he]
    refine (h.unmoved hunmoved).unmoved (.of_view window.view (fun x r' hr' => ?_) rfl
      fun v hv => ?_)
    · obtain ⟨r, hr, hpose⟩ := hunmoved.windows x r' hr'
      have hview : r.view = r'.view := congrArg Prod.fst hpose
      rw [← hview]
      refine h.view_ne hw hr ?_
      rintro rfl
      cases hgone.symm.trans (Option.isSome_iff_exists.2 ⟨r', hr'⟩)
    · show (d₁.host.viewPositions.erase _).get? v = _
      rw [Assoc.get?_erase, if_neg hv]

theorem outputRemoved (h : Viewed d) (o : OutputId) : Viewed (d.outputRemoved o) := by
  cases ho : d.shell.outputs.get? o with
  | none =>
    rw [Desktop.outputRemoved, ho]
    exact h
  | some output =>
    have hsteady := foldl_outputGone_steady o output.signal.drain.1
      { d.shell with outputs := d.shell.outputs.erase o }
    rw [Desktop.outputRemoved, ho]
    show Viewed ⟨output.signal.drain.1.foldl (outputGone o)
      { d.shell with outputs := d.shell.outputs.erase o }, d.host.destroyView output.background⟩
    generalize output.signal.drain.1.foldl (outputGone o)
      { d.shell with outputs := d.shell.outputs.erase o } = s at hsteady
    have hunmoved : Unmoved d ⟨s, d.host⟩ := by
      refine ⟨fun x _ hr' => ?_, fun j q' hq' => ?_, rfl, fun _ _ _ => rfl⟩
      · exact exists_of_map_eq (hsteady.map_eq Window.pose (fun _ => rfl) x) hr'
      · obtain ⟨q, hq, hs⟩ := exists_of_map_eq (hsteady.outputs j) hq'
        have hbackground : q.still.background = q'.still.background :=
          congrArg Output.background hs
        refine ⟨q, ?_, hbackground⟩
        rw [Roster.get?_erase] at hq
        split at hq
        · cases hq
        · exact hq
    refine (h.unmoved hunmoved).unmoved (.of_view output.background
      (fun x r' hr' => ?_) rfl fun v hv => ?_)
    · obtain ⟨r, hr, hpose⟩ := hunmoved.windows x r' hr'
      have hview : r.view = r'.view := congrArg Prod.fst hpose
      rw [← hview]
      exact h.view_ne_background ho hr
    · show (d.host.viewPositions.erase _).get? v = _
      rw [Assoc.get?_erase, if_neg hv]

end Viewed

theorem fresh_viewed (config : Config) : Viewed (.fresh config) := by
  have hnone (t : Target) : (Desktop.fresh config).shell.viewOf t = none := by
    cases t with
    | window w => exact congrArg (Option.map Window.view) (Arena.get?_empty w)
    | output o => exact congrArg (Option.map Output.background) (Roster.get?_empty o)
  refine ⟨fun t u v ht => ?_, fun t v ht => ?_, fun w r hr => ?_⟩
  · rw [hnone] at ht
    cases ht
  · rw [hnone] at ht
    cases ht
  · cases (Arena.get?_empty w).symm.trans hr

end Desktop

open Desktop

variable {config : Config} {d d' : Desktop}

/-- What one move keeps. -/
theorem Move.viewed (h : d.Viewed) (hm : Move d d') : d'.Viewed := by
  cases hm with
  | settle hsettling => exact h.unmoved hsettling.steady.wane.unmoved
  | detach w => exact h.unmoved (update_steady (d.shell.detach_steady w)).wane.unmoved
  | @adopt w p _ _ _ =>
    have hsteady := (d.shell.detach_steady w).trans (Shell.attach_steady _ w p)
    exact h.unmoved (update_steady hsteady).wane.unmoved
  | create surface appId => exact h.createWindow surface appId
  | destroy w => exact h.destroyWindow w
  | note w f hf => exact h.unmoved (modifyWindow_unmoved (fun r => by rw [hf r]; rfl) d w)
  | moveView w at_ => exact h.moveView w at_
  | map hw _ hp => exact h.mapWindow hw hp
  | raise _ _ => exact h.unmoved (.of_map (fun _ => rfl) (fun _ => rfl) rfl rfl)
  | tellSize _ _ => exact h.unmoved (.of_host rfl rfl)
  | addSeat handle name hasKeyboard =>
    exact h.unmoved (.of_map (fun _ => rfl) (fun _ => rfl) rfl rfl)
  | setHasKeyboard seat hasKeyboard =>
    exact h.unmoved (.of_map (fun _ => rfl) (fun _ => rfl) rfl rfl)
  | tellFocus _ _ => exact h.unmoved (.of_host rfl rfl)
  | focus seat focus => exact h.unmoved (d.keyboardFocusChanged_unmoved seat focus)
  | removeSeat seat => exact h.unmoved (d.seatRemoved_unmoved seat)
  | grab w seat request => exact h.unmoved (d.moveRequested_unmoved w seat request)
  | endGrab seat => exact h.unmoved (d.endGrab_unmoved seat)
  | addOutput handle name area => exact h.outputAdded handle name area
  | removeOutput o => exact h.outputRemoved o
  | @renewOutput o output ho area =>
    have harea := h.unmoved (d.modifyArea_unmoved o area)
    have hget := d.shell.get?_modifyOutput o o ({ · with area })
    rw [if_pos rfl, ho] at hget
    exact harea.renewBackground hget rfl area
  | @shiftOutput o output ho area =>
    have harea := h.unmoved (d.modifyArea_unmoved o area)
    refine harea.unmoved (.of_view output.background
      (fun x r hr => h.view_ne_background ho hr) rfl fun v hv => ?_)
    show (d.host.viewPositions.insert _ _).get? v = _
    rw [Assoc.get?_insert, if_neg hv]
    rfl
  | switch s =>
    refine h.unmoved (.of_host ?_ ?_)
    · cases s <;> rfl
    · cases s <;> rfl

theorem Reached.viewed (h : Reached config d) : d.Viewed :=
  h.of_moves (fresh_viewed config) Move.viewed

end Kiosk
