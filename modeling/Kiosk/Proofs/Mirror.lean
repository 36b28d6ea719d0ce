import Kiosk.Proofs.Scene

/-!
# The host's scene mirrors the shell's

On every reachable desktop the stacking order holds the mapped windows, each
once, and the host stacks just their views in the same order. Mapped windows are
where their records say, and backgrounds are at the origins of their outputs.

Shell and host both keep the order and the positions, in code of their own. What
makes them agree is that views in use are distinct (`Scene.Distinct`), so that a
change at one view is a change at one record.
-/

namespace Kiosk

open Function (update update_self update_of_ne update_apply)

/-- What an update maps to something, it was told to, or it did before. -/
theorem eq_some_of_update {κ α : Type} [DecidableEq κ] {f : κ → Option α} {k j : κ}
    {new : Option α} {a : α} (h : update f k new j = some a) :
    j = k ∧ new = some a ∨ j ≠ k ∧ f j = some a := by
  rw [update_apply] at h
  split at h
  · next hj => exact .inl ⟨hj, h⟩
  · next hj => exact .inr ⟨hj, h⟩

namespace Scene

/-- The view a record owns. -/
def views (s : Scene) : Target → Option ViewHandle
  | .window w => (s.pane w).map Pane.view
  | .output o => (s.backdrop o).map Backdrop.view

/-- Views in use are distinct, and the host has handed out no further ones. -/
structure Distinct (s : Scene) : Prop where
  owned : ∀ t u v, s.views t = some v → s.views u = some v → t = u
  numbered : ∀ t v, s.views t = some v → v.number ≤ s.lastView

/-- The view of a window. -/
def viewOf (s : Scene) (w : WindowId) : Option ViewHandle := s.views (.window w)

/-- Whether `w` is live and mapped. -/
def isMapped (s : Scene) (w : WindowId) : Bool := (s.pane w).any Pane.mapped

/-- The host stacks the views of the windows that are stacked, and backgrounds are in place. -/
structure Mirrored (s : Scene) : Prop where
  nodup : s.stacking.Nodup
  mem : ∀ w, w ∈ s.stacking ↔ s.isMapped w
  viewStack : s.viewStack = s.stacking.filterMap s.viewOf
  backdrop : ∀ o b, s.backdrop o = some b → s.position b.view = some b.loc

variable {s s' : Scene} {w x : WindowId} {o : OutputId} {r q : Pane} {b : Backdrop}

theorem views_window (hw : s.pane w = some r) : s.views (.window w) = some r.view :=
  congrArg (Option.map Pane.view) hw

theorem views_output (ho : s.backdrop o = some b) : s.views (.output o) = some b.view :=
  congrArg (Option.map Backdrop.view) ho

namespace Distinct

theorem ne {t u : Target} {v v' : ViewHandle} (h : Distinct s) (ht : s.views t = some v)
    (hu : s.views u = some v') (hne : t ≠ u) : v ≠ v' :=
  fun hview => hne (h.owned t u v ht (hview ▸ hu))

/-- A view the host has yet to hand out is nobody's. -/
theorem ne_next {t : Target} {v : ViewHandle} (h : Distinct s) (ht : s.views t = some v) :
    v ≠ s.nextView := by
  rintro rfl
  exact absurd (h.numbered t _ ht) (Nat.not_succ_le_self _)

theorem view_ne (h : Distinct s) (hw : s.pane w = some r) (hx : s.pane x = some q) (hne : x ≠ w) :
    q.view ≠ r.view :=
  h.ne (views_window hx) (views_window hw) (by simpa using hne)

theorem apart (h : Distinct s) (hw : s.pane w = some r) (ho : s.backdrop o = some b) :
    b.view ≠ r.view :=
  h.ne (views_output ho) (views_window hw) (by simp)

theorem backdrop_ne {j : OutputId} {c : Backdrop} (h : Distinct s) (ho : s.backdrop o = some b)
    (hj : s.backdrop j = some c) (hne : j ≠ o) : c.view ≠ b.view :=
  h.ne (views_output hj) (views_output ho) (by simpa using hne)

end Distinct

/-! ## Changes of one pane -/

theorem viewOf_update {p : Option Pane} (hp : s'.pane = update s.pane w p) (x : WindowId) :
    s'.viewOf x = if x = w then p.map Pane.view else s.viewOf x := by
  show (s'.pane x).map Pane.view = _
  rw [hp, update_apply]
  split <;> rfl

theorem isMapped_update {p : Option Pane} (hp : s'.pane = update s.pane w p) (x : WindowId) :
    s'.isMapped x = if x = w then p.any Pane.mapped else s.isMapped x := by
  rw [isMapped, hp, update_apply]
  split <;> rfl

/-- A change that keeps the view of a window keeps all views. -/
theorem viewOf_of_update (hw : s.pane w = some r) (hp : s'.pane = update s.pane w (some q))
    (hv : q.view = r.view) : s'.viewOf = s.viewOf := by
  funext x
  rw [viewOf_update hp]
  split
  · next hx =>
    rw [hx, viewOf, views_window hw]
    exact congrArg some hv
  · rfl

/-- The views of listed windows, when the changed one is not among them. -/
theorem filterMap_viewOf_update {p : Option Pane} (hp : s'.pane = update s.pane w p)
    {ws : List WindowId} (hw : w ∉ ws) : ws.filterMap s'.viewOf = ws.filterMap s.viewOf := by
  refine List.filterMap_congr fun x hx => ?_
  have hne : x ≠ w := fun h => hw (h ▸ hx)
  rw [viewOf_update hp, if_neg hne]

namespace Mirrored

theorem not_mem_of_none (h : Mirrored s) (hw : s.pane w = none) : w ∉ s.stacking := by
  rw [h.mem, isMapped, hw]
  simp

/-- Without its view, the stack of views is that of the other windows. -/
theorem filter_viewStack (h : Mirrored s) (hd : Distinct s) (hw : s.pane w = some r) :
    s.viewStack.filter (· ≠ r.view) = (s.stacking.filter (· ≠ w)).filterMap s.viewOf := by
  rw [h.viewStack, List.filter_filterMap, List.filterMap_filter]
  refine List.filterMap_congr fun x _ => ?_
  by_cases hxw : x = w
  · simp [hxw, viewOf, views_window hw]
  · cases hx : s.viewOf x with
    | none => simp
    | some v =>
      have hne : v ≠ r.view := hd.ne hx (views_window hw) (by simpa using hxw)
      simp [hxw, hne]

/-- A view comes on top as its window comes to the front. -/
theorem onTop (h : Mirrored s) (hd : Distinct s) (hw : s.pane w = some r) :
    r.view :: s.viewStack.filter (· ≠ r.view) =
      (w :: s.stacking.filter (· ≠ w)).filterMap s.viewOf := by
  have hview : s.viewOf w = some r.view := views_window hw
  rw [List.filterMap_cons_some hview, h.filter_viewStack hd hw]

/-- Backgrounds are not on the stack. -/
theorem filter_viewStack_backdrop (h : Mirrored s) (hd : Distinct s)
    (ho : s.backdrop o = some b) : s.viewStack.filter (· ≠ b.view) = s.viewStack := by
  refine List.filter_eq_self.2 fun v hv => ?_
  rw [h.viewStack] at hv
  obtain ⟨x, -, hx⟩ := List.mem_filterMap.1 hv
  simpa using hd.ne hx (views_output ho) (by simp)

end Mirrored

/-- What one step keeps. -/
theorem Step.mirrored (hd : Distinct s) (h : Mirrored s) (hs : Step s s') : Mirrored s' := by
  cases hs with
  | advise hadvised =>
    obtain ⟨cs, rfl, -⟩ := hadvised
    exact ⟨h.nodup, h.mem, h.viewStack, h.backdrop⟩
  | refuse surface => exact ⟨h.nodup, h.mem, h.viewStack, h.backdrop⟩
  | @create w surface hw =>
    have hnot := h.not_mem_of_none hw
    refine ⟨h.nodup, fun x => ?_, ?_, h.backdrop⟩
    · rw [isMapped_update rfl]
      split
      · next hx => simpa [hx, Scene.create] using hnot
      · exact h.mem x
    · exact h.viewStack.trans (filterMap_viewOf_update rfl hnot).symm
  | @destroy w r hw cs hcs =>
    refine ⟨h.nodup.filter _, fun x => ?_, ?_, fun o b ho => ?_⟩
    · rw [isMapped_update rfl]
      split
      · next hx => simp [hx, Scene.destroy]
      · next hx => simpa [hx, Scene.destroy] using h.mem x
    · refine (h.filter_viewStack hd hw).trans (filterMap_viewOf_update rfl ?_).symm
      simp
    · exact (update_of_ne (hd.apart hw ho) _ _).trans (h.backdrop o b ho)
  | @move w r hw at_ =>
    refine ⟨h.nodup, fun x => ?_, ?_, fun o b ho => ?_⟩
    · rw [isMapped_update rfl]
      split
      · next hx =>
        rw [hx]
        refine (h.mem w).trans ?_
        rw [isMapped, hw]
        rfl
      · exact h.mem x
    · rw [viewOf_of_update (q := { r with position := at_ }) hw rfl rfl]
      exact h.viewStack
    · exact (update_of_ne (hd.apart hw ho) _ _).trans (h.backdrop o b ho)
  | @map w r hw hm hp =>
    have hnot : w ∉ s.stacking := by
      rw [h.mem, isMapped, hw]
      simp [hm]
    refine ⟨List.nodup_cons.2 ⟨hnot, h.nodup⟩, fun x => ?_, ?_, h.backdrop⟩
    · rw [isMapped_update rfl]
      split
      · next hx => simp [hx, Scene.map]
      · next hx => simpa [hx, Scene.map] using h.mem x
    · have hfilter : s.stacking.filter (· ≠ w) = s.stacking :=
        List.filter_eq_self.2 fun x hx => by simpa using fun hxw : x = w => hnot (hxw ▸ hx)
      have htop := h.onTop hd hw
      rw [hfilter] at htop
      rw [viewOf_of_update (q := { r with mapped := true }) hw rfl rfl]
      exact htop
  | @raise w r hw hm =>
    refine ⟨List.nodup_cons.2 ⟨by simp, h.nodup.filter _⟩, fun x => ?_, h.onTop hd hw, h.backdrop⟩
    · by_cases hx : x = w
      · subst hx
        simpa [isMapped, hw, Scene.raise] using hm
      · have hmem := h.mem x
        simpa [hx, isMapped, Scene.raise] using hmem
  | @addOutput o ho handle area =>
    refine ⟨h.nodup, h.mem, h.viewStack, fun j c hj => ?_⟩
    rcases eq_some_of_update hj with ⟨-, hc⟩ | ⟨-, hj⟩
    · cases hc
      exact update_self _ _ _
    · exact (update_of_ne (hd.ne_next (views_output hj)) _ _).trans (h.backdrop j c hj)
  | @removeOutput o b ho =>
    refine ⟨h.nodup, h.mem, (h.filter_viewStack_backdrop hd ho).trans h.viewStack,
      fun j c hj => ?_⟩
    rcases eq_some_of_update hj with ⟨-, hc⟩ | ⟨hne, hj⟩
    · cases hc
    · exact (update_of_ne (hd.backdrop_ne ho hj hne) _ _).trans (h.backdrop j c hj)
  | @renewOutput o b ho handle area =>
    refine ⟨h.nodup, h.mem, (h.filter_viewStack_backdrop hd ho).trans h.viewStack,
      fun j c hj => ?_⟩
    rcases eq_some_of_update hj with ⟨-, hc⟩ | ⟨hne, hj⟩
    · cases hc
      exact (update_of_ne (hd.ne_next (views_output ho)).symm _ _).trans (update_self _ _ _)
    · refine (update_of_ne (hd.backdrop_ne ho hj hne) _ _).trans ?_
      exact (update_of_ne (hd.ne_next (views_output hj)) _ _).trans (h.backdrop j c hj)
  | @shiftOutput o b ho at_ =>
    refine ⟨h.nodup, h.mem, h.viewStack, fun j c hj => ?_⟩
    rcases eq_some_of_update hj with ⟨-, hc⟩ | ⟨hne, hj⟩
    · cases hc
      exact update_self _ _ _
    · exact (update_of_ne (hd.backdrop_ne ho hj hne) _ _).trans (h.backdrop j c hj)

end Scene

variable {config : Config} {d d' : Desktop}

theorem Desktop.views_scene (d : Desktop) : d.scene.views = d.shell.viewOf := by
  funext t
  cases t with
  | window w => exact Option.map_map _ _ _
  | output o => exact Option.map_map _ _ _

theorem Desktop.Viewed.distinct (h : d.Viewed) : d.scene.Distinct := by
  refine ⟨?_, ?_⟩
  · rw [d.views_scene]
    exact h.owned
  · rw [d.views_scene]
    exact h.numbered

theorem Desktop.fresh_mirrored (config : Config) : (Desktop.fresh config).scene.Mirrored := by
  have hpane (w : WindowId) : (Desktop.fresh config).scene.pane w = none :=
    congrArg (Option.map Window.pane) (Arena.get?_empty w)
  have hbackdrop (o : OutputId) : (Desktop.fresh config).scene.backdrop o = none :=
    congrArg (Option.map Output.backdrop) (Roster.get?_empty o)
  refine ⟨List.nodup_nil, fun w => ?_, rfl, fun o b ho => ?_⟩
  · rw [Scene.isMapped, hpane]
    simp [Desktop.scene, Desktop.fresh, Shell.fresh]
  · cases (hbackdrop o).symm.trans ho

theorem Reached.mirrored (h : Reached config d) : d.scene.Mirrored :=
  (h.of_moves (P := fun d => d.Viewed ∧ d.scene.Mirrored)
    ⟨Desktop.fresh_viewed config, Desktop.fresh_mirrored config⟩
    fun hd hm => ⟨hm.viewed hd.1, hm.scene.mirrored hd.1.distinct hd.2⟩).2

/-- The stacking order lists the mapped windows. -/
theorem Reached.mem_stacking (h : Reached config d) (w : WindowId) : w ∈ d.shell.stacking ↔
    ∃ r, d.shell.windows.get? w = some r ∧ r.mapped = true := by
  refine (h.mirrored.mem w).trans ?_
  show ((d.shell.windows.get? w).map Window.pane).any Pane.mapped = true ↔ _
  cases d.shell.windows.get? w with
  | none => simp
  | some r => simp [Window.pane]

/-! ## The result -/

/-- The host shows just the mapped windows, in the order of the records, and they and the
backgrounds where the records say. -/
structure Desktop.SceneExact (d : Desktop) : Prop where
  nodup : d.shell.stacking.Nodup
  mem : ∀ w, w ∈ d.shell.stacking ↔ ∃ r, d.shell.windows.get? w = some r ∧ r.mapped = true
  viewStack : d.host.viewStack.map some =
    d.shell.stacking.map fun w => (d.shell.windows.get? w).map Window.view
  position : ∀ w r, d.shell.windows.get? w = some r → r.mapped →
    d.host.viewPositions.get? r.view = some r.position
  background : ∀ o output, d.shell.outputs.get? o = some output →
    d.host.viewPositions.get? output.background = some output.area.loc

theorem Reached.scene_exact (h : Reached config d) : d.SceneExact := by
  have hm := h.mirrored
  have hview (w : WindowId) : d.scene.viewOf w = (d.shell.windows.get? w).map Window.view :=
    congrFun d.views_scene (.window w)
  refine ⟨hm.nodup, h.mem_stacking, ?_, h.viewed.shown, fun o output ho =>
    hm.backdrop o _ (Desktop.backdrop_eq_some ho)⟩
  have hstack : d.host.viewStack = d.shell.stacking.filterMap d.scene.viewOf := hm.viewStack
  rw [hstack, List.map_filterMap, ← List.filterMap_eq_map]
  refine List.filterMap_congr fun w hw => ?_
  obtain ⟨r, hr, -⟩ := (h.mem_stacking w).1 hw
  simp [hview, hr]

/-- The windows of a family are mapped one after the other, the one in the middle is clicked on,
and the output they are on moves. -/
def stackRun : List Action := familyRun ++
  [.event (.windowCommitted ⟨0, 1⟩ ⟨outputSize, .origin, .origin⟩),
    .event (.windowCommitted ⟨1, 1⟩ ⟨⟨800, 600, by decide, by decide⟩, .origin, .origin⟩),
    .event (.windowCommitted ⟨2, 1⟩ ⟨⟨640, 480, by decide, by decide⟩, .origin, .origin⟩),
    .event (.pointerButton ⟨0, 1⟩ 0x110 (some ⟨1, 1⟩) true),
    .event (.outputMoved ⟨0, 1⟩ ⟨100, 50⟩)]

theorem isSome_stackRun : ((Desktop.fresh .default).run stackRun).isSome := by decide +kernel

/-- The clicked window is in front of its child, and its view in front of the child's. -/
theorem scene_exact_stackRun : ∃ d, Reached .default d ∧
    d.shell.stacking = [⟨1, 1⟩, ⟨2, 1⟩, ⟨0, 1⟩] ∧ d.host.viewStack = [⟨3⟩, ⟨4⟩, ⟨2⟩] ∧
    d.host.viewPositions.get? ⟨1⟩ = some ⟨100, 50⟩ ∧ d.SceneExact := by
  have hreached : Reached .default _ := Reached.run _ .fresh (Option.some_get isSome_stackRun).symm
  exact ⟨_, hreached, by decide +kernel, by decide +kernel, by decide +kernel,
    Reached.scene_exact hreached⟩

end Kiosk
