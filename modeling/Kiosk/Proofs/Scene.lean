import Kiosk.Proofs.Aside
import Kiosk.Proofs.Views

/-!
# Scenes

What shell and host have to do with what is on screen: the views of windows and
outputs, where they are, and the commands that led to that. `Desktop.scene` reads
this off a desktop, with each record reduced to what it says about its view.

Seen so, a desktop changes in eleven ways only. `Scene.Step` lists them, with all
that each does to records and host, and every move is one of them (`Move.scene`).
So what the records and the host agree on is proved by looking at these steps,
without unfolding any operation again.
-/

namespace Kiosk

open Function (update update_self update_of_ne)

theorem Assoc.get?_insert_eq {κ α : Type} [DecidableEq κ] (m : Assoc κ α) (k : κ) (a : α) :
    (m.insert k a).get? = update m.get? k (some a) :=
  funext fun j => (m.get?_insert k j a).trans (Function.update_apply _ _ _ _).symm

theorem Assoc.get?_erase_eq {κ α : Type} [DecidableEq κ] (m : Assoc κ α) (k : κ) :
    (m.erase k).get? = update m.get? k none :=
  funext fun j => (m.get?_erase k j).trans (Function.update_apply _ _ _ _).symm

/-- What a window's record says about its view. -/
structure Pane where
  surface : SurfaceHandle
  view : ViewHandle
  mapped : Bool
  position : Point

def Window.pane (window : Window) : Pane :=
  ⟨window.surface, window.view, window.mapped, window.position⟩

/-- What an output's record says about its background. -/
structure Backdrop where
  view : ViewHandle
  loc : Point

def Output.backdrop (output : Output) : Backdrop := ⟨output.background, output.area.loc⟩

/-- Views of records, and what the host was told about them. -/
@[ext]
structure Scene where
  pane : WindowId → Option Pane
  backdrop : OutputId → Option Backdrop
  /-- The outputs, oldest first. -/
  outputs : List OutputId
  stacking : List WindowId
  userData : SurfaceHandle → Option WindowId
  liveViews : List ViewHandle
  viewStack : List ViewHandle
  position : ViewHandle → Option Point
  lastView : Nat
  log : List Command

/-- What the host remembers of the windows of surfaces and of views. -/
def Host.views (h : Host) :
    Assoc SurfaceHandle WindowId × List ViewHandle × List ViewHandle × Assoc ViewHandle Point ×
      Nat :=
  (h.userData, h.liveViews, h.viewStack, h.viewPositions, h.lastView)

/-- The scene of a desktop. -/
def Desktop.scene (d : Desktop) : Scene where
  pane w := (d.shell.windows.get? w).map Window.pane
  backdrop o := (d.shell.outputs.get? o).map Output.backdrop
  outputs := d.shell.outputs.order
  stacking := d.shell.stacking
  userData := d.host.userData.get?
  liveViews := d.host.liveViews
  viewStack := d.host.viewStack
  position := d.host.viewPositions.get?
  lastView := d.host.lastView
  log := d.host.log

namespace Scene

/-- The view the host hands out next. -/
def nextView (s : Scene) : ViewHandle := ⟨s.lastView + 1⟩

/-- Some live window shows `surface`. -/
def Bears (s : Scene) (surface : SurfaceHandle) : Prop :=
  ∃ w, (s.pane w).map Pane.surface = some surface

/-- The host was given advice only. -/
def Advised (s s' : Scene) : Prop :=
  ∃ cs, s' = { s with log := s.log ++ cs } ∧ ∀ c ∈ cs, c.Advises s.Bears

/-! ## Steps -/

/-- A client is told that its window could not be made. -/
def refuse (s : Scene) (surface : SurfaceHandle) : Scene :=
  { s with log := s.log ++ [.postNoMemory surface] }

/-- The window `w` is made for `surface`. -/
def create (s : Scene) (w : WindowId) (surface : SurfaceHandle) : Scene :=
  { s with
    pane := update s.pane w (some ⟨surface, s.nextView, false, .origin⟩)
    userData := update s.userData surface (some w)
    liveViews := s.liveViews ++ [s.nextView]
    lastView := s.lastView + 1
    log := s.log ++ [.createView surface s.nextView, .setUserData surface true] }

/-- The window `w`, shown in `r`, goes. In between the host gets the advice `cs`. -/
def destroy (s : Scene) (w : WindowId) (r : Pane) (cs : List Command) : Scene :=
  { s with
    pane := update s.pane w none
    stacking := s.stacking.filter (· ≠ w)
    userData := update s.userData r.surface none
    liveViews := s.liveViews.filter (· ≠ r.view)
    viewStack := s.viewStack.filter (· ≠ r.view)
    position := update s.position r.view none
    log := s.log ++ (.setUserData r.surface false :: cs ++ [.destroyView r.view]) }

def move (s : Scene) (w : WindowId) (r : Pane) (at_ : Point) : Scene :=
  { s with
    pane := update s.pane w (some { r with position := at_ })
    position := update s.position r.view (some at_)
    log := s.log ++ [.setViewPosition r.view at_] }

/-- A window is mapped in front of the others. -/
def map (s : Scene) (w : WindowId) (r : Pane) : Scene :=
  { s with
    pane := update s.pane w (some { r with mapped := true })
    stacking := w :: s.stacking
    viewStack := r.view :: s.viewStack.filter (· ≠ r.view)
    log := s.log ++ [.mapView r.view] }

def raise (s : Scene) (w : WindowId) (r : Pane) : Scene :=
  { s with
    stacking := w :: s.stacking.filter (· ≠ w)
    viewStack := r.view :: s.viewStack.filter (· ≠ r.view)
    log := s.log ++ [.raiseView r.view] }

def addOutput (s : Scene) (o : OutputId) (handle : OutputHandle) (area : Rect) : Scene :=
  { s with
    backdrop := update s.backdrop o (some ⟨s.nextView, area.loc⟩)
    outputs := s.outputs ++ [o]
    liveViews := s.liveViews ++ [s.nextView]
    position := update s.position s.nextView (some area.loc)
    lastView := s.lastView + 1
    log := s.log ++ [.createBackground handle s.nextView area] }

def removeOutput (s : Scene) (o : OutputId) (b : Backdrop) : Scene :=
  { s with
    backdrop := update s.backdrop o none
    outputs := s.outputs.filter (· ≠ o)
    liveViews := s.liveViews.filter (· ≠ b.view)
    viewStack := s.viewStack.filter (· ≠ b.view)
    position := update s.position b.view none
    log := s.log ++ [.destroyView b.view] }

/-- An output gets a new background, and then its old one goes. -/
def renewOutput (s : Scene) (o : OutputId) (b : Backdrop) (handle : OutputHandle) (area : Rect) :
    Scene :=
  { s with
    backdrop := update s.backdrop o (some ⟨s.nextView, area.loc⟩)
    liveViews := (s.liveViews ++ [s.nextView]).filter (· ≠ b.view)
    viewStack := s.viewStack.filter (· ≠ b.view)
    position := update (update s.position s.nextView (some area.loc)) b.view none
    lastView := s.lastView + 1
    log := s.log ++ [.createBackground handle s.nextView area, .destroyView b.view] }

/-- An output keeps its background, which moves. -/
def shiftOutput (s : Scene) (o : OutputId) (b : Backdrop) (at_ : Point) : Scene :=
  { s with
    backdrop := update s.backdrop o (some { b with loc := at_ })
    position := update s.position b.view (some at_)
    log := s.log ++ [.setViewPosition b.view at_] }

/-- One change of what is on screen. -/
inductive Step (s : Scene) : Scene → Prop
  | advise {s' : Scene} (h : Advised s s') : Step s s'
  | refuse (surface : SurfaceHandle) : Step s (s.refuse surface)
  | create {w : WindowId} (surface : SurfaceHandle) (hw : s.pane w = none) :
      Step s (s.create w surface)
  /-- The advice concerns windows that stay. -/
  | destroy {w : WindowId} {r : Pane} (hw : s.pane w = some r) {cs : List Command}
      (hcs : ∀ c ∈ cs, c.Advises ({ s with pane := update s.pane w none } : Scene).Bears) :
      Step s (s.destroy w r cs)
  | move {w : WindowId} {r : Pane} (hw : s.pane w = some r) (at_ : Point) :
      Step s (s.move w r at_)
  /-- A window is mapped once, where it was put before. -/
  | map {w : WindowId} {r : Pane} (hw : s.pane w = some r) (hm : r.mapped = false)
      (hp : s.position r.view = some r.position) : Step s (s.map w r)
  | raise {w : WindowId} {r : Pane} (hw : s.pane w = some r) (hm : r.mapped = true) :
      Step s (s.raise w r)
  | addOutput {o : OutputId} (ho : s.backdrop o = none) (handle : OutputHandle) (area : Rect) :
      Step s (s.addOutput o handle area)
  | removeOutput {o : OutputId} {b : Backdrop} (ho : s.backdrop o = some b) :
      Step s (s.removeOutput o b)
  | renewOutput {o : OutputId} {b : Backdrop} (ho : s.backdrop o = some b)
      (handle : OutputHandle) (area : Rect) : Step s (s.renewOutput o b handle area)
  | shiftOutput {o : OutputId} {b : Backdrop} (ho : s.backdrop o = some b) (at_ : Point) :
      Step s (s.shiftOutput o b at_)

variable {s s' s'' : Scene}

namespace Advised

theorem refl (s : Scene) : Advised s s := ⟨[], by simp, by simp⟩

theorem trans (h : Advised s s') (h' : Advised s' s'') : Advised s s'' := by
  obtain ⟨cs, rfl, hcs⟩ := h
  obtain ⟨cs', rfl, hcs'⟩ := h'
  refine ⟨cs ++ cs', by rw [List.append_assoc], fun c hc => ?_⟩
  exact (List.mem_append.1 hc).elim (hcs c) (hcs' c)

end Advised

end Scene

namespace Desktop

variable {d d' : Desktop} {w : WindowId} {o : OutputId} {window : Window} {output : Output}

theorem pane_eq_some (hw : d.shell.windows.get? w = some window) :
    d.scene.pane w = some window.pane :=
  congrArg (Option.map Window.pane) hw

theorem backdrop_eq_some (ho : d.shell.outputs.get? o = some output) :
    d.scene.backdrop o = some output.backdrop :=
  congrArg (Option.map Output.backdrop) ho

theorem bears_scene (d : Desktop) : d.scene.Bears = d.shell.Bears := by
  funext surface
  have hsurface (w : WindowId) : (d.scene.pane w).map Pane.surface =
      (d.shell.windows.get? w).map Window.surface := by
    show ((d.shell.windows.get? w).map Window.pane).map Pane.surface = _
    rw [Option.map_map]
    rfl
  rw [Scene.Bears, Shell.Bears]
  exact propext (exists_congr fun w => by rw [hsurface])

/-- One record changes, and it is that of `w`. -/
theorem pane_modifyWindow {s : Shell} (hw : s.windows.get? w = some window) (f : Window → Window)
    (h h' : Host) : (⟨s.modifyWindow w f, h⟩ : Desktop).scene.pane =
      Function.update (⟨s, h'⟩ : Desktop).scene.pane w (some (f window).pane) := by
  funext x
  rw [Function.update_apply]
  show ((s.modifyWindow w f).windows.get? x).map Window.pane = _
  rw [Shell.get?_modifyWindow, hw]
  split <;> rfl

theorem backdrop_modifyOutput {s : Shell} (ho : s.outputs.get? o = some output)
    (f : Output → Output) (h h' : Host) : (⟨s.modifyOutput o f, h⟩ : Desktop).scene.backdrop =
      Function.update (⟨s, h'⟩ : Desktop).scene.backdrop o (some (f output).backdrop) := by
  funext x
  rw [Function.update_apply]
  show ((s.modifyOutput o f).outputs.get? x).map Output.backdrop = _
  rw [Shell.get?_modifyOutput, ho]
  split <;> rfl

/-- A view goes. -/
theorem scene_destroyView (d : Desktop) (v : ViewHandle) : (d.tell (·.destroyView v)).scene =
    { d.scene with
      liveViews := d.scene.liveViews.filter (· ≠ v)
      viewStack := d.scene.viewStack.filter (· ≠ v)
      position := Function.update d.scene.position v none
      log := d.scene.log ++ [.destroyView v] } :=
  Scene.ext rfl rfl rfl rfl rfl rfl rfl (Assoc.get?_erase_eq _ _) rfl rfl

/-! ## What shows only in the log -/

/-- Records and views stay as they are. -/
theorem scene_eq
    (hw : ∀ w, (d'.shell.windows.get? w).map Window.pane =
      (d.shell.windows.get? w).map Window.pane)
    (ho : ∀ o, (d'.shell.outputs.get? o).map Output.backdrop =
      (d.shell.outputs.get? o).map Output.backdrop)
    (horder : d'.shell.outputs.order = d.shell.outputs.order)
    (hs : d'.shell.stacking = d.shell.stacking) (hh : d'.host.views = d.host.views) :
    d'.scene = { d.scene with log := d'.host.log } := by
  have huser : d'.host.userData = d.host.userData := congrArg Prod.fst hh
  have hlive : d'.host.liveViews = d.host.liveViews := congrArg (·.2.1) hh
  have hstack : d'.host.viewStack = d.host.viewStack := congrArg (·.2.2.1) hh
  have hposition : d'.host.viewPositions = d.host.viewPositions := congrArg (·.2.2.2.1) hh
  have hlast : d'.host.lastView = d.host.lastView := congrArg (·.2.2.2.2) hh
  exact Scene.ext (funext hw) (funext ho) horder hs (congrArg Assoc.get? huser) hlive hstack
    (congrArg Assoc.get? hposition) hlast rfl

theorem Aside.advised (h : Aside d d') : d.scene.Advised d'.scene := by
  obtain ⟨cs, hlog, hcs⟩ := h.log
  have hviews : d'.host.plain.views = d.host.plain.views := congrArg Host.views h.host
  refine ⟨cs, ?_, by rwa [bears_scene]⟩
  rw [scene_eq (fun w => h.map_eq Window.pane (fun _ => rfl) w) (fun o => by rw [h.outputs])
    (by rw [h.outputs]) h.stacking hviews, hlog]
  rfl

/-- Placing shows in the log only. -/
theorem Steady.scene (h : Steady d d') : d'.scene = { d.scene with log := d'.host.log } := by
  have hviews : d'.host.still.views = d.host.still.views := congrArg Host.views h.host.still
  refine scene_eq (fun w => h.shell.map_eq Window.pane (fun _ => rfl) w) (fun o => ?_) h.shell.order
    h.shell.stacking hviews
  have hbackdrop := congrArg (Option.map Output.backdrop) (h.shell.outputs o)
  rw [Option.map_map, Option.map_map] at hbackdrop
  exact hbackdrop

theorem Steady.advised (h : Steady d d') {cs : List Command}
    (hlog : d'.host.log = d.host.log ++ cs) (hcs : ∀ c ∈ cs, c.Advises d.shell.Bears) :
    d.scene.Advised d'.scene := by
  refine ⟨cs, ?_, by rwa [bears_scene]⟩
  rw [h.scene, hlog]
  rfl

theorem Steady.advised_of_log_eq (h : Steady d d') (hlog : d'.host.log = d.host.log) :
    d.scene.Advised d'.scene :=
  h.advised (hlog.trans (List.append_nil _).symm) (by simp)

end Desktop

open Desktop

variable {d d' : Desktop} {w : WindowId} {o : OutputId} {window : Window}

/-- What announcing a placement adds to the log. -/
theorem Host.log_announce (h : Host) (surface : SurfaceHandle) (previous placement : Placement) :
    ∃ cs, (announce h surface previous placement).log = h.log ++ cs ∧
      ∀ c ∈ cs, c.isAdvice ∧ c.surface? = some surface := by
  unfold announce
  split
  · dsimp only
    split
    · exact ⟨[_, _], List.append_assoc _ [_] [_], by simp [Command.isAdvice, Command.surface?]⟩
    · exact ⟨[_], rfl, by simp [Command.isAdvice, Command.surface?]⟩
  · dsimp only
    split
    · exact ⟨[_, _], List.append_assoc _ [_] [_], by simp [Command.isAdvice, Command.surface?]⟩
    · exact ⟨[_], rfl, by simp [Command.isAdvice, Command.surface?]⟩
  · exact ⟨[], (List.append_nil _).symm, by simp⟩

/-- What filling an output adds to the log. -/
theorem Desktop.log_fillOutput (hw : d.shell.windows.get? w = some window)
    (placement : Placement) : ∃ cs, (d.fillOutput w placement).host.log = d.host.log ++ cs ∧
      ∀ c ∈ cs, c.isAdvice ∧ c.surface? = some window.surface := by
  obtain ⟨cs, hlog, hcs⟩ := d.host.log_announce window.surface window.placement placement
  unfold fillOutput
  rw [hw]
  dsimp only
  split
  · next area _ =>
    refine ⟨cs ++ [.setSize window.surface area.size], ?_, fun c hc => ?_⟩
    · rw [← List.append_assoc, ← hlog]
      rfl
    · rcases List.mem_append.1 hc with hc | hc
      · exact hcs c hc
      · exact List.mem_singleton.1 hc ▸ ⟨rfl, rfl⟩
  · exact ⟨cs, hlog, hcs⟩

/-- The commands that concern the surface of a window that is there. -/
theorem Shell.advises {s : Shell} (hw : s.windows.get? w = some window) {c : Command}
    (hc : c.isAdvice ∧ c.surface? = some window.surface) : c.Advises s.Bears :=
  ⟨hc.1, fun _ hs => ⟨w, (congrArg (Option.map Window.surface) hw).trans (hc.2.symm.trans hs)⟩⟩

theorem Settling.advised (h : Settling d d') : d.scene.Advised d'.scene := by
  have hsteady := h.steady
  cases h with
  | output w o => exact hsteady.advised_of_log_eq rfl
  | @normal w window hw =>
    have hlog : ((d.host.log ++ [.setFullscreen window.surface false]) ++
        [.setMaximized window.surface false]) ++ [.setSize window.surface .zero] =
        d.host.log ++ [.setFullscreen window.surface false, .setMaximized window.surface false,
          .setSize window.surface .zero] := by simp
    refine hsteady.advised hlog fun c hc => Shell.advises hw ?_
    simp only [List.mem_cons, List.not_mem_nil, or_false] at hc
    rcases hc with rfl | rfl | rfl <;> exact ⟨rfl, rfl⟩
  | fill w placement =>
    cases hw : d.shell.windows.get? w with
    | none =>
      rw [fillOutput, hw]
      exact .refl _
    | some window =>
      obtain ⟨cs, hlog, hcs⟩ := log_fillOutput hw placement
      exact hsteady.advised hlog fun c hc => Shell.advises hw (hcs c hc)

theorem Settles.advised (h : Settles d d') : d.scene.Advised d'.scene := by
  induction h with
  | refl => exact .refl _
  | tail _ h ih => exact ih.trans h.advised

namespace Desktop

theorem setParent_advised (d : Desktop) (w : WindowId) (parent : Option WindowId) :
    d.scene.Advised (d.setParent w parent).scene := by
  refine setParent_cases (P := fun d' => d.scene.Advised d'.scene) parent (.refl _) (fun hw => ?_)
    fun p _ hw hp h => ?_
  · have hsteady := update_steady (f := (·.detach w)) (d.shell.detach_steady w)
    exact (hsteady.advised_of_log_eq rfl).trans (setParent_none hw).advised
  · have hsteady := update_steady (f := fun s => (s.detach w).attach w p)
      ((d.shell.detach_steady w).trans (Shell.attach_steady _ w p))
    exact (hsteady.advised_of_log_eq rfl).trans (setParent_some hw hp h).advised

theorem windowGone_advised (w : WindowId) (parent : Option WindowId) (d : Desktop) (l : Listener) :
    d.scene.Advised (windowGone w parent d l).scene := by
  cases l with
  | parent child => exact d.setParent_advised child parent
  | boundOutput x => exact .refl _
  | seatFocus seat =>
    show d.scene.Advised (Desktop.scene (if _ then _ else d))
    split <;> exact .refl _
  | grab seat =>
    show d.scene.Advised (Desktop.scene (if _ then _ else d))
    split <;> exact .refl _

theorem foldl_windowGone_advised (w : WindowId) (parent : Option WindowId) :
    ∀ (ls : List Listener) (d : Desktop),
      d.scene.Advised (ls.foldl (windowGone w parent) d).scene
  | [], _ => .refl _
  | l :: ls, d => (windowGone_advised w parent d l).trans (foldl_windowGone_advised w parent ls _)

/-! ## Windows that come and go -/

theorem createWindow_scene (d : Desktop) (surface : SurfaceHandle) (appId : Option String) :
    Scene.Step d.scene (d.createWindow surface appId).2.scene := by
  cases hf : d.host.failNextView with
  | true =>
    rw [createWindow_refused hf]
    exact .refuse surface
  | false =>
    rw [createWindow_made hf]
    have hfresh := Arena.get?_insert_self d.shell.windows
      (.ofSurface surface ⟨d.host.lastView + 1⟩ appId)
    convert Scene.Step.create (s := d.scene) surface (congrArg (Option.map Window.pane) hfresh)
      using 1
    refine Scene.ext (funext fun x => ?_) rfl rfl rfl (Assoc.get?_insert_eq _ _ _) rfl rfl rfl rfl
      (List.append_assoc _ [_] [_])
    refine Eq.trans ?_ (Function.update_apply _ _ _ _).symm
    show ((d.shell.windows.insert _).2.get? x).map Window.pane = _
    rw [Arena.get?_insert]
    split <;> rfl

theorem destroyWindow_scene (d : Desktop) (w : WindowId) :
    Scene.Step d.scene (d.destroyWindow w).scene := by
  cases hw : d.shell.windows.get? w with
  | none =>
    rw [destroyWindow, hw]
    exact .advise (.refl _)
  | some window =>
    have hdrop (d : Desktop) : d.scene.Advised (d.update (dropLinks · w window)).scene :=
      (update_steady (f := (dropLinks · w window))
        (dropLinks_steady d.shell w window)).advised_of_log_eq rfl
    obtain ⟨cs, hscene, hcs⟩ := (foldl_windowGone_advised w window.parentId
      window.signal.drain.1 (d.erased w window)).trans (hdrop _)
    have herased : (d.erased w window).scene =
        { d.scene with
          pane := Function.update d.scene.pane w none
          stacking := d.scene.stacking.filter (· ≠ w)
          userData := Function.update d.scene.userData window.surface none
          log := d.scene.log ++ [.setUserData window.surface false] } := by
      refine Scene.ext (funext fun x => ?_) rfl rfl rfl (Assoc.get?_erase_eq _ _) rfl rfl rfl rfl
        rfl
      refine Eq.trans ?_ (Function.update_apply _ _ _ _).symm
      show ((d.erased w window).shell.windows.get? x).map Window.pane = _
      rw [get?_erased]
      split <;> rfl
    have hgone : (d.destroyWindow w).scene = (Desktop.tell (Desktop.update
        (window.signal.drain.1.foldl (windowGone w window.parentId) (d.erased w window))
        (dropLinks · w window)) (·.destroyView window.view)).scene := by
      rw [destroyWindow, hw]
      rfl
    rw [herased] at hcs
    rw [hgone, scene_destroyView, hscene, herased]
    convert Scene.Step.destroy (pane_eq_some hw) hcs using 1
    refine Scene.ext rfl rfl rfl rfl rfl rfl rfl rfl rfl ?_
    show ((d.host.log ++ [_]) ++ cs) ++ [_] = d.host.log ++ (_ :: cs ++ [_])
    simp [Window.pane]

/-! ## Windows that are shown -/

theorem moveView_scene (d : Desktop) (w : WindowId) (at_ : Point) :
    Scene.Step d.scene (d.moveView w at_).scene := by
  unfold moveView
  split
  · exact .advise (.refl _)
  · next window hw =>
    convert Scene.Step.move (pane_eq_some hw) at_ using 1
    exact Scene.ext (pane_modifyWindow hw _ _ _) rfl rfl rfl rfl rfl rfl
      (Assoc.get?_insert_eq _ _ _) rfl rfl

theorem mapWindow_scene (hw : d.shell.windows.get? w = some window) (hm : window.mapped = false)
    (hp : d.host.viewPositions.get? window.view = some window.position) :
    Scene.Step d.scene (d.mapWindow w window.view).scene := by
  convert Scene.Step.map (pane_eq_some hw) hm hp using 1
  exact Scene.ext (pane_modifyWindow hw _ d.host d.host) rfl rfl rfl rfl rfl rfl rfl rfl rfl

theorem raiseWindow_scene (hw : d.shell.windows.get? w = some window)
    (hm : window.mapped = true) : Scene.Step d.scene (d.raiseWindow w window.view).scene :=
  .raise (pane_eq_some hw) hm

/-! ## Outputs -/

theorem outputAdded_scene (d : Desktop) (handle : OutputHandle) (name : String) (area : Rect) :
    Scene.Step d.scene (d.outputAdded handle name area).2.scene := by
  rw [outputAdded]
  cases hf : d.host.failNextView with
  | true =>
    rw [createBackground_refused hf]
    exact .advise (.refl _)
  | false =>
    rw [createBackground_made hf]
    have hfresh (output : Output) : d.scene.backdrop (d.shell.outputs.insert output).1 = none :=
      congrArg (Option.map Output.backdrop) (Arena.get?_insert_self d.shell.outputs.arena output)
    convert Scene.Step.addOutput (hfresh (.ofHandle handle name area
      ((d.shell.config.outputAppIds name).elim .none AppIds.ofText) ⟨d.host.lastView + 1⟩))
      handle area using 1
    refine Scene.ext rfl (funext fun x => ?_) rfl rfl rfl rfl rfl (Assoc.get?_insert_eq _ _ _) rfl
      rfl
    refine Eq.trans ?_ (Function.update_apply _ _ _ _).symm
    show ((d.shell.outputs.insert _).2.get? x).map Output.backdrop = _
    rw [Roster.get?_insert]
    split <;> rfl

theorem outputRemoved_scene (d : Desktop) (o : OutputId) :
    Scene.Step d.scene (d.outputRemoved o).scene := by
  cases ho : d.shell.outputs.get? o with
  | none =>
    rw [outputRemoved, ho]
    exact .advise (.refl _)
  | some output =>
    have hsteady : Steady (d.update fun s => { s with outputs := s.outputs.erase o })
        (d.update fun s => output.signal.drain.1.foldl (outputGone o)
          { s with outputs := s.outputs.erase o }) :=
      ⟨foldl_outputGone_steady o _ _, .refl _⟩
    have hlive : d.shell.outputs.contains o := Option.isSome_iff_exists.2 ⟨output, ho⟩
    rw [outputRemoved, ho]
    dsimp only
    rw [scene_destroyView, hsteady.scene]
    convert Scene.Step.removeOutput (backdrop_eq_some ho) using 1
    refine Scene.ext rfl (funext fun x => ?_) ?_ rfl rfl rfl rfl rfl rfl rfl
    · refine Eq.trans ?_ (Function.update_apply _ _ _ _).symm
      show ((d.shell.outputs.erase o).get? x).map Output.backdrop = _
      rw [Roster.get?_erase]
      split <;> rfl
    · show (d.shell.outputs.erase o).order = _
      rw [Roster.erase, if_pos hlive]
      rfl

theorem shiftOutput_scene (ho : d.shell.outputs.get? o = some output) (area : Rect) :
    Scene.Step d.scene ((d.update (·.modifyOutput o ({ · with area }))).tell
      (·.setViewPosition output.background area.loc)).scene := by
  convert Scene.Step.shiftOutput (backdrop_eq_some ho) area.loc using 1
  exact Scene.ext rfl (backdrop_modifyOutput ho _ _ _) rfl rfl rfl rfl rfl
    (Assoc.get?_insert_eq _ _ _) rfl rfl

theorem renewBackground_scene (ho : d.shell.outputs.get? o = some output) (area : Rect) :
    Scene.Step d.scene
      ((d.update (·.modifyOutput o ({ · with area }))).renewBackground o output area).scene := by
  unfold renewBackground
  cases hf : d.host.failNextView with
  | true =>
    rw [show (d.update _).host = d.host from rfl, createBackground_refused hf]
    exact shiftOutput_scene (d := ⟨d.shell, { d.host with failNextView := false }⟩) ho area
  | false =>
    rw [show (d.update _).host = d.host from rfl, createBackground_made hf]
    dsimp only
    rw [scene_destroyView]
    convert Scene.Step.renewOutput (backdrop_eq_some ho) output.handle area using 1
    have hget : (d.shell.modifyOutput o ({ · with area })).outputs.get? o =
        some { output with area } := by
      rw [Shell.get?_modifyOutput, if_pos rfl, ho]
      rfl
    refine Scene.ext rfl ?_ rfl rfl rfl rfl rfl ?_ rfl (List.append_assoc _ [_] [_])
    · refine (backdrop_modifyOutput hget _ _ d.host).trans ?_
      rw [backdrop_modifyOutput ho _ _ d.host, Function.update_idem]
      rfl
    · exact congrArg (Function.update · output.background none) (Assoc.get?_insert_eq _ _ _)

end Desktop

/-- Every move is a step of the scene. -/
theorem Move.scene (h : Move d d') : Scene.Step d.scene d'.scene := by
  cases h with
  | settle hsettling => exact .advise hsettling.advised
  | detach w =>
    exact .advise ((update_steady (f := (·.detach w))
      (d.shell.detach_steady w)).advised_of_log_eq rfl)
  | @adopt w p _ _ _ =>
    exact .advise ((update_steady (f := fun s => (s.detach w).attach w p)
      ((d.shell.detach_steady w).trans (Shell.attach_steady _ w p))).advised_of_log_eq rfl)
  | create surface appId => exact d.createWindow_scene surface appId
  | destroy w => exact d.destroyWindow_scene w
  | note w f hf => exact .advise (Aside.modifyWindow (fun r => by rw [hf r]; rfl) d w).advised
  | moveView w at_ => exact d.moveView_scene w at_
  | map hw hm hp => exact mapWindow_scene hw hm hp
  | raise hw hm => exact raiseWindow_scene hw hm
  | tellSize hw size =>
    exact .advise ((tell_steady (Host.setSize_steady _ _ size)).advised rfl (by
      simpa using Shell.advises hw ⟨rfl, rfl⟩))
  | addSeat handle name hasKeyboard => exact .advise (.refl _)
  | setHasKeyboard seat hasKeyboard => exact .advise (.refl _)
  | tellFocus handle w => exact .advise (d.setKeyboardFocus_aside handle w).advised
  | focus seat focus => exact .advise (d.keyboardFocusChanged_aside seat focus).advised
  | removeSeat seat => exact .advise (d.seatRemoved_aside seat).advised
  | grab w seat request => exact .advise (d.moveRequested_aside w seat request).advised
  | endGrab seat => exact .advise (d.endGrab_aside seat).advised
  | addOutput handle name area => exact d.outputAdded_scene handle name area
  | removeOutput o => exact d.outputRemoved_scene o
  | renewOutput ho area => exact renewBackground_scene ho area
  | shiftOutput ho area => exact shiftOutput_scene ho area
  | switch s => exact .advise (d.switch_aside s).advised

end Kiosk
