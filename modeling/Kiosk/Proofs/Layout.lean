import Kiosk.Proofs.Drift
import Kiosk.Proofs.Forest
import Kiosk.Proofs.Mirror

/-!
# Layouts

Where windows stand and what their clients were told about it, as functions of
ids and surfaces (`Desktop.layout`): each window's placement, output and parent,
each output's size, and each client's states and size. An event or a call takes
the layout through steps in which a window that is placed anew is told so
(`Layout.Step`), and nothing else is told but the new size of an output that is
resized, to the windows that fill it.

Events alone place windows so that a child is normal and, where that is enforced,
a root fullscreen (`Layout.Allows`). Calls also rebind and make windows without
placing them; whether they are among the steps is the parameter `direct`.
-/

namespace Kiosk

open Function (update update_self update_of_ne update_apply update_idem update_eq_self_iff)
open Relation (ReflTransGen)

/-- How a window stands. -/
structure Stance where
  surface : SurfaceHandle
  placement : Placement
  output : Option OutputId
  parent : Option WindowId

/-- How a window of `surface` stands at first. -/
def Stance.new (surface : SurfaceHandle) : Stance := ⟨surface, .normal, none, none⟩

def Window.stance (window : Window) : Stance :=
  ⟨window.surface, window.placement, window.output, window.parentId⟩

/-- What a client was told about its surface. -/
@[ext]
structure Told where
  fullscreen : Bool
  maximized : Bool
  /-- The last size. -/
  size : Option Size

def Host.told (h : Host) (surface : SurfaceHandle) : Told :=
  ⟨h.isFullscreen surface, h.isMaximized surface, h.sizes.get? surface⟩

/-- What a client was told once it left the placement `previous` for `placement`, on an output of
size `extent`. -/
def Told.enter (t : Told) (previous placement : Placement) (extent : Option Size) : Told :=
  match placement with
  | .normal => ⟨false, false, some .zero⟩
  | .maximized => ⟨t.fullscreen && previous ≠ .fullscreen, true, extent.or t.size⟩
  | .fullscreen => ⟨true, t.maximized && previous ≠ .maximized, extent.or t.size⟩

/-- How windows stand, and what clients were told about it. -/
@[ext]
structure Layout where
  stance : WindowId → Option Stance
  extent : OutputId → Option Size
  told : SurfaceHandle → Told
  /-- The surfaces that views were made for, oldest first. -/
  created : List SurfaceHandle
  /-- Whether roots have to be fullscreen. -/
  enforce : Bool

def Shell.stance (s : Shell) (w : WindowId) : Option Stance :=
  (s.windows.get? w).map Window.stance

def Shell.extent (s : Shell) (o : OutputId) : Option Size :=
  (s.outputs.get? o).map (·.area.size)

/-- The layout of a desktop. -/
def Desktop.layout (d : Desktop) : Layout where
  stance := d.shell.stance
  extent := d.shell.extent
  told := d.host.told
  created := d.host.createdSurfaces
  enforce := d.shell.config.enforceRootFullscreen

namespace Layout

/-- `w` stands as `r`, and nobody is told. -/
def stand (L : Layout) (w : WindowId) (r : Stance) : Layout :=
  { L with stance := update L.stance w (some r) }

/-- `w`, which stands as `r`, is placed as `r'`, and its client is told so. -/
def place (L : Layout) (w : WindowId) (r r' : Stance) : Layout :=
  { L with
    stance := update L.stance w (some r')
    told := update L.told r.surface
      ((L.told r.surface).enter r.placement r'.placement (r'.output.bind L.extent)) }

/-- A window of `surface` is made and not placed. -/
def create (L : Layout) (w : WindowId) (surface : SurfaceHandle) : Layout :=
  { L with
    stance := update L.stance w (some (.new surface))
    created := L.created ++ [surface] }

/-- `w` goes away. -/
def vanish (L : Layout) (w : WindowId) : Layout :=
  { L with stance := update L.stance w none }

/-- The clients of `surfaces` are told the size `size`. -/
def tell (L : Layout) (surfaces : List SurfaceHandle) (size : Size) : Layout :=
  { L with
    told := fun s => if s ∈ surfaces then { L.told s with size := some size } else L.told s }

/-- `o` has the given size. -/
def setExtent (L : Layout) (o : OutputId) (extent : Option Size) : Layout :=
  { L with extent := update L.extent o extent }

/-- Windows may stand so: a child is normal, and a root fullscreen where that is enforced, unless
calls can have placed it. -/
structure Allows (L : Layout) (direct : Prop) (r : Stance) : Prop where
  child : r.parent ≠ none → r.placement = .normal
  root : ¬ direct → L.enforce → r.parent = none → r.placement = .fullscreen

/-- One step. -/
inductive Step (direct : Prop) (L : Layout) : Layout → Prop
  | place {w : WindowId} {r r' : Stance} (hw : L.stance w = some r) (hs : r'.surface = r.surface)
      (ha : L.Allows direct r') : Step direct L (L.place w r r')
  /-- A window is made and placed at once. -/
  | appear {w : WindowId} {r' : Stance} (hw : L.stance w = none) (ha : L.Allows direct r') :
      Step direct L ((L.create w r'.surface).place w (.new r'.surface) r')
  | vanish (w : WindowId) : Step direct L (L.vanish w)
  /-- An output that no window is on yet. -/
  | addOutput {o : OutputId} (ho : ∀ w r, L.stance w = some r → r.output ≠ some o) (size : Size) :
      Step direct L (L.setExtent o (some size))
  /-- An output goes away. Windows may go off their outputs. -/
  | removeOutput (o : OutputId) {stance : WindowId → Option Stance}
      (hs : ∀ w, stance w = L.stance w ∨ stance w = (L.stance w).map ({ · with output := none })) :
      Step direct L { L.setExtent o none with stance }
  | resize {o : OutputId} {surfaces : List SurfaceHandle} (size : Size)
      (hs : ∀ s, s ∈ surfaces ↔ ∃ w r, L.stance w = some r ∧ r.placement.fillsOutput ∧
        r.output = some o ∧ r.surface = s) :
      Step direct L ((L.setExtent o (some size)).tell surfaces size)
  /-- A call puts a window on an output. -/
  | rebind {w : WindowId} {r : Stance} (hd : direct) (hw : L.stance w = some r)
      (output : Option OutputId) : Step direct L (L.stand w { r with output })
  /-- A call makes a window. -/
  | create {w : WindowId} (hd : direct) (hw : L.stance w = none) (surface : SurfaceHandle) :
      Step direct L (L.create w surface)

/-- Any number of steps. -/
abbrev Steps (direct : Prop) : Layout → Layout → Prop := ReflTransGen (Step direct)

variable {L L' : Layout} {direct : Prop} {w : WindowId} {o : OutputId} {r q r' : Stance}

theorem Allows.of_child (hp : r.parent ≠ none) (hn : r.placement = .normal) : L.Allows direct r :=
  ⟨fun _ => hn, fun _ _ hroot => absurd hroot hp⟩

theorem Allows.of_root (hp : r.parent = none) (hf : r.placement = .fullscreen) :
    L.Allows direct r :=
  ⟨fun hchild => absurd hp hchild, fun _ _ _ => hf⟩

theorem Steps.of_eq (h : L' = L) : Steps direct L L' := h ▸ ReflTransGen.refl

/-- What each step keeps, any number of them keeps. -/
theorem Steps.keep {P : Layout → Prop} (hs : Steps direct L L') (h : P L)
    (step : ∀ {L L'}, P L → Step direct L L' → P L') : P L' := by
  induction hs with
  | refl => exact h
  | tail _ hs ih => exact step ih hs

theorem stand_self (hw : L.stance w = some r) : L.stand w r = L :=
  Layout.ext (update_eq_self_iff.2 hw.symm) rfl rfl rfl rfl

theorem stance_stand (L : Layout) (w : WindowId) (r : Stance) :
    (L.stand w r).stance w = some r :=
  update_self ..

theorem stance_create (L : Layout) (w : WindowId) (surface : SurfaceHandle) (x : WindowId) :
    (L.create w surface).stance x = if x = w then some (.new surface) else L.stance x :=
  update_apply ..

/-- Links do not matter to what a client is told. -/
theorem place_stand (hs : q.surface = r.surface) (hp : q.placement = r.placement) :
    (L.stand w q).place w q r' = L.place w r r' := by
  refine Layout.ext (update_idem ..) rfl ?_ rfl rfl
  show update L.told q.surface _ = update L.told r.surface _
  rw [hs, hp]
  rfl

theorem setExtent_self {extent : Option Size} (ho : L.extent o = extent) :
    L.setExtent o extent = L :=
  Layout.ext rfl (update_eq_self_iff.2 ho.symm) rfl rfl rfl

theorem tell_nil (L : Layout) (size : Size) : L.tell [] size = L := by
  simp [tell]

theorem tell_cons (L : Layout) (surface : SurfaceHandle) (surfaces : List SurfaceHandle)
    (size : Size) : (L.tell [surface] size).tell surfaces size =
      L.tell (surface :: surfaces) size := by
  refine Layout.ext rfl rfl (funext fun s => ?_) rfl rfl
  by_cases hs : s = surface <;> by_cases hmem : s ∈ surfaces <;> simp [tell, hs, hmem]

end Layout

variable {s : Shell} {d d' : Desktop} {config : Config} {direct : Prop} {w p : WindowId}
  {o : OutputId} {r : Stance} {window : Window}

/-! ## Shells -/

namespace Shell

theorem stance_eq_some_iff :
    s.stance w = some r ↔ ∃ window, s.windows.get? w = some window ∧ window.stance = r :=
  Option.map_eq_some_iff

theorem isLive_of_stance (hw : s.stance w = some r) : s.isLive w := by
  obtain ⟨window, hwindow, -⟩ := stance_eq_some_iff.1 hw
  exact Option.isSome_iff_exists.2 ⟨window, hwindow⟩

theorem parentOf_stance (s : Shell) (w : WindowId) :
    Windows.parentOf s.windows w = (s.stance w).bind Stance.parent := by
  rw [stance, Option.bind_map]
  rfl

theorem outputOf_stance (s : Shell) (w : WindowId) :
    s.outputOf w = (s.stance w).bind Stance.output := by
  rw [stance, Option.bind_map]
  rfl

/-- A change of a window's record, seen in how it stands. -/
theorem stance_modifyWindow {f : Window → Window} {g : Stance → Stance} (hw : s.stance w = some r)
    (hf : ∀ window, (f window).stance = g window.stance) :
    (s.modifyWindow w f).stance = update s.stance w (some (g r)) := by
  obtain ⟨window, hwindow, rfl⟩ := stance_eq_some_iff.1 hw
  funext x
  rw [update_apply, stance, get?_modifyWindow, hwindow]
  split
  · exact congrArg some (hf window)
  · rfl

theorem stance_modifyWindow_of_eq {f : Window → Window} (hf : ∀ r, (f r).stance = r.stance)
    (s : Shell) (w : WindowId) : (s.modifyWindow w f).stance = s.stance :=
  funext (map_modifyWindow Window.stance hf s w)

theorem extent_modifyOutput {f : Output → Output} (hf : ∀ r, (f r).area.size = r.area.size)
    (s : Shell) (o : OutputId) : (s.modifyOutput o f).extent = s.extent := by
  funext j
  rw [extent, get?_modifyOutput]
  split
  · next hj =>
    rw [hj, Option.map_map]
    exact congrArg (fun f => (s.outputs.get? o).map f) (funext hf)
  · rfl

theorem Steady.extent {s' : Shell} (h : Steady s s') : s'.extent = s.extent := by
  funext o
  have := congrArg (Option.map (·.area.size)) (h.outputs o)
  rwa [Option.map_map, Option.map_map] at this

theorem stance_detach (hw : s.stance w = some r) :
    (s.detach w).stance = update s.stance w (some { r with parent := none }) := by
  unfold detach
  split
  · next hnone =>
    obtain ⟨window, hwindow, rfl⟩ := stance_eq_some_iff.1 hw
    have hroot : window.parentId = none := by
      rw [hwindow] at hnone
      exact congrArg (Option.map Link.source) hnone
    refine (update_eq_self_iff.2 (Eq.trans ?_ hw.symm)).symm
    rw [← hroot]
    rfl
  · next link _ =>
    refine (stance_modifyWindow_of_eq (fun _ => by rfl) _ link.source).trans ?_
    exact stance_modifyWindow (g := ({ · with parent := none })) hw fun _ => rfl

theorem outputs_detach (s : Shell) (w : WindowId) : (s.detach w).outputs = s.outputs := by
  unfold detach
  split <;> rfl

theorem stance_attach (hw : s.stance w = some r) (hp : s.isLive p) :
    (s.attach w p).stance = update s.stance w (some { r with parent := some p }) := by
  obtain ⟨parent, hp⟩ := Option.isSome_iff_exists.1 hp
  obtain ⟨s', he, rfl, -⟩ := watchWindow_of_live hp (.parent w)
  have hsame := stance_modifyWindow_of_eq
    (f := ({ · with signal := (parent.signal.subscribe (.parent w)).2 })) (fun _ => rfl) s p
  rw [attach, he]
  refine (stance_modifyWindow (g := ({ · with parent := some p })) (hsame ▸ hw)
    fun _ => rfl).trans ?_
  rw [hsame]

theorem stance_leaveOutput (hw : s.stance w = some r) :
    (s.leaveOutput w).stance = update s.stance w (some { r with output := none }) := by
  unfold leaveOutput
  split
  · next hnone =>
    obtain ⟨window, hwindow, rfl⟩ := stance_eq_some_iff.1 hw
    have hoff : window.output = none := by
      rw [hwindow] at hnone
      exact congrArg (Option.map Link.source) hnone
    refine (update_eq_self_iff.2 (Eq.trans ?_ hw.symm)).symm
    rw [← hoff]
    rfl
  · exact stance_modifyWindow (g := ({ · with output := none })) hw fun _ => rfl

theorem stance_enterOutput (hw : s.stance w = some r) (ho : s.outputs.contains o) :
    (s.enterOutput w o).stance = update s.stance w (some { r with output := some o }) := by
  obtain ⟨output, ho⟩ := Option.isSome_iff_exists.1 ho
  obtain ⟨s', he, rfl, -⟩ := watchOutput_of_live ho (.boundOutput w)
  rw [enterOutput, he]
  exact stance_modifyWindow (g := ({ · with output := some o })) hw fun _ => rfl

/-- An output that is gone counts as none. -/
theorem stance_setOutput (hw : s.stance w = some r) (o : Option OutputId) :
    (s.setOutput w o).stance =
      update s.stance w (some { r with output := o.filter s.outputs.contains }) := by
  have hleave := stance_leaveOutput hw
  cases o with
  | none =>
    rw [setOutput_none (isLive_of_stance hw)]
    exact hleave
  | some o =>
    have houtputs : (s.leaveOutput w).outputs.contains o = s.outputs.contains o := by
      have := congrArg Option.isSome ((s.leaveOutput_steady w).outputs o)
      rwa [Option.isSome_map, Option.isSome_map] at this
    rw [setOutput_some (isLive_of_stance hw)]
    cases ho : s.outputs.contains o with
    | false =>
      rw [enterOutput_of_not_live (houtputs.trans ho), hleave, Option.filter_some, ho]
      rfl
    | true =>
      rw [stance_enterOutput (r := { r with output := none }) ?_ (houtputs.trans ho), hleave,
        update_idem, Option.filter_some, ho]
      · rfl
      · rw [hleave, update_self]

end Shell

/-- Windows are on outputs that are there. -/
theorem Knit.contains_output {dead : Option Target} {v : Web} (h : Knit dead v s)
    (hd : .output o ∉ dead) (hw : s.stance w = some r) (ho : r.output = some o) :
    s.outputs.contains o := by
  obtain ⟨window, hwindow, rfl⟩ := Shell.stance_eq_some_iff.1 hw
  obtain ⟨link, hlink, rfl⟩ := Option.map_eq_some_iff.1 ho
  have hl : s.web.link (.boundOutput w) = some link.toOutput := by
    show ((s.windows.get? w).bind Window.boundOutput).map Link.toOutput = _
    rw [hwindow]
    exact congrArg (Option.map Link.toOutput) hlink
  have hheld := Knit.holder_ne (l := .boundOutput w)
    (h.not_mem_of_isLive (Shell.isLive_of_stance hw)) rfl
  rw [← Shell.isSome_signal_output, ← h.agree.signal _ hd]
  exact h.exact.live _ _ _ ((h.agree.link _ hheld).trans hl)

theorem Shell.Sound.contains_output (h : s.Sound) (hw : s.stance w = some r)
    (ho : r.output = some o) : s.outputs.contains o :=
  Knit.contains_output h (by simp) hw ho

/-! ## Hosts -/

namespace Host

theorem told_setFullscreen (h : Host) (surface : SurfaceHandle) (b : Bool) :
    (h.setFullscreen surface b).told =
      update h.told surface { h.told surface with fullscreen := b } := by
  funext s
  rcases eq_or_ne s surface with rfl | hs
  · simp [told, setFullscreen, record, isFullscreen, isMaximized, Assoc.get?_insert]
  · simp [told, setFullscreen, record, isFullscreen, isMaximized, Assoc.get?_insert, hs]

theorem told_setMaximized (h : Host) (surface : SurfaceHandle) (b : Bool) :
    (h.setMaximized surface b).told =
      update h.told surface { h.told surface with maximized := b } := by
  funext s
  rcases eq_or_ne s surface with rfl | hs
  · simp [told, setMaximized, record, isFullscreen, isMaximized, Assoc.get?_insert]
  · simp [told, setMaximized, record, isFullscreen, isMaximized, Assoc.get?_insert, hs]

theorem told_setSize (h : Host) (surface : SurfaceHandle) (size : Size) :
    (h.setSize surface size).told =
      update h.told surface { h.told surface with size := some size } := by
  funext s
  rcases eq_or_ne s surface with rfl | hs
  · simp [told, setSize, record, isFullscreen, isMaximized, Assoc.get?_insert]
  · simp [told, setSize, record, isFullscreen, isMaximized, Assoc.get?_insert, hs]

theorem told_announce (h : Host) (surface : SurfaceHandle) (previous : Placement)
    {placement : Placement} (hf : placement.fillsOutput) :
    (Desktop.announce h surface previous placement).told =
      update h.told surface ((h.told surface).enter previous placement none) := by
  cases placement with
  | normal => cases hf
  | maximized =>
    rw [Desktop.announce]
    by_cases hp : previous = .fullscreen
    · simp [hp, told_setMaximized, told_setFullscreen, Told.enter]
    · simp [hp, told_setMaximized, Told.enter]
  | fullscreen =>
    rw [Desktop.announce]
    by_cases hp : previous = .maximized
    · simp [hp, told_setMaximized, told_setFullscreen, Told.enter]
    · simp [hp, told_setFullscreen, Told.enter]

end Host

theorem Told.enter_size {placement : Placement} (hf : placement.fillsOutput) (t : Told)
    (previous : Placement) (size : Size) :
    { t.enter previous placement none with size := some size } =
      t.enter previous placement (some size) := by
  cases placement with
  | normal => cases hf
  | maximized => rfl
  | fullscreen => rfl

/-! ## Placing -/

namespace Desktop

/-- A change of how `w` stands, of which nobody is told. -/
theorem stand_layout {f : Shell → Shell} (h : d.shell.Steady (f d.shell))
    (hw : (f d.shell).stance = Function.update d.shell.stance w (some r)) :
    (d.update f).layout = d.layout.stand w r :=
  Layout.ext hw h.extent rfl rfl (congrArg Config.enforceRootFullscreen h.config)

theorem setOutput_layout (hw : d.layout.stance w = some r) (o : Option OutputId) :
    (d.setOutput w o).layout =
      d.layout.stand w { r with output := o.filter d.shell.outputs.contains } :=
  stand_layout (d.shell.setOutput_steady w o) (Shell.stance_setOutput hw o)

theorem ensureOutput_layout (hw : d.layout.stance w = some r) :
    (d.ensureOutput w).layout = d.layout.stand w { r with
      output := r.output.or ((d.shell.bestOutput w).filter d.shell.outputs.contains) } := by
  have hout := (d.shell.outputOf_stance w).trans (congrArg (·.bind Stance.output) hw)
  rw [Option.bind_some] at hout
  unfold ensureOutput
  split
  · next o ho =>
    rw [← hout, ho, Option.some_or, ← ho, hout]
    exact (Layout.stand_self hw).symm
  · next hnone =>
    rw [← hout, hnone, Option.none_or]
    exact setOutput_layout hw _

theorem normal_layout (hw : d.shell.windows.get? w = some window) :
    ((d.update (·.modifyWindow w ({ · with placement := .normal }))).tell fun h =>
      ((h.setFullscreen window.surface false).setMaximized window.surface false).setSize
        window.surface .zero).layout =
      d.layout.place w window.stance { window.stance with placement := .normal } := by
  have hcreated := (Settling.normal hw).steady.drift.host.createdSurfaces
  refine Layout.ext ?_ rfl ?_ hcreated rfl
  · exact Shell.stance_modifyWindow (g := ({ · with placement := .normal }))
      (congrArg (Option.map Window.stance) hw) fun _ => rfl
  · show Host.told (((d.host.setFullscreen window.surface false).setMaximized window.surface
      false).setSize window.surface .zero) = _
    simp only [Host.told_setSize, Host.told_setMaximized, Host.told_setFullscreen, update_self,
      update_idem]
    rfl

/-- A window that becomes normal stays on its output, or goes to its best one. -/
theorem setNormal_layout (hw : d.layout.stance w = some r) :
    (d.setNormal w).layout = d.layout.place w r { r with
      placement := .normal
      output := r.output.or ((d.shell.bestOutput w).filter d.shell.outputs.contains) } := by
  have he := ensureOutput_layout hw
  have hw' := he ▸ Layout.stance_stand d.layout w _
  obtain ⟨window, hwindow, hstance⟩ := Shell.stance_eq_some_iff.1 hw'
  unfold setNormal
  dsimp only
  rw [hwindow]
  refine (normal_layout hwindow).trans ?_
  rw [hstance, he]
  exact Layout.place_stand rfl rfl

theorem extent_areaOf (s : Shell) (window : Window) :
    window.output.bind s.extent = (s.areaOf window).map Rect.size := by
  rw [Shell.areaOf, Option.map_map]
  cases window.output <;> rfl

theorem fillOutput_layout (hw : d.layout.stance w = some r) {placement : Placement}
    (hf : placement.fillsOutput) :
    (d.fillOutput w placement).layout = d.layout.place w r { r with placement } := by
  obtain ⟨window, hwindow, rfl⟩ := Shell.stance_eq_some_iff.1 hw
  have hcreated := (Settling.fill d w placement).steady.drift.host.createdSurfaces
  have hshell := d.shell_fillOutput w placement
  refine Layout.ext ?_ ?_ ?_ hcreated ?_
  · show (d.fillOutput w placement).shell.stance = _
    rw [hshell]
    exact Shell.stance_modifyWindow (g := ({ · with placement })) hw fun _ => rfl
  · show (d.fillOutput w placement).shell.extent = _
    rw [hshell]
    rfl
  · show (d.fillOutput w placement).host.told = Function.update d.host.told window.surface
      ((d.host.told window.surface).enter window.placement placement
        (window.output.bind d.shell.extent))
    rw [extent_areaOf]
    unfold fillOutput
    rw [hwindow]
    dsimp only
    split
    · next area harea =>
      rw [show d.shell.areaOf window = some area from harea, Option.map_some, ← Told.enter_size hf]
      show ((announce d.host window.surface window.placement placement).setSize window.surface
        area.size).told = _
      rw [Host.told_setSize, Host.told_announce _ _ _ hf, update_self, update_idem]
    · next hnone =>
      rw [show d.shell.areaOf window = none from hnone]
      exact Host.told_announce _ _ _ hf
  · show (d.fillOutput w placement).shell.config.enforceRootFullscreen = _
    rw [hshell]
    rfl

theorem isRoot_iff (hw : d.shell.windows.get? w = some window)
    (hr : d.layout.stance w = some r) : window.isRoot ↔ r.parent = none := by
  obtain ⟨window', hw', rfl⟩ := Shell.stance_eq_some_iff.1 hr
  cases hw.symm.trans hw'
  rw [Window.isRoot, Option.isNone_iff_eq_none, Window.stance, Window.parentId,
    Option.map_eq_none_iff]

theorem setFullscreen_of_child (hw : d.layout.stance w = some r) (hr : r.parent ≠ none)
    (o : Option OutputId) : d.setFullscreen w o = d.setNormal w := by
  obtain ⟨window, hwindow, -⟩ := Shell.stance_eq_some_iff.1 hw
  rw [setFullscreen, hwindow]
  exact if_neg fun hroot => hr ((isRoot_iff hwindow hw).1 hroot)

theorem setMaximized_of_child (hw : d.layout.stance w = some r) (hr : r.parent ≠ none) :
    d.setMaximized w = d.setNormal w := by
  obtain ⟨window, hwindow, -⟩ := Shell.stance_eq_some_iff.1 hw
  rw [setMaximized, hwindow]
  exact if_neg fun hroot => hr ((isRoot_iff hwindow hw).1 hroot)

/-- A window is put on an output and fills it. -/
theorem fillOutput_setOutput_layout (hw : d.layout.stance w = some r) (o : Option OutputId)
    {placement : Placement} (hf : placement.fillsOutput) :
    ((d.setOutput w o).fillOutput w placement).layout =
      d.layout.place w r { r with placement, output := o.filter d.shell.outputs.contains } := by
  have he := setOutput_layout hw o
  have hw' : (d.setOutput w o).layout.stance w =
      some { r with output := o.filter d.shell.outputs.contains } := by
    rw [he, Layout.stance_stand]
  refine (fillOutput_layout hw' hf).trans ?_
  rw [he]
  exact Layout.place_stand rfl rfl

theorem setFullscreen_layout (hw : d.layout.stance w = some r) (hr : r.parent = none)
    (o : Option OutputId) : (d.setFullscreen w o).layout = d.layout.place w r { r with
      placement := .fullscreen
      output := ((o.filter d.shell.outputs.contains).or (d.shell.bestOutput w)).filter
        d.shell.outputs.contains } := by
  obtain ⟨window, hwindow, -⟩ := Shell.stance_eq_some_iff.1 hw
  rw [setFullscreen, hwindow]
  dsimp only
  rw [if_pos ((isRoot_iff hwindow hw).2 hr)]
  exact fillOutput_setOutput_layout hw _ rfl

theorem setMaximized_layout (hw : d.layout.stance w = some r) (hr : r.parent = none) :
    (d.setMaximized w).layout = d.layout.place w r { r with
      placement := .maximized
      output := (d.shell.bestOutput w).filter d.shell.outputs.contains } := by
  obtain ⟨window, hwindow, -⟩ := Shell.stance_eq_some_iff.1 hw
  rw [setMaximized, hwindow]
  dsimp only
  rw [if_pos ((isRoot_iff hwindow hw).2 hr)]
  exact fillOutput_setOutput_layout hw _ rfl

/-- A window that becomes a child is normal. -/
theorem setParent_some_layout (hw : d.layout.stance w = some r) (hp : d.shell.isLive p)
    (h : Windows.isAncestorOrSelf d.shell.windows w p = false) :
    ∃ output, (d.setParent w (some p)).layout =
      d.layout.place w r ⟨r.surface, .normal, output, some p⟩ := by
  have hlive := Shell.isLive_of_stance hw
  have hdetach := d.shell.detach_steady w
  have hadopt : ((d.shell.detach w).attach w p).stance =
      Function.update d.shell.stance w (some { r with parent := some p }) := by
    have hw' : (d.shell.detach w).stance w = some { r with parent := none } := by
      rw [Shell.stance_detach hw, update_self]
    rw [Shell.stance_attach hw' (by rwa [hdetach.isLive]), Shell.stance_detach hw, update_idem]
  let d₁ := d.update fun s => ((s.detach w).attach w p).setOutput w none
  have he : d₁.layout = d.layout.stand w ⟨r.surface, r.placement, none, some p⟩ := by
    refine stand_layout ((hdetach.trans (Shell.attach_steady _ w p)).trans
      (Shell.setOutput_steady _ w none)) ?_
    rw [Shell.stance_setOutput (by rw [hadopt, update_self]), hadopt, update_idem]
    rfl
  have hplace := setNormal_layout (he ▸ Layout.stance_stand d.layout w _)
  refine ⟨(d₁.shell.bestOutput w).filter d₁.shell.outputs.contains, ?_⟩
  simp only [setParent, Option.filter, hlive, hp, h, if_true, Bool.false_eq_true, if_false]
  refine hplace.trans ?_
  rw [he]
  exact Layout.place_stand rfl rfl

/-- A window that becomes a root is fullscreen, on the output it is on, if that is there. -/
theorem setParent_none_layout (hw : d.layout.stance w = some r) :
    (d.setParent w none).layout = d.layout.place w r
      ⟨r.surface, .fullscreen, ((r.output.filter d.shell.outputs.contains).or
        ((d.shell.detach w).bestOutput w)).filter d.shell.outputs.contains, none⟩ := by
  have hlive := Shell.isLive_of_stance hw
  have he : (d.update (·.detach w)).layout = d.layout.stand w { r with parent := none } :=
    stand_layout (d.shell.detach_steady w) (Shell.stance_detach hw)
  have hw' : (d.update (·.detach w)).layout.stance w = some { r with parent := none } := by
    rw [he, Layout.stance_stand]
  have hout : (d.shell.detach w).outputOf w = r.output :=
    (Shell.outputOf_stance _ w).trans (congrArg (·.bind Stance.output) hw')
  have hplace := setFullscreen_layout hw' rfl ((d.shell.detach w).outputOf w)
  simp only [setParent, Option.filter, hlive, if_true]
  rw [← d.shell.outputs_detach w, ← hout]
  refine hplace.trans ?_
  rw [he]
  exact Layout.place_stand rfl rfl

end Desktop

end Kiosk
