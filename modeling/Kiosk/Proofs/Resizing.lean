import Kiosk.Proofs.Carrying
import Kiosk.Proofs.Centring

/-!
# Outputs that get a new area

An output that gets a new area has its background made anew, or moved if the host has no room for
another. The windows that fill the output are told its size and centred on it, each of them once,
and nothing else changes (`Reached.resize_exact`).

The windows are centred one after the other until one cannot be. Whether a window can be is a
matter of its output and of the size it committed last, and centring moves windows only. So what
stops the loop can be read off the records before it (`reconfigureAll_fst`).
-/

namespace Kiosk

variable {config : Config} {d d' : Desktop} {w x : WindowId} {o : OutputId} {window : Window}
  {output : Output} {area : Rect} {ws : List WindowId}

/-- Whether the window fills the output `o`. -/
def Window.fills (window : Window) (o : OutputId) : Bool :=
  window.output = some o && window.placement.fillsOutput

theorem Window.fills_iff :
    window.fills o ↔ window.output = some o ∧ window.placement.fillsOutput := by
  rw [fills, Bool.and_eq_true, decide_eq_true_iff]

theorem Reply.ofFault_eq_handled {found : Option Fault} :
    Reply.ofFault found = .handled ↔ found = none := by
  cases found <;> simp [Reply.ofFault]

/-- The live views are those of windows and of outputs, each once. -/
theorem Reached.rolls (h : Reached config d) : Rolls d.shell.viewOf d.host.liveViews :=
  h.rolled.views.of_eq d.views_scene.symm

/-- Where the window is put on `area`, if it can be centred there. -/
def Window.centre (window : Window) (area : Rect) : Point :=
  match Rect.centered (some area) window.lastSize with
  | .ok p => p
  | .error _ => window.position

theorem Window.centre_of_centered {p : Point}
    (h : Rect.centered (some area) window.lastSize = .ok p) : window.centre area = p := by
  rw [centre, h]

/-- The host when a background took the place of `old`, or when it has refused that. -/
def Host.exchanged (h : Host) (old : ViewHandle) : Host :=
  { h with
    failNextView := false
    lastView := if h.failNextView then h.lastView else h.lastView + 1
    liveViews := if h.failNextView then h.liveViews
      else h.liveViews.filter (· ≠ old) ++ [⟨h.lastView + 1⟩] }

namespace Shell

variable {s : Shell}

/-- What centring `w` on its output fails with, if it fails. -/
def misfit? (s : Shell) (w : WindowId) : Option Fault :=
  (s.windows.get? w).bind fun window => (s.areaOf window).bind fun area =>
    match Rect.centered (some area) window.lastSize with
    | .ok _ => none
    | .error fault => some fault

/-- `w` fills `area`, which has room for it in the middle. -/
def Fits (s : Shell) (area : Rect) (w : WindowId) : Prop :=
  ∃ window, s.windows.get? w = some window ∧ window.placement.fillsOutput ∧
    s.areaOf window = some area ∧
    Rect.centered (some area) window.lastSize = .ok (window.centre area)

theorem mem_filledWindowsOn_iff (h : s.Occupants o (s.windowsOn o))
    (hw : s.windows.get? w = some window) : w ∈ s.filledWindowsOn o ↔ window.fills o := by
  rw [filledWindowsOn, List.mem_filter, h.mem_iff hw, hw, Window.fills_iff]
  rfl

end Shell

namespace Desktop

/-! ## Windows centred in turn -/

theorem reconfigure_fst (d : Desktop) (w : WindowId) : (d.reconfigure w).1 = d.shell.misfit? w := by
  unfold reconfigure Shell.misfit?
  cases d.shell.windows.get? w with
  | none => rfl
  | some window =>
    dsimp only
    rw [Option.bind_some]
    cases d.shell.areaOf window with
    | none => rfl
    | some area =>
      dsimp only
      rw [Option.bind_some]
      cases Rect.centered (some area) window.lastSize <;> rfl

theorem misfit?_moveView (d : Desktop) (w : WindowId) (p : Point) (x : WindowId) :
    (d.moveView w p).shell.misfit? x = d.shell.misfit? x := by
  unfold moveView
  split
  · rfl
  · exact Shell.bind_modifyWindow (f := ({ · with position := p })) _ (fun _ => rfl) d.shell w x

/-- Centring a window leaves the others as fit as they were. -/
theorem misfit?_reconfigure (d : Desktop) (w x : WindowId) :
    (d.reconfigure w).2.shell.misfit? x = d.shell.misfit? x := by
  unfold reconfigure
  split
  · rfl
  · split
    · rfl
    · next window _ _ area _ =>
      have hsize : (if window.placement.fillsOutput then
          d.tell (·.setSize window.surface area.size) else d).shell = d.shell := by
        split <;> rfl
      dsimp only
      split
      · rw [hsize]
      · rw [misfit?_moveView, hsize]

/-- The first window that cannot be centred is what stops the loop. -/
theorem reconfigureAll_fst : ∀ (ws : List WindowId) (d : Desktop),
    (d.reconfigureAll ws).1 = ws.findSome? d.shell.misfit?
  | [], _ => rfl
  | w :: ws, d => by
    have hfirst := d.reconfigure_fst w
    have hrest := reconfigureAll_fst ws (d.reconfigure w).2
    rw [funext (d.misfit?_reconfigure w)] at hrest
    rw [reconfigureAll, List.findSome?_cons, ← hfirst, ← hrest]
    generalize d.reconfigure w = e
    obtain ⟨_ | fault, d'⟩ := e <;> rfl

theorem reconfigure_of_fits (hw : d.shell.windows.get? w = some window)
    (hfill : window.placement.fillsOutput) (harea : d.shell.areaOf window = some area)
    (hroom : Rect.centered (some area) window.lastSize = .ok (window.centre area)) :
    d.reconfigure w = (none, (d.tell (·.setSize window.surface area.size)).moveView w
      (window.centre area)) := by
  simp only [reconfigure, hw, harea, hfill, hroom, if_true]

/-- A window fits as before when another was put in place. -/
theorem Arranges.fits {size : Option Size} {place : Window → Point}
    (h : Arranges size place [w] d d') (hx : x ≠ w) (hfits : d.shell.Fits area x) :
    d'.shell.Fits area x := by
  obtain ⟨r, hr, hfill, harea, hroom⟩ := hfits
  have hsame : d'.shell.windows.get? x = some r := by
    rw [h.windows, if_neg fun hm => hx (List.mem_singleton.1 hm), hr]
  exact ⟨r, hsame, hfill, (congrArg (·.areaOf r) h.shell).trans harea, hroom⟩

/-- Windows that are centred in turn. -/
theorem reconfigureAll_arranges (area : Rect) : ∀ (ws : List WindowId) {d : Desktop},
    d.Viewed → ws.Nodup → (∀ w ∈ ws, d.shell.Fits area w) →
      (d.reconfigureAll ws).1 = none ∧
        Arranges (some area.size) (·.centre area) ws d (d.reconfigureAll ws).2
  | [], d, _, _, _ => ⟨rfl, .nil d⟩
  | w :: ws, d, hv, hnodup, hfits => by
    obtain ⟨hw, hnodup⟩ := List.nodup_cons.1 hnodup
    obtain ⟨⟨window, hwindow, hfill, harea, hroom⟩, hfits⟩ := List.forall_mem_cons.1 hfits
    have hfirst : Arranges (some area.size) (·.centre area) [w] d _ := .single hwindow
    have hsized : (d.tell (·.setSize window.surface area.size)).Viewed :=
      hv.unmoved (.of_host rfl rfl)
    rw [reconfigureAll, reconfigure_of_fits hwindow hfill harea hroom]
    obtain ⟨hnone, hrest⟩ := reconfigureAll_arranges area ws (hsized.moveView w _) hnodup
      fun x hx => hfirst.fits (fun hxw => hw (hxw ▸ hx)) (hfits x hx)
    exact ⟨hnone, hfirst.cons hv hw hrest⟩

/-! ## Backgrounds -/

/-- The background that an output has when it got a new area. -/
def nextBackground (d : Desktop) (output : Output) : ViewHandle :=
  if d.host.failNextView then output.background else ⟨d.host.lastView + 1⟩

/-- What the host is told of the background of an output that gets a new area. -/
def backgroundOrders (d : Desktop) (output : Output) (area : Rect) : List Command :=
  if d.host.failNextView then [.setViewPosition output.background area.loc]
  else [.createBackground output.handle (d.nextBackground output) area,
    .destroyView output.background]

/-- The output has its new area, and its windows have yet to follow. -/
def renewed (d : Desktop) (o : OutputId) (output : Output) (area : Rect) : Desktop :=
  (d.update (·.modifyOutput o ({ · with area }))).renewBackground o output area

/-- `d'` is `d` with a new area and background for the output `o`, whose record was `output`. -/
structure Renews (d : Desktop) (o : OutputId) (output : Output) (area : Rect) (d' : Desktop) :
    Prop where
  outputs : ∀ j, d'.shell.outputs.get? j =
    if j = o then some { output with area, background := d.nextBackground output }
    else d.shell.outputs.get? j
  order : d'.shell.outputs.order = d.shell.outputs.order
  shell : d'.shell = { d.shell with outputs := d'.shell.outputs }
  log : d'.host.log = d.host.log ++ d.backgroundOrders output area
  background : d'.host.viewPositions.get? (d.nextBackground output) = some area.loc
  released : d.host.failNextView = false → d'.host.viewPositions.get? output.background = none
  elsewhere : ∀ v, v ≠ output.background → v ≠ d.nextBackground output →
    d'.host.viewPositions.get? v = d.host.viewPositions.get? v
  sizes : d'.host.sizes = d.host.sizes
  host : d'.host.unplaced = (d.host.exchanged output.background).unplaced

/-- The old background is moved when there is no room for another. -/
theorem renews_refused (ho : d.shell.outputs.get? o = some output)
    (hf : d.host.failNextView = true) (area : Rect) :
    d.Renews o output area (d.renewed o output area) := by
  have hrenewed : d.renewed o output area = ⟨d.shell.modifyOutput o ({ · with area }),
      { d.host with failNextView := false }.setViewPosition output.background area.loc⟩ := by
    rw [renewed, renewBackground, show (d.update _).host = d.host from rfl,
      createBackground_refused hf]
    rfl
  have hnext : d.nextBackground output = output.background := if_pos hf
  have horders : d.backgroundOrders output area =
      [.setViewPosition output.background area.loc] := if_pos hf
  rw [hrenewed]
  refine ⟨fun j => ?_, rfl, rfl, ?_, ?_, fun h => ?_, fun v hv _ => ?_, rfl, ?_⟩
  · refine (d.shell.get?_modifyOutput o j _).trans ?_
    rw [ho, hnext]
    rfl
  · rw [horders]
    rfl
  · rw [hnext]
    exact (Assoc.get?_insert ..).trans (if_pos rfl)
  · exact absurd (h.symm.trans hf) Bool.false_ne_true
  · exact (Assoc.get?_insert ..).trans (if_neg hv)
  · rw [Host.exchanged, if_pos hf, if_pos hf]
    rfl

/-- The old background is destroyed when there is a new one. -/
theorem renews_made (ho : d.shell.outputs.get? o = some output)
    (hold : output.background ≠ ⟨d.host.lastView + 1⟩)
    (hstack : d.host.viewStack.filter (· ≠ output.background) = d.host.viewStack)
    (hf : d.host.failNextView = false) (area : Rect) :
    d.Renews o output area (d.renewed o output area) := by
  have hnext : d.nextBackground output = ⟨d.host.lastView + 1⟩ := if_neg (by simp [hf])
  have horders : d.backgroundOrders output area =
      [.createBackground output.handle (d.nextBackground output) area,
        .destroyView output.background] := if_neg (by simp [hf])
  have hrenewed : d.renewed o output area =
      ⟨(d.shell.modifyOutput o ({ · with area })).modifyOutput o
          ({ · with background := d.nextBackground output }),
        ({ d.host with
            lastView := d.host.lastView + 1
            liveViews := d.host.liveViews ++ [d.nextBackground output]
            viewPositions := d.host.viewPositions.insert (d.nextBackground output) area.loc
            log := d.host.log ++ [.createBackground output.handle (d.nextBackground output) area] }
          : Host).destroyView output.background⟩ := by
    rw [renewed, renewBackground, show (d.update _).host = d.host from rfl,
      createBackground_made hf, hnext]
    rfl
  rw [← hnext] at hold
  rw [hrenewed]
  refine ⟨fun j => ?_, rfl, rfl, ?_, ?_, fun _ => ?_, fun v hv hvnext => ?_, rfl, ?_⟩
  · refine (Shell.get?_modifyOutput _ o j _).trans ?_
    rw [Shell.get?_modifyOutput, Shell.get?_modifyOutput, if_pos rfl, ho]
    split <;> rfl
  · rw [horders]
    exact List.append_assoc _ [_] [_]
  · refine (Assoc.get?_erase ..).trans ((if_neg hold.symm).trans ?_)
    exact (Assoc.get?_insert ..).trans (if_pos rfl)
  · exact (Assoc.get?_erase ..).trans (if_pos rfl)
  · refine (Assoc.get?_erase ..).trans ((if_neg hv).trans ?_)
    exact (Assoc.get?_insert ..).trans (if_neg hvnext)
  · have hlive : (d.host.liveViews ++ [d.nextBackground output]).filter
        (· ≠ output.background) =
        d.host.liveViews.filter (· ≠ output.background) ++ [⟨d.host.lastView + 1⟩] := by
      rw [List.filter_append, List.filter_eq_self (l := [_]) |>.2 (by simpa using hold.symm), hnext]
    show ({ d.host.unplaced with
      lastView := d.host.lastView + 1
      liveViews := (d.host.liveViews ++ [d.nextBackground output]).filter (· ≠ output.background)
      viewStack := d.host.viewStack.filter (· ≠ output.background) } : Host) = _
    simp only [hlive, hstack, Host.exchanged, Host.unplaced, hf, Bool.false_eq_true, if_false]

theorem renewed_renews (h : Reached config d) (ho : d.shell.outputs.get? o = some output)
    (area : Rect) : d.Renews o output area (d.renewed o output area) := by
  cases hf : d.host.failNextView with
  | true => exact renews_refused ho hf area
  | false =>
    have hold := h.viewed.viewOf_ne (Nat.lt_succ_self _) (.output o)
    refine renews_made ho (fun hnext => hold ?_) ?_ hf area
    · exact (congrArg (Option.map Output.background) ho).trans (congrArg some hnext)
    · exact h.mirrored.filter_viewStack_backdrop h.viewed.distinct (backdrop_eq_some ho)

namespace Renews

variable {d₁ : Desktop}

theorem get?_windows (h : d.Renews o output area d₁) (x : WindowId) :
    d₁.shell.windows.get? x = d.shell.windows.get? x :=
  congrArg (·.windows.get? x) h.shell

theorem filledWindowsOn (h : d.Renews o output area d₁) (j : OutputId) :
    d₁.shell.filledWindowsOn j = d.shell.filledWindowsOn j :=
  congrArg (·.filledWindowsOn j) h.shell

theorem ordersTo (h : d.Renews o output area d₁) (size : Option Size) (place : Window → Point)
    (ws : List WindowId) : d₁.shell.ordersTo size place ws = d.shell.ordersTo size place ws := by
  rw [h.shell]
  rfl

theorem shows_iff (h : d.Renews o output area d₁) (ws : List WindowId) (surface : SurfaceHandle) :
    d₁.shell.Shows ws surface ↔ d.shell.Shows ws surface := by
  rw [h.shell]
  rfl

theorem areaOf (h : d.Renews o output area d₁) (hbound : window.output = some o) :
    d₁.shell.areaOf window = some area := by
  rw [Shell.areaOf, hbound, Option.bind_some, h.outputs, if_pos rfl]
  rfl

end Renews

/-! ## The result -/

/-- `d'` is `d` with a new area for the output `o`, whose record was `output`, and what follows from
that for its background and the windows that fill it. -/
structure Resizes (d : Desktop) (o : OutputId) (output : Output) (area : Rect) (d' : Desktop) :
    Prop where
  outputs : ∀ j, d'.shell.outputs.get? j =
    if j = o then some { output with area, background := d.nextBackground output }
    else d.shell.outputs.get? j
  order : d'.shell.outputs.order = d.shell.outputs.order
  centred : ∀ w window, d.shell.windows.get? w = some window → window.fills o →
    Rect.centered (some area) window.lastSize = .ok (window.centre area)
  windows : ∀ w, d'.shell.windows.get? w = (d.shell.windows.get? w).map fun window =>
    if window.fills o then { window with position := window.centre area } else window
  /-- Families, stacking, seats and drags are what they were. -/
  shell : d'.shell = { d.shell with outputs := d'.shell.outputs, windows := d'.shell.windows }
  nodup : (d.shell.filledWindowsOn o).Nodup
  filled : ∀ w window, d.shell.windows.get? w = some window →
    (w ∈ d.shell.filledWindowsOn o ↔ window.fills o)
  log : d'.host.log = d.host.log ++ (d.backgroundOrders output area ++
    d.shell.ordersTo (some area.size) (·.centre area) (d.shell.filledWindowsOn o))
  /-- Among the commands, each window that fills the output is moved once, and no other is. -/
  moved : ∀ w window, d.shell.windows.get? w = some window →
    (d'.host.log.drop d.host.log.length).filter (·.view? = some window.view) =
      if window.fills o then [.setViewPosition window.view (window.centre area)] else []
  /-- A client hears of the new size once for each window it has that fills the output. -/
  sent : ∀ surface, (d'.host.log.drop d.host.log.length).filter (·.surface? = some surface) =
    List.replicate ((d.shell.filledWindowsOn o).countP fun w =>
      (d.shell.windows.get? w).map Window.surface = some surface) (.setSize surface area.size)
  views : ∀ w window, d.shell.windows.get? w = some window →
    d'.host.viewPositions.get? window.view =
      if window.fills o then some (window.centre area)
      else d.host.viewPositions.get? window.view
  sized : ∀ surface, d.shell.Shows (d.shell.filledWindowsOn o) surface →
    d'.host.sizes.get? surface = some area.size
  unsized : ∀ surface, ¬ d.shell.Shows (d.shell.filledWindowsOn o) surface →
    d'.host.sizes.get? surface = d.host.sizes.get? surface
  background : d'.host.viewPositions.get? (d.nextBackground output) = some area.loc
  backgrounds : ∀ j other, d.shell.outputs.get? j = some other → j ≠ o →
    d'.host.viewPositions.get? other.background = d.host.viewPositions.get? other.background
  /-- The live views are the windows' and one background for each output. -/
  live : Rolls d'.shell.viewOf d'.host.liveViews
  /-- A new background was no live view before, and the old one is none any more. -/
  fresh : d.host.failNextView = false → d.nextBackground output ∉ d.host.liveViews ∧
    output.background ∉ d'.host.liveViews ∧
    d'.host.viewPositions.get? output.background = none
  host : d'.host.unplaced = (d.host.exchanged output.background).unplaced

/-- Every window that fills `o` can be centred on `area`. -/
def HasRoom (d : Desktop) (o : OutputId) (area : Rect) : Prop :=
  ∀ w window, d.shell.windows.get? w = some window → window.fills o →
    ∃ p, Rect.centered (some area) window.lastSize = .ok p

theorem HasRoom.centred (h : d.HasRoom o area) (hw : d.shell.windows.get? w = some window)
    (hfills : window.fills o) :
    Rect.centered (some area) window.lastSize = .ok (window.centre area) := by
  obtain ⟨p, hp⟩ := h w window hw hfills
  rw [Window.centre_of_centered hp, hp]

theorem HasRoom.of_central (h : area.loc.Central) : d.HasRoom o area :=
  fun _ window _ _ => Rect.centered_of_central h window.lastSize

/-- The windows that fill the output fit on its new area. -/
theorem Renews.fits {d₁ : Desktop} (h : d.Renews o output area d₁) (hroom : d.HasRoom o area)
    (hon : d.shell.Occupants o (d.shell.windowsOn o)) :
    ∀ w ∈ d₁.shell.filledWindowsOn o, d₁.shell.Fits area w := by
  intro w hw
  rw [h.filledWindowsOn] at hw
  obtain ⟨window, hwindow⟩ :=
    Option.isSome_iff_exists.1 (hon.isLive w (List.mem_of_mem_filter hw))
  have hfills := (Shell.mem_filledWindowsOn_iff hon hwindow).1 hw
  obtain ⟨hbound, hfill⟩ := Window.fills_iff.1 hfills
  exact ⟨window, (h.get?_windows w).trans hwindow, hfill, h.areaOf hbound,
    hroom.centred hwindow hfills⟩

/-- Other records own neither the old background nor the new one. -/
theorem viewOf_ne_backgrounds {t : Target} {v : ViewHandle} (h : d.Viewed)
    (ho : d.shell.outputs.get? o = some output) (ht : d.shell.viewOf t = some v)
    (hto : t ≠ .output o) : v ≠ output.background ∧ v ≠ d.nextBackground output := by
  have hold : v ≠ output.background := by
    rintro rfl
    exact hto (h.owned t (.output o) _ ht (congrArg (Option.map Output.background) ho))
  refine ⟨hold, ?_⟩
  unfold nextBackground
  split
  · exact hold
  · rintro rfl
    exact h.viewOf_ne (Nat.lt_succ_self _) t ht

theorem view_ne_backgrounds (h : d.Viewed) (ho : d.shell.outputs.get? o = some output)
    (hw : d.shell.windows.get? w = some window) :
    window.view ≠ output.background ∧ window.view ≠ d.nextBackground output :=
  viewOf_ne_backgrounds (t := .window w) h ho (congrArg (Option.map Window.view) hw) nofun

theorem filter_view_backgroundOrders (h : d.Viewed) (ho : d.shell.outputs.get? o = some output)
    (hw : d.shell.windows.get? w = some window) (area : Rect) :
    (d.backgroundOrders output area).filter (·.view? = some window.view) = [] := by
  obtain ⟨hold, hnext⟩ := view_ne_backgrounds h ho hw
  unfold backgroundOrders
  split <;> simp [Command.view?, hold.symm, hnext.symm]

theorem filter_surface_backgroundOrders (d : Desktop) (output : Output) (area : Rect)
    (surface : SurfaceHandle) :
    (d.backgroundOrders output area).filter (·.surface? = some surface) = [] := by
  unfold backgroundOrders
  split <;> simp [Command.surface?]

/-- A new background takes the place of the old one among the live views. -/
theorem exchanged_fresh (h : Reached config d) (ho : d.shell.outputs.get? o = some output)
    (hf : d.host.failNextView = false)
    (hhost : d'.host.unplaced = (d.host.exchanged output.background).unplaced) :
    d.nextBackground output ∉ d.host.liveViews ∧ output.background ∉ d'.host.liveViews := by
  have hunowned := h.viewed.viewOf_ne (Nat.lt_succ_self d.host.lastView)
  have hnext : d.nextBackground output = ⟨d.host.lastView + 1⟩ := if_neg (by simp [hf])
  have hold : output.background ≠ ⟨d.host.lastView + 1⟩ := fun hlast =>
    hunowned (.output o)
      ((congrArg (Option.map Output.background) ho).trans (congrArg some hlast))
  have hviews : d'.host.liveViews =
      d.host.liveViews.filter (· ≠ output.background) ++ [⟨d.host.lastView + 1⟩] :=
    (congrArg Host.liveViews hhost).trans (if_neg (by simp [hf]))
  constructor
  · rw [hnext, h.rolls.mem]
    rintro ⟨t, ht⟩
    exact hunowned t ht
  · simp [hviews, hold]

theorem outputResized_eq (ho : d.shell.outputs.get? o = some output) (area : Rect) :
    d.outputResized o area = (d.renewed o output area).reconfigureAll
      ((d.renewed o output area).shell.filledWindowsOn o) := by
  rw [outputResized, ho]
  rfl

namespace Renews

variable {d₁ : Desktop} {size : Option Size} {place : Window → Point} {v : ViewHandle}

/-- Views stay where they are if neither the background nor the windows put in place have them. -/
theorem position_elsewhere (h : d.Renews o output area d₁) (hloop : Arranges size place ws d₁ d')
    (hv : v ≠ output.background ∧ v ≠ d.nextBackground output)
    (hn : ∀ x ∈ ws, ∀ r, d.shell.windows.get? x = some r → r.view ≠ v) :
    d'.host.viewPositions.get? v = d.host.viewPositions.get? v :=
  (hloop.elsewhere v fun x hx r hr => hn x hx r ((h.get?_windows x).symm.trans hr)).trans
    (h.elsewhere v hv.1 hv.2)

/-- Windows put in place leave the old background and the new one where they were put. -/
theorem position_backdrop (h : d.Renews o output area d₁) (hloop : Arranges size place ws d₁ d')
    (hviewed : d.Viewed) (ho : d.shell.outputs.get? o = some output)
    (hv : v = output.background ∨ v = d.nextBackground output) :
    d'.host.viewPositions.get? v = d₁.host.viewPositions.get? v := by
  refine hloop.elsewhere v fun x _ r hr hview => ?_
  obtain ⟨hold, hnext⟩ := view_ne_backgrounds hviewed ho ((h.get?_windows x).symm.trans hr)
  exact hv.elim (fun hv => hold (hview.trans hv)) fun hv => hnext (hview.trans hv)

/-- The background is made anew and then the windows that fill the output are centred. -/
theorem resizes (hrenews : d.Renews o output area d₁)
    (hloop : Arranges (some area.size) (·.centre area) (d.shell.filledWindowsOn o) d₁ d')
    (h : Reached config d) (ho : d.shell.outputs.get? o = some output) (hroom : d.HasRoom o area)
    (hrolls : Rolls d'.shell.viewOf d'.host.liveViews) : d.Resizes o output area d' := by
  have hon := h.occupants o
  have hnodup : (d.shell.filledWindowsOn o).Nodup := hon.nodup.filter _
  have hlive : ∀ w ∈ d.shell.filledWindowsOn o, d.shell.isLive w := fun w hw =>
    hon.isLive w (List.mem_of_mem_filter hw)
  have hfilled {x : WindowId} {r : Window} (hr : d.shell.windows.get? x = some r) :=
    Shell.mem_filledWindowsOn_iff hon hr
  have hlog : d'.host.log = d.host.log ++ (d.backgroundOrders output area ++
      d.shell.ordersTo (some area.size) (·.centre area) (d.shell.filledWindowsOn o)) := by
    rw [hloop.log, hrenews.ordersTo, hrenews.log, List.append_assoc]
  have hhost : d'.host.unplaced = (d.host.exchanged output.background).unplaced :=
    hloop.host.trans hrenews.host
  refine
    { log := hlog, host := hhost, nodup := hnodup, live := hrolls
      filled := fun x r hr => hfilled hr
      centred := fun x r hr hfills => hroom.centred hr hfills
      outputs := fun j => ?_, order := ?_, windows := fun x => ?_, shell := ?_
      moved := fun x r hr => ?_, sent := fun surface => ?_, views := fun x r hr => ?_
      sized := fun surface hs => hloop.sized _ surface rfl ((hrenews.shows_iff _ surface).2 hs)
      unsized := fun surface hs => ?_, background := ?_
      backgrounds := fun j other hj hne => ?_
      fresh := fun hf => and_assoc.1 ⟨exchanged_fresh h ho hf hhost, ?_⟩ }
  · exact (congrArg (·.outputs.get? j) hloop.shell).trans (hrenews.outputs j)
  · exact (congrArg (·.outputs.order) hloop.shell).trans hrenews.order
  · rw [hloop.windows, hrenews.get?_windows]
    cases hx : d.shell.windows.get? x with
    | none => rw [Option.map_none, Option.map_none, ite_self]
    | some r =>
      rw [Option.map_some, Option.map_some, apply_ite some]
      exact if_congr (hfilled hx) rfl rfl
  · have hkept := hloop.shell
    rw [hrenews.shell] at hkept
    rw [hkept]
  · rw [hlog, List.drop_left, List.filter_append, filter_view_backgroundOrders h.viewed ho hr,
      List.nil_append, filter_view_ordersTo h.viewed hr hnodup hlive]
    exact if_congr (hfilled hr) rfl rfl
  · rw [hlog, List.drop_left, List.filter_append, filter_surface_backgroundOrders,
      List.nil_append, filter_surface_ordersTo _ _ hlive]
  · split
    · next hfills =>
      exact hloop.placed x ((hfilled hr).2 hfills) r ((hrenews.get?_windows x).trans hr)
    · next hspared =>
      refine hrenews.position_elsewhere hloop (view_ne_backgrounds h.viewed ho hr)
        fun y hy q hq => h.viewed.view_ne hr hq ?_
      rintro rfl
      exact hspared ((hfilled hr).1 hy)
  · rw [hloop.unsized surface (.inr fun h => hs ((hrenews.shows_iff _ surface).1 h)), hrenews.sizes]
  · exact (hrenews.position_backdrop hloop h.viewed ho (.inr rfl)).trans hrenews.background
  · have hother : d.shell.viewOf (.output j) = some other.background :=
      congrArg (Option.map Output.background) hj
    exact hrenews.position_elsewhere hloop
      (viewOf_ne_backgrounds h.viewed ho hother fun h => hne (Target.output.inj h))
      fun x _ r hr => h.viewed.view_ne_background hj hr
  · exact (hrenews.position_backdrop hloop h.viewed ho (.inl rfl)).trans (hrenews.released hf)

end Renews

theorem outputResized_resizes (h : Reached config d) (ho : d.shell.outputs.get? o = some output)
    (hroom : d.HasRoom o area) : (d.outputResized o area).1 = none ∧
      d.Resizes o output area (d.outputResized o area).2 := by
  have hon := h.occupants o
  have hrenews := renewed_renews h ho area
  have hviewed : (d.renewed o output area).Viewed := (Move.renewOutput ho area).viewed h.viewed
  obtain ⟨hnone, hloop⟩ := reconfigureAll_arranges area _ hviewed
    (hrenews.filledWindowsOn o ▸ hon.nodup.filter _) (hrenews.fits hroom hon)
  rw [← outputResized_eq ho] at hnone hloop
  rw [hrenews.filledWindowsOn] at hloop
  have hreached : Reached config (d.outputResized o area).2 :=
    h.act (.event (.outputResized o area)) fun fault hfault => by
      cases (congrArg Reply.ofFault hnone).symm.trans hfault
  exact ⟨hnone, hrenews.resizes hloop h ho hroom hreached.rolls⟩

/-- The event fails just when a window that fills the output cannot be centred on the new area. -/
theorem outputResized_fst_iff (h : Reached config d) (ho : d.shell.outputs.get? o = some output) :
    (d.outputResized o area).1 = none ↔ d.HasRoom o area := by
  refine ⟨fun hnone w window hw hfills => ?_, fun hroom => (outputResized_resizes h ho hroom).1⟩
  have hrenews := renewed_renews h ho area
  have hlisted := (Shell.mem_filledWindowsOn_iff (h.occupants o) hw).2 hfills
  rw [outputResized_eq ho, reconfigureAll_fst, hrenews.filledWindowsOn,
    List.findSome?_eq_none_iff] at hnone
  have hfit := hnone w hlisted
  rw [Shell.misfit?, hrenews.get?_windows, hw, Option.bind_some,
    hrenews.areaOf (Window.fills_iff.1 hfills).1, Option.bind_some] at hfit
  cases hc : Rect.centered (some area) window.lastSize with
  | ok p => exact ⟨p, rfl⟩
  | error fault =>
    rw [hc] at hfit
    cases hfit

end Desktop

/-- An output that gets an area with room for the windows that fill it gives them the size of the
area and puts them in its middle. Without that room there is a fault. -/
theorem Reached.resize_exact (h : Reached config d) (ho : d.shell.outputs.get? o = some output)
    (area : Rect) :
    ((d.dispatch (.outputResized o area)).1 = .handled ↔ d.HasRoom o area) ∧
      (d.HasRoom o area → d.Resizes o output area (d.dispatch (.outputResized o area)).2) := by
  refine ⟨?_, fun hroom => (Desktop.outputResized_resizes h ho hroom).2⟩
  rw [← Desktop.outputResized_fst_iff h ho]
  exact Reply.ofFault_eq_handled

theorem isSome_scarceCrowdRun :
    ((Desktop.fresh .default).run (crowdRun ++ [.switch (.failNextView true)])).isSome := by
  decide +kernel

/-- What the first output of `crowdRun` shrinks to. -/
def smallArea : Rect := ⟨⟨-100, 7⟩, ⟨1281, 721, by decide, by decide⟩⟩

/-- The first output shrinks, with a new background and without one. The window that was never
mapped is centred as one without extent. -/
theorem resize_exact_crowdRun : ∃ d d' output,
    Reached .default d ∧ d.host.failNextView = false ∧
    Reached .default d' ∧ d'.host.failNextView = true ∧
    d.shell.filledWindowsOn ⟨0, 1⟩ = [⟨0, 1⟩, ⟨2, 1⟩] ∧
    (d.dispatch (.outputResized ⟨0, 1⟩ smallArea)).1 = .handled ∧
    d.Resizes ⟨0, 1⟩ output smallArea (d.dispatch (.outputResized ⟨0, 1⟩ smallArea)).2 ∧
    (d.dispatch (.outputResized ⟨0, 1⟩ smallArea)).2.host.viewPositions.get? ⟨5⟩ =
      some ⟨540, 367⟩ ∧
    d'.Resizes ⟨0, 1⟩ output smallArea (d'.dispatch (.outputResized ⟨0, 1⟩ smallArea)).2 := by
  have hreached : Reached .default _ := Reached.run _ .fresh (Option.some_get isSome_crowdRun).symm
  have hscarce : Reached .default _ :=
    Reached.run _ .fresh (Option.some_get isSome_scarceCrowdRun).symm
  have hroom (d : Desktop) : d.HasRoom ⟨0, 1⟩ smallArea := .of_central (by decide)
  obtain ⟨hreply, hresizes⟩ := Reached.resize_exact (o := ⟨0, 1⟩) hreached
    (Option.some_get (by decide +kernel)).symm smallArea
  obtain ⟨-, hresizes'⟩ := Reached.resize_exact (o := ⟨0, 1⟩) hscarce
    (Option.some_get (by decide +kernel)).symm smallArea
  have hresized := hresizes (hroom _)
  refine ⟨_, _, _, hreached, by decide +kernel, hscarce, by decide +kernel, by decide +kernel,
    hreply.2 (hroom _), hresized, ?_, hresizes' (hroom _)⟩
  refine (hresized.views ⟨2, 1⟩ _ (Option.some_get (by decide +kernel)).symm).trans ?_
  decide +kernel

end Kiosk
