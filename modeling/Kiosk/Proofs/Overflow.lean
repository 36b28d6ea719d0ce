import Kiosk.Proofs.Covering
import Kiosk.Proofs.Resizing

/-!
# Events that overflow

Only commits and new areas of outputs centre windows, and nothing but centring can fail. So no event
fails while all outputs begin at central points, however large outputs and windows are, and no wider
range of points will do (`Desktop.central_sharp`).

An output whose origin is not central makes a commit fail, if the commit maps a window that fills
the output or changes its size. A window that is there already makes the output's own change of area
fail.
-/

namespace Kiosk

variable {config : Config} {d : Desktop} {e : Event} {w : WindowId} {o : OutputId}
  {window : Window} {output : Output} {commit : Commit} {area : Rect} {loc : Point} {fault : Fault}

/-- The area that the event gives to an output. -/
def Event.installed? : Event → Option Rect
  | .outputAdded _ _ area => some area
  | .outputResized _ area => some area
  | _ => none

theorem Shell.misfit?_eq_addOverflow {s : Shell} (h : s.misfit? w = some fault) :
    fault = .addOverflow := by
  obtain ⟨window, -, h⟩ := Option.bind_eq_some_iff.1 h
  obtain ⟨area, -, h⟩ := Option.bind_eq_some_iff.1 h
  split at h
  · cases h
  · next hc =>
    cases h
    exact Rect.centered_eq_addOverflow hc

namespace Desktop

/-! ## Commits -/

theorem commitPosition_ok {s : Shell} {p : Point}
    (h : Rect.centered (s.areaOf window) commit.size = .ok p) :
    ∃ q, commitPosition s window commit = .ok q := by
  unfold commitPosition
  split
  · split
    · exact ⟨p, h⟩
    · exact ⟨_, rfl⟩
  · exact ⟨p, h⟩

theorem commitPosition_of_fills {s : Shell} (hfill : window.placement.fillsOutput) :
    commitPosition s window commit = Rect.centered (s.areaOf window) commit.size := by
  unfold commitPosition
  split
  · rw [if_pos hfill]
  · rfl

/-- A commit of a size that can be centred does not fail. -/
theorem windowCommitted_of_ok (h : ∀ window, d.shell.windows.get? w = some window →
    ∃ p, Rect.centered (d.shell.areaOf window) commit.size = .ok p) :
    (d.windowCommitted w commit).1 = none := by
  unfold windowCommitted
  split
  · rfl
  · next window hw =>
    obtain ⟨p, hp⟩ := h window hw
    obtain ⟨q, hq⟩ := commitPosition_ok hp
    rw [hq]
    split
    · rfl
    · split <;> rfl

/-- A commit that centres a window fails if the size cannot be centred. -/
theorem windowCommitted_of_error (hw : d.shell.windows.get? w = some window)
    (hfill : window.placement.fillsOutput) (hwide : commit.size.w ≠ 0)
    (hnew : window.mapped = false ∨ window.lastSize ≠ commit.size)
    (hc : Rect.centered (d.shell.areaOf window) commit.size = .error fault) :
    (d.windowCommitted w commit).1 = some fault := by
  have hcentres : (!window.mapped || (window.placement.fillsOutput &&
      decide (commit.size ≠ window.lastSize))) = true := by
    rcases hnew with hm | hs
    · simp [hm]
    · simp [hfill, Ne.symm hs]
  rw [windowCommitted, hw]
  dsimp only
  rw [if_neg hwide, if_pos hcentres, commitPosition_of_fills hfill, hc]

/-! ## New areas -/

/-- An output that gets an area without room for one of its windows makes the event fail. -/
theorem outputResized_of_not_hasRoom (h : Reached config d)
    (ho : d.shell.outputs.get? o = some output) (hroom : ¬ d.HasRoom o area) :
    (d.outputResized o area).1 = some .addOverflow := by
  obtain ⟨fault, hfault⟩ := Option.ne_none_iff_exists'.1
    (mt (outputResized_fst_iff h ho).1 hroom)
  rw [hfault]
  rw [outputResized_eq ho, reconfigureAll_fst] at hfault
  obtain ⟨w, -, hw⟩ := List.exists_of_findSome?_eq_some hfault
  rw [Shell.misfit?_eq_addOverflow hw]

/-! ## The result -/

/-- No event fails while outputs begin at central points. -/
theorem dispatch_ne_fault (h : Reached config d)
    (houtputs : ∀ o output, d.shell.outputs.get? o = some output → output.area.loc.Central)
    (hinstalled : ∀ area, e.installed? = some area → area.loc.Central) :
    (d.dispatch e).1 ≠ .fault fault := by
  have hnone {found : Option Fault} (hfound : found = none) :
      Reply.ofFault found ≠ .fault fault := by
    rw [hfound]
    exact Reply.noConfusion
  cases e with
  | windowCommitted w commit =>
    refine hnone (windowCommitted_of_ok fun window _ => ?_)
    cases harea : d.shell.areaOf window with
    | none => exact ⟨_, rfl⟩
    | some area =>
      obtain ⟨output, houtput, rfl⟩ := Option.map_eq_some_iff.1 harea
      obtain ⟨o, -, ho⟩ := Option.bind_eq_some_iff.1 houtput
      exact Rect.centered_of_central (houtputs o output ho) commit.size
  | outputResized o area =>
    refine hnone (show (d.outputResized o area).1 = none from ?_)
    cases ho : d.shell.outputs.get? o with
    | none => rw [outputResized, ho]
    | some output => exact (outputResized_fst_iff h ho).2 (.of_central (hinstalled area rfl))
  | windowAdded surface appId parent =>
    show Reply.ofWindow (d.windowAdded surface appId parent).1 ≠ _
    cases (d.windowAdded surface appId parent).1 <;> exact Reply.noConfusion
  | outputAdded handle name area =>
    show Reply.ofOutput (d.outputAdded handle name area).1 ≠ _
    cases (d.outputAdded handle name area).1 <;> exact Reply.noConfusion
  | _ => exact Reply.noConfusion

/-- `w` is fullscreen on `o`. -/
structure Covers (d : Desktop) (w : WindowId) (window : Window) (o : OutputId) (output : Output) :
    Prop where
  live : d.shell.windows.get? w = some window
  fullscreen : window.placement = .fullscreen
  bound : window.output = some o
  listed : d.shell.outputs.get? o = some output

namespace Covers

theorem areaOf (h : d.Covers w window o output) : d.shell.areaOf window = some output.area := by
  rw [Shell.areaOf, h.bound, Option.bind_some, h.listed]
  rfl

theorem fillsOutput (h : d.Covers w window o output) : window.placement.fillsOutput := by
  rw [h.fullscreen]
  rfl

theorem fills (h : d.Covers w window o output) : window.fills o :=
  Window.fills_iff.2 ⟨h.bound, h.fillsOutput⟩

end Covers

end Desktop

/-- Fullscreen windows on an output with the area `⟨loc, outer⟩` make events fail by the size
`inner`: when they commit it, and when they have it already as the output gets that area. There are
such windows. -/
structure Point.Overflows (loc : Point) (outer inner : Size) : Prop where
  commit : ∀ config d w window o output offset geometry, Reached config d →
    d.Covers w window o output → output.area = ⟨loc, outer⟩ →
    window.mapped = false ∨ window.lastSize ≠ inner →
    (d.dispatch (.windowCommitted w ⟨inner, offset, geometry⟩)).1 = .fault .addOverflow
  commits : ∃ d w window o output, Dispatched .default d ∧ d.Covers w window o output ∧
    output.area = ⟨loc, outer⟩ ∧ window.mapped = false
  resize : ∀ config d w window o output, Reached config d → d.Covers w window o output →
    window.lastSize = inner →
    (d.dispatch (.outputResized o ⟨loc, outer⟩)).1 = .fault .addOverflow
  resizes : ∃ d w window o output, Dispatched .default d ∧ d.Covers w window o output ∧
    window.lastSize = inner

namespace Desktop

/-- A window appears on the only output. -/
def lonelyRun (area : Rect) : List Event :=
  [.outputAdded ⟨1⟩ "DP-1" area, .windowAdded ⟨1⟩ none none]

/-- What `lonelyRun` leads to. -/
def lonely (area : Rect) : Desktop :=
  ((Desktop.fresh .default).run ((lonelyRun area).map .event)).getD (.fresh .default)

theorem lonely_dispatched (area : Rect) : Dispatched .default (lonely area) := by
  have hrun : ((Desktop.fresh .default).run ((lonelyRun area).map .event)).isSome := rfl
  obtain ⟨d, hd⟩ := Option.isSome_iff_exists.1 hrun
  rw [lonely, hd, Option.getD_some]
  exact .run _ .fresh hd

/-- The window is fullscreen and has yet to be mapped. -/
theorem exists_covers (area : Rect) : ∃ d w window o output, Dispatched .default d ∧
    d.Covers w window o output ∧ output.area = area ∧ window.mapped = false ∧
    d.shell.outputs.order = [o] := by
  have hwindow : ((lonely area).shell.windows.get? ⟨0, 1⟩).map
      (fun r => (r.placement, r.output, r.mapped)) = some (.fullscreen, some ⟨0, 1⟩, false) :=
    rfl
  have houtput : ((lonely area).shell.outputs.get? ⟨0, 1⟩).map Output.area = some area := rfl
  have horder : (lonely area).shell.outputs.order = [⟨0, 1⟩] := rfl
  obtain ⟨window, hw, hrecord⟩ := Option.map_eq_some_iff.1 hwindow
  obtain ⟨output, ho, harea⟩ := Option.map_eq_some_iff.1 houtput
  obtain ⟨hplacement, hbound, hm⟩ : window.placement = .fullscreen ∧
      window.output = some ⟨0, 1⟩ ∧ window.mapped = false := by simpa using hrecord
  exact ⟨_, ⟨0, 1⟩, window, ⟨0, 1⟩, output, lonely_dispatched area,
    ⟨hw, hplacement, hbound, ho⟩, harea, hm, horder⟩

/-- A fullscreen window commits the size of its output. -/
theorem exists_covers_of_size {size : Size} (hwide : 0 < size.w) :
    ∃ d w window o output, Dispatched .default d ∧ d.Covers w window o output ∧
      window.lastSize = size := by
  obtain ⟨d, w, window, o, output, hd, hcovers, harea, -⟩ := exists_covers ⟨.origin, size⟩
  let commit : Commit := ⟨size, .origin, .origin⟩
  have hsize : commit.size = output.area.size := congrArg Rect.size harea.symm
  obtain ⟨hreply, hrecord, -⟩ := Reached.commit_covers hd.reached hcovers.live hcovers.fillsOutput
    hcovers.bound hcovers.listed (hsize ▸ hwide) hsize
  have hdispatched := hd.event (.windowCommitted w commit) fun fault hfault => by
    cases hreply.symm.trans hfault
  have hthere := hdispatched.reached.sound.contains_output
    (Shell.stance_eq_some_iff.2 ⟨_, hrecord, rfl⟩) hcovers.bound
  obtain ⟨output', houtput⟩ := Option.isSome_iff_exists.1 hthere
  exact ⟨_, w, _, o, output', hdispatched, ⟨hrecord, hcovers.fullscreen, hcovers.bound, houtput⟩,
    hsize.symm⟩

/-- A size that cannot be centred on the area makes events fail. -/
theorem overflows_of_error {outer inner : Size} (hwide : 0 < inner.w)
    (hc : Rect.centered (some ⟨loc, outer⟩) inner = .error .addOverflow) :
    loc.Overflows outer inner where
  commit config d w window o output offset geometry _ hcovers harea hnew := by
    let commit : Commit := ⟨inner, offset, geometry⟩
    have hne : commit.size.w ≠ 0 := fun h => absurd (h ▸ hwide) (by decide)
    rw [← harea, ← hcovers.areaOf] at hc
    exact congrArg Reply.ofFault
      (windowCommitted_of_error hcovers.live hcovers.fillsOutput hne hnew hc)
  commits := by
    obtain ⟨d, w, window, o, output, hd, hcovers, harea, hm, -⟩ := exists_covers ⟨loc, outer⟩
    exact ⟨d, w, window, o, output, hd, hcovers, harea, hm⟩
  resize config d w window o output h hcovers hlast := by
    refine congrArg Reply.ofFault (outputResized_of_not_hasRoom h hcovers.listed fun hroom => ?_)
    obtain ⟨p, hp⟩ := hroom w window hcovers.live hcovers.fills
    rw [hlast, hc] at hp
    cases hp
  resizes := exists_covers_of_size hwide

/-- Central points are just those that outputs may begin at without events that overflow. -/
theorem central_sharp :
    (∀ config d e fault, Reached config d →
      (∀ o output, d.shell.outputs.get? o = some output → output.area.loc.Central) →
      (∀ area, e.installed? = some area → area.loc.Central) →
      (d.dispatch e).1 ≠ .fault fault) ∧
    ∀ loc : Point, ¬ loc.Central → ∃ outer inner, loc.Overflows outer inner :=
  ⟨fun _ _ _ _ h houtputs hinstalled => dispatch_ne_fault h houtputs hinstalled, fun loc hloc =>
    ⟨loc.outer, loc.inner, overflows_of_error loc.x.strain_pos.2 (Point.centered_inner hloc)⟩⟩

/-- The largest area at a corner of the central points. -/
def brinkArea : Rect :=
  ⟨⟨1073741824, -1073741825⟩, ⟨2147483647, 2147483647, by decide, by decide⟩⟩

/-- The smallest window is mapped there without a fault. One step to the right of the corner there
are sizes that overflow. -/
theorem central_sharp_brinkArea : (∃ d w window o output, Dispatched .default d ∧
      d.Covers w window o output ∧ output.area = brinkArea ∧ window.mapped = false ∧
      ∀ fault, (d.dispatch (.windowCommitted w
        ⟨⟨1, 1, by decide, by decide⟩, .origin, .origin⟩)).1 ≠ .fault fault) ∧
    ∃ outer inner, (⟨1073741825, 0⟩ : Point).Overflows outer inner := by
  obtain ⟨d, w, window, o, output, hd, hcovers, harea, hm, honly⟩ := exists_covers brinkArea
  refine ⟨⟨d, w, window, o, output, hd, hcovers, harea, hm, fun fault =>
    central_sharp.1 .default d _ fault hd.reached (fun j other hj => ?_) nofun⟩,
    central_sharp.2 ⟨1073741825, 0⟩ (by decide)⟩
  have hlisted := (hd.reached.outputs_ordered.mem j).2 (Option.isSome_iff_exists.2 ⟨other, hj⟩)
  rw [honly, List.mem_singleton] at hlisted
  subst hlisted
  cases hcovers.listed.symm.trans hj
  rw [harea]
  decide

end Desktop

end Kiosk
