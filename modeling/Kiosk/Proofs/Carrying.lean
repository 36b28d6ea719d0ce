import Kiosk.Proofs.Occupants

/-!
# Outputs that move

An output that moves takes along its background and the windows on it, mapped or not, each once, and
nothing else changes (`Reached.move_carries`). Sums of points stop at the ends of the range, for the
origin of the output as for each window on its own, so windows that meet an end do not keep their
distances.

The background moves first. It is no window's view, so what the windows do after it leaves it where
it was put.
-/

namespace Kiosk

/-- The window's record, moved by `delta`. -/
def Window.shifted (window : Window) (delta : Point) : Window :=
  { window with position := window.position + delta }

/-- The output's record, moved by `delta`. -/
def Output.shifted (output : Output) (delta : Point) : Output :=
  { output with area := { output.area with loc := output.area.loc + delta } }

namespace Desktop

variable {d d' : Desktop} {w : WindowId} {o : OutputId} {window : Window} {output : Output}

/-- Windows that are shifted in turn. -/
theorem foldl_shiftWindow_arranges (delta : Point) : ∀ (ws : List WindowId) {d : Desktop},
    d.Viewed → ws.Nodup → (∀ w ∈ ws, d.shell.isLive w) →
      Arranges none (fun r => r.position + delta) ws d
        (ws.foldl (fun d w => d.shiftWindow w delta) d)
  | [], d, _, _, _ => .nil d
  | w :: ws, d, hv, hnodup, hlive => by
    obtain ⟨hw, hnodup⟩ := List.nodup_cons.1 hnodup
    obtain ⟨hwlive, hlive⟩ := List.forall_mem_cons.1 hlive
    obtain ⟨window, hwindow⟩ := Option.isSome_iff_exists.1 hwlive
    have hfirst : Arranges none (fun r => r.position + delta) [w] d _ := .single hwindow
    have hshift : d.shiftWindow w delta = d.moveView w (window.position + delta) := by
      rw [shiftWindow, hwindow]
    rw [List.foldl_cons, hshift]
    refine hfirst.cons hv hw (foldl_shiftWindow_arranges delta ws (hv.moveView w _) hnodup
      fun x hx => ?_)
    exact (hfirst.isLive x).trans (hlive x hx)

/-- `d'` is `d` with the output `o`, of the record `output`, moved by `delta`, and with it its
background and windows. -/
structure Carries (d : Desktop) (o : OutputId) (output : Output) (delta : Point) (d' : Desktop) :
    Prop where
  outputs : ∀ j, d'.shell.outputs.get? j =
    if j = o then some (output.shifted delta) else d.shell.outputs.get? j
  order : d'.shell.outputs.order = d.shell.outputs.order
  windows : ∀ w, d'.shell.windows.get? w = (d.shell.windows.get? w).map fun window =>
    if window.output = some o then window.shifted delta else window
  /-- Families, stacking, seats and drags are what they were. -/
  shell : d'.shell = { d.shell with outputs := d'.shell.outputs, windows := d'.shell.windows }
  log : d'.host.log = d.host.log ++ .setViewPosition output.background (output.area.loc + delta) ::
    d.shell.ordersTo none (fun r => r.position + delta) (d.shell.windowsOn o)
  /-- Among the commands, each window on the output is moved once, and no other window is. -/
  moved : ∀ w window, d.shell.windows.get? w = some window →
    (d'.host.log.drop d.host.log.length).filter (·.view? = some window.view) =
      if window.output = some o then
        [.setViewPosition window.view (window.position + delta)]
      else []
  background : d'.host.viewPositions.get? output.background = some (output.area.loc + delta)
  views : ∀ w window, d.shell.windows.get? w = some window →
    d'.host.viewPositions.get? window.view =
      if window.output = some o then some (window.position + delta)
      else d.host.viewPositions.get? window.view
  backgrounds : ∀ j other, d.shell.outputs.get? j = some other → j ≠ o →
    d'.host.viewPositions.get? other.background = d.host.viewPositions.get? other.background
  sizes : ∀ surface, d'.host.sizes.get? surface = d.host.sizes.get? surface
  host : d'.host.unplaced = d.host.unplaced

/-- The output and its background have moved, and its windows have yet to follow. -/
def movedAhead (d : Desktop) (o : OutputId) (output : Output) (delta : Point) : Desktop :=
  (d.update (·.modifyOutput o ({ · with area := (output.shifted delta).area }))).tell
    (·.setViewPosition output.background (output.area.loc + delta))

theorem outputMoved_arranges (hv : d.Viewed) (hon : d.shell.Occupants o (d.shell.windowsOn o))
    (ho : d.shell.outputs.get? o = some output) (delta : Point) :
    Arranges none (fun r => r.position + delta) (d.shell.windowsOn o) (d.movedAhead o output delta)
      (d.outputMoved o delta) := by
  have hahead : (d.movedAhead o output delta).Viewed :=
    (Move.shiftOutput ho (output.shifted delta).area).viewed hv
  have hloop := foldl_shiftWindow_arranges delta (d.shell.windowsOn o) hahead hon.nodup hon.isLive
  rw [outputMoved, ho]
  exact hloop

theorem outputMoved_carries (hv : d.Viewed) (hon : d.shell.Occupants o (d.shell.windowsOn o))
    (ho : d.shell.outputs.get? o = some output) (delta : Point) :
    d.Carries o output delta (d.outputMoved o delta) := by
  have hloop := outputMoved_arranges hv hon ho delta
  generalize d.outputMoved o delta = d' at hloop
  have hlog : d'.host.log = d.host.log ++
      .setViewPosition output.background (output.area.loc + delta) ::
        d.shell.ordersTo none (fun r => r.position + delta) (d.shell.windowsOn o) :=
    hloop.log.trans (List.append_assoc _ [_] _)
  have helsewhere {v : ViewHandle} (hb : v ≠ output.background)
      (hn : ∀ w ∈ d.shell.windowsOn o, ∀ r, d.shell.windows.get? w = some r → r.view ≠ v) :
      d'.host.viewPositions.get? v = d.host.viewPositions.get? v :=
    (hloop.elsewhere v hn).trans ((Assoc.get?_insert ..).trans (if_neg hb))
  refine
    { log := hlog, host := hloop.host, outputs := fun j => ?_, order := ?_, windows := fun w => ?_,
      shell := ?_, moved := fun w window hw => ?_, background := ?_,
      views := fun w window hw => ?_, backgrounds := fun j other hj hne => ?_,
      sizes := fun surface => hloop.unsized surface (.inl rfl) }
  · rw [hloop.shell]
    refine (d.shell.get?_modifyOutput o j _).trans ?_
    rw [ho]
    rfl
  · rw [hloop.shell]
    rfl
  · refine (hloop.windows w).trans ?_
    show (if _ then (d.shell.windows.get? w).map _ else d.shell.windows.get? w) = _
    cases hw : d.shell.windows.get? w with
    | none => rw [Option.map_none, Option.map_none, ite_self]
    | some window =>
      rw [Option.map_some, Option.map_some, apply_ite some]
      exact if_congr (hon.mem_iff hw) rfl rfl
  · rw [hloop.shell]
    rfl
  · rw [hlog, List.drop_left, List.filter_cons_of_neg, filter_view_ordersTo hv hw hon.nodup
      hon.isLive]
    · exact if_congr (hon.mem_iff hw) rfl rfl
    · simpa [Command.view?] using (hv.view_ne_background ho hw).symm
  · refine (hloop.elsewhere _ fun w _ r hr => hv.view_ne_background ho hr).trans ?_
    exact (Assoc.get?_insert ..).trans (if_pos rfl)
  · split
    · next hbound => exact hloop.placed w ((hon.mem_iff hw).2 hbound) window hw
    · next hunbound =>
      refine helsewhere (hv.view_ne_background ho hw) fun x hx r hr => hv.view_ne hw hr ?_
      rintro rfl
      exact hunbound ((hon.mem_iff hw).1 hx)
  · have hview := hv.owned (.output j) (.output o) other.background
      (congrArg (Option.map Output.background) hj)
    refine helsewhere (fun hsame => hne ?_) fun x _ r hr => hv.view_ne_background hj hr
    refine Target.output.inj (hview ?_)
    exact (congrArg (Option.map Output.background) ho).trans (congrArg some hsame.symm)

end Desktop

/-- An output that moves carries just the windows on it, each of them once. -/
theorem Reached.move_carries {config : Config} {d : Desktop} {o : OutputId} {output : Output}
    (h : Reached config d) (ho : d.shell.outputs.get? o = some output) (delta : Point) :
    (d.dispatch (.outputMoved o delta)).1 = .handled ∧
      d.shell.Occupants o (d.shell.windowsOn o) ∧
      d.Carries o output delta (d.dispatch (.outputMoved o delta)).2 :=
  ⟨rfl, h.occupants o, Desktop.outputMoved_carries h.viewed (h.occupants o) ho delta⟩

/-- Two outputs stand side by side. On the first are a window that fills it, a child of that, and
another window that fills it and was never mapped; on the second is one window. -/
def crowdRun : List Action :=
  [.event (.outputAdded ⟨1⟩ "DP-1" ⟨.origin, outputSize⟩),
    .event (.outputAdded ⟨2⟩ "DP-2" ⟨⟨1920, 0⟩, outputSize⟩),
    .event (.windowAdded ⟨1⟩ none none),
    .event (.windowAdded ⟨2⟩ none (some ⟨0, 1⟩)),
    .event (.windowAdded ⟨3⟩ none none),
    .event (.windowAdded ⟨4⟩ none none),
    .event (.fullscreenRequested ⟨3, 1⟩ true (some ⟨1, 1⟩)),
    .event (.windowCommitted ⟨0, 1⟩ ⟨outputSize, .origin, .origin⟩),
    .event (.windowCommitted ⟨1, 1⟩ ⟨⟨1000, 700, by decide, by decide⟩, .origin, .origin⟩),
    .event (.windowCommitted ⟨3, 1⟩ ⟨outputSize, .origin, .origin⟩)]

theorem isSome_crowdRun : ((Desktop.fresh .default).run crowdRun).isSome := by decide +kernel

/-- The first output is moved as far to the right as a point can be. The child goes from
`(460, 190)` to where its sum stops. -/
theorem move_carries_crowdRun : ∃ d output, Reached .default d ∧
    d.shell.windowsOn ⟨0, 1⟩ = [⟨1, 1⟩, ⟨0, 1⟩, ⟨2, 1⟩] ∧
    (d.dispatch (.outputMoved ⟨0, 1⟩ ⟨2147483647, 50⟩)).1 = .handled ∧
    d.Carries ⟨0, 1⟩ output ⟨2147483647, 50⟩
      (d.dispatch (.outputMoved ⟨0, 1⟩ ⟨2147483647, 50⟩)).2 ∧
    (d.dispatch (.outputMoved ⟨0, 1⟩ ⟨2147483647, 50⟩)).2.host.viewPositions.get? ⟨4⟩ =
      some ⟨2147483647, 240⟩ := by
  have hreached : Reached .default _ := Reached.run _ .fresh (Option.some_get isSome_crowdRun).symm
  obtain ⟨hreply, -, hcarries⟩ := Reached.move_carries (o := ⟨0, 1⟩) hreached
    (Option.some_get (by decide +kernel)).symm ⟨2147483647, 50⟩
  refine ⟨_, _, hreached, by decide +kernel, hreply, hcarries, ?_⟩
  refine (hcarries.views ⟨1, 1⟩ _ (Option.some_get (by decide +kernel)).symm).trans ?_
  decide +kernel

end Kiosk
