import Kiosk.Proofs.Views

/-!
# Windows that cover their output

A window that fills its output and commits the size of the output is put at the
output's origin if the commit maps it or changes its size. Otherwise the commit
leaves it where it is: a window that went to another output of the same size
without a commit of another size in between stays on the output it came from.
Either way the host has the window's view where its record says.
-/

namespace Kiosk

variable {config : Config} {d : Desktop} {w : WindowId} {o : OutputId}
  {window window' : Window} {output : Output} {commit : Commit} {area : Rect}

theorem Rect.centeredStart_self (start length : Coord) :
    Rect.centeredStart start length length = .ok start := by
  have hrange := And.intro start.minValue_le_toInt start.toInt_le
  rw [centeredStart, Int.sub_self, Int.zero_tdiv, Int.add_zero, Coord.ofInt?, if_pos hrange,
    Int32.ofInt_toInt]

/-- A size is centred on an area of the same size at the area's origin. -/
theorem Rect.centered_self (area : Rect) : Rect.centered (some area) area.size = .ok area.loc := by
  rw [centered, centeredStart_self, centeredStart_self]
  rfl

/-- The record of a window that fills `area`, after a commit of its size. -/
def Window.fitted (window : Window) (area : Rect) : Window :=
  { window with
    position := if window.mapped && window.lastSize = area.size then window.position else area.loc
    mapped := true
    lastSize := area.size }

theorem Window.fitted_position_iff : (window.fitted area).position = area.loc ↔
    window.mapped = false ∨ window.lastSize ≠ area.size ∨ window.position = area.loc := by
  rw [fitted]
  dsimp only
  split
  · next h => simp_all
  · next h =>
    refine ⟨fun _ => ?_, fun _ => rfl⟩
    cases hm : window.mapped with
    | false => exact .inl rfl
    | true => exact .inr (.inl (by simpa [hm] using h))

namespace Desktop

theorem commitPosition_fills (hfill : window.placement.fillsOutput)
    (harea : d.shell.areaOf window = some area) (hsize : commit.size = area.size) :
    commitPosition d.shell window commit = .ok area.loc := by
  unfold commitPosition
  split
  · rw [if_pos hfill, harea, hsize, Rect.centered_self]
  · rw [harea, hsize, Rect.centered_self]

/-- `window` is the record before the window was positioned. -/
theorem get?_finishCommit (hfill : window.placement.fillsOutput)
    (hw : d.shell.windows.get? w = some window') (hm : window'.mapped = window.mapped)
    (commit : Commit) : (d.finishCommit w window commit).shell.windows.get? w =
      some { window' with mapped := true, lastSize := commit.size } := by
  have hmap : (if window.mapped then d else d.mapWindow w window.view).shell.windows.get? w =
      some { window' with mapped := true } := by
    split
    · next h =>
      rw [hw, ← hm.trans h]
    · exact (get?_mapWindow hw window.view w).trans (if_pos rfl)
  unfold finishCommit
  generalize (if window.mapped then d else d.mapWindow w window.view) = d' at hmap ⊢
  dsimp only
  rw [if_pos (by rw [hfill, Bool.true_or])]
  show (d'.shell.modifyWindow w _).windows.get? w = _
  rw [Shell.get?_modifyWindow, if_pos rfl, hmap]
  rfl

/-- The commit does not fault. -/
theorem windowCommitted_fills (hw : d.shell.windows.get? w = some window)
    (hfill : window.placement.fillsOutput) (harea : d.shell.areaOf window = some area)
    (hpos : 0 < area.size.w) (hsize : commit.size = area.size) :
    (d.windowCommitted w commit).1 = none ∧
      (d.windowCommitted w commit).2.shell.windows.get? w = some (window.fitted area) := by
  have hwide : commit.size.w ≠ 0 := by
    rw [hsize]
    rintro h
    rw [h] at hpos
    exact absurd hpos (by decide)
  rw [windowCommitted, hw]
  dsimp only
  have hnew : (!window.mapped || decide (commit.size ≠ window.lastSize)) =
      !(window.mapped && decide (window.lastSize = area.size)) := by
    rw [hsize, Bool.not_and, decide_not, decide_eq_decide.2 eq_comm]
  rw [if_neg hwide, hfill, Bool.true_and, hnew, Window.fitted]
  cases hstays : window.mapped && decide (window.lastSize = area.size) with
  | false =>
    rw [Bool.not_false, if_pos rfl, commitPosition_fills hfill harea hsize]
    refine ⟨rfl, ?_⟩
    rw [get?_finishCommit hfill ((get?_moveView hw area.loc w).trans (if_pos rfl)) rfl, hsize]
    rfl
  | true =>
    rw [Bool.not_true, if_neg Bool.false_ne_true]
    refine ⟨rfl, ?_⟩
    rw [get?_finishCommit hfill hw rfl, hsize]
    rfl

end Desktop

/-- What becomes of a window that commits the size of the output it fills, and where it is then. -/
theorem Reached.commit_covers (h : Reached config d) (hw : d.shell.windows.get? w = some window)
    (hfill : window.placement.fillsOutput) (hbound : window.output = some o)
    (hout : d.shell.outputs.get? o = some output) (hpos : 0 < output.area.size.w)
    (hsize : commit.size = output.area.size) :
    (d.dispatch (.windowCommitted w commit)).1 = .handled ∧
      (d.dispatch (.windowCommitted w commit)).2.shell.windows.get? w =
        some (window.fitted output.area) ∧
      (d.dispatch (.windowCommitted w commit)).2.host.viewPositions.get? window.view =
        some (window.fitted output.area).position ∧
      ((window.fitted output.area).position = output.area.loc ↔
        window.mapped = false ∨ window.lastSize ≠ output.area.size ∨
          window.position = output.area.loc) := by
  have harea : d.shell.areaOf window = some output.area := by
    rw [Shell.areaOf, hbound, Option.bind_some, hout]
    rfl
  obtain ⟨hnone, hrecord⟩ := Desktop.windowCommitted_fills hw hfill harea hpos hsize
  have hreply : (d.dispatch (.windowCommitted w commit)).1 = .handled :=
    congrArg Reply.ofFault hnone
  have hreached := h.act (.event (.windowCommitted w commit)) fun fault hfault => by
    cases hreply.symm.trans hfault
  exact ⟨hreply, hrecord, hreached.viewed.shown w _ hrecord rfl, Window.fitted_position_iff⟩

/-- A window is mapped with `size` on the first of two outputs, which are as large as each other,
and goes to the second. -/
def rebindRun (size : Size) : List Event :=
  [.outputAdded ⟨1⟩ "DP-1" ⟨.origin, outputSize⟩,
    .outputAdded ⟨2⟩ "DP-2" ⟨⟨1920, 0⟩, outputSize⟩,
    .windowAdded ⟨1⟩ none none,
    .windowCommitted ⟨0, 1⟩ ⟨size, .origin, .origin⟩,
    .fullscreenRequested ⟨0, 1⟩ true (some ⟨1, 1⟩)]

/-- What `rebindRun` leads to. -/
def rebound (size : Size) : Desktop :=
  ((Desktop.fresh .default).run ((rebindRun size).map .event)).getD (.fresh .default)

theorem rebound_dispatched (size : Size)
    (h : ((Desktop.fresh .default).run ((rebindRun size).map .event)).isSome) :
    Dispatched .default (rebound size) := by
  obtain ⟨d, hd⟩ := Option.isSome_iff_exists.1 h
  rw [rebound, hd, Option.getD_some]
  exact Dispatched.run _ .fresh hd

/-- A window that had another size before covers the second output. -/
theorem commit_covers_rebound : ∃ d, Dispatched .default d ∧
    (d.dispatch (.windowCommitted ⟨0, 1⟩ ⟨outputSize, .origin, .origin⟩)).1 = .handled ∧
    (d.dispatch (.windowCommitted ⟨0, 1⟩ ⟨outputSize, .origin, .origin⟩)).2.host.viewPositions.get?
      ⟨3⟩ = some ⟨1920, 0⟩ := by
  have hdispatched := rebound_dispatched ⟨800, 600, by decide, by decide⟩ (by decide +kernel)
  obtain ⟨hreply, -, hview, hcovers⟩ := Reached.commit_covers (w := ⟨0, 1⟩) (o := ⟨1, 1⟩)
    hdispatched.reached (Option.some_get (by decide +kernel)).symm (by decide +kernel)
    (by decide +kernel) (Option.some_get (by decide +kernel)).symm (by decide +kernel)
    (show (⟨outputSize, .origin, .origin⟩ : Commit).size = _ by decide +kernel)
  refine ⟨_, hdispatched, hreply, ?_⟩
  rw [hcovers.2 (.inr (.inl (by decide +kernel)))] at hview
  exact hview

/-- A window that has the size of both outputs stays on the first, though bound to the second. -/
theorem not_covers : ¬ ∀ config d w window o output commit, Dispatched config d →
    d.shell.windows.get? w = some window → window.placement.fillsOutput →
    window.output = some o → d.shell.outputs.get? o = some output → 0 < output.area.size.w →
    commit.size = output.area.size →
    ∃ r, (d.dispatch (.windowCommitted w commit)).2.shell.windows.get? w = some r ∧
      r.position = output.area.loc ∧
      (d.dispatch (.windowCommitted w commit)).2.host.viewPositions.get? r.view =
        some output.area.loc := by
  intro hcovers
  obtain ⟨r, hr, hposition, -⟩ := hcovers .default _ ⟨0, 1⟩ _ ⟨1, 1⟩ _
    ⟨outputSize, .origin, .origin⟩ (rebound_dispatched outputSize (by decide +kernel))
    (Option.some_get (by decide +kernel)).symm (by decide +kernel) (by decide +kernel)
    (Option.some_get (by decide +kernel)).symm (by decide +kernel) (by decide +kernel)
  have hstays : (((rebound outputSize).dispatch (.windowCommitted ⟨0, 1⟩
      ⟨outputSize, .origin, .origin⟩)).2.shell.windows.get? ⟨0, 1⟩).map Window.position =
      some .origin := by decide +kernel
  rw [hr] at hstays
  exact absurd (hposition.symm.trans (Option.some.inj hstays)) (by decide +kernel)

end Kiosk
