import Kiosk.Proofs.Occupants

/-!
# What a commit does

A commit with contents changes three things of the window's record: it is mapped, its position may
change, and the size is the one it committed last. `Window.afterCommit` is that change, for a window
whose output has the given area. `Desktop.Redrawn` is what such changes come to for the desktop, one
after the other: nothing else of the records changes but the stacking order, and that just when the
window is mapped.

A window that is mapped is told about in two commands, its position first. Once it is mapped, its
position is all that the host hears of.
-/

namespace Kiosk

variable {d d₁ d' : Desktop} {w x : WindowId} {window window₁ window' : Window} {commit : Commit}
  {area : Option Rect} {cs cs' : List Command}

/-! ## Records -/

theorem Coord.clamp_toInt (c : Coord) : Coord.clamp c.toInt = c :=
  Int32.toInt_inj.1 (Int32.toInt_ofIntClamp c.minValue_le_toInt c.toInt_le)

@[simp]
theorem Point.add_origin (p : Point) : p + .origin = p := by
  show (⟨Coord.clamp (p.x.toInt + 0), Coord.clamp (p.y.toInt + 0)⟩ : Point) = p
  rw [Int.add_zero, Int.add_zero, Coord.clamp_toInt, Coord.clamp_toInt]

/-- A commit has contents if it has a width. -/
def Commit.isWide (commit : Commit) : Bool := commit.size.w ≠ 0

namespace Window

/-- Whether a commit puts the window somewhere, apart from its offset. -/
def isPlacedBy (window : Window) (commit : Commit) : Bool :=
  !window.mapped || (window.placement.fillsOutput && commit.size ≠ window.lastSize)

/-- Where that is, if the window's output has the given area. -/
def placeFor (window : Window) (area : Option Rect) (commit : Commit) : Except Fault Point :=
  match window.xwaylandPosition with
  | some requested =>
    if window.placement.fillsOutput then Rect.centered area commit.size
    else .ok (requested - commit.geometry)
  | none => Rect.centered area commit.size

/-- The record after a commit that found the window at `p`, or put it there. -/
def settled (window : Window) (commit : Commit) (p : Point) : Window :=
  { window with
    position := if window.placement.fillsOutput then p else p + commit.offset
    mapped := true
    lastSize := commit.size }

/-- The record after a commit with contents. -/
def afterCommit (area : Option Rect) (window : Window) (commit : Commit) : Except Fault Window :=
  (if window.isPlacedBy commit then window.placeFor area commit else .ok window.position).map
    (window.settled commit)

/-- What the host hears of a window whose record changes from `window` to `window'`. -/
structure Traces (window window' : Window) (cs : List Command) : Prop where
  moves : window.mapped → ∀ c ∈ cs, ∃ p, c = .setViewPosition window.view p
  unmapped : window'.mapped = false → cs = []
  maps : window.mapped = false → window'.mapped → ∃ p more,
    cs = .setViewPosition window.view p :: .mapView window.view :: more ∧
      ∀ c ∈ more, ∃ q, c = .setViewPosition window.view q

theorem Traces.append (hv : window₁.view = window.view) (hm : window.mapped → window₁.mapped)
    (hm' : window₁.mapped → window'.mapped) (h : window.Traces window₁ cs)
    (h' : window₁.Traces window' cs') : window.Traces window' (cs ++ cs') := by
  have hmoves (hm₁ : window₁.mapped) : ∀ c ∈ cs', ∃ p, c = .setViewPosition window.view p :=
    hv ▸ h'.moves hm₁
  refine ⟨fun hmapped => List.forall_mem_append.2 ⟨h.moves hmapped, hmoves (hm hmapped)⟩,
    fun hunmapped => ?_, fun hunmapped hmapped => ?_⟩
  · have hunmapped₁ : window₁.mapped = false := by
      cases hm₁ : window₁.mapped with
      | false => rfl
      | true => exact absurd (hm' hm₁) (by simp [hunmapped])
    rw [h.unmapped hunmapped₁, h'.unmapped hunmapped, List.append_nil]
  · cases hm₁ : window₁.mapped with
    | false =>
      rw [h.unmapped hm₁, List.nil_append, ← hv]
      exact h'.maps hm₁ hmapped
    | true =>
      obtain ⟨p, more, rfl, hmore⟩ := h.maps hunmapped hm₁
      exact ⟨p, more ++ cs', rfl, List.forall_mem_append.2 ⟨hmore, hmoves hm₁⟩⟩

end Window

/-! ## Desktops -/

namespace Desktop

/-- From `d` to `d'` commits change the record of `w` from `window` to `window'`. -/
structure Redrawn (w : WindowId) (window window' : Window) (d d' : Desktop) : Prop where
  windows : ∀ x, d'.shell.windows.get? x =
    if x = w then some window' else d.shell.windows.get? x
  kept : window' = { window with
    position := window'.position, mapped := window'.mapped, lastSize := window'.lastSize }
  mapped : window.mapped → window'.mapped
  shell : d'.shell = { d.shell with
    windows := d'.shell.windows, stacking := d'.shell.stacking }
  stacking : d'.shell.stacking =
    if window.mapped = window'.mapped then d.shell.stacking else w :: d.shell.stacking
  log : ∃ cs, d'.host.log = d.host.log ++ cs ∧ window.Traces window' cs
  elsewhere : ∀ v, v ≠ window.view →
    d'.host.viewPositions.get? v = d.host.viewPositions.get? v
  sizes : d'.host.sizes = d.host.sizes
  viewStack : d'.host.viewStack = if window.mapped = window'.mapped then d.host.viewStack
    else window.view :: d.host.viewStack.filter (· ≠ window.view)
  host : d'.host.unplaced = { d.host.unplaced with viewStack := d'.host.viewStack }

/-- What is done once a flag is raised is done once in two steps. -/
theorem ite_raised {α : Type} {m m₁ m' : Bool} {a a₁ a' : α} {f : α → α} (hm : m → m₁)
    (hm' : m₁ → m') (h : a₁ = if m = m₁ then a else f a) (h' : a' = if m₁ = m' then a₁ else f a₁) :
    a' = if m = m' then a else f a := by
  subst h' h
  cases m <;> cases m₁ <;> cases m' <;> simp_all

namespace Redrawn

theorem record (h : Redrawn w window window' d d') : d'.shell.windows.get? w = some window' :=
  (h.windows w).trans (if_pos rfl)

theorem view (h : Redrawn w window window' d d') : window'.view = window.view := by
  rw [h.kept]

theorem refl (hw : d.shell.windows.get? w = some window) : Redrawn w window window d d where
  windows x := by
    split
    · next hx => rw [hx, hw]
    · rfl
  kept := rfl
  mapped := id
  shell := rfl
  stacking := (if_pos rfl).symm
  log := ⟨[], (List.append_nil _).symm, by simp, fun _ => rfl, fun hm hm' => by simp [hm] at hm'⟩
  elsewhere _ _ := rfl
  sizes := rfl
  viewStack := (if_pos rfl).symm
  host := rfl

theorem trans (h : Redrawn w window window₁ d d₁) (h' : Redrawn w window₁ window' d₁ d') :
    Redrawn w window window' d d' where
  windows x := by
    rw [h'.windows, h.windows]
    split <;> rfl
  kept := by
    conv_lhs => rw [h'.kept, h.kept]
  mapped hm := h'.mapped (h.mapped hm)
  shell := by
    conv_lhs => rw [h'.shell, h.shell]
  stacking := ite_raised h.mapped h'.mapped h.stacking h'.stacking
  log := by
    obtain ⟨cs, hlog, htraces⟩ := h.log
    obtain ⟨cs', hlog', htraces'⟩ := h'.log
    exact ⟨cs ++ cs', by rw [hlog', hlog, List.append_assoc],
      htraces.append h.view h.mapped h'.mapped htraces'⟩
  elsewhere v hv := (h'.elsewhere v (h.view ▸ hv)).trans (h.elsewhere v hv)
  sizes := h'.sizes.trans h.sizes
  viewStack := ite_raised (f := fun vs => window.view :: vs.filter (· ≠ window.view)) h.mapped
    h'.mapped h.viewStack (h.view ▸ h'.viewStack)
  host := by
    rw [h'.host, h.host]

theorem areaOf (h : Redrawn w window window' d d') :
    d'.shell.areaOf window' = d.shell.areaOf window := by
  rw [h.shell, h.kept]
  rfl

/-- A mapped window is moved. -/
theorem moveView (hw : d.shell.windows.get? w = some window) (hm : window.mapped) (p : Point) :
    Redrawn w window { window with position := p } d (d.moveView w p) := by
  have hget := get?_moveView hw p
  rw [moveView_of_live hw p] at hget ⊢
  refine
    { windows := hget, kept := rfl, mapped := id, shell := rfl, sizes := rfl, host := rfl
      stacking := (if_pos rfl).symm, viewStack := (if_pos rfl).symm
      log := ⟨[.setViewPosition window.view p], rfl, ?_⟩
      elsewhere := fun v hv => (Assoc.get?_insert ..).trans (if_neg hv) }
  exact ⟨fun _ => List.forall_mem_singleton.2 ⟨p, rfl⟩, fun h => absurd (hm.symm.trans h) nofun,
    fun h => absurd (hm.symm.trans h) nofun⟩

/-- A window is put somewhere and mapped there. -/
theorem mapWindow (hw : d.shell.windows.get? w = some window) (hm : window.mapped = false)
    (p : Point) : Redrawn w window { window with position := p, mapped := true } d
      ((d.moveView w p).mapWindow w window.view) := by
  have hnew : ¬ window.mapped = true := by simp [hm]
  have hget := get?_moveView hw p
  have hmapped := get?_mapWindow ((hget w).trans (if_pos rfl)) window.view
  rw [moveView_of_live hw p] at hget hmapped ⊢
  refine
    { windows := fun x => ?_, kept := rfl, mapped := fun _ => rfl, shell := rfl, sizes := rfl
      host := rfl, stacking := (if_neg hnew).symm, viewStack := (if_neg hnew).symm
      log := ⟨[.setViewPosition window.view p, .mapView window.view],
        List.append_assoc _ [_] [_], ?_⟩
      elsewhere := fun v hv => (Assoc.get?_insert ..).trans (if_neg hv) }
  · rw [hmapped, hget]
    split <;> rfl
  · exact ⟨fun h => absurd h hnew, nofun, fun _ _ => ⟨p, [], rfl, nofun⟩⟩

/-- The size that a window committed is noted. -/
theorem note (hw : d.shell.windows.get? w = some window) (size : Size) :
    Redrawn w window { window with lastSize := size } d
      (d.update (·.modifyWindow w ({ · with lastSize := size }))) := by
  refine
    { windows := fun x => ?_, kept := rfl, mapped := id, shell := rfl, sizes := rfl, host := rfl
      stacking := (if_pos rfl).symm, viewStack := (if_pos rfl).symm
      log := ⟨[], (List.append_nil _).symm, by simp, fun _ => rfl, fun hm hm' => ?_⟩
      elsewhere := fun _ _ => rfl }
  · refine (d.shell.get?_modifyWindow w x _).trans ?_
    rw [hw]
    rfl
  · cases hm.symm.trans hm'

/-- A mapped window is moved by the offset of a commit, and the size of the commit is noted. -/
theorem shift (hw : d.shell.windows.get? w = some window) (hm : window.mapped) (commit : Commit) :
    Redrawn w window (window.settled commit window.position) d
      ((if window.placement.fillsOutput || commit.offset = .origin then d
        else d.shiftWindow w commit.offset).update
          (·.modifyWindow w ({ · with lastSize := commit.size }))) := by
  have hsettled : window.settled commit window.position = { window with
      position := if window.placement.fillsOutput then window.position
        else window.position + commit.offset
      lastSize := commit.size } := by
    rw [Window.settled, ← hm]
  rw [hsettled]
  cases hfill : window.placement.fillsOutput with
  | true => exact note hw commit.size
  | false =>
    by_cases hoffset : commit.offset = .origin
    · rw [hoffset, Point.add_origin]
      exact note hw commit.size
    · have hshift : d.shiftWindow w commit.offset =
          d.moveView w (window.position + commit.offset) := by
        rw [shiftWindow, hw]
      have hmoved := (moveView hw hm (window.position + commit.offset)).record
      have hmoves : ¬ (false || decide (commit.offset = .origin)) = true := by simp [hoffset]
      rw [if_neg hmoves, hshift]
      exact (moveView hw hm _).trans (note hmoved commit.size)

end Redrawn

/-- What a commit with contents does. -/
theorem windowCommitted_wide (hw : d.shell.windows.get? w = some window) (hwide : commit.isWide) :
    (∃ fault, window.afterCommit (d.shell.areaOf window) commit = .error fault ∧
      d.windowCommitted w commit = (some fault, d)) ∨
    ∃ window', window.afterCommit (d.shell.areaOf window) commit = .ok window' ∧
      (d.windowCommitted w commit).1 = none ∧
      Redrawn w window window' d (d.windowCommitted w commit).2 := by
  have hne : commit.size.w ≠ 0 := by simpa [Commit.isWide] using hwide
  have hposition : commitPosition d.shell window commit =
      window.placeFor (d.shell.areaOf window) commit := rfl
  rw [windowCommitted, hw]
  dsimp only
  rw [if_neg hne, Window.afterCommit, hposition, ← Window.isPlacedBy]
  cases hplaced : window.isPlacedBy commit with
  | false =>
    have hm : window.mapped = true := by
      cases hm : window.mapped with
      | true => rfl
      | false => simp [Window.isPlacedBy, hm] at hplaced
    refine .inr ⟨_, rfl, rfl, ?_⟩
    rw [if_neg Bool.false_ne_true, finishCommit, if_pos hm]
    exact Redrawn.shift hw hm commit
  | true =>
    rw [if_pos rfl, if_pos rfl]
    cases hp : window.placeFor (d.shell.areaOf window) commit with
    | error fault => exact .inl ⟨fault, rfl, rfl⟩
    | ok p =>
      refine .inr ⟨_, rfl, rfl, ?_⟩
      show Redrawn w window (window.settled commit p) d
        ((d.moveView w p).finishCommit w window commit)
      cases hm : window.mapped with
      | true =>
        have hmoved := Redrawn.moveView hw hm p
        rw [finishCommit, if_pos hm]
        exact hmoved.trans (Redrawn.shift hmoved.record hm commit)
      | false =>
        have hmapped := Redrawn.mapWindow hw hm p
        have hunmapped : ¬ window.mapped = true := by simp [hm]
        rw [finishCommit, if_neg hunmapped]
        exact hmapped.trans (Redrawn.shift hmapped.record rfl commit)

theorem windowCommitted_blank (hblank : commit.isWide = false) (d : Desktop) (w : WindowId) :
    d.windowCommitted w commit = (none, d) := by
  have hzero : commit.size.w = 0 := by simpa [Commit.isWide] using hblank
  rw [windowCommitted]
  split
  · rfl
  · rw [if_pos hzero]

end Desktop

end Kiosk
