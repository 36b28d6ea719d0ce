import Kiosk.Proofs.Contents
import Kiosk.Proofs.Views

/-!
# Commits one after the other

A window commits any number of times, and nothing else happens in between. Commits without width
have no effect. The first of the others maps the window, unless it is mapped, and none maps it
again or stacks it anew (`Reached.commits_follow`).

A window in normal placement goes along with the offsets of its commits, from where it is or from
where it is mapped. A window that fills its output stays where it is while its size stays; the last
commit that changes the size decides where it ends, and no offset counts.
-/

namespace Kiosk

variable {config : Config} {d d' : Desktop} {w : WindowId} {window window₁ window' : Window}
  {commit : Commit} {area : Option Rect} {cs pre post : List Commit}

/-! ## Records -/

namespace Window

/-- The record becomes `window'` by commits with contents. -/
inductive After (area : Option Rect) : Window → List Commit → Window → Prop
  | nil (window : Window) : After area window [] window
  | cons {window window₁ window' : Window} {commit : Commit} {cs : List Commit}
      (h : window.afterCommit area commit = .ok window₁) (h' : After area window₁ cs window') :
      After area window (commit :: cs) window'

theorem After.of_append : ∀ {pre : List Commit} {window : Window},
    After area window (pre ++ post) window' →
      ∃ window₁, After area window pre window₁ ∧ After area window₁ post window'
  | [], window, h => ⟨window, .nil window, h⟩
  | c :: pre, window, .cons h h' => by
    obtain ⟨window₂, hpre, hpost⟩ := After.of_append h'
    exact ⟨window₂, .cons h hpre, hpost⟩

theorem afterCommit_eq_ok (h : window.afterCommit area commit = .ok window₁) :
    ∃ p, (if window.isPlacedBy commit then window.placeFor area commit else .ok window.position) =
      .ok p ∧ window₁ = window.settled commit p := by
  rw [afterCommit] at h
  generalize (if window.isPlacedBy commit then window.placeFor area commit
    else .ok window.position) = start at h
  cases start with
  | error => cases h
  | ok p => exact ⟨p, rfl, (Except.ok.inj h).symm⟩

/-- Commits with contents leave the window mapped, with the size of the last of them. -/
theorem After.mapped (h : After area window cs window') :
    window'.mapped = (window.mapped || !cs.isEmpty) ∧
      window'.lastSize = ((cs.map Commit.size).getLast?).getD window.lastSize := by
  induction h with
  | nil window => simp
  | @cons window window₁ window' commit cs h _ ih =>
    obtain ⟨p, -, rfl⟩ := afterCommit_eq_ok h
    obtain ⟨hmapped, hlast⟩ := ih
    refine ⟨hmapped.trans (by simp [settled]), hlast.trans ?_⟩
    rw [List.map_cons, List.getLast?_cons, Option.getD_some]
    rfl

/-- A mapped window in normal placement goes along with all offsets. -/
theorem After.position_of_normal (h : After area window cs window')
    (hn : window.placement = .normal) (hm : window.mapped) :
    window'.position = (cs.map Commit.offset).foldl (· + ·) window.position := by
  induction h with
  | nil => rfl
  | @cons window window₁ window' commit cs h _ ih =>
    have hplaced : window.isPlacedBy commit = false := by
      simp [isPlacedBy, hm, hn, Placement.fillsOutput]
    obtain ⟨p, hp, rfl⟩ := afterCommit_eq_ok h
    rw [hplaced] at hp
    cases hp
    rw [ih hn rfl, List.map_cons, List.foldl_cons]
    simp [settled, hn, Placement.fillsOutput]

/-- The size of a window while it is mapped. -/
def mappedSize (window : Window) : Option Size :=
  if window.mapped then some window.lastSize else none

/-- The size it has after commits with contents. -/
def sizeAfter (window : Window) (cs : List Commit) : Option Size :=
  ((cs.map Commit.size).getLast?).or window.mappedSize

theorem After.mappedSize (h : After area window cs window') :
    window'.mappedSize = window.sizeAfter cs := by
  obtain ⟨hmapped, hlast⟩ := h.mapped
  rw [Window.mappedSize, hmapped, hlast, sizeAfter]
  cases cs with
  | nil => simp [Window.mappedSize]
  | cons c cs => simp [List.getLast?_cons]

/-- A window that fills its output is put in the middle of it by a commit of another size, and left
alone by one of the same size. -/
theorem afterCommit_fills (h : window.afterCommit area commit = .ok window₁)
    (hfill : window.placement.fillsOutput) : window₁.placement.fillsOutput ∧
      window₁.mappedSize = some commit.size ∧
      if window.mappedSize = some commit.size then window₁.position = window.position
      else Rect.centered area commit.size = .ok window₁.position := by
  obtain ⟨p, hp, rfl⟩ := afterCommit_eq_ok h
  have hposition : (window.settled commit p).position = p := if_pos hfill
  have hplace : window.placeFor area commit = Rect.centered area commit.size := by
    rw [placeFor, hfill]
    split <;> rfl
  have hplaced : window.isPlacedBy commit = !decide (window.mappedSize = some commit.size) := by
    rw [isPlacedBy, hfill, Window.mappedSize]
    cases window.mapped <;> simp [eq_comm]
  refine ⟨hfill, rfl, ?_⟩
  rw [hplaced, hplace] at hp
  rw [hposition]
  split
  · next hsame =>
    rw [hsame] at hp
    simpa using hp.symm
  · next hother =>
    simpa [hother] using hp

/-- Commits of the size that a window has leave it where it is. -/
theorem After.position_of_same (h : After area window cs window')
    (hfill : window.placement.fillsOutput)
    (hsame : ∀ c ∈ cs, window.mappedSize = some c.size) : window'.position = window.position := by
  induction h with
  | nil => rfl
  | cons h _ ih =>
    obtain ⟨hfill₁, hsize₁, hposition⟩ := afterCommit_fills h hfill
    obtain ⟨hfirst, hrest⟩ := List.forall_mem_cons.1 hsame
    rw [if_pos hfirst] at hposition
    rw [ih hfill₁ fun c hc => hsize₁.trans (hfirst.symm.trans (hrest c hc)), hposition]

theorem After.fillsOutput (h : After area window cs window')
    (hfill : window.placement.fillsOutput) : window'.placement.fillsOutput := by
  induction h with
  | nil => exact hfill
  | cons h _ ih => exact ih (afterCommit_fills h hfill).1

/-- Where a window that fills its output ends is decided by the last commit that changes its
size. -/
theorem After.centred (h : After area window (pre ++ commit :: post) window')
    (hfill : window.placement.fillsOutput) (hchange : window.sizeAfter pre ≠ some commit.size)
    (hlast : ∀ c ∈ post, c.size = commit.size) :
    Rect.centered area commit.size = .ok window'.position := by
  obtain ⟨window₁, hpre, hpost⟩ := h.of_append
  cases hpost with
  | cons hc hpost =>
    obtain ⟨hfill₂, hsize₂, hposition⟩ := afterCommit_fills hc (hpre.fillsOutput hfill)
    rw [if_neg (hpre.mappedSize ▸ hchange)] at hposition
    rw [hpost.position_of_same hfill₂ fun c h => hsize₂.trans (congrArg some (hlast c h).symm),
      hposition]

end Window

/-! ## Desktops -/

/-- Commits of one window, one after the other. -/
def commits (w : WindowId) (cs : List Commit) : List Action :=
  cs.map fun c => .event (.windowCommitted w c)

namespace Desktop

theorem dispatch_blank (h : commit.isWide = false) (d : Desktop) (w : WindowId) :
    d.dispatch (.windowCommitted w commit) = (.handled, d) := by
  rw [dispatch, windowCommitted_blank h]
  rfl

theorem run_commits_cons (d : Desktop) (w : WindowId) (commit : Commit) (cs : List Commit) :
    d.run (commits w (commit :: cs)) = match d.windowCommitted w commit with
      | (some _, _) => none
      | (none, d) => d.run (commits w cs) := by
  show Desktop.run d (.event (.windowCommitted w commit) :: commits w cs) = _
  rw [run, act, dispatch]
  obtain ⟨_ | fault, d'⟩ := d.windowCommitted w commit <;> rfl

/-- Commits without width can be left out. -/
theorem run_commits_filter (w : WindowId) : ∀ (cs : List Commit) (d : Desktop),
    d.run (commits w (cs.filter Commit.isWide)) = d.run (commits w cs)
  | [], _ => rfl
  | c :: cs, d => by
    rw [run_commits_cons, List.filter_cons]
    cases hc : c.isWide with
    | false =>
      rw [if_neg Bool.false_ne_true, windowCommitted_blank hc]
      exact run_commits_filter w cs d
    | true =>
      rw [if_pos rfl, run_commits_cons]
      split
      · rfl
      · exact run_commits_filter w cs _

/-- The first commit of a run with contents, and the rest of the run. -/
theorem run_commits_wide (hw : d.shell.windows.get? w = some window) (hwide : commit.isWide)
    (hrun : d.run (commits w (commit :: cs)) = some d') :
    ∃ window₁ d₁, window.afterCommit (d.shell.areaOf window) commit = .ok window₁ ∧
      d.windowCommitted w commit = (none, d₁) ∧ Redrawn w window window₁ d d₁ ∧
      d₁.run (commits w cs) = some d' := by
  rw [run_commits_cons] at hrun
  rcases windowCommitted_wide hw hwide with ⟨fault, -, he⟩ | ⟨window₁, hok, hnone, hredrawn⟩
  · rw [he] at hrun
    cases hrun
  · generalize d.windowCommitted w commit = e at hrun hnone hredrawn
    obtain ⟨_, d₁⟩ := e
    cases hnone
    exact ⟨window₁, d₁, hok, rfl, hredrawn, hrun⟩

/-- What a run of commits with contents comes to. -/
theorem run_commits : ∀ {cs : List Commit} {d : Desktop} {window : Window},
    d.shell.windows.get? w = some window → (∀ c ∈ cs, c.isWide) →
    d.run (commits w cs) = some d' →
    ∃ window', window.After (d.shell.areaOf window) cs window' ∧ Redrawn w window window' d d'
  | [], d, window, hw, _, hrun => by
    cases hrun
    exact ⟨window, .nil window, .refl hw⟩
  | c :: cs, d, window, hw, hwide, hrun => by
    obtain ⟨hc, hwide⟩ := List.forall_mem_cons.1 hwide
    obtain ⟨window₁, d₁, hok, -, hredrawn, hrun⟩ := run_commits_wide hw hc hrun
    obtain ⟨window', hafter, hredrawn'⟩ := run_commits hredrawn.record hwide hrun
    rw [hredrawn.areaOf] at hafter
    exact ⟨window', .cons hok hafter, hredrawn.trans hredrawn'⟩

/-- Of what a window that fills its output commits, the size is all that counts. -/
theorem windowCommitted_congr {c c' : Commit} (hw : d.shell.windows.get? w = some window)
    (hfill : window.placement.fillsOutput) (hsize : c.size = c'.size) :
    d.windowCommitted w c = d.windowCommitted w c' := by
  have hposition : commitPosition d.shell window c = commitPosition d.shell window c' := by
    unfold commitPosition
    split <;> simp only [hfill, if_true, hsize]
  have hfinish (e : Desktop) : e.finishCommit w window c = e.finishCommit w window c' := by
    simp only [finishCommit, hfill, Bool.true_or, if_true, hsize]
  simp only [windowCommitted, hw, hposition, hfinish, hsize]

theorem run_commits_congr {cs' : List Commit} (hw : d.shell.windows.get? w = some window)
    (hfill : window.placement.fillsOutput) (hsizes : cs.map Commit.size = cs'.map Commit.size) :
    d.run (commits w cs) = d.run (commits w cs') := by
  induction cs generalizing cs' d window with
  | nil => rw [List.map_eq_nil_iff.1 hsizes.symm]
  | cons c cs ih =>
    obtain ⟨c', cs', rfl, hsize, hsizes⟩ := List.map_eq_cons_iff.1 hsizes.symm
    rw [run_commits_cons, run_commits_cons, ← windowCommitted_congr hw hfill hsize.symm]
    cases hc : c.isWide with
    | false =>
      rw [windowCommitted_blank hc]
      exact ih hw hfill hsizes.symm
    | true =>
      rcases windowCommitted_wide hw hc with ⟨fault, -, he⟩ | ⟨window₁, hok, hnone, hredrawn⟩
      · rw [he]
      · generalize d.windowCommitted w c = e at hnone hredrawn
        obtain ⟨_, d₁⟩ := e
        cases hnone
        exact ih hredrawn.record (Window.afterCommit_fills hok hfill).1 hsizes.symm

end Desktop

/-! ## The result -/

/-- The commit, made by a window in normal placement that it maps, puts the window at `p`: where a
legacy client asked for, else in the middle of the output, if there is one. -/
def Shell.MapsAt (s : Shell) (window : Window) (commit : Commit) (p : Point) : Prop :=
  match window.xwaylandPosition, s.areaOf window with
  | some requested, _ => p = requested - commit.geometry
  | none, some area => Rect.centered (some area) commit.size = .ok p
  | none, none => p = .origin

namespace Desktop

/-- `d'` is `d` after the window `w`, whose record was `window`, has made the commits `cs`, all of
them with contents. -/
structure Committed (d : Desktop) (w : WindowId) (window : Window) (cs : List Commit)
    (window' : Window) (d' : Desktop) : Prop where
  /-- Nothing but the window changes, it is put in front of all others just when it is mapped, and
  the host hears that it is mapped just then, and once. -/
  redrawn : Redrawn w window window' d d'
  /-- A window that was not mapped is mapped by the first commit, and stays where it is in the
  stacking order during the rest. -/
  first : ∀ c rest, cs = c :: rest → ∃ window₁ d₁,
    d.dispatch (.windowCommitted w c) = (.handled, d₁) ∧ window₁.mapped ∧
      Redrawn w window window₁ d d₁ ∧ d₁.run (commits w rest) = some d' ∧
      Redrawn w window₁ window' d₁ d'
  mapped : window'.mapped = (window.mapped || !cs.isEmpty)
  lastSize : window'.lastSize = ((cs.map Commit.size).getLast?).getD window.lastSize
  moved : window.placement = .normal → window.mapped →
    window'.position = (cs.map Commit.offset).foldl (· + ·) window.position
  placed : window.placement = .normal → window.mapped = false →
    ∀ c rest, cs = c :: rest → ∃ p, d.shell.MapsAt window c p ∧
      window'.position = (cs.map Commit.offset).foldl (· + ·) p
  stays : window.placement.fillsOutput → (∀ c ∈ cs, window.mappedSize = some c.size) →
    window'.position = window.position
  /-- `c` is the last commit that changes the size of the window. -/
  centred : window.placement.fillsOutput → ∀ pre c post, cs = pre ++ c :: post →
    window.sizeAfter pre ≠ some c.size → (∀ b ∈ post, b.size = c.size) →
    Rect.centered (d.shell.areaOf window) c.size = .ok window'.position
  /-- Of the commits of a window that fills its output, the sizes are all that counts. -/
  sizes : window.placement.fillsOutput → ∀ cs', cs'.map Commit.size = cs.map Commit.size →
    d.run (commits w cs') = some d'
  shown : window'.mapped → d'.host.viewPositions.get? window.view = some window'.position

/-- A window in normal placement is mapped, and then goes along with all offsets. -/
theorem placed_of_after (h : window.After (d.shell.areaOf window) (commit :: cs) window')
    (hn : window.placement = .normal) (hm : window.mapped = false) :
    ∃ p, d.shell.MapsAt window commit p ∧
      window'.position = ((commit :: cs).map Commit.offset).foldl (· + ·) p := by
  cases h with
  | cons hc hrest =>
    obtain ⟨p, hp, rfl⟩ := Window.afterCommit_eq_ok hc
    have hfill : window.placement.fillsOutput = false := by
      rw [hn]
      rfl
    refine ⟨p, ?_, ?_⟩
    · rw [if_pos (by simp [Window.isPlacedBy, hm]), Window.placeFor, hfill] at hp
      rw [Shell.MapsAt]
      split at hp
      · next requested hrequested =>
        rw [hrequested]
        simpa using hp.symm
      · next hnone =>
        rw [hnone]
        cases harea : d.shell.areaOf window with
        | some area =>
          rw [harea] at hp
          exact hp
        | none =>
          rw [harea] at hp
          exact (Except.ok.inj hp).symm
    · rw [hrest.position_of_normal hn rfl, List.map_cons, List.foldl_cons]
      simp [Window.settled, hfill]

theorem run_commits_committed (h : Reached config d) (hw : d.shell.windows.get? w = some window)
    (hwide : ∀ c ∈ cs, c.isWide) (hrun : d.run (commits w cs) = some d') :
    ∃ window', d.Committed w window cs window' d' := by
  obtain ⟨window', hafter, hredrawn⟩ := run_commits hw hwide hrun
  have hreached : Reached config d' := .run _ h hrun
  refine ⟨window', hredrawn, ?_, hafter.mapped.1, hafter.mapped.2, hafter.position_of_normal, ?_,
    hafter.position_of_same, ?_, fun hfill cs' hsizes => ?_, fun hm => ?_⟩
  · rintro c rest rfl
    obtain ⟨hc, hwide⟩ := List.forall_mem_cons.1 hwide
    obtain ⟨window₁, d₁, hok, he, hredrawn₁, hrest⟩ := run_commits_wide hw hc hrun
    obtain ⟨window₂, hafter₂, hredrawn₂⟩ := run_commits hredrawn₁.record hwide hrest
    obtain rfl : window₂ = window' :=
      Option.some.inj (hredrawn₂.record.symm.trans hredrawn.record)
    obtain ⟨p, -, rfl⟩ := Window.afterCommit_eq_ok hok
    exact ⟨_, d₁, by rw [dispatch, he]; rfl, rfl, hredrawn₁, hrest, hredrawn₂⟩
  · rintro hn hm c rest rfl
    exact placed_of_after hafter hn hm
  · rintro hfill pre c post rfl hchange hlast
    exact hafter.centred hfill hchange hlast
  · rw [run_commits_congr hw hfill hsizes, hrun]
  · rw [← hredrawn.view]
    exact hreached.viewed.shown w window' hredrawn.record hm

end Desktop

/-- What a run of commits of one window comes to. -/
theorem Reached.commits_follow (h : Reached config d) (hw : d.shell.windows.get? w = some window)
    (hrun : d.run (commits w cs) = some d') :
    (∀ c : Commit, c.size.w = 0 → ∀ e : Desktop,
      e.dispatch (.windowCommitted w c) = (.handled, e)) ∧
    d.run (commits w (cs.filter Commit.isWide)) = some d' ∧
    ∃ window', d.Committed w window (cs.filter Commit.isWide) window' d' := by
  rw [← Desktop.run_commits_filter] at hrun
  refine ⟨fun c hc e => Desktop.dispatch_blank (by simp [Commit.isWide, hc]) e w, hrun, ?_⟩
  exact Desktop.run_commits_committed h hw (fun c hc => (List.mem_filter.1 hc).2) hrun

/-- A window and its child appear on one output. -/
def kinRun : List Action :=
  [.event (.outputAdded ⟨1⟩ "DP-1" ⟨.origin, outputSize⟩),
    .event (.windowAdded ⟨1⟩ none none),
    .event (.windowAdded ⟨2⟩ none (some ⟨0, 1⟩))]

/-- Five commits, of which the first and the third have no contents. -/
def draftCommits : List Commit :=
  [⟨.zero, ⟨9, 9⟩, .origin⟩,
    ⟨⟨820, 620, by decide, by decide⟩, ⟨10, 0⟩, ⟨3, 3⟩⟩,
    ⟨{ Size.zero with h := 50, h_nonneg := by decide }, ⟨9, 9⟩, .origin⟩,
    ⟨⟨400, 300, by decide, by decide⟩, ⟨2147483647, 0⟩, .origin⟩,
    ⟨⟨400, 300, by decide, by decide⟩, ⟨-5, 7⟩, .origin⟩]

/-- The window fills the output and ends where the size is centred that it has since the fourth
commit. The child goes along with the offsets, as far as coordinates go and back. -/
theorem commits_follow_draftCommits : ∃ d root child root' child' d₁ d₂, Reached .default d ∧
    root.placement = .fullscreen ∧
    d.Committed ⟨0, 1⟩ root (draftCommits.filter Commit.isWide) root' d₁ ∧
    d₁.host.viewPositions.get? ⟨2⟩ = some ⟨760, 390⟩ ∧
    child.placement = .normal ∧
    d.Committed ⟨1, 1⟩ child (draftCommits.filter Commit.isWide) child' d₂ ∧
    d₂.host.viewPositions.get? ⟨3⟩ = some ⟨2147483642, 237⟩ := by
  have hreached : Reached .default _ :=
    Reached.run kinRun .fresh (Option.some_get (by decide +kernel)).symm
  obtain ⟨-, -, root', hroot⟩ := Reached.commits_follow (w := ⟨0, 1⟩) hreached
    (Option.some_get (by decide +kernel)).symm
    (show Desktop.run _ (commits _ draftCommits) = some _ from
      (Option.some_get (by decide +kernel)).symm)
  obtain ⟨-, -, child', hchild⟩ := Reached.commits_follow (w := ⟨1, 1⟩) hreached
    (Option.some_get (by decide +kernel)).symm
    (show Desktop.run _ (commits _ draftCommits) = some _ from
      (Option.some_get (by decide +kernel)).symm)
  exact ⟨_, _, _, root', child', _, _, hreached, by decide +kernel, hroot, by decide +kernel,
    by decide +kernel, hchild, by decide +kernel⟩

end Kiosk
