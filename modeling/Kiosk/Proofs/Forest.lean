import Kiosk.Proofs.Sound

/-!
# Families are forests

On every reachable desktop the parent links form a forest, whose roots are what
the bounded walks find, and the lists of children are its inverse. A new parent
is refused exactly when it would close a loop; then nothing changes at all.
-/

namespace Kiosk

open Relation (ReflTransGen TransGen)
open Function (update update_self update_of_ne)

variable {config : Config} {d d' : Desktop} {s : Shell} {w p : WindowId}

/-- Parent links form a forest, and the lists of children are its inverse. -/
structure Shell.IsForest (s : Shell) : Prop where
  acyclic : ∀ w, ¬ TransGen (Up (Windows.parentOf s.windows)) w w
  /-- The way up from a live window ends at a live window without parent, its root. -/
  root : ∀ w, s.isLive w → ∃ r, s.rootOf w = some r ∧
    ReflTransGen (Up (Windows.parentOf s.windows)) w r ∧ s.isLive r ∧
    Windows.parentOf s.windows r = none
  nodup : ∀ p, (s.children.of p).Nodup
  mem : ∀ p x, x ∈ s.children.of p ↔ Windows.parentOf s.windows x = some p
  stale : ∀ p, s.isLive p = false → s.children.of p = []

/-- From `s` to `s'`, `w` became the last child of `p`, and no other window changed parents. -/
structure Shell.Adopted (w p : WindowId) (s s' : Shell) : Prop where
  parent : Windows.parentOf s'.windows w = some p
  last : s'.children.of p = (s.children.of p).filter (· ≠ w) ++ [w]
  others : ∀ x, x ≠ w → Windows.parentOf s'.windows x = Windows.parentOf s.windows x

/-- Detaching takes a window off the list it is on. -/
theorem Knit.of_children_detach {dead : Option Target} {v : Web} (h : Knit dead v s)
    (hw : .window w ∉ dead) (p : WindowId) :
    (s.detach w).children.of p = (s.children.of p).filter (· ≠ w) := by
  rw [Shell.children_detach, ← Web.parent_congr (h.agree.link _ (Knit.holder_ne hw rfl))]
  cases hq : v.parent w with
  | none => exact (h.children.filter_ne (by simp [hq])).symm
  | some q => exact h.children.unlink_eq_filter hq p

namespace Shell.Sound

theorem isLive_of_parentOf (h : s.Sound) (hw : Windows.parentOf s.windows w = some p) :
    s.isLive p := by
  rw [← parent_web] at hw
  obtain ⟨k, hk⟩ := Web.parent_eq_some_iff.1 hw
  rw [← isSome_signal_window]
  exact h.exact.live _ _ _ hk

theorem isForest (h : s.Sound) : s.IsForest := by
  have hranked : Ranked (Windows.parentOf s.windows) := by
    rw [← parent_web]
    exact h.ranked
  have hmatches : s.children.Matches (Windows.parentOf s.windows) := by
    rw [← parent_web]
    exact h.children
  refine ⟨hranked.not_transGen_self, fun w hw => ?_, fun p => (hmatches p).1,
    fun p => (hmatches p).2, fun p hp => List.eq_nil_iff_forall_not_mem.2 fun x hx => ?_⟩
  · obtain ⟨r, hr, hup, hlive, htop⟩ := Windows.rootOf_spec hranked hw
    refine ⟨r, hr, hup, hlive, Option.eq_none_iff_forall_not_mem.2 fun q hq => ?_⟩
    have hgone : s.isLive q = false := htop q hq
    rw [h.isLive_of_parentOf hq] at hgone
    cases hgone
  · rw [h.isLive_of_parentOf (((hmatches p).2 x).1 hx)] at hp
    cases hp

theorem adopted (h : s.Sound) (hw : s.isLive w) (hp : s.isLive p) :
    Adopted w p s ((s.detach w).attach w p) := by
  have hlive := (s.detach_steady w).isLive
  have hparent : Windows.parentOf ((s.detach w).attach w p).windows =
      update (update (Windows.parentOf s.windows) w none) w (some p) := by
    rw [← parent_web, ← parent_web, web_attach (by rw [hlive]; exact hw), web_detach,
      Web.parent_tie, Web.parent_cut]
    rw [Web.isSome_signal_cut, isSome_signal_window]
    exact hp
  refine ⟨?_, ?_, fun x hx => ?_⟩
  · rw [hparent, update_self]
  · rw [children_attach (by rw [hlive]; exact hp), Children.of_link,
      Knit.of_children_detach h (by simp), if_pos]
    refine ⟨rfl, fun hm => ?_⟩
    simpa using (List.mem_filter.1 hm).2
  · rw [hparent, update_of_ne hx, update_of_ne hx]

end Shell.Sound

/-- Settling leaves parents alone. -/
theorem Settles.parentOf (h : d.shell.Sound) (hs : Settles d d') :
    Windows.parentOf d'.shell.windows = Windows.parentOf d.shell.windows := by
  obtain ⟨u, hu, hr⟩ := Knit.settles h hs
  have hweb := Web.agree_none.1 hu.agree
  subst hweb
  rw [← Shell.parent_web, ← Shell.parent_web]
  exact funext fun x => Web.parent_congr (hr.parent x)

theorem Desktop.length_log_setNormal (hw : d.shell.isLive w) :
    (d.setNormal w).host.log.length = d.host.log.length + 3 := by
  have hlive : (d.ensureOutput w).shell.isLive w := by
    rw [(d.ensureOutput_settles w).steady.shell.isLive]
    exact hw
  have hhost : (d.ensureOutput w).host = d.host := by
    unfold ensureOutput
    split <;> rfl
  obtain ⟨window, hwindow⟩ := Option.isSome_iff_exists.1 hlive
  have hget : (d.ensureOutput w).shell.windows.get? w = some window := hwindow
  rw [setNormal, hget]
  show (((((d.ensureOutput w).host.log ++ [_]) ++ [_]) ++ [_]) : List Command).length = _
  rw [hhost]
  simp

theorem Desktop.setParent_ne (hw : d.shell.isLive w) (hp : d.shell.isLive p)
    (h : Windows.isAncestorOrSelf d.shell.windows w p = false) : d.setParent w (some p) ≠ d := by
  intro hsame
  have hlog : (d.setParent w (some p)).host.log.length = d.host.log.length + 3 := by
    simp only [setParent, Option.filter, hw, hp, h, if_true, Bool.false_eq_true, if_false]
    refine length_log_setNormal
      (d := d.update fun s => ((s.detach w).attach w p).setOutput w none) ?_
    have hsteady := ((d.shell.detach_steady w).trans (Shell.attach_steady _ w p)).trans
      (Shell.setOutput_steady _ w none)
    exact (hsteady.isLive w).trans hw
  rw [hsame] at hlog
  omega

/-- Families are forests, and `setParent` refuses exactly what would not leave them so. -/
theorem Reached.forest (h : Reached config d) :
    d.shell.IsForest ∧ ∀ w p, d.shell.isLive w → d.shell.isLive p →
      (d.setParent w (some p) = d ↔
        ReflTransGen (Up (Windows.parentOf d.shell.windows)) p w) ∧
      (¬ ReflTransGen (Up (Windows.parentOf d.shell.windows)) p w →
        Shell.Adopted w p d.shell (d.setParent w (some p)).shell) := by
  refine ⟨h.sound.isForest, fun w p hw hp => ?_⟩
  rw [← Windows.isAncestorOrSelf_iff]
  refine ⟨⟨fun hsame => ?_, Desktop.setParent_refused hp⟩, fun haccepted => ?_⟩
  · by_contra hnot
    exact Desktop.setParent_ne hw hp (by simpa using hnot) hsame
  · have hsettles := Desktop.setParent_some hw hp (by simpa using haccepted)
    have hsound : ((d.shell.detach w).attach w p).Sound := by
      refine (Knit.adopt h.sound hw hp fun hr => haccepted ?_).sound
      rw [Shell.parent_web] at hr
      exact Windows.isAncestorOrSelf_iff.2 hr
    have hadopted := h.sound.adopted hw hp
    have hparent := hsettles.parentOf hsound
    refine ⟨?_, ?_, fun x hx => ?_⟩
    · rw [hparent]
      exact hadopted.parent
    · rw [hsettles.children]
      exact hadopted.last
    · rw [hparent]
      exact hadopted.others x hx

/-- In a family of three, the oldest cannot move below the youngest, but the youngest can move up
to the oldest. -/
theorem forest_familyRun : ∃ d, Reached .default d ∧ d.shell.IsForest ∧
    d.setParent ⟨0, 1⟩ (some ⟨2, 1⟩) = d ∧
    Shell.Adopted ⟨2, 1⟩ ⟨0, 1⟩ d.shell (d.setParent ⟨2, 1⟩ (some ⟨0, 1⟩)).shell := by
  have hreached : Reached .default _ := Reached.run _ .fresh (Option.some_get isSome_familyRun).symm
  obtain ⟨hforest, hset⟩ := Reached.forest hreached
  refine ⟨_, hreached, hforest, ?_, ?_⟩
  · exact (hset ⟨0, 1⟩ ⟨2, 1⟩ (by decide +kernel) (by decide +kernel)).1.2
      (Windows.isAncestorOrSelf_iff.1 (by decide +kernel))
  · refine (hset ⟨2, 1⟩ ⟨0, 1⟩ (by decide +kernel) (by decide +kernel)).2 fun hr => ?_
    exact absurd (Windows.isAncestorOrSelf_iff.2 hr) (by decide +kernel)

end Kiosk
