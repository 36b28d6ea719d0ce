import Kiosk.Proofs.Drift

/-!
# Activation

What a host was told about the activation of a surface is a list of changes. A
host is `Tracked` if the changes of every surface alternate, beginning with true,
and its flag for the surface is what they come to. Telling it only what is a
change (`Host.activate`) keeps that.
-/

namespace Kiosk

/-- The changes are true, false, true and so on. -/
def Alternates (changes : List Bool) : Prop :=
  ∀ i b, changes[i]? = some b → b = decide (i % 2 = 0)

/-- The next change is true after an even number of changes, and false after an odd one. -/
theorem Alternates.append {changes : List Bool} (h : Alternates changes) {b : Bool}
    (hb : b = decide (changes.length % 2 = 0)) : Alternates (changes ++ [b]) := by
  intro i c hc
  rcases Nat.lt_trichotomy i changes.length with hi | hi | hi
  · rw [List.getElem?_append_left hi] at hc
    exact h i c hc
  · rw [hi, List.getElem?_append_right (Nat.le_refl _), Nat.sub_self] at hc
    cases hc
    rw [hi, hb]
  · rw [List.getElem?_eq_none (by simp; omega)] at hc
    cases hc

namespace Host

variable {h h' : Host}

/-- Which surfaces are activated is what the changes say. -/
structure Tracked (h : Host) : Prop where
  /-- Surfaces that never had a view were never activated. -/
  dormant : ∀ surface, surface ∉ h.createdSurfaces → h.activationChanges surface = []
  /-- A surface is activated after an odd number of changes. -/
  recorded : ∀ surface, h.isActivated surface =
    decide ((h.activationChanges surface).length % 2 = 1)
  alternates : ∀ surface, Alternates (h.activationChanges surface)

/-- A host that was told nothing has no changes to keep track of. -/
theorem tracked_fresh : Tracked .fresh :=
  ⟨fun _ _ => rfl, fun _ => rfl, fun _ _ _ hb => nomatch hb⟩

/-- Commands that neither activate a surface nor make one a view leave a tracked host tracked. -/
theorem Tracked.calm (ht : Tracked h) (hc : Calm h h') : Tracked h' := by
  refine ⟨fun surface hs => ?_, fun surface => ?_, fun surface => ?_⟩
  · rw [hc.createdSurfaces] at hs
    rw [hc.activationChanges]
    exact ht.dormant surface hs
  · rw [hc.isActivated, hc.activationChanges]
    exact ht.recorded surface
  · rw [hc.activationChanges]
    exact ht.alternates surface

theorem createdSurfaces_createView (h : Host) (s : SurfaceHandle) (view : ViewHandle) :
    (h.record (.createView s view)).createdSurfaces = h.createdSurfaces ++ [s] :=
  List.filterMap_append

theorem activationChanges_createView (h : Host) (s t : SurfaceHandle) (view : ViewHandle) :
    (h.record (.createView s view)).activationChanges t = h.activationChanges t :=
  List.filterMap_append.trans (List.append_nil _)

/-- The flag of a surface is what it was told last. -/
theorem isActivated_setActivated (h : Host) (s t : SurfaceHandle) (b : Bool) :
    (h.setActivated s b).isActivated t = if t = s then b else h.isActivated t := by
  show ((h.activated.insert s b).get? t).getD false = _
  rw [Assoc.get?_insert]
  split <;> rfl

/-- Only the surface that is told gets a change more. -/
theorem activationChanges_setActivated (h : Host) (s t : SurfaceHandle) (b : Bool) :
    (h.setActivated s b).activationChanges t =
      if t = s then h.activationChanges t ++ [b] else h.activationChanges t := by
  show (h.log ++ [Command.setActivated s b]).filterMap _ = _
  rw [List.filterMap_append]
  by_cases hts : t = s
  · simp [hts, activationChanges]
  · simp [hts, Ne.symm hts, activationChanges]

theorem createdSurfaces_setActivated (h : Host) (s : SurfaceHandle) (b : Bool) :
    (h.setActivated s b).createdSurfaces = h.createdSurfaces := by
  show (h.log ++ [Command.setActivated s b]).filterMap _ = _
  rw [List.filterMap_append]
  exact List.append_nil _

/-- A change that is one. -/
theorem Tracked.setActivated (ht : Tracked h) {s : SurfaceHandle} {b : Bool}
    (hs : s ∈ h.createdSurfaces) (hb : h.isActivated s ≠ b) : Tracked (h.setActivated s b) := by
  have hnext : b = decide ((h.activationChanges s).length % 2 = 0) := by
    rw [ht.recorded] at hb
    cases b with
    | false =>
      simp only [ne_eq, decide_eq_false_iff_not, not_not, eq_comm (a := false)] at hb ⊢
      omega
    | true =>
      simp only [ne_eq, decide_eq_true_eq, eq_comm (a := true)] at hb ⊢
      omega
  refine ⟨fun t hnew => ?_, fun t => ?_, fun t => ?_⟩
  · rw [createdSurfaces_setActivated] at hnew
    rw [activationChanges_setActivated, if_neg (by rintro rfl; exact hnew hs)]
    exact ht.dormant t hnew
  · rw [isActivated_setActivated, activationChanges_setActivated]
    split
    · next hts =>
      rw [hts, hnext, List.length_append, List.length_singleton, decide_eq_decide]
      omega
    · exact ht.recorded t
  · rw [activationChanges_setActivated]
    split
    · next hts =>
      rw [hts]
      exact (ht.alternates s).append hnext
    · exact ht.alternates t

/-- `h` after `s` was told `b`, if that is a change. -/
def activate (h : Host) (s : SurfaceHandle) (b : Bool) : Host :=
  if h.isActivated s = b then h else h.setActivated s b

theorem createdSurfaces_activate (h : Host) (s : SurfaceHandle) (b : Bool) :
    (h.activate s b).createdSurfaces = h.createdSurfaces := by
  unfold activate
  split
  · rfl
  · exact h.createdSurfaces_setActivated s b

/-- Whether or not it was a change, the surface is left as it was to be told. -/
theorem isActivated_activate (h : Host) (s t : SurfaceHandle) (b : Bool) :
    (h.activate s b).isActivated t = if t = s then b else h.isActivated t := by
  unfold activate
  split
  · next hs =>
    split
    · next hts => rw [hts, hs]
    · rfl
  · exact h.isActivated_setActivated s t b

/-- Told only what is a change, a host stays tracked. -/
theorem Tracked.activate (ht : Tracked h) {s : SurfaceHandle} (hs : s ∈ h.createdSurfaces)
    (b : Bool) : Tracked (h.activate s b) := by
  unfold Host.activate
  split
  · exact ht
  · next hb => exact ht.setActivated hs hb

end Host

end Kiosk
