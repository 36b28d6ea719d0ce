import Kiosk.Proofs.BelowItself

/-!
# Where windows may be placed

On every reachable desktop a child is normal. Where roots have to be fullscreen,
and only events placed windows, a window is fullscreen just when it is a root,
whatever was asked for and whoever became a root on the way; unless it was
announced below itself and is the normal root that it was made ever since
(`Desktop.placement_policy`).

A step of the layout places a window as it may stand, or leaves it as it is but
for its output (`Layout.Step.allows_or_kept`).
-/

namespace Kiosk

variable {config : Config} {d : Desktop} {as : List Action} {L L' : Layout} {direct : Prop}
  {w : WindowId} {r r' : Stance}

/-- All windows stand as they may. -/
def Layout.Compliant (L : Layout) (direct : Prop) : Prop :=
  ∀ w r, L.stance w = some r → L.Allows direct r

namespace Layout

/-- What is allowed depends on the placement and the parent only. -/
theorem Allows.congr (h : L.Allows direct r) (henforce : L'.enforce = L.enforce)
    (hplacement : r'.placement = r.placement) (hparent : r'.parent = r.parent) :
    L'.Allows direct r' where
  child hp := hplacement.trans (h.child (hparent ▸ hp))
  root hd he hp := hplacement.trans (h.root hd (henforce ▸ he) (hparent ▸ hp))

namespace Step

/-- The configuration stays what it is. -/
theorem enforce (hs : Step direct L L') : L'.enforce = L.enforce := by
  cases hs <;> rfl

/-- After a step a window stands as it may, or as it did but for its output. -/
theorem allows_or_kept (hs : Step direct L L') (hw : L'.stance w = some r') :
    L'.Allows direct r' ∨
      ∃ r, L.stance w = some r ∧ r'.placement = r.placement ∧ r'.parent = r.parent := by
  have hkept {q : Stance} (hw : L.stance w = some q) : L'.Allows direct q ∨
      ∃ r, L.stance w = some r ∧ q.placement = r.placement ∧ q.parent = r.parent :=
    .inr ⟨q, hw, rfl, rfl⟩
  have henforce := hs.enforce
  cases hs with
  | place _ _ ha =>
    rcases eq_some_of_update hw with ⟨-, hq⟩ | ⟨-, hq⟩
    · cases hq
      exact .inl (ha.congr henforce rfl rfl)
    · exact hkept hq
  | appear _ ha =>
    rcases eq_some_of_update hw with ⟨-, hq⟩ | ⟨hne, hq⟩
    · cases hq
      exact .inl (ha.congr henforce rfl rfl)
    · rw [Layout.stance_create, if_neg hne] at hq
      exact hkept hq
  | vanish w =>
    rcases eq_some_of_update hw with ⟨-, hq⟩ | ⟨-, hq⟩
    · cases hq
    · exact hkept hq
  | addOutput _ _ => exact hkept hw
  | removeOutput o hstance =>
    rcases hstance w with heq | heq
    · exact hkept (heq.symm.trans hw)
    · obtain ⟨r, hr, rfl⟩ := Option.map_eq_some_iff.1 (heq.symm.trans hw)
      exact .inr ⟨r, hr, rfl, rfl⟩
  | resize _ _ => exact hkept hw
  | rebind hd hx output =>
    rcases eq_some_of_update hw with ⟨rfl, hq⟩ | ⟨-, hq⟩
    · cases hq
      exact .inr ⟨_, hx, rfl, rfl⟩
    · exact hkept hq
  | create hd hx surface =>
    rcases eq_some_of_update hw with ⟨-, hq⟩ | ⟨-, hq⟩
    · cases hq
      exact .inl ⟨fun _ => rfl, fun hnot => absurd hd hnot⟩
    · exact hkept hq

/-- What one step keeps. -/
theorem compliant (h : L.Compliant direct) (hs : Step direct L L') : L'.Compliant direct := by
  intro w r' hw
  rcases hs.allows_or_kept hw with ha | ⟨r, hr, hplacement, hparent⟩
  · exact ha
  · exact (h w r hr).congr hs.enforce hplacement hparent

end Step

/-- No window stands as it may not, but for normal ones. -/
def Lax (L : Layout) : Prop :=
  ∀ w r, L.stance w = some r → L.Allows False r ∨ r.placement = .normal

theorem Step.lax (h : L.Lax) (hs : Step False L L') : L'.Lax := by
  intro w r' hw
  rcases hs.allows_or_kept hw with ha | ⟨r, hr, hplacement, hparent⟩
  · exact .inl ha
  · exact (h w r hr).imp (·.congr hs.enforce hplacement hparent) hplacement.trans

theorem Lax.create (h : L.Lax) (w : WindowId) (surface : SurfaceHandle) :
    (L.create w surface).Lax := by
  intro x r hx
  rw [stance_create] at hx
  split at hx
  · cases hx
    exact .inr rfl
  · exact (h x r hx).imp_left (·.congr rfl rfl rfl)

/-- Roots have to be fullscreen, and `w` is no normal root. -/
structure Placed (L : Layout) (w : WindowId) : Prop where
  enforce : L.enforce = true
  child : ∀ r, L.stance w = some r → r.placement = .normal → r.parent ≠ none

theorem Step.placed (h : L.Placed w) (hs : Step False L L') : L'.Placed w := by
  have henforce := hs.enforce.trans h.enforce
  refine ⟨henforce, fun r' hw hnormal hroot => ?_⟩
  rcases hs.allows_or_kept hw with ha | ⟨r, hr, hplacement, hparent⟩
  · cases hnormal.symm.trans (ha.root id henforce hroot)
  · exact h.child r hr (hplacement.symm.trans hnormal) (hparent.symm.trans hroot)

theorem Placed.create (h : L.Placed w) {x : WindowId} (hx : x ≠ w) (surface : SurfaceHandle) :
    (L.create x surface).Placed w := by
  refine ⟨h.enforce, fun r hw => ?_⟩
  rw [stance_create, if_neg hx.symm] at hw
  exact h.child r hw

end Layout

theorem Reached.compliant (h : Reached config d) : d.layout.Compliant True :=
  h.of_steps (P := fun L => L.Compliant True)
    (fun w _ hw => nomatch (Desktop.stance_fresh config w).symm.trans hw)
    fun hL hs => hs.compliant hL

theorem Dispatched.lax (h : Dispatched config d) : d.layout.Lax :=
  h.of_steps (P := Layout.Lax) (fun w _ hw => nomatch (Desktop.stance_fresh config w).symm.trans hw)
    (fun hL hs => hs.lax hL) fun hL _ => hL.create _ _

theorem Reached.enforce (h : Reached config d) :
    d.layout.enforce = config.enforceRootFullscreen :=
  h.of_steps (P := fun L => L.enforce = config.enforceRootFullscreen) rfl
    fun hL hs => hs.enforce.trans hL

/-- `w` is a normal root. -/
def Shell.NormalRoot (s : Shell) (w : WindowId) : Prop :=
  ∃ r, s.windows.get? w = some r ∧ r.placement = .normal ∧ r.parent = none

theorem Reached.placed_iff (h : Reached config d) (henforce : config.enforceRootFullscreen) :
    d.layout.Placed w ↔ ¬ d.shell.NormalRoot w := by
  refine ⟨fun hplaced ⟨r, hw, hnormal, hroot⟩ => ?_, fun hnot => ⟨h.enforce.trans henforce, ?_⟩⟩
  · exact hplaced.child r.stance (congrArg (Option.map Window.stance) hw) hnormal
      (Option.map_eq_none_iff.2 hroot)
  · rintro _ hw hnormal hroot
    obtain ⟨r, hr, rfl⟩ := Shell.stance_eq_some_iff.1 hw
    exact hnot ⟨r, hr, hnormal, Option.map_eq_none_iff.1 hroot⟩

theorem Reached.normal_of_child {r : Window} (h : Reached config d)
    (hw : d.shell.windows.get? w = some r) (hr : r.parent ≠ none) : r.placement = .normal :=
  (h.compliant w r.stance (congrArg (Option.map Window.stance) hw)).child fun hroot =>
    hr (Option.map_eq_none_iff.1 hroot)

/-- Where roots have to be fullscreen, all windows that are not placed so are normal roots. -/
theorem Dispatched.normalRoot_iff {r : Window} (h : Dispatched config d)
    (henforce : config.enforceRootFullscreen) (hw : d.shell.windows.get? w = some r) :
    ¬ (r.placement = .fullscreen ↔ r.parent = none) ↔ d.shell.NormalRoot w := by
  constructor
  · intro hnot
    have hroot : r.parent = none := by
      by_contra hr
      refine hnot (iff_of_false (fun hfull => ?_) hr)
      cases hfull.symm.trans (h.reached.normal_of_child hw hr)
    rcases h.lax w r.stance (congrArg (Option.map Window.stance) hw) with ha | hnormal
    · have hfull := ha.root id (h.reached.enforce.trans henforce) (Option.map_eq_none_iff.2 hroot)
      exact absurd (iff_of_true hfull hroot) hnot
    · exact ⟨r, hw, hnormal, hroot⟩
  · rintro ⟨q, hq, hnormal, hroot⟩ hiff
    cases hw.symm.trans hq
    cases hnormal.symm.trans (hiff.2 hroot)

/-! ## The result -/

/-- A child is normal on every reachable desktop. Where roots have to be fullscreen and only events
placed windows, a window is fullscreen just when it is a root, unless it was announced below itself
and is the normal root that it was made ever since. -/
theorem Desktop.placement_policy (hr : (fresh config).run as = some d) :
    (∀ w r, d.shell.windows.get? w = some r → r.parent ≠ none → r.placement = .normal) ∧
    (config.enforceRootFullscreen → (∀ c, .call c ∉ as) →
      ∀ w r, d.shell.windows.get? w = some r →
        (¬ (r.placement = .fullscreen ↔ r.parent = none) ↔
          ∃ d₁ a, (fresh config).HoldsSince (·.shell.NormalRoot w) as d₁ a ∧
            d₁.BelowItself a w)) := by
  refine ⟨fun w r hw => (Reached.run as .fresh hr).normal_of_child hw,
    fun henforce hcalls w r hw => ?_⟩
  rw [(Dispatched.of_run hcalls hr).normalRoot_iff henforce hw]
  refine exists_below_itself_iff (P := (·.shell.NormalRoot w)) (Q := (·.Placed w)) hcalls hr ?_
    (fun hd₁ _ => hd₁.reached.placed_iff henforce) (fun hL hs => hs.placed hL)
    fun hx _ hL => hL.create hx _
  rintro ⟨r, hr, -⟩
  cases (Arena.get?_empty w).symm.trans hr

/-- The configuration in which roots have to be fullscreen. -/
def enforcing : Config := ⟨true, []⟩

/-- A window, its child and its grandchild appear, the root asks to be maximized and the child to
be fullscreen, and the root goes away. -/
def inheritRun : List Event :=
  [.outputAdded ⟨3⟩ "DP-1" ⟨.origin, outputSize⟩,
    .windowAdded ⟨10⟩ none none,
    .windowAdded ⟨11⟩ none none,
    .parentChanged ⟨1, 1⟩ (some ⟨0, 1⟩),
    .windowAdded ⟨12⟩ none none,
    .parentChanged ⟨2, 1⟩ (some ⟨1, 1⟩),
    .maximizeRequested ⟨0, 1⟩ true,
    .fullscreenRequested ⟨1, 1⟩ true none,
    .windowRemoved ⟨0, 1⟩]

/-- Another window is then announced below itself. -/
def strandedRun : List Action :=
  inheritRun.map .event ++ [.event (.windowAdded ⟨13⟩ none (some ⟨0, 2⟩))]

theorem isSome_strandedRun : ((Desktop.fresh enforcing).run strandedRun).isSome := by
  decide +kernel

/-- The child is a fullscreen root now, and its child normal. The last window, which is a normal
root, was announced below itself. -/
theorem placement_policy_strandedRun : ∃ d, (Desktop.fresh enforcing).run strandedRun = some d ∧
    (d.shell.windows.toList.map fun (w, r) => (w, r.placement, r.parentId)) =
      [(⟨0, 2⟩, .normal, none), (⟨1, 1⟩, .fullscreen, none), (⟨2, 1⟩, .normal, some ⟨1, 1⟩)] ∧
    (∀ w r, d.shell.windows.get? w = some r → r.parent ≠ none → r.placement = .normal) ∧
    ∀ w r, d.shell.windows.get? w = some r →
      (¬ (r.placement = .fullscreen ↔ r.parent = none) ↔
        ∃ d₁ a, (Desktop.fresh enforcing).HoldsSince (·.shell.NormalRoot w) strandedRun d₁ a ∧
          d₁.BelowItself a w) := by
  have hrun := (Option.some_get isSome_strandedRun).symm
  obtain ⟨hchild, hroot⟩ := Desktop.placement_policy hrun
  exact ⟨_, hrun, by decide +kernel, hchild, hroot rfl (by simp [strandedRun, inheritRun])⟩

theorem isSome_enforcing_loopRun :
    ((Desktop.fresh enforcing).run (loopRun.map .event)).isSome := by decide +kernel

/-- The window that is announced below itself is no fullscreen root where roots have to be. -/
theorem not_enforced : ¬ ∀ config d, Dispatched config d → config.enforceRootFullscreen →
    ∀ w r, d.shell.windows.get? w = some r →
      (r.placement = .fullscreen ↔ r.parent = none) := by
  intro henforced
  have hdispatched : Dispatched enforcing _ :=
    .run loopRun .fresh (Option.some_get isSome_enforcing_loopRun).symm
  have hiff := henforced enforcing _ hdispatched rfl ⟨0, 1⟩ _
    (Option.some_get (by decide +kernel)).symm
  exact absurd hiff (by decide +kernel)

end Kiosk
