import Kiosk.Proofs.Ancestry

/-!
# Bounded and unbounded walks

The walks of `Kiosk.Windows` are bounded by the number of live windows, and the links
they follow may dangle or form loops. What they find is what walks of any length find
(`Windows.walks_exact`). The test for ancestors needs one visit more than there are live
windows, because the last one may be of a window that is gone; and where no window is
above itself, the climb to the root stops at the one place where it can.
-/

namespace Kiosk

open Relation (ReflTransGen TransGen)

namespace Windows

variable {ws : Windows} {a w r q : WindowId} {n : Nat}

/-- More visits than the test has find nothing else. -/
theorem climbsTo_of_size_lt (hn : ws.size < n) :
    climbsTo ws a n (some w) = isAncestorOrSelf ws a w := by
  rw [Bool.eq_iff_iff, isAncestorOrSelf, climbsTo_iff, climbsTo_iff]
  constructor
  · -- A way to an ancestor need not visit a live window twice.
    rintro ⟨i, -, hi⟩
    obtain ⟨m, hm, ha⟩ := exists_ancestor_le_size hi
    exact ⟨m, by omega, ha⟩
  · rintro ⟨i, hi, ha⟩
    exact ⟨i, by omega, ha⟩

/-- Nothing live is above the end of the way up. -/
theorem EndsAt.eq_of_up (h : ws.EndsAt w r) (hup : ReflTransGen (Up (parentOf ws)) r q)
    (hq : ws.contains q) : r = q := by
  rcases hup.cases_head with heq | ⟨p, hp, hpq⟩
  · exact heq
  · have hgone : ws.contains p = false := h.top p hp
    have hlive : ws.contains p = true := by
      rcases hpq.cases_head with rfl | ⟨c, hc, -⟩
      · exact hq
      · exact contains_of_parentOf hc
    rw [hgone] at hlive
    cases hlive

theorem EndsAt.unique (h : ws.EndsAt w r) (hq : ws.EndsAt w q) : q = r := by
  have hunique : Relator.RightUnique (Up (parentOf ws)) :=
    fun _ _ _ hb hc => Option.some.inj (hb.symm.trans hc)
  rcases ReflTransGen.total_of_right_unique hunique h.up hq.up with hrq | hqr
  · exact (h.eq_of_up hrq hq.live).symm
  · exact hq.eq_of_up hqr h.live

/-! ## The result -/

/-- On every arena, the bounded test for ancestors finds what is reached by following the parent
links of live windows, and no larger bound would find more. Where those links form no loop, the
root of a live window is the one live window it reaches whose parent is absent or gone. -/
theorem walks_exact (ws : Windows) :
    (∀ a w, isAncestorOrSelf ws a w = true ↔ ReflTransGen (Up (parentOf ws)) w a) ∧
    (∀ n a w, ws.size < n → climbsTo ws a n (some w) = isAncestorOrSelf ws a w) ∧
    ((∀ x, ¬ TransGen (Up (parentOf ws)) x x) → ∀ w, ws.contains w →
      ∃ r, rootOf ws w = some r ∧ ws.EndsAt w r ∧ ∀ q, ws.EndsAt w q → q = r) := by
  refine ⟨fun a w => isAncestorOrSelf_iff, fun n a w hn => climbsTo_of_size_lt hn,
    fun hacyclic w hw => ?_⟩
  obtain ⟨r, hr, he⟩ := rootOf_endsAt hacyclic hw
  exact ⟨r, hr, he, fun q hq => he.unique hq⟩

/-- A window below the parent `p`. -/
def child (n : Nat) (p : WindowId) : Window :=
  { Window.ofSurface ⟨n⟩ ⟨n⟩ none with parent := some ⟨p, 0⟩ }

/-- Three windows, each below the one before, of which the first has just been removed. -/
def orphans : Windows :=
  let ws : Windows := (Arena.empty.insert (Window.ofSurface ⟨0⟩ ⟨0⟩ none)).2
  let ws := (ws.insert (child 1 ⟨0, 1⟩)).2
  let ws := (ws.insert (child 2 ⟨1, 1⟩)).2
  ws.erase ⟨0, 1⟩

/-- Two windows, each the parent of the other. -/
def loop : Windows :=
  let ws : Windows := (Arena.empty.insert (child 0 ⟨1, 1⟩)).2
  (ws.insert (child 1 ⟨0, 1⟩)).2

theorem ranked_orphans : Ranked (parentOf orphans) := by
  refine ⟨Id.slot, fun x p hp => ?_⟩
  obtain ⟨window, hw, hparent⟩ := Option.bind_eq_some_iff.1 hp
  have hall : ∀ e ∈ orphans.toList, ∀ p ∈ e.2.parentId, p.slot < e.1.slot := by decide +kernel
  exact hall (x, window) (Arena.mem_toList.2 hw) p hparent

/-- The window that is gone is above the two that are left, and found only by the last of three
visits. The root of both is the older one. A loop is walked all around. -/
theorem walks_exact_orphans :
    (orphans.size = 2 ∧ climbsTo orphans ⟨0, 1⟩ 2 (some ⟨2, 1⟩) = false ∧
      climbsTo orphans ⟨0, 1⟩ 9 (some ⟨2, 1⟩) = true ∧
      ReflTransGen (Up (parentOf orphans)) ⟨2, 1⟩ ⟨0, 1⟩) ∧
    (rootOf orphans ⟨2, 1⟩ = some ⟨1, 1⟩ ∧ orphans.EndsAt ⟨2, 1⟩ ⟨1, 1⟩ ∧
      ∀ q, orphans.EndsAt ⟨2, 1⟩ q → q = ⟨1, 1⟩) ∧
    ReflTransGen (Up (parentOf loop)) ⟨0, 1⟩ ⟨1, 1⟩ ∧
    ¬ ReflTransGen (Up (parentOf loop)) ⟨0, 1⟩ ⟨2, 1⟩ := by
  obtain ⟨hreach, hbound, hroot⟩ := walks_exact orphans
  obtain ⟨r, hr, hends, hunique⟩ :=
    hroot ranked_orphans.not_transGen_self ⟨2, 1⟩ (by decide +kernel)
  have hsome : rootOf orphans ⟨2, 1⟩ = some ⟨1, 1⟩ := by decide +kernel
  obtain rfl : (⟨1, 1⟩ : WindowId) = r := Option.some.inj (hsome.symm.trans hr)
  have habove : isAncestorOrSelf orphans ⟨0, 1⟩ ⟨2, 1⟩ = true := by decide +kernel
  refine ⟨⟨by decide +kernel, by decide +kernel, ?_, (hreach _ _).1 habove⟩,
    ⟨hr, hends, hunique⟩, ?_, ?_⟩
  · rw [hbound 9 ⟨0, 1⟩ ⟨2, 1⟩ (by decide +kernel), habove]
  · exact ((walks_exact loop).1 _ _).1 (by decide +kernel)
  · rw [← (walks_exact loop).1]
    decide +kernel

end Windows

end Kiosk
