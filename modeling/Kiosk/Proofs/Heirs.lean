import Kiosk.Proofs.Forest
import Kiosk.Proofs.Mirror

/-!
# Heirs

A window that goes away hands the keyboard focus on. Its heir is the front-most
mapped window of its family, else the front-most mapped window, else nobody
(`Shell.IsHeir`). The search of `Shell.heirOf` goes through the stacking order once
for each and finds just that (`Reached.heirOf_iff`). Families are told apart by
where the walks up end, which on reachable desktops is at their roots
(`Shell.Sound.kin_iff`).
-/

namespace Kiosk

open Relation (ReflTransGen)

variable {config : Config} {d : Desktop} {s : Shell} {w x y : WindowId} {heir : Option WindowId}

/-- The first element with a property, by the places of the elements. -/
theorem find?_eq_some_iff_idxOf {α : Type} [DecidableEq α] {p : α → Bool} {x : α} :
    ∀ {l : List α}, l.find? p = some x ↔ x ∈ l ∧ p x ∧ ∀ y ∈ l, p y → l.idxOf x ≤ l.idxOf y
  | [] => by simp
  | a :: l => by
    cases ha : p a with
    | true =>
      rw [List.find?_cons_of_pos ha, Option.some.injEq]
      constructor
      · rintro rfl
        exact ⟨List.mem_cons_self, ha, fun y _ _ => by simp⟩
      · rintro ⟨-, -, hfirst⟩
        have hzero := hfirst a List.mem_cons_self ha
        by_contra hne
        rw [List.idxOf_cons_self, List.idxOf_cons_ne l hne] at hzero
        omega
    | false =>
      have hne {y : α} (hy : p y) : a ≠ y := by
        rintro rfl
        rw [ha] at hy
        cases hy
      rw [List.find?_cons_of_neg (by simp [ha]), find?_eq_some_iff_idxOf]
      constructor
      · rintro ⟨hx, hpx, hfirst⟩
        refine ⟨List.mem_cons_of_mem a hx, hpx, fun y hy hpy => ?_⟩
        rw [List.idxOf_cons_ne l (hne hpx), List.idxOf_cons_ne l (hne hpy)]
        exact Nat.succ_le_succ (hfirst y (List.mem_of_ne_of_mem (hne hpy).symm hy) hpy)
      · rintro ⟨hx, hpx, hfirst⟩
        refine ⟨List.mem_of_ne_of_mem (hne hpx).symm hx, hpx, fun y hy hpy => ?_⟩
        have hle := hfirst y (List.mem_cons_of_mem a hy) hpy
        rw [List.idxOf_cons_ne l (hne hpx), List.idxOf_cons_ne l (hne hpy)] at hle
        exact Nat.le_of_succ_le_succ hle

namespace Shell

/-- Whether `w` is mapped. -/
def isMapped (s : Shell) (w : WindowId) : Bool := (s.windows.get? w).any Window.mapped

/-- `x` and `y` have the same root. -/
def Kin (s : Shell) (x y : WindowId) : Prop :=
  ∃ r, Windows.parentOf s.windows r = none ∧ ReflTransGen (Up (Windows.parentOf s.windows)) x r ∧
    ReflTransGen (Up (Windows.parentOf s.windows)) y r

/-- `x` is the front-most of the mapped windows that are `P`. -/
structure Foremost (s : Shell) (P : WindowId → Prop) (x : WindowId) : Prop where
  mapped : s.isMapped x
  holds : P x
  first : ∀ y, s.isMapped y → P y → s.stacking.idxOf x ≤ s.stacking.idxOf y

/-- Who is to get the focus of `w`: the front-most mapped window of its family, else the
front-most mapped window, else nobody. -/
def IsHeir (s : Shell) (w : WindowId) : Option WindowId → Prop
  | some x => s.Foremost (fun y => y ≠ w ∧ s.Kin y w) x ∨
      (∀ y, s.isMapped y → y ≠ w → ¬ s.Kin y w) ∧ s.Foremost (· ≠ w) x
  | none => ∀ y, s.isMapped y → y = w

theorem isLive_of_isMapped (h : s.isMapped w) : s.isLive w := by
  obtain ⟨window, hw, -⟩ := (Option.any_eq_true _ _).1 h
  exact Option.isSome_iff_exists.2 ⟨window, hw⟩

/-- Kin are found by the walks to their roots. -/
theorem Sound.kin_iff (h : s.Sound) (hx : s.isLive x) (hy : s.isLive y) :
    s.Kin x y ↔ s.rootOf x = s.rootOf y := by
  obtain ⟨r, hr, hxr, -, hrtop⟩ := h.isForest.root x hx
  obtain ⟨q, hq, hyq, -, hqtop⟩ := h.isForest.root y hy
  rw [hr, hq, Option.some.injEq]
  constructor
  · rintro ⟨t, ht, hxt, hyt⟩
    exact (eq_of_reflTransGen_up hxr hxt hrtop ht).trans (eq_of_reflTransGen_up hyt hyq ht hqtop)
  · rintro rfl
    exact ⟨r, hrtop, hxr, hyq⟩

end Shell

theorem Reached.mem_stacking_iff (h : Reached config d) (w : WindowId) :
    w ∈ d.shell.stacking ↔ d.shell.isMapped w := by
  rw [h.mem_stacking, Shell.isMapped, Option.any_eq_true]

/-- The first of the stacking order is the front-most window. -/
theorem Reached.find?_stacking (h : Reached config d) {p : WindowId → Bool} {P : WindowId → Prop}
    (hp : ∀ y, d.shell.isMapped y → (p y ↔ P y)) :
    d.shell.stacking.find? p = some x ↔ d.shell.Foremost P x := by
  rw [find?_eq_some_iff_idxOf]
  constructor
  · rintro ⟨hx, hpx, hfirst⟩
    have hx := (h.mem_stacking_iff x).1 hx
    exact ⟨hx, (hp x hx).1 hpx, fun y hy hP =>
      hfirst y ((h.mem_stacking_iff y).2 hy) ((hp y hy).2 hP)⟩
  · rintro ⟨hx, hP, hfirst⟩
    refine ⟨(h.mem_stacking_iff x).2 hx, (hp x hx).2 hP, fun y hy hpy => ?_⟩
    have hy := (h.mem_stacking_iff y).1 hy
    exact hfirst y hy ((hp y hy).1 hpy)

theorem Reached.find?_stacking_eq_none (h : Reached config d) {p : WindowId → Bool}
    {P : WindowId → Prop} (hp : ∀ y, d.shell.isMapped y → (p y ↔ P y)) :
    d.shell.stacking.find? p = none ↔ ∀ y, d.shell.isMapped y → ¬ P y := by
  rw [List.find?_eq_none]
  refine forall_congr' fun y => ?_
  rw [h.mem_stacking_iff]
  exact forall_congr' fun hy => not_congr (hp y hy)

/-- The search finds the heir, and nobody when there is none. -/
theorem Reached.heirOf_iff (h : Reached config d) (hw : d.shell.isLive w) :
    d.shell.heirOf w = heir ↔ d.shell.IsHeir w heir := by
  have hany : ∀ y, d.shell.isMapped y → ((y ≠ w && (d.shell.rootOf y).isSome) ↔ y ≠ w) := by
    intro y hy
    obtain ⟨r, hr, -⟩ := h.sound.isForest.root y (Shell.isLive_of_isMapped hy)
    simp [hr]
  have hkin : ∀ y, d.shell.isMapped y →
      ((y ≠ w && (d.shell.rootOf y).isSome && decide (d.shell.rootOf y = d.shell.rootOf w)) ↔
        y ≠ w ∧ d.shell.Kin y w) := by
    intro y hy
    rw [Bool.and_eq_true, hany y hy, decide_eq_true_iff,
      h.sound.kin_iff (Shell.isLive_of_isMapped hy) hw]
  -- Both searches run over the filtered order, which comes to one filter each.
  have hsearch : d.shell.heirOf w = (d.shell.stacking.find? fun y =>
      y ≠ w && (d.shell.rootOf y).isSome && decide (d.shell.rootOf y = d.shell.rootOf w)).or
        (d.shell.stacking.find? fun y => y ≠ w && (d.shell.rootOf y).isSome) := by
    rw [Shell.heirOf, Kiosk.heir, List.find?_filter, List.head?_filter]
    simp only [Bool.decide_and, Bool.decide_eq_true]
  rw [hsearch]
  cases heir with
  | some x =>
    rw [Option.or_eq_some_iff, h.find?_stacking hkin, h.find?_stacking hany,
      h.find?_stacking_eq_none hkin]
    simp only [not_and]
    rfl
  | none =>
    rw [Option.or_eq_none_iff, h.find?_stacking_eq_none hkin, h.find?_stacking_eq_none hany]
    constructor
    · exact fun hnone y hy => not_not.1 (hnone.2 y hy)
    · exact fun hnone => ⟨fun y hy hk => hk.1 (hnone y hy), fun y hy hne => hne (hnone y hy)⟩

theorem Shell.IsHeir.mapped (h : s.IsHeir w (some x)) : s.isMapped x :=
  h.elim (·.mapped) (·.2.mapped)

theorem Shell.IsHeir.ne (h : s.IsHeir w (some x)) : x ≠ w :=
  h.elim (·.holds.1) (·.2.holds)

end Kiosk
