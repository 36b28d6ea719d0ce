import Kiosk.Window.Family
import Mathlib.Data.List.Nodup
import Mathlib.Data.List.Perm.Subperm
import Mathlib.Data.Nat.Find
import Mathlib.Logic.Relation

/-!
# Ancestry

Walks along parent links. A parent map is `Ranked` when parents have smaller
rank for some ranking, which is how trees without cycles are kept here: a map
stays ranked when a link is dropped (`Ranked.update_none`), and when one is put
that does not close a loop (`Ranked.update_some`).

The walks of `Kiosk.Windows` are bounded by the number of live windows. The bound
cuts nothing short: `isAncestorOrSelf_iff` holds for any links at all, and
`rootOf_endsAt` for those without loops, since a walk without repetition visits no
more windows than there are (`le_size`).
-/

namespace Kiosk

open Relation (ReflTransGen TransGen)

/-! ## Ranked parent maps -/

section Ranked

variable {α : Type} {f : α → Option α} {x y p : α}

/-- `p` is the parent of `x`. -/
def Up (f : α → Option α) (x p : α) : Prop := f x = some p

/-- Parents have smaller rank, in some ranking. -/
def Ranked (f : α → Option α) : Prop :=
  ∃ rank : α → Nat, ∀ x p, f x = some p → rank p < rank x

theorem rank_lt_of_transGen {rank : α → Nat} (hr : ∀ x p, f x = some p → rank p < rank x)
    (h : TransGen (Up f) x y) : rank y < rank x := by
  induction h with
  | single h => exact hr _ _ h
  | tail _ h ih => exact Nat.lt_trans (hr _ _ h) ih

/-- Nothing is above itself. -/
theorem Ranked.not_transGen_self (h : Ranked f) (x : α) : ¬ TransGen (Up f) x x := by
  obtain ⟨rank, hr⟩ := h
  exact fun hx => Nat.lt_irrefl _ (rank_lt_of_transGen hr hx)

theorem ranked_none : Ranked (fun _ : α => none) :=
  ⟨fun _ => 0, fun _ _ h => nomatch h⟩

/-- Two ways up that both end at a root end at the same one. -/
theorem eq_of_reflTransGen_up {r q : α} (hr : ReflTransGen (Up f) x r)
    (hq : ReflTransGen (Up f) x q) (hrtop : f r = none) (hqtop : f q = none) : r = q := by
  have hstop {a b : α} (htop : f a = none) (hup : ReflTransGen (Up f) a b) : a = b := by
    rcases hup.cases_head with rfl | ⟨c, hc, -⟩
    · rfl
    · cases htop.symm.trans hc
  have hunique : Relator.RightUnique (Up f) := fun a b c hb hc => Option.some.inj (hb.symm.trans hc)
  rcases ReflTransGen.total_of_right_unique hunique hr hq with h | h
  · exact hstop hrtop h
  · exact (hstop hqtop h).symm

variable [DecidableEq α]

theorem Ranked.update_none (h : Ranked f) (x : α) : Ranked (Function.update f x none) := by
  obtain ⟨rank, hr⟩ := h
  refine ⟨rank, fun y p hy => ?_⟩
  by_cases hx : y = x
  · rw [hx, Function.update_self] at hy
    cases hy
  · rw [Function.update_of_ne hx] at hy
    exact hr y p hy

/-- A link from `x` to `p` closes no loop, unless `x` is `p` or above it. -/
theorem Ranked.update_some (h : Ranked f) (hx : ¬ ReflTransGen (Up f) p x) :
    Ranked (Function.update f x (some p)) := by
  classical
  obtain ⟨rank, hr⟩ := h
  -- Everything from `x` down is lifted above `p`; the links among these keep their order.
  refine ⟨fun y => if ReflTransGen (Up f) y x then rank y + rank p + 1 else rank y, ?_⟩
  intro y q hq
  by_cases hy : y = x
  · subst hy
    rw [Function.update_self] at hq
    cases hq
    simp only [if_neg hx, if_pos (ReflTransGen.refl (a := y))]
    omega
  · rw [Function.update_of_ne hy] at hq
    have hlt := hr y q hq
    have hiff : ReflTransGen (Up f) y x ↔ ReflTransGen (Up f) q x := by
      constructor
      · intro hyx
        rcases ReflTransGen.cases_head hyx with h | ⟨z, hz, hzx⟩
        · exact absurd h hy
        · have : z = q := Option.some.inj (hz.symm.trans hq)
          exact this ▸ hzx
      · exact fun hqx => .head hq hqx
    simp only [hiff]
    split <;> omega

end Ranked

/-! ## Walks up an arena -/

namespace Windows

variable {ws : Windows} {a w x p r : WindowId}

/-- The window `n` links up from `w`. -/
def ancestor (ws : Windows) : Nat → WindowId → Option WindowId
  | 0, w => some w
  | n + 1, w => (parentOf ws w).bind (ancestor ws n)

theorem ancestor_add (ws : Windows) (n : Nat) :
    ∀ (m : Nat) (w : WindowId), ancestor ws (m + n) w = (ancestor ws m w).bind (ancestor ws n)
  | 0, w => by rw [Nat.zero_add]; rfl
  | m + 1, w => by
    rw [Nat.add_right_comm, ancestor, ancestor, Option.bind_assoc]
    exact congrArg _ (funext fun p => ancestor_add ws n m p)

theorem contains_of_parentOf (h : parentOf ws w = some p) : ws.contains w = true := by
  obtain ⟨window, hw, -⟩ := Option.bind_eq_some_iff.1 h
  rw [Arena.contains, hw]
  rfl

theorem reaches_iff : ReflTransGen (Up (parentOf ws)) w a ↔ ∃ n, ancestor ws n w = some a := by
  constructor
  · intro h
    induction h using ReflTransGen.head_induction_on with
    | refl => exact ⟨0, rfl⟩
    | head h _ ih =>
      obtain ⟨n, hn⟩ := ih
      refine ⟨n + 1, ?_⟩
      rw [ancestor, show parentOf ws _ = some _ from h]
      exact hn
  · rintro ⟨n, hn⟩
    induction n generalizing w with
    | zero => cases hn; exact .refl
    | succ n ih =>
      obtain ⟨p, hp, hn⟩ := Option.bind_eq_some_iff.1 hn
      exact .head hp (ih hn)

/-- A walk that visits live windows only, none of them twice, is no longer than there are
live windows. -/
theorem le_size {n : Nat} (hlive : ∀ i < n, ∃ x, ancestor ws i w = some x ∧ ws.contains x)
    (hinj : ∀ i j, i < j → j < n → ancestor ws i w ≠ ancestor ws j w) : n ≤ ws.size := by
  have hnodup : ((List.range n).map fun i => (ancestor ws i w).getD w).Nodup := by
    refine List.Nodup.map_on (fun i hi j hj hij => ?_) List.nodup_range
    obtain ⟨x, hx, -⟩ := hlive i (List.mem_range.1 hi)
    obtain ⟨y, hy, -⟩ := hlive j (List.mem_range.1 hj)
    rw [hx, hy] at hij
    have hsame : ancestor ws i w = ancestor ws j w := by
      rw [hx, hy]
      exact congrArg some hij
    rcases Nat.lt_trichotomy i j with h | h | h
    · exact absurd hsame (hinj i j h (List.mem_range.1 hj))
    · exact h
    · exact absurd hsame.symm (hinj j i h (List.mem_range.1 hi))
  have hsub : ((List.range n).map fun i => (ancestor ws i w).getD w) ⊆ ws.ids := by
    intro y hy
    obtain ⟨i, hi, rfl⟩ := List.mem_map.1 hy
    obtain ⟨x, hx, hc⟩ := hlive i (List.mem_range.1 hi)
    obtain ⟨window, hw⟩ := Option.isSome_iff_exists.1 hc
    rw [hx]
    exact List.mem_map.2 ⟨(x, window), Arena.mem_toList.2 hw, rfl⟩
  have := (hnodup.subperm hsub).length_le
  rwa [List.length_map, List.length_range, Arena.ids, List.length_map] at this

/-- What is above `w` is met within as many links as there are live windows. -/
theorem exists_ancestor_le_size {n : Nat} (h : ancestor ws n w = some a) :
    ∃ m ≤ ws.size, ancestor ws m w = some a := by
  classical
  have hex : ∃ n, ancestor ws n w = some a := ⟨n, h⟩
  refine ⟨Nat.find hex, ?_, Nat.find_spec hex⟩
  have hspec := Nat.find_spec hex
  generalize hm : Nat.find hex = m at hspec
  -- The way down from step `i` to the end is `m - i` links long.
  have hrest : ∀ i < m, ∃ x, ancestor ws i w = some x ∧ ancestor ws (m - i) x = some a := by
    intro i hi
    rw [show m = i + (m - i) by omega, ancestor_add] at hspec
    exact Option.bind_eq_some_iff.1 hspec
  refine le_size (w := w) (fun i hi => ?_) (fun i j hij hj he => ?_)
  · obtain ⟨x, hx, hxa⟩ := hrest i hi
    rw [show m - i = (m - i - 1) + 1 by omega] at hxa
    obtain ⟨p, hp, -⟩ := Option.bind_eq_some_iff.1 hxa
    exact ⟨x, hx, contains_of_parentOf hp⟩
  · -- A repetition could be cut out, and the walk would be shorter than the shortest.
    obtain ⟨x, hx, hxa⟩ := hrest j hj
    have hshort : ancestor ws (i + (m - j)) w = some a := by
      rw [ancestor_add, he, hx]
      exact hxa
    exact Nat.find_min hex (by omega) hshort

theorem climbsTo_iff (ws : Windows) (a : WindowId) :
    ∀ (n : Nat) (w : WindowId), climbsTo ws a n (some w) = true ↔ ∃ i < n, ancestor ws i w = some a
  | 0, w => by simp [climbsTo]
  | n + 1, w => by
    rw [climbsTo, Bool.or_eq_true, decide_eq_true_iff]
    constructor
    · rintro (rfl | h)
      · exact ⟨0, by omega, rfl⟩
      · cases hp : parentOf ws w with
        | none => rw [hp] at h; cases n <;> cases h
        | some p =>
          rw [hp] at h
          obtain ⟨i, hi, ha⟩ := (climbsTo_iff ws a n p).1 h
          exact ⟨i + 1, by omega, by rw [ancestor, hp]; exact ha⟩
    · rintro ⟨i, hi, ha⟩
      cases i with
      | zero => exact .inl (Option.some.inj ha)
      | succ i =>
        obtain ⟨p, hp, ha⟩ := Option.bind_eq_some_iff.1 ha
        rw [hp]
        exact .inr ((climbsTo_iff ws a n p).2 ⟨i, by omega, ha⟩)

/-- The bounded test is the unbounded one, whatever the links are. -/
theorem isAncestorOrSelf_iff :
    isAncestorOrSelf ws a w = true ↔ ReflTransGen (Up (parentOf ws)) w a := by
  rw [isAncestorOrSelf, climbsTo_iff, reaches_iff]
  constructor
  · exact fun ⟨i, _, hi⟩ => ⟨i, hi⟩
  · rintro ⟨n, hn⟩
    obtain ⟨m, hm, ha⟩ := exists_ancestor_le_size hn
    exact ⟨m, by omega, ha⟩

/-- The climb goes through live windows, and ends early only where it can go no further. -/
theorem climb_spec (ws : Windows) : ∀ (n : Nat) (w : WindowId), ws.contains w →
    ∃ k ≤ n, ancestor ws k w = some (climb ws n w) ∧
      (∀ i ≤ k, ∃ x, ancestor ws i w = some x ∧ ws.contains x) ∧
      (k = n ∨ ∀ p, parentOf ws (climb ws n w) = some p → ws.contains p = false)
  | 0, w, hw => by
    refine ⟨0, Nat.le_refl _, rfl, fun i hi => ?_, .inl rfl⟩
    cases Nat.le_zero.1 hi
    exact ⟨w, rfl, hw⟩
  | n + 1, w, hw => by
    have hstay : ∀ i ≤ 0, ∃ x, ancestor ws i w = some x ∧ ws.contains x := by
      intro i hi
      cases Nat.le_zero.1 hi
      exact ⟨w, rfl, hw⟩
    rw [climb]
    split
    · next p hp =>
      split
      · next hc =>
        obtain ⟨k, hk, ha, hl, he⟩ := climb_spec ws n p hc
        refine ⟨k + 1, by omega, ?_, fun i hi => ?_, he.imp_left fun h => by omega⟩
        · rw [ancestor, hp]
          exact ha
        · cases i with
          | zero => exact ⟨w, rfl, hw⟩
          | succ i =>
            rw [ancestor, hp]
            exact hl i (by omega)
      · next hc =>
        refine ⟨0, by omega, rfl, hstay, .inr fun q hq => ?_⟩
        cases Option.some.inj (hp.symm.trans hq)
        simpa using hc
    · next hp => exact ⟨0, by omega, rfl, hstay, .inr fun q hq => nomatch hp.symm.trans hq⟩

/-- The way up from `w` through live windows ends at `r`: a live window that is `w` or above it,
and has no live parent. -/
structure EndsAt (ws : Windows) (w r : WindowId) : Prop where
  up : ReflTransGen (Up (parentOf ws)) w r
  live : ws.contains r
  top : ∀ p, parentOf ws r = some p → ws.contains p = false

/-- Where no window is above itself, the walk to the root of a live window goes all the way. -/
theorem rootOf_endsAt (h : ∀ x, ¬ TransGen (Up (parentOf ws)) x x) (hw : ws.contains w) :
    ∃ r, rootOf ws w = some r ∧ ws.EndsAt w r := by
  obtain ⟨k, hk, ha, hl, he⟩ := climb_spec ws ws.size w hw
  refine ⟨climb ws ws.size w, by rw [rootOf, if_pos hw], reaches_iff.2 ⟨k, ha⟩, ?_, ?_⟩
  · obtain ⟨x, hx, hc⟩ := hl k (Nat.le_refl _)
    rw [ha] at hx
    cases hx
    exact hc
  · rcases he with rfl | he
    · -- A climb of full length would visit one window more than there are.
      have hle : ws.size + 1 ≤ ws.size := by
        refine le_size (w := w) (fun i hi => hl i (by omega)) (fun i j hij hj he => ?_)
        obtain ⟨x, hx, -⟩ := hl i (by omega)
        have hloop : ancestor ws (j - i) x = some x := by
          have := ancestor_add ws (j - i) i w
          rw [show i + (j - i) = j by omega, ← he, hx] at this
          exact this.symm
        rw [show j - i = (j - i - 1) + 1 by omega] at hloop
        obtain ⟨p, hp, hpx⟩ := Option.bind_eq_some_iff.1 hloop
        exact h x (.head' hp (reaches_iff.2 ⟨_, hpx⟩))
      omega
    · exact he

/-- Along ranked links, the root of a live window is live and above it, and has no live
parent. -/
theorem rootOf_spec (h : Ranked (parentOf ws)) (hw : ws.contains w) :
    ∃ r, rootOf ws w = some r ∧ ReflTransGen (Up (parentOf ws)) w r ∧ ws.contains r ∧
      ∀ p, parentOf ws r = some p → ws.contains p = false := by
  obtain ⟨r, hr, he⟩ := rootOf_endsAt h.not_transGen_self hw
  exact ⟨r, hr, he.up, he.live, he.top⟩

end Windows

end Kiosk
