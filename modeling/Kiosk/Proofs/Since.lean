import Kiosk.Proofs.Seniority
import Mathlib.Data.List.Induction

/-!
# What holds throughout, and since when

A property may hold at all times of a run (`Desktop.Throughout`). One that does not hold at
first and holds in the end set in with some action, and has held ever since
(`Desktop.HoldsSince`), so to tell when it holds in the end it is enough to look at the
actions with which it can set in (`Desktop.exists_holdsSince_iff`).
-/

namespace Kiosk

variable {config : Config} {P : Desktop → Prop} {d d' d₁ : Desktop} {as : List Action}
  {a : Action}

namespace Desktop

theorem run_concat (h : d.run (as ++ [a]) = some d') :
    ∃ d₁, d.run as = some d₁ ∧ (∀ fault, (d₁.act a).1 ≠ .fault fault) ∧ (d₁.act a).2 = d' := by
  rw [run_append, Option.bind_eq_some_iff] at h
  obtain ⟨d₁, hbefore, hlast⟩ := h
  obtain ⟨hok, hnil⟩ := run_cons hlast
  exact ⟨d₁, hbefore, hok, Option.some.inj hnil⟩

/-- `P` holds on `d` and after each of the actions. -/
def Throughout (P : Desktop → Prop) (d : Desktop) : List Action → Prop
  | [] => P d
  | a :: as => P d ∧ (d.act a).2.Throughout P as

instance Throughout.decidable (P : Desktop → Prop) [DecidablePred P] :
    ∀ (d : Desktop) (as : List Action), Decidable (d.Throughout P as)
  | d, [] => inferInstanceAs (Decidable (P d))
  | d, a :: as =>
    have := Throughout.decidable P (d.act a).2 as
    inferInstanceAs (Decidable (P d ∧ (d.act a).2.Throughout P as))

theorem Throughout.first (h : d.Throughout P as) : P d := by
  cases as with
  | nil => exact h
  | cons a as => exact h.1

theorem throughout_concat (hr : d.run as = some d') :
    d.Throughout P (as ++ [a]) ↔ d.Throughout P as ∧ P (d'.act a).2 := by
  induction as generalizing d with
  | nil =>
    cases hr
    rfl
  | cons b as ih => exact (and_congr_right' (ih (run_cons hr).2)).trans and_assoc.symm

theorem Throughout.last (h : d.Throughout P as) (hr : d.run as = some d') : P d' := by
  induction as generalizing d with
  | nil =>
    cases hr
    exact h
  | cons b as ih => exact ih h.2 (run_cons hr).2

/-- In the run from `d`, `P` set in with `a`, applied to `d₁`, and has held since. -/
def HoldsSince (P : Desktop → Prop) (d : Desktop) (as : List Action) (d₁ : Desktop) (a : Action) :
    Prop :=
  ∃ before after, as = before ++ a :: after ∧ d.run before = some d₁ ∧ ¬ P d₁ ∧
    (d₁.act a).2.Throughout P after

theorem HoldsSince.mem (h : d.HoldsSince P as d₁ a) : a ∈ as := by
  obtain ⟨before, after, rfl, -⟩ := h
  exact List.mem_append_right before List.mem_cons_self

theorem HoldsSince.first (h : d.HoldsSince P as d₁ a) : ¬ P d₁ ∧ P (d₁.act a).2 := by
  obtain ⟨_, _, _, _, hnot, hthroughout⟩ := h
  exact ⟨hnot, hthroughout.first⟩

/-- A property that did not hold at first holds exactly if it has since some action. -/
theorem exists_holdsSince_iff (hr : d.run as = some d') (hfirst : ¬ P d) :
    P d' ↔ ∃ d₁ a, d.HoldsSince P as d₁ a := by
  constructor
  · -- Going back from the end, the property holds until the action it set in with.
    intro hlast
    induction as using List.reverseRecOn generalizing d' with
    | nil =>
      cases hr
      exact absurd hlast hfirst
    | append_singleton as a ih =>
      obtain ⟨d₂, hbefore, -, rfl⟩ := run_concat hr
      by_cases h : P d₂
      · obtain ⟨d₁, b, before, after, rfl, hrun, hnot, hthroughout⟩ := ih hbefore h
        rw [run_append, hrun] at hbefore
        refine ⟨d₁, b, before, after ++ [a], by simp, hrun, hnot, ?_⟩
        exact (throughout_concat (run_cons hbefore).2).2 ⟨hthroughout, hlast⟩
      · exact ⟨d₂, a, as, [], rfl, hbefore, h, hlast⟩
  · rintro ⟨d₁, a, before, after, rfl, hbefore, -, hthroughout⟩
    rw [run_append, hbefore] at hr
    exact hthroughout.last (run_cons hr).2

/-- The run up to where the property set in. -/
theorem HoldsSince.reached (h : (fresh config).HoldsSince P as d₁ a) : Reached config d₁ := by
  obtain ⟨before, _, _, hbefore, -⟩ := h
  exact Reached.run before .fresh hbefore

end Desktop

/-- What is dispatched is left by calls only. -/
theorem Dispatched.act (h : Dispatched config d) (hcall : ∀ c, a ≠ .call c)
    (ok : ∀ fault, (d.act a).1 ≠ .fault fault) : Dispatched config (d.act a).2 := by
  cases a with
  | event e => exact .event e h ok
  | call c => exact absurd rfl (hcall c)
  | switch s => exact .switch s h

/-- Runs without calls stay within what is dispatched. -/
theorem Dispatched.of_run (hcalls : ∀ c, .call c ∉ as)
    (hr : (Desktop.fresh config).run as = some d) : Dispatched config d := by
  induction as using List.reverseRecOn generalizing d with
  | nil =>
    cases hr
    exact .fresh
  | append_singleton as a ih =>
    obtain ⟨d₁, hbefore, hok, rfl⟩ := Desktop.run_concat hr
    have h := ih (fun c hc => hcalls c (List.mem_append_left _ hc)) hbefore
    exact h.act (fun c ha => hcalls c (List.mem_append_right as (ha ▸ List.mem_cons_self))) hok

end Kiosk
