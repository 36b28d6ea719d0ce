import Kiosk.Proofs.Aside
import Mathlib.Data.List.Induction

/-!
# Histories of commands

What a host may be told, after what it was told already: a view is made before
all else that is said about it, and released last; the view of a window is mapped
once, and raised only after that; and nothing is said about a surface once its
window was taken off it. `Command.Follows` says so of one command, and a log is
in order if all of its commands follow those before them (`InOrder`).

From that order come the counts: no view is made, mapped or released twice.
-/

namespace Kiosk

namespace Command

/-- The view the command names. -/
def view? : Command → Option ViewHandle
  | .createView _ v => some v
  | .destroyView v => some v
  | .mapView v => some v
  | .raiseView v => some v
  | .setViewPosition v _ => some v
  | .createBackground _ v _ => some v
  | _ => none

/-- Whether the command makes `v`, for a window or as a background. -/
def makes (v : ViewHandle) : Command → Bool
  | .createView _ u => u = v
  | .createBackground _ u _ => u = v
  | _ => false

/-- The surface of a window that is asked for, whether it gets a view or not. -/
def requested? : Command → Option SurfaceHandle
  | .createView s _ => some s
  | .postNoMemory s => some s
  | _ => none

/-- The command may come after `log`. -/
structure Follows (log : List Command) (c : Command) : Prop where
  /-- A view that is made was never heard of. -/
  fresh : ∀ v, c.makes v → ∀ b ∈ log, b.view? ≠ some v
  /-- A view that is named otherwise was made and not released. -/
  alive : ∀ v, c.view? = some v → c.makes v = false →
    (∃ b ∈ log, b.makes v) ∧ .destroyView v ∉ log
  /-- A view that is mapped is a window's and was not mapped before. -/
  mapped : ∀ v, c = .mapView v → (∃ s, .createView s v ∈ log) ∧ .mapView v ∉ log
  /-- A view that is raised was mapped. -/
  raised : ∀ v, c = .raiseView v → .mapView v ∈ log
  /-- A surface that is named has not lost its window. -/
  attached : ∀ s, c.surface? = some s → .setUserData s false ∉ log

end Command

open Command

/-- Each command of the log may come after those before it. -/
def InOrder (log : List Command) : Prop :=
  ∀ pre c post, log = pre ++ c :: post → c.Follows pre

variable {log cs : List Command} {c : Command} {v : ViewHandle} {surface : SurfaceHandle}

namespace InOrder

theorem nil : InOrder [] := by
  intro pre c post h
  simp at h

/-- A log in order goes on in order. -/
theorem append (h : InOrder log)
    (hcs : ∀ pre c post, cs = pre ++ c :: post → c.Follows (log ++ pre)) : InOrder (log ++ cs) := by
  intro pre c post hsplit
  rcases List.append_eq_append_iff.1 hsplit with ⟨mid, hpre, hcs'⟩ | ⟨mid, hlog, hpost⟩
  · exact hpre ▸ hcs mid c post hcs'
  · cases mid with
    | nil =>
      rw [List.append_nil] at hlog
      have hfirst := hcs [] c post hpost.symm
      rwa [List.append_nil, hlog] at hfirst
    | cons b mid =>
      obtain ⟨rfl, -⟩ := List.cons.inj hpost
      exact h pre c mid hlog

theorem concat (h : InOrder log) (hc : c.Follows log) : InOrder (log ++ [c]) := by
  refine h.append fun pre b post hsplit => ?_
  cases pre with
  | nil =>
    cases hsplit
    rwa [List.append_nil]
  | cons a pre => simp at hsplit

/-- What no command follows twice is there once at most. -/
theorem countP_le_one (p : Command → Bool) (hp : ∀ pre c, Follows pre c → p c → ∀ b ∈ pre, ¬ p b)
    (h : InOrder log) : log.countP p ≤ 1 := by
  induction log using List.reverseRecOn with
  | nil => simp
  | append_singleton log c ih =>
    have hlog : InOrder log := fun pre b post hsplit =>
      h pre b (post ++ [c]) (by rw [hsplit, List.append_assoc, List.cons_append])
    rw [List.countP_append, List.countP_singleton]
    split
    · next hc =>
      have hnone : log.countP p = 0 :=
        List.countP_eq_zero.2 (hp log c (h log c [] rfl) hc)
      omega
    · exact ih hlog

end InOrder

theorem view?_of_makes (h : c.makes v) : c.view? = some v := by
  cases c <;> simp_all [makes, view?]

/-- No view is made twice. -/
theorem InOrder.countP_makes_le_one (h : InOrder log) (v : ViewHandle) :
    log.countP (makes v) ≤ 1 :=
  h.countP_le_one (makes v) fun _ _ hf hc b hb hv => hf.fresh v hc b hb (view?_of_makes hv)

/-- A view that is named was made, and once. -/
theorem InOrder.countP_makes (h : InOrder log) (hc : c ∈ log) (hv : c.view? = some v) :
    log.countP (makes v) = 1 := by
  have hmade : ∃ b ∈ log, b.makes v := by
    cases hm : c.makes v with
    | true => exact ⟨c, hc, hm⟩
    | false =>
      obtain ⟨pre, post, rfl⟩ := List.append_of_mem hc
      obtain ⟨⟨b, hb, hbv⟩, -⟩ := (h pre c post rfl).alive v hv hm
      exact ⟨b, List.mem_append_left _ hb, hbv⟩
  have hpos := List.countP_pos_iff.2 hmade
  have hle := h.countP_makes_le_one v
  omega

/-- No view is released twice. -/
theorem InOrder.count_destroyView_le_one (h : InOrder log) (v : ViewHandle) :
    log.count (.destroyView v) ≤ 1 := by
  refine h.countP_le_one (· == .destroyView v) fun pre c hf hc b hb hbv => ?_
  rw [beq_iff_eq] at hc hbv
  subst hc hbv
  exact (hf.alive v rfl rfl).2 hb

/-- No view is mapped twice. -/
theorem InOrder.count_mapView_le_one (h : InOrder log) (v : ViewHandle) :
    log.count (.mapView v) ≤ 1 := by
  refine h.countP_le_one (· == .mapView v) fun pre c hf hc b hb hbv => ?_
  rw [beq_iff_eq] at hc hbv
  subst hc hbv
  exact (hf.mapped v rfl).2 hb

/-! ## What may follow -/

theorem exists_makes_append (h : ∃ b ∈ log, b.makes v) : ∃ b ∈ log ++ cs, b.makes v := by
  obtain ⟨b, hb, hm⟩ := h
  exact ⟨b, List.mem_append_left _ hb, hm⟩

namespace Command

theorem follows_createView (hfresh : ∀ b ∈ log, b.view? ≠ some v)
    (hs : .setUserData surface false ∉ log) : (createView surface v).Follows log := by
  constructor <;> simp_all [makes, view?, surface?]

theorem follows_createBackground (hfresh : ∀ b ∈ log, b.view? ≠ some v) (o : OutputHandle)
    (area : Rect) : (createBackground o v area).Follows log := by
  constructor <;> simp_all [makes, view?, surface?]

theorem follows_destroyView (hmade : ∃ b ∈ log, b.makes v) (hkept : .destroyView v ∉ log) :
    (destroyView v).Follows log := by
  constructor <;> simp_all [makes, view?, surface?]

theorem follows_setViewPosition (hmade : ∃ b ∈ log, b.makes v) (hkept : .destroyView v ∉ log)
    (at_ : Point) : (setViewPosition v at_).Follows log := by
  constructor <;> simp_all [makes, view?, surface?]

theorem follows_mapView (hmade : .createView surface v ∈ log) (hkept : .destroyView v ∉ log)
    (hm : .mapView v ∉ log) : (mapView v).Follows log := by
  have hmade' : ∃ b ∈ log, b.makes v := ⟨_, hmade, by simp [makes]⟩
  constructor <;> simp_all [makes, view?, surface?]
  exact ⟨surface, hmade⟩

theorem follows_raiseView (hmade : ∃ b ∈ log, b.makes v) (hkept : .destroyView v ∉ log)
    (hm : .mapView v ∈ log) : (raiseView v).Follows log := by
  constructor <;> simp_all [makes, view?, surface?]

theorem follows_setUserData (hs : .setUserData surface false ∉ log) (b : Bool) :
    (setUserData surface b).Follows log := by
  constructor <;> simp_all [makes, view?, surface?]

theorem follows_postNoMemory (hs : .setUserData surface false ∉ log) :
    (postNoMemory surface).Follows log := by
  constructor <;> simp_all [makes, view?, surface?]

/-- Advice names surfaces only. -/
theorem follows_of_isAdvice (hc : c.isAdvice)
    (hs : ∀ surface, c.surface? = some surface → .setUserData surface false ∉ log) :
    c.Follows log := by
  refine ⟨fun v hv => ?_, fun v hv => ?_, fun v hv => ?_, fun v hv => ?_, hs⟩
  · cases c <;> cases hc <;> cases hv
  · cases c <;> cases hc <;> cases hv
  · subst hv
    cases hc
  · subst hv
    cases hc

end Command

/-- Advice on surfaces that are in use is always in order. -/
theorem InOrder.append_advice {bears : SurfaceHandle → Prop} (h : InOrder log)
    (hcs : ∀ c ∈ cs, c.Advises bears)
    (hb : ∀ surface, bears surface → .setUserData surface false ∉ log) : InOrder (log ++ cs) := by
  refine h.append fun pre c post hsplit => ?_
  have hc : c ∈ cs := hsplit ▸ List.mem_append_right _ List.mem_cons_self
  refine follows_of_isAdvice (hcs c hc).1 fun surface hs hm => ?_
  rcases List.mem_append.1 hm with hm | hm
  · exact hb surface ((hcs c hc).2 surface hs) hm
  · cases (hcs _ (hsplit ▸ List.mem_append_left _ hm)).1

end Kiosk
