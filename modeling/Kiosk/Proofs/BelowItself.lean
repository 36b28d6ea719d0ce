import Kiosk.Proofs.LayoutSteps
import Kiosk.Proofs.Since

/-!
# Windows that are announced below themselves

Events take the layout through its steps, but for the one event that makes a window and does not
place it (`Desktop.BelowItself`). What of a window no step brings about, and no other window that
is made so, sets in with that event alone. So where it holds in the end of a run of events, the
window was announced below itself, and it has held since
(`Desktop.exists_below_itself_iff`).
-/

namespace Kiosk

variable {config : Config} {d : Desktop} {as : List Action} {a : Action} {w : WindowId}
  {P : Desktop → Prop} {Q : Layout → Prop}

/-- What steps keep, and windows that are made without being placed, an action keeps that is no
call and does not announce `w` below itself. -/
theorem Dispatched.keeps_or_below_itself (h : Dispatched config d) (hcall : ∀ c, a ≠ .call c)
    (ok : ∀ fault, (d.act a).1 ≠ .fault fault)
    (step : ∀ {L L'}, Q L → Layout.Step False L L' → Q L')
    (create : ∀ {L x surface}, x ≠ w → L.stance x = none → Q L → Q (L.create x surface))
    (hQ : Q d.layout) : Q (d.act a).2.layout ∨ d.BelowItself a w := by
  cases a with
  | call c => exact absurd rfl (hcall c)
  | switch s =>
    left
    rwa [show (d.act (.switch s)).2.layout = d.layout from (d.switch_aside s).layout]
  | event e =>
    rcases d.dispatch_steps_or_create h.reached e ok with hsteps | ⟨x, surface, hb, hx, hmade⟩
    · exact .inl (hsteps.keep hQ step)
    · by_cases hxw : x = w
      · exact .inr (hxw ▸ hb)
      · left
        rw [show (d.act (.event e)).2.layout = _ from hmade]
        exact create hxw hx hQ

/-- In a run without calls that ends in `d`, what steps never bring about of `w` holds exactly if
`w` was announced below itself and it has held ever since. -/
theorem Desktop.exists_below_itself_iff (hcalls : ∀ c, .call c ∉ as)
    (hr : (fresh config).run as = some d) (hfresh : ¬ P (fresh config))
    (hPQ : ∀ {d₁ rest}, Dispatched config d₁ → d₁.run rest = some d → (Q d₁.layout ↔ ¬ P d₁))
    (step : ∀ {L L'}, Q L → Layout.Step False L L' → Q L')
    (create : ∀ {L x surface}, x ≠ w → L.stance x = none → Q L → Q (L.create x surface)) :
    P d ↔ ∃ d₁ a, (fresh config).HoldsSince P as d₁ a ∧ d₁.BelowItself a w := by
  rw [exists_holdsSince_iff hr hfresh]
  refine exists_congr fun d₁ => exists_congr fun a => iff_self_and.2 fun hsince => ?_
  obtain ⟨before, after, rfl, hbefore, hnot, hthroughout⟩ := hsince
  have hd₁ : Dispatched config d₁ :=
    .of_run (fun c hc => hcalls c (List.mem_append_left _ hc)) hbefore
  have hcall (c : Call) : a ≠ .call c := fun ha =>
    hcalls c (List.mem_append_right before (ha ▸ List.mem_cons_self))
  rw [run_append, hbefore] at hr
  obtain ⟨hok, hrest⟩ := run_cons hr
  have hkeeps := hd₁.keeps_or_below_itself hcall hok step create ((hPQ hd₁ hr).2 hnot)
  exact hkeeps.resolve_left fun hkept =>
    (hPQ (hd₁.act hcall hok) hrest).1 hkept hthroughout.first

/-- A run of one event, which announces the first window below itself. -/
def loopRun : List Event := [.windowAdded ⟨10⟩ none (some ⟨0, 1⟩)]

end Kiosk
