import Kiosk.Proofs.Attention
import Kiosk.Proofs.Since

/-!
# Seats without a keyboard

A seat without a keyboard stays on the window it is on for as long as that window is there, and
is on no window from then on. The host is told nothing of it in the meantime
(`Reached.keyless_focus`).
-/

namespace Kiosk

variable {config : Config} {d d' : Desktop} {seat : SeatId} {handle : SeatHandle} {a : Action}
  {as : List Action}

/-- One action takes the focus of a seat without a keyboard away only with the window. -/
theorem Reached.keyless_step (h : Reached config d) (ok : ∀ fault, (d.act a).1 ≠ .fault fault)
    (ho : d.shell.Owns seat handle) (hkeyless : d.shell.hasKeyboard seat = false)
    (hkept : a ≠ .event (.seatRemoved seat)) :
    (∀ w, (d.act a).2.shell.focusedWindow seat = some w ↔
      d.shell.focusedWindow seat = some w ∧ (d.act a).2.shell.isLive w) ∧
    d.host.Spares handle (d.act a).2.host := by
  have hsound := (h.act a ok).sound
  cases h.act_heeds ho hkept with
  | spared hf _ hh =>
    refine ⟨fun w => ⟨fun hw => ⟨hf ▸ hw, hsound.isLive_of_focusedWindow hw⟩, fun hw => ?_⟩, hh⟩
    rw [hf]
    exact hw.1
  | lost _ hf hgone hnone hh =>
    refine ⟨fun w => ⟨fun hw => ?_, fun ⟨hw, hlive⟩ => ?_⟩, hh⟩
    · rw [hnone] at hw
      cases hw
    · rw [Option.some.inj (hw.symm.trans hf), hgone] at hlive
      cases hlive
  | turned hk _ => exact absurd hk (by simp [hkeyless])
  | reported _ hk => exact absurd hk (by simp [hkeyless])

/-- A seat that has no keyboard, is given none and is not removed is in the end on the window it
was on at first, if that has been there throughout, and else on none, and the host is told
nothing of its focus, whatever else happens. -/
theorem Reached.keyless_focus (h : Reached config d) (hr : d.run as = some d')
    (hdistinct : d.Throughout (·.shell.SeatsDistinct) as)
    (hseat : d.shell.handleOf seat = some handle) (hkeyless : d.shell.hasKeyboard seat = false)
    (hkept : .event (.seatRemoved seat) ∉ as)
    (hunplugged : .event (.seatCapabilitiesChanged seat true) ∉ as) :
    (d'.shell.handleOf seat = some handle ∧ d'.shell.hasKeyboard seat = false) ∧
    (∀ w, d'.shell.focusedWindow seat = some w ↔
      d.shell.focusedWindow seat = some w ∧ d.Throughout (·.shell.isLive w) as) ∧
    d.host.Spares handle d'.host := by
  induction as generalizing d with
  | nil =>
    cases hr
    refine ⟨⟨hseat, hkeyless⟩, fun w => ?_, (Host.Idle.refl _).spares handle⟩
    exact (and_iff_left_of_imp h.sound.isLive_of_focusedWindow).symm
  | cons a as ih =>
    obtain ⟨ok, hr⟩ := Desktop.run_cons hr
    have ho := hdistinct.first.owns h.seats_ordered hseat
    have hstay : a ≠ .event (.seatRemoved seat) := fun he => hkept (he ▸ List.mem_cons_self)
    obtain ⟨hseat', hkeyless'⟩ := Desktop.keyless_act hseat hkeyless hstay
      fun he => hunplugged (he ▸ List.mem_cons_self)
    obtain ⟨hstep, hspared⟩ := h.keyless_step ok ho hkeyless hstay
    obtain ⟨hthere, hfocus, hrest⟩ := ih (h.act a ok) hr hdistinct.2 hseat' hkeyless'
      (fun hm => hkept (List.mem_cons_of_mem a hm))
      (fun hm => hunplugged (List.mem_cons_of_mem a hm))
    refine ⟨hthere, fun w => ?_, hspared.trans hrest⟩
    calc d'.shell.focusedWindow seat = some w
        ↔ (d.act a).2.shell.focusedWindow seat = some w ∧
            (d.act a).2.Throughout (·.shell.isLive w) as := hfocus w
      _ ↔ d.shell.focusedWindow seat = some w ∧
            (d.act a).2.Throughout (·.shell.isLive w) as :=
        and_congr_left fun hlives => (hstep w).trans (and_iff_left hlives.first)
      _ ↔ d.shell.focusedWindow seat = some w ∧ d.Throughout (·.shell.isLive w) (a :: as) :=
        and_congr_right fun hw =>
          (and_iff_right (h.sound.isLive_of_focusedWindow hw)).symm

/-- The child that a seat without a keyboard is on goes away after a while in which windows
appear, the seat is made to touch the root, and the focus is put there by a call. -/
def quietRun : List Action :=
  [.event (.windowAdded ⟨13⟩ none none),
    .event (.touchDown ⟨2, 1⟩ (some ⟨0, 1⟩) true),
    .call (.focusSeat ⟨2, 1⟩ (some ⟨0, 1⟩)),
    .event (.keyboardFocusChanged ⟨2, 1⟩ (some ⟨2, 1⟩)),
    .event (.windowRemoved ⟨1, 1⟩)]

theorem isSome_quietRun : ((((Desktop.fresh .default).run sharedRun).get isSome_sharedRun).run
    quietRun).isSome := by decide +kernel

/-- The seat is on the child until then, and on no window in the end. -/
theorem keyless_focus_quietRun : ∃ d d', Reached .default d ∧ d.run quietRun = some d' ∧
    d.Throughout (·.shell.SeatsDistinct) quietRun ∧
    d.shell.handleOf ⟨2, 1⟩ = some ⟨9⟩ ∧ d.shell.hasKeyboard ⟨2, 1⟩ = false ∧
    .event (.seatRemoved ⟨2, 1⟩) ∉ quietRun ∧
    .event (.seatCapabilitiesChanged ⟨2, 1⟩ true) ∉ quietRun ∧
    d.shell.focusedWindow ⟨2, 1⟩ = some ⟨1, 1⟩ ∧ d'.shell.focusedWindow ⟨2, 1⟩ = none ∧
    (d'.shell.handleOf ⟨2, 1⟩ = some ⟨9⟩ ∧ d'.shell.hasKeyboard ⟨2, 1⟩ = false) ∧
    (∀ w, d'.shell.focusedWindow ⟨2, 1⟩ = some w ↔
      d.shell.focusedWindow ⟨2, 1⟩ = some w ∧ d.Throughout (·.shell.isLive w) quietRun) ∧
    d.host.Spares ⟨9⟩ d'.host := by
  have hreached : Reached .default _ :=
    Reached.run _ .fresh (Option.some_get isSome_sharedRun).symm
  have hrun := (Option.some_get isSome_quietRun).symm
  have hdistinct : (((Desktop.fresh .default).run sharedRun).get isSome_sharedRun).Throughout
      (·.shell.SeatsDistinct) quietRun := by decide +kernel
  have hseat : (((Desktop.fresh .default).run sharedRun).get isSome_sharedRun).shell.handleOf
      ⟨2, 1⟩ = some ⟨9⟩ := by decide +kernel
  have hkeyless : (((Desktop.fresh .default).run sharedRun).get isSome_sharedRun).shell.hasKeyboard
      ⟨2, 1⟩ = false := by decide +kernel
  exact ⟨_, _, hreached, hrun, hdistinct, hseat, hkeyless, by decide, by decide,
    by decide +kernel, by decide +kernel,
    hreached.keyless_focus hrun hdistinct hseat hkeyless (by decide) (by decide)⟩

end Kiosk
