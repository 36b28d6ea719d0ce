import Kiosk.Proofs.Attention
import Kiosk.Proofs.Since

/-!
# Where the host has the focus

As long as nobody reports a focus or calls single operations, only the shell moves the keyboard
focus (`Unprompted`). It tells the host of every move, so the host has been told the focus of
each seat that has one (`Unprompted.heard`). What it is not told is that a window goes away from
under a seat without a keyboard, and that is the only reason for which host and shell disagree
(`Unprompted.told_ne_iff`).
-/

namespace Kiosk

variable {config : Config} {d : Desktop} {s : Shell} {w : WindowId} {seat : SeatId}
  {handle : SeatHandle} {surface : SurfaceHandle} {a : Action} {as bs : List Action}
  {handles : List SeatHandle}

/-! ## Seats as they appear -/

/-- The handles of the seats that appear in a run, in order. -/
def seatHandles (as : List Action) : List SeatHandle := as.filterMap Action.seatHandle?

theorem seatHandles_concat (as : List Action) (a : Action) :
    seatHandles (as ++ [a]) = seatHandles as ++ a.seatHandle?.toList := by
  rw [seatHandles, List.filterMap_append]
  cases h : a.seatHandle? with
  | none => rw [List.filterMap_cons_none h, Option.toList]; rfl
  | some handle => rw [List.filterMap_cons_some h, Option.toList]; rfl

/-- Seats have different handles, of those that have appeared, and the host has not heard of
others. -/
structure Desktop.Introduced (handles : List SeatHandle) (d : Desktop) : Prop where
  seats : ∀ seat handle, d.shell.handleOf seat = some handle → handle ∈ handles
  distinct : ∀ i j handle, d.shell.handleOf i = some handle → d.shell.handleOf j = some handle →
    i = j
  told : ∀ handle ∉ handles, d.host.keyboardFocus.get? handle = none

namespace Shell

theorem owns_of_strange (hvacant : s.handleOf seat = none)
    (hstrange : ∀ j, s.handleOf j ≠ some handle) : s.Owns seat handle := by
  intro j handle' hj
  constructor
  · rintro rfl
    exact absurd hj (hstrange j)
  · rintro rfl
    rw [hvacant] at hj
    cases hj

theorem focusedWindow_of_vacant (hvacant : s.handleOf seat = none) :
    s.focusedWindow seat = none := by
  rw [focusedWindow, Option.map_eq_none_iff.1 hvacant]
  rfl

theorem hasKeyboard_of_vacant (hvacant : s.handleOf seat = none) :
    s.hasKeyboard seat = false := by
  rw [hasKeyboard, Option.map_eq_none_iff.1 hvacant]
  rfl

end Shell

/-- The host is told nothing of a seat that is not there. -/
theorem Reached.spares_strange (h : Reached config d)
    (hstrange : ∀ j, d.shell.handleOf j ≠ some handle) (a : Action) :
    d.host.Spares handle (d.act a).2.host := by
  obtain ⟨seat, hvacant, -⟩ :=
    d.exists_handleOf_act (a := .event (.seatAdded handle "" false)) rfl
  have hkeyless := Shell.hasKeyboard_of_vacant hvacant
  by_cases ha : a = .event (.seatRemoved seat)
  · subst ha
    exact (d.releaseFocus_hostIdle seat).spares handle
  · cases h.act_heeds (Shell.owns_of_strange hvacant hstrange) ha with
    | spared _ _ hh => exact hh
    | lost _ _ _ _ hh => exact hh
    | turned hk _ => exact absurd hk (by simp [hkeyless])
    | reported _ hk => exact absurd hk (by simp [hkeyless])

theorem Desktop.ne_seatRemoved (hseat : (d.act a).2.shell.handleOf seat = some handle) :
    a ≠ .event (.seatRemoved seat) := by
  rintro rfl
  rw [handleOf_act, Action.reseat, Event.reseat, Roster.get?_erase, if_pos rfl] at hseat
  cases hseat

namespace Desktop.Introduced

theorem fresh (config : Config) : Introduced [] (.fresh config) where
  seats _ _ h := by cases h
  distinct _ _ _ h := by cases h
  told _ _ := rfl

theorem strange (hi : d.Introduced handles) (hnew : handle ∉ handles) (j : SeatId) :
    d.shell.handleOf j ≠ some handle :=
  fun hj => hnew (hi.seats j handle hj)

theorem act (hi : d.Introduced handles) (h : Reached config d)
    (hnew : ∀ handle ∈ a.seatHandle?, handle ∉ handles) :
    (d.act a).2.Introduced (handles ++ a.seatHandle?.toList) := by
  have htold : ∀ handle ∉ handles, (d.act a).2.host.keyboardFocus.get? handle = none :=
    fun handle hs => (h.spares_strange (hi.strange hs) a).told.trans (hi.told handle hs)
  cases ha : a.seatHandle? with
  | none =>
    refine ⟨fun j handle hj => ?_, fun i j handle hi' hj => ?_, fun handle hs => ?_⟩
    · exact List.mem_append_left _ (hi.seats j handle (handleOf_of_act ha hj))
    · exact hi.distinct i j handle (handleOf_of_act ha hi') (handleOf_of_act ha hj)
    · exact htold handle fun hm => hs (List.mem_append_left _ hm)
  | some new =>
    obtain ⟨seat, hvacant, hact⟩ := d.exists_handleOf_act ha
    have hstrange := hi.strange (hnew new ha)
    refine ⟨fun j handle hj => ?_, fun i j handle hi' hj => ?_, fun handle hs => ?_⟩
    · rw [hact] at hj
      split at hj
      · exact List.mem_append_right _ (by simpa using hj.symm)
      · exact List.mem_append_left _ (hi.seats j handle hj)
    · rw [hact] at hi' hj
      split at hi' <;> split at hj
      · next hnew hnew' => rw [hnew, hnew']
      · exact absurd (hj.trans hi'.symm) (hstrange j)
      · exact absurd (hi'.trans hj.symm) (hstrange i)
      · exact hi.distinct i j handle hi' hj
    · exact htold handle fun hm => hs (List.mem_append_left _ hm)

theorem owns (hi : d.Introduced handles) (hseat : d.shell.handleOf seat = some handle) :
    d.shell.Owns seat handle := by
  intro j handle' hj
  constructor
  · rintro rfl
    exact hi.distinct j seat handle' hj hseat
  · rintro rfl
    exact Option.some.inj (hj.symm.trans hseat)

/-- A seat that is there after an action was there with its handle before, or both are new. -/
theorem before_act (hi : d.Introduced handles) (hnew : ∀ handle ∈ a.seatHandle?, handle ∉ handles)
    (hseat : (d.act a).2.shell.handleOf seat = some handle) :
    d.shell.Owns seat handle ∧
      (d.shell.handleOf seat = some handle ∨ d.shell.handleOf seat = none ∧ handle ∉ handles) := by
  cases ha : a.seatHandle? with
  | none =>
    have hbefore := handleOf_of_act ha hseat
    exact ⟨hi.owns hbefore, .inl hbefore⟩
  | some new =>
    obtain ⟨seat', hvacant, hact⟩ := d.exists_handleOf_act ha
    rw [hact] at hseat
    split at hseat
    · next hj =>
      subst hj
      have hnew := hnew new ha
      cases hseat
      exact ⟨Shell.owns_of_strange hvacant (hi.strange hnew), .inr ⟨hvacant, hnew⟩⟩
    · exact ⟨hi.owns hseat, .inl hseat⟩

end Desktop.Introduced

/-! ## Runs in which the shell alone moves the focus -/

/-- There are no calls and no reports of the focus, and all seats that appear have handles of
their own. -/
structure Unprompted (as : List Action) : Prop where
  calls : ∀ c, .call c ∉ as
  reports : ∀ seat focus, .event (.keyboardFocusChanged seat focus) ∉ as
  handles : (seatHandles as).Nodup

namespace Unprompted

theorem left (h : Unprompted (as ++ bs)) : Unprompted as where
  calls c hc := h.calls c (List.mem_append_left bs hc)
  reports seat focus hf := h.reports seat focus (List.mem_append_left bs hf)
  handles := by
    have hnodup := h.handles
    rw [seatHandles, List.filterMap_append] at hnodup
    exact (List.nodup_append.1 hnodup).1

theorem next (h : Unprompted (as ++ [a])) : ∀ handle ∈ a.seatHandle?, handle ∉ seatHandles as := by
  intro handle ha hmem
  have hnodup := h.handles
  rw [seatHandles_concat] at hnodup
  exact (List.nodup_append.1 hnodup).2.2 handle hmem handle (Option.mem_toList.2 ha) rfl

theorem introduced (h : Unprompted as) (hr : (Desktop.fresh config).run as = some d) :
    d.Introduced (seatHandles as) := by
  induction as using List.reverseRecOn generalizing d with
  | nil =>
    cases hr
    exact .fresh config
  | append_singleton as a ih =>
    obtain ⟨d₁, hbefore, -, rfl⟩ := Desktop.run_concat hr
    rw [seatHandles_concat]
    exact (ih h.left hbefore).act (Reached.run as .fresh hbefore) h.next

end Unprompted

namespace Desktop

/-- The host has been told the focus of `seat`, if there is one. -/
def Heard (seat : SeatId) (handle : SeatHandle) (d : Desktop) : Prop :=
  ∀ w, d.shell.focusedWindow seat = some w →
    d.host.keyboardFocus.get? handle = d.shell.focusedSurface seat

/-- `seat` has no focus, and the host believes that it is on `surface`. -/
structure Astray (seat : SeatId) (handle : SeatHandle) (surface : SurfaceHandle) (d : Desktop) :
    Prop where
  there : d.shell.handleOf seat = some handle
  unfocused : d.shell.focusedWindow seat = none
  told : d.host.keyboardFocus.get? handle = some surface

theorem focusedSurface_of_unfocused (h : d.shell.focusedWindow seat = none) :
    d.shell.focusedSurface seat = none := by
  rw [Shell.focusedSurface, h]
  rfl

/-- What the host has been told of the focus can only be wrong where there is none. -/
theorem Heard.ne_iff_astray (h : Heard seat handle d)
    (hseat : d.shell.handleOf seat = some handle) :
    d.host.keyboardFocus.get? handle ≠ d.shell.focusedSurface seat ↔
      ∃ surface, d.Astray seat handle surface := by
  constructor
  · intro hne
    have hunfocused : d.shell.focusedWindow seat = none :=
      Option.eq_none_iff_forall_ne_some.2 fun w hw => hne (h w hw)
    rw [focusedSurface_of_unfocused hunfocused, Option.ne_none_iff_exists'] at hne
    exact hne.imp fun surface htold => ⟨hseat, hunfocused, htold⟩
  · rintro ⟨surface, hastray⟩
    rw [hastray.told, focusedSurface_of_unfocused hastray.unfocused]
    exact Option.some_ne_none surface

/-- The host hears of the focus that a seat is given. -/
theorem Introduced.heard_act (hi : d.Introduced handles) (h : Reached config d)
    (hnew : ∀ handle ∈ a.seatHandle?, handle ∉ handles)
    (hreport : ∀ seat focus, a ≠ .event (.keyboardFocusChanged seat focus))
    (hheard : d.shell.handleOf seat = some handle → d.Heard seat handle)
    (hseat : (d.act a).2.shell.handleOf seat = some handle) :
    (d.act a).2.Heard seat handle := by
  obtain ⟨ho, hbefore⟩ := hi.before_act hnew hseat
  intro w hw
  cases h.act_heeds ho (ne_seatRemoved hseat) with
  | spared hf hs hh =>
    have hfocus : d.shell.focusedWindow seat = some w := hf ▸ hw
    rcases hbefore with hbefore | ⟨hvacant, -⟩
    · rw [hh.told, hs]
      exact hheard hbefore w hfocus
    · rw [Shell.focusedWindow_of_vacant hvacant] at hfocus
      cases hfocus
  | turned _ hagrees => exact hagrees.told
  | lost _ _ _ hnone _ =>
    rw [hnone] at hw
    cases hw
  | reported ha _ => exact absurd ha (hreport seat _)

/-- A seat goes astray when the window it is on is removed while it has no keyboard. -/
theorem Introduced.astray_act (hi : d.Introduced handles) (h : Reached config d)
    (hnew : ∀ handle ∈ a.seatHandle?, handle ∉ handles) (hcall : ∀ c, a ≠ .call c)
    (hreport : ∀ seat focus, a ≠ .event (.keyboardFocusChanged seat focus))
    (hheard : d.shell.handleOf seat = some handle → d.Heard seat handle)
    (hbefore : ¬ d.Astray seat handle surface)
    (hafter : (d.act a).2.Astray seat handle surface) :
    ∃ w, a = .event (.windowRemoved w) ∧ d.shell.focusedWindow seat = some w ∧
      d.shell.hasKeyboard seat = false ∧ d.shell.surfaceOf w = some surface := by
  obtain ⟨ho, hold⟩ := hi.before_act hnew hafter.there
  cases h.act_heeds ho (ne_seatRemoved hafter.there) with
  | spared hf _ hh =>
    have htold := hh.told.symm.trans hafter.told
    rcases hold with hold | ⟨-, hstrange⟩
    · exact absurd ⟨hold, hf.symm.trans hafter.unfocused, htold⟩ hbefore
    · rw [hi.told handle hstrange] at htold
      cases htold
  | turned _ hagrees =>
    have htold := hafter.told.symm.trans hagrees.told
    rw [focusedSurface_of_unfocused hafter.unfocused] at htold
    cases htold
  | @lost w ha hf _ _ hh =>
    rcases ha with ⟨ha, hk⟩ | ha
    · rcases hold with hold | ⟨hvacant, -⟩
      · have hsurface : d.shell.focusedSurface seat = some surface :=
          ((hheard hold w hf).symm.trans hh.told.symm).trans hafter.told
        rw [Shell.focusedSurface, hf] at hsurface
        exact ⟨w, ha, hf, hk, hsurface⟩
      · rw [Shell.focusedWindow_of_vacant hvacant] at hf
        cases hf
    · exact absurd ha (hcall _)
  | reported ha _ => exact absurd ha (hreport seat _)

end Desktop

namespace Unprompted

theorem heard (h : Unprompted as) (hr : (Desktop.fresh config).run as = some d)
    (hseat : d.shell.handleOf seat = some handle) : d.Heard seat handle := by
  induction as using List.reverseRecOn generalizing d with
  | nil =>
    cases hr
    cases hseat
  | append_singleton as a ih =>
    obtain ⟨d₁, hbefore, -, rfl⟩ := Desktop.run_concat hr
    have hlast : a ∈ as ++ [a] := List.mem_append_right as List.mem_cons_self
    exact (h.left.introduced hbefore).heard_act (Reached.run as .fresh hbefore) h.next
      (fun seat focus ha => h.reports seat focus (ha ▸ hlast)) (ih h.left hbefore) hseat

/-- Host and shell disagree on the focus of a seat exactly if the window it was on was removed
while it had no keyboard, and the seat has had no focus, and the host has believed it to be on
the surface of that window, ever since. -/
theorem told_ne_iff (h : Unprompted as) (hr : (Desktop.fresh config).run as = some d)
    (hseat : d.shell.handleOf seat = some handle) :
    d.host.keyboardFocus.get? handle ≠ d.shell.focusedSurface seat ↔
      ∃ surface d₁ w, (Desktop.fresh config).HoldsSince (Desktop.Astray seat handle surface) as d₁
          (.event (.windowRemoved w)) ∧
        d₁.shell.focusedWindow seat = some w ∧ d₁.shell.hasKeyboard seat = false ∧
        d₁.shell.surfaceOf w = some surface := by
  have hfresh (surface : SurfaceHandle) :
      ¬ (Desktop.fresh config).Astray seat handle surface := fun hastray => by
    cases hastray.there
  rw [(h.heard hr hseat).ne_iff_astray hseat]
  refine exists_congr fun surface => ?_
  rw [Desktop.exists_holdsSince_iff hr (hfresh surface)]
  refine exists_congr fun d₁ => ⟨?_, ?_⟩
  · rintro ⟨a, hsince⟩
    obtain ⟨before, after, rfl, hbefore, hnot, hthroughout⟩ := id hsince
    have hupto : Unprompted (before ++ [a]) := by
      rw [List.append_cons] at h
      exact h.left
    obtain ⟨w, rfl, hlost⟩ := (hupto.left.introduced hbefore).astray_act hsince.reached
      hupto.next (fun c ha => h.calls c (ha ▸ hsince.mem))
      (fun seat focus ha => h.reports seat focus (ha ▸ hsince.mem))
      (hupto.left.heard hbefore) hnot hthroughout.first
    exact ⟨w, hsince, hlost⟩
  · rintro ⟨w, hsince, -⟩
    exact ⟨_, hsince⟩

end Unprompted

/-- The clicked window is removed after the keyboard of the seat was unplugged. -/
def unpluggedRun : List Action := stackRun ++
  [.event (.seatCapabilitiesChanged ⟨0, 1⟩ false), .event (.windowRemoved ⟨1, 1⟩)]

theorem isSome_unpluggedRun : ((Desktop.fresh .default).run unpluggedRun).isSome := by
  decide +kernel

theorem unprompted_unpluggedRun : Unprompted unpluggedRun where
  calls := by simp [unpluggedRun, stackRun, familyRun]
  reports := by simp [unpluggedRun, stackRun, familyRun]
  handles := by decide

/-- The host believes that the seat is on its surface. -/
theorem told_ne_unpluggedRun : ∃ d, (Desktop.fresh .default).run unpluggedRun = some d ∧
    d.shell.handleOf ⟨0, 1⟩ = some ⟨7⟩ ∧
    d.host.keyboardFocus.get? ⟨7⟩ ≠ d.shell.focusedSurface ⟨0, 1⟩ ∧
    ∃ surface d₁ w, (Desktop.fresh .default).HoldsSince (Desktop.Astray ⟨0, 1⟩ ⟨7⟩ surface)
        unpluggedRun d₁ (.event (.windowRemoved w)) ∧
      d₁.shell.focusedWindow ⟨0, 1⟩ = some w ∧ d₁.shell.hasKeyboard ⟨0, 1⟩ = false ∧
      d₁.shell.surfaceOf w = some surface := by
  have hrun := (Option.some_get isSome_unpluggedRun).symm
  have hseat : (((Desktop.fresh .default).run unpluggedRun).get
      isSome_unpluggedRun).shell.handleOf ⟨0, 1⟩ = some ⟨7⟩ := by decide +kernel
  have hne : (((Desktop.fresh .default).run unpluggedRun).get
      isSome_unpluggedRun).host.keyboardFocus.get? ⟨7⟩ ≠
      (((Desktop.fresh .default).run unpluggedRun).get
        isSome_unpluggedRun).shell.focusedSurface ⟨0, 1⟩ := by decide +kernel
  exact ⟨_, hrun, hseat, hne, (unprompted_unpluggedRun.told_ne_iff hrun hseat).1 hne⟩

/-- Host and shell can disagree on the focus of a seat. -/
theorem not_agreed : ¬ ∀ config as d seat handle, Unprompted as →
    (Desktop.fresh config).run as = some d → d.host.createdSurfaces.Nodup →
    d.shell.handleOf seat = some handle →
    d.host.keyboardFocus.get? handle = d.shell.focusedSurface seat := by
  intro hagreed
  have hsame := hagreed .default unpluggedRun _ ⟨0, 1⟩ ⟨7⟩ unprompted_unpluggedRun
    (Option.some_get isSome_unpluggedRun).symm (by decide +kernel) (by decide +kernel)
  exact absurd hsame (by decide +kernel)

end Kiosk
