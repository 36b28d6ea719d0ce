import Kiosk.Proofs.Knit

/-!
# Tearing records down

Destroying a window erases its record, runs its listeners one by one, and then
ends the links the window held itself. In between, `Teardown` holds: the shell is
knit to a web that still has the record, with just those listeners left that are
still to run. A listener that runs takes itself off that list, children moving up
to the parent of the destroyed window included (`Dying.windowGone`). With the
list empty nothing leads to the record any more, and the web without it is the
shell's own (`Teardown.sound`).

Outputs go the same way (`Teardown.outputGone`).
-/

namespace Kiosk

open Relation (ReflTransGen TransGen)

variable {t : Target} {v : Web} {l : Listener} {ls : List Listener} {s s' : Shell}
  {d d' : Desktop} {w : WindowId} {o : OutputId} {window : Window}

/-- The record `t` is gone, and of its listeners `ls` are still to run. -/
structure Teardown (t : Target) (v : Web) (ls : List Listener) (s : Shell) : Prop where
  knit : Knit (some t) v s
  signal : ∃ σ, v.signal t = some σ ∧ σ.listeners.map Prod.snd = ls

namespace Teardown

/-- A record was erased, and its links with it. -/
theorem start {σ : Signal} (h : s.Sound) (hσ : s.web.signal t = some σ)
    (hweb : Web.Agree (some t) s.web s'.web) (ht : s'.web.signal t = none)
    (hc : s'.children = s.children) (hs : s'.seats = s.seats) :
    Teardown t s.web (σ.listeners.map Prod.snd) s' where
  knit :=
    { exact := h.exact
      ranked := h.ranked
      agree := hweb
      children := hc ▸ h.children
      gone := fun u hu => by
        cases hu
        exact ht
      seated := hs ▸ h.seated
      once := h.once }
  signal := ⟨σ, hσ, rfl⟩

/-- The next listener stands for a link to the record, and its end leaves the others. -/
theorem head (h : Teardown t v (l :: ls) s) :
    ∃ k, v.link l = some (t, k) ∧
      ∃ τ, (v.cut l).signal t = some τ ∧ τ.listeners.map Prod.snd = ls := by
  obtain ⟨σ, hσ, hls⟩ := h.signal
  obtain ⟨⟨k, m⟩, es, he, rfl, hes⟩ := List.map_eq_cons_iff.1 hls
  obtain ⟨τ, hτ, hrest⟩ := h.knit.exact.cut_head hσ he
  refine ⟨k, (h.knit.exact.heard t σ hσ k m).1 (he ▸ List.mem_cons_self), τ, hτ, ?_⟩
  rw [hrest, hes]

/-- A listener of a seat or of another window runs. -/
theorem cut (h : Teardown t v (l :: ls) s) (hl : l.holder ≠ some t) (hp : ∀ x, l ≠ .parent x)
    (hweb : s'.web = s.web.point l none) (hc : s'.children = s.children)
    (hs : ∀ seat, s.seats.contains seat → s'.seats.contains seat) :
    Teardown t (v.cut l) ls s' := by
  obtain ⟨k, hk, hτ⟩ := h.head
  have hdead : ∀ u ∈ some t, l.holder ≠ some u := by
    rintro u hu
    cases hu
    exact hl
  refine ⟨h.knit.cut hdead hp ?_ hc hs, hτ⟩
  rw [hweb, Web.cut_of_gone (h.knit.agree.link l hdead ▸ hk) (h.knit.gone t rfl)]

/-- All listeners have run, and the record held no links, or they have ended. -/
theorem sound (h : Teardown t v [] s) (hv : ∀ l, l.holder = some t → v.link l = none)
    (hs : ∀ l, l.holder = some t → s.web.link l = none) : s.Sound := by
  obtain ⟨σ, hσ, hnil⟩ := h.signal
  have hweb := h.knit.agree.place_none (fun l hl => (hv l hl).trans (hs l hl).symm)
    (h.knit.gone t rfl)
  have hparent : s.web.parent = v.parent := by
    rw [← hweb]
    rfl
  refine ⟨?_, hparent ▸ h.knit.ranked, Web.agree_none.2 rfl, hparent ▸ h.knit.children,
    fun u hu => (nomatch hu), ?_, ?_⟩
  · rw [← hweb]
    exact h.knit.exact.retire hσ (List.map_eq_nil_iff.1 hnil)
  · rw [← hweb]
    exact h.knit.seated
  · rw [← hweb]
    exact h.knit.once

/-! ## Outputs -/

/-- A window leaves an output that goes away. -/
theorem outputGone (h : Teardown (.output o) v (l :: ls) s) :
    Teardown (.output o) (v.cut l) ls (Desktop.outputGone o s l) := by
  obtain ⟨k, hk, -⟩ := h.head
  have hsuits := h.knit.exact.suits _ _ _ hk
  cases l with
  | parent child => exact hsuits.elim
  | seatFocus seat => exact hsuits.elim
  | grab seat => exact hsuits.elim
  | boundOutput w =>
    have hl : (Listener.boundOutput w).holder ≠ some (.output o) := by simp [Listener.holder]
    have hlink : s.web.link (.boundOutput w) = some (.output o, k) := by
      rw [← hk]
      refine (h.knit.agree.link _ fun u hu => ?_).symm
      cases hu
      exact hl
    obtain ⟨link, hbound, hto⟩ := Option.map_eq_some_iff.1 hlink
    obtain ⟨window, hw, hb⟩ := Option.bind_eq_some_iff.1 hbound
    have hout : s.outputOf w = some o := by
      rw [Shell.outputOf, hw]
      show window.boundOutput.map Link.source = _
      rw [hb]
      cases hto
      rfl
    refine h.cut hl (by simp) ?_ ?_ ?_
    · rw [Desktop.outputGone, if_pos hout]
      exact Shell.web_setOutputLink (Option.isSome_iff_exists.2 ⟨window, hw⟩) none
    · rw [Desktop.outputGone, if_pos hout]
      rfl
    · rw [Desktop.outputGone, if_pos hout]
      exact fun _ hs => hs

theorem foldl_outputGone : ∀ (ls : List Listener) {v : Web} {s : Shell},
    Teardown (.output o) v ls s → ∃ u, Teardown (.output o) u [] (ls.foldl (Desktop.outputGone o) s)
  | [], v, _, h => ⟨v, h⟩
  | _ :: ls, _, _, h => foldl_outputGone ls h.outputGone

end Teardown

theorem Desktop.outputRemoved_sound (h : d.shell.Sound) (o : OutputId) :
    (d.outputRemoved o).shell.Sound := by
  unfold outputRemoved
  split
  · exact h
  next output ho =>
  have hsignal : d.shell.web.signal (.output o) = some output.signal :=
    congrArg (Option.map Output.signal) ho
  obtain ⟨hagree, hgone⟩ := d.shell.agree_eraseOutput o
  have hstart := Teardown.start h hsignal hagree hgone rfl rfl
  obtain ⟨u, hu⟩ := Teardown.foldl_outputGone _ hstart
  refine hu.sound (fun l hl => ?_) fun l hl => ?_
  · cases l <;> cases hl
  · cases l <;> cases hl

/-! ## Windows -/

/-- The window `w` is torn down. The links that its record `window` held have not ended yet. -/
structure Dying (w : WindowId) (window : Window) (v : Web) (ls : List Listener) (s : Shell) : Prop
    extends Teardown (.window w) v ls s where
  parent : v.link (.parent w) = window.parent.map Link.toWindow
  boundOutput : v.link (.boundOutput w) = window.boundOutput.map Link.toOutput

namespace Dying

theorem parent_eq (h : Dying w window v ls s) : v.parent w = window.parentId := by
  rw [Web.parent, h.parent, Window.parentId]
  cases window.parent <;> rfl

/-- Other windows may be placed anew. -/
theorem settles (h : Dying w window v ls d.shell) (hs : Settles d d') :
    ∃ u, Dying w window u ls d'.shell := by
  obtain ⟨u, hu, hr⟩ := h.knit.settles hs
  obtain ⟨σ, hσ, hls⟩ := h.signal
  exact ⟨u, ⟨hu, σ, (hr.signal w).trans hσ, hls⟩, (hr.parent w).trans h.parent,
    (hr.boundOutput w rfl).trans h.boundOutput⟩

/-- The link of another window or of a seat has ended. -/
theorem of_teardown (h : Dying w window v (l :: ls) s) (hl : l.holder ≠ some (.window w))
    (ht : Teardown (.window w) (v.cut l) ls s') : Dying w window (v.cut l) ls s' := by
  refine ⟨ht, ?_, ?_⟩
  · rw [Web.link_cut_of_ne (by rintro rfl; exact hl rfl)]
    exact h.parent
  · rw [Web.link_cut_of_ne (by rintro rfl; exact hl rfl)]
    exact h.boundOutput

/-- The record of a window was erased. -/
theorem start (h : d.shell.Sound) (hw : d.shell.windows.get? w = some window) :
    Dying w window d.shell.web window.signal.drain.1 (d.erased w window).shell := by
  have hsignal : d.shell.web.signal (.window w) = some window.signal :=
    congrArg (Option.map Window.signal) hw
  obtain ⟨hagree, hgone⟩ := d.shell.agree_eraseWindow w (d.shell.stacking.filter (· ≠ w))
  refine ⟨Teardown.start h hsignal hagree hgone rfl rfl, ?_, ?_⟩
  · show ((d.shell.windows.get? w).bind Window.parent).map Link.toWindow = _
    rw [hw]
    rfl
  · show ((d.shell.windows.get? w).bind Window.boundOutput).map Link.toOutput = _
    rw [hw]
    rfl

/-! ### Children of the window -/

section Child

variable {child p : WindowId}

theorem up (h : Dying w window v (.parent child :: ls) s) : Up v.parent child w := by
  obtain ⟨k, hk, -⟩ := h.head
  exact Web.parent_eq_some_iff.2 ⟨k, hk⟩

theorem child_ne (h : Dying w window v (.parent child :: ls) s) : child ≠ w := by
  rintro rfl
  exact h.knit.ranked.not_transGen_self _ (.single h.up)

theorem child_not_dead (h : Dying w window v (.parent child :: ls) s) :
    .window child ∉ some (Target.window w) := by
  intro hm
  cases hm
  exact h.child_ne rfl

theorem parentOf_child (h : Dying w window v (.parent child :: ls) s) :
    Windows.parentOf s.windows child = some w := by
  rw [← Shell.parent_web, ← h.up]
  exact (Web.parent_congr (h.knit.agree.link _ (Knit.holder_ne h.child_not_dead rfl))).symm

theorem isLive_child (h : Dying w window v (.parent child :: ls) s) : s.isLive child :=
  Windows.contains_of_parentOf h.parentOf_child

theorem parent_ne (h : Dying w window v ls s) (hp : window.parentId = some p) : p ≠ w := by
  rintro rfl
  exact h.knit.ranked.not_transGen_self _ (.single (h.parent_eq.trans hp))

theorem isLive_parent (h : Dying w window v ls s) (hp : window.parentId = some p) :
    s.isLive p := by
  obtain ⟨j, hj⟩ := Web.parent_eq_some_iff.1 (h.parent_eq.trans hp)
  rw [← Shell.isSome_signal_window, ← h.knit.agree.signal]
  · exact h.knit.exact.live _ _ _ hj
  · intro hm
    cases hm
    exact h.parent_ne hp rfl

/-- A parent of `w` is not below a child of `w`, else there were a loop. -/
theorem not_below (h : Dying w window v (.parent child :: ls) s) (hp : window.parentId = some p) :
    ¬ ReflTransGen (Up v.parent) p child := fun hr =>
  h.knit.ranked.not_transGen_self w (.tail (.head' (h.parent_eq.trans hp) hr) h.up)

theorem not_isAncestorOrSelf (h : Dying w window v (.parent child :: ls) s)
    (hp : window.parentId = some p) : Windows.isAncestorOrSelf s.windows child p = false := by
  refine Bool.eq_false_iff.2 fun ha => h.not_below hp ?_
  exact (Windows.isAncestorOrSelf_iff.1 ha).lift id fun x y hxy => h.knit.parent_of_parentOf hxy

theorem detach (h : Dying w window v (.parent child :: ls) s) :
    Dying w window (v.cut (.parent child)) ls (s.detach child) := by
  obtain ⟨k, hk, hτ⟩ := h.head
  exact h.of_teardown (by simpa [Listener.holder] using h.child_ne)
    ⟨h.knit.detach h.child_not_dead, hτ⟩

theorem adopt (h : Dying w window v (.parent child :: ls) s) (hp : window.parentId = some p) :
    Dying w window ((v.cut (.parent child)).tie (.parent child) (.window p)) ls
      ((s.detach child).attach child p) := by
  have hdetach := h.detach
  obtain ⟨τ, hτ, hrest⟩ := hdetach.signal
  refine ⟨⟨h.knit.adopt h.isLive_child (h.isLive_parent hp) (h.not_below hp), τ, ?_, hrest⟩,
    ?_, ?_⟩
  · rw [Web.signal_tie_of_ne (by simpa using (h.parent_ne hp).symm)]
    exact hτ
  · rw [Web.link_tie_of_ne (by simpa using h.child_ne.symm)]
    exact hdetach.parent
  · rw [Web.link_tie_of_ne (by simp)]
    exact hdetach.boundOutput

/-- A child of `w` moves up. -/
theorem setParent (h : Dying w window v (.parent child :: ls) d.shell) :
    ∃ u, Dying w window u ls (d.setParent child window.parentId).shell := by
  cases hp : window.parentId with
  | none =>
    exact h.detach.settles (d := d.update (·.detach child)) (Desktop.setParent_none h.isLive_child)
  | some p =>
    exact (h.adopt hp).settles (d := d.update fun s => (s.detach child).attach child p)
      (Desktop.setParent_some h.isLive_child (h.isLive_parent hp) (h.not_isAncestorOrSelf hp))

end Child

/-! ### Listeners -/

theorem windowGone (h : Dying w window v (l :: ls) d.shell) :
    ∃ u, Dying w window u ls (Desktop.windowGone w window.parentId d l).shell := by
  obtain ⟨k, hk, -⟩ := h.head
  cases l with
  | parent child => exact h.setParent
  | boundOutput x => exact (h.knit.exact.suits _ _ _ hk).elim
  | seatFocus seat =>
    have hl : (Listener.seatFocus seat).holder ≠ some (.window w) := by simp [Listener.holder]
    have hlink : d.shell.web.link (.seatFocus seat) = some (.window w, k) := by
      rw [← hk]
      exact (h.knit.agree.link _ fun u _ => by simp [Listener.holder]).symm
    obtain ⟨link, hfocus, hto⟩ := Option.map_eq_some_iff.1 hlink
    obtain ⟨record, hr, hf⟩ := Option.bind_eq_some_iff.1 hfocus
    have hw : d.shell.focusedWindow seat = some w := by
      rw [Shell.focusedWindow, hr]
      show record.focused.map Link.source = _
      rw [hf]
      cases hto
      rfl
    rw [Desktop.windowGone, if_pos hw]
    have hweb := Shell.web_setFocusLink (Option.isSome_iff_exists.2 ⟨record, hr⟩) none
    refine ⟨_, h.of_teardown hl (h.cut hl (by simp) hweb rfl fun j hj => ?_)⟩
    rw [Desktop.update, Shell.contains_modifySeat]
    exact hj
  | grab seat =>
    have hl : (Listener.grab seat).holder ≠ some (.window w) := by simp [Listener.holder]
    have hlink : d.shell.web.link (.grab seat) = some (.window w, k) := by
      rw [← hk]
      exact (h.knit.agree.link _ fun u _ => by simp [Listener.holder]).symm
    obtain ⟨grab, hg, hto⟩ := Option.map_eq_some_iff.1 hlink
    have hw : (d.shell.grabs.get? seat).any (·.window.source = w) := by
      rw [hg]
      cases hto
      simp
    rw [Desktop.windowGone, if_pos hw]
    exact ⟨_, h.of_teardown hl (h.cut hl (by simp) (Shell.web_eraseGrab _ seat) rfl
      fun _ hj => hj)⟩

theorem foldl_windowGone : ∀ (ls : List Listener) {v : Web} {d : Desktop},
    Dying w window v ls d.shell →
    ∃ u, Dying w window u [] (ls.foldl (Desktop.windowGone w window.parentId) d).shell
  | [], v, _, h => ⟨v, h⟩
  | _ :: ls, _, _, h => by
    obtain ⟨u, hu⟩ := h.windowGone
    exact foldl_windowGone ls hu

end Dying

/-! ## The links a window held -/

namespace Teardown

theorem endParent {link : Link .window} (h : Teardown (.window w) v [] s)
    (hl : v.link (.parent w) = some link.toWindow) :
    Teardown (.window w) (v.cut (.parent w)) []
      { s.unwatchWindow link with children := s.children.unlink link.source w } := by
  have hparent : v.parent w = some link.source := Web.parent_eq_some_iff.2 ⟨_, hl⟩
  have hweb : ({ s.unwatchWindow link with
      children := s.children.unlink link.source w } : Shell).web =
      s.web.mute (.window link.source) link.token := s.web_unwatchWindow link
  obtain ⟨σ, hσ, hnil⟩ := h.signal
  refine ⟨⟨h.knit.exact.cut _, ?_, ?_, ?_, fun t ht => ?_, fun seat hg => ?_,
    fun a b t j k ha hb => ?_⟩, σ, ?_, hnil⟩
  · rw [Web.parent_cut]
    exact h.knit.ranked.update_none w
  · rw [hweb]
    exact h.knit.agree.cut_dead rfl hl
  · rw [Web.parent_cut]
    exact h.knit.children.unlink hparent
  · rw [hweb, ← Option.isNone_iff_eq_none, ← Option.not_isSome, Web.isSome_signal_mute,
      h.knit.gone t ht]
    rfl
  · exact h.knit.seated seat (by rwa [Web.link_cut_of_ne (by simp)] at hg)
  · exact h.knit.once a b t j k (Web.link_of_link_cut ha).2 (Web.link_of_link_cut hb).2
  · rw [Web.signal_cut_of_ne, hσ]
    intro k hk
    exact h.knit.ranked.not_transGen_self w (.single (Web.parent_eq_some_iff.2 ⟨k, hk⟩))

theorem endOutput {link : Link .output} (h : Teardown (.window w) v [] s)
    (hl : v.link (.boundOutput w) = some link.toOutput) :
    Teardown (.window w) (v.cut (.boundOutput w)) [] (s.unwatchOutput link) := by
  have hparent := Web.parent_cut_of_ne (l := .boundOutput w) (by simp) v
  obtain ⟨σ, hσ, hnil⟩ := h.signal
  refine ⟨⟨h.knit.exact.cut _, hparent ▸ h.knit.ranked, ?_, hparent ▸ h.knit.children,
    fun t ht => ?_, fun seat hg => ?_, fun a b t j k ha hb => ?_⟩, σ, ?_, hnil⟩
  · rw [Shell.web_unwatchOutput]
    exact h.knit.agree.cut_dead rfl hl
  · rw [Shell.web_unwatchOutput, ← Option.isNone_iff_eq_none, ← Option.not_isSome,
      Web.isSome_signal_mute, h.knit.gone t ht]
    rfl
  · exact h.knit.seated seat (by rwa [Web.link_cut_of_ne (by simp)] at hg)
  · exact h.knit.once a b t j k (Web.link_of_link_cut ha).2 (Web.link_of_link_cut hb).2
  · rw [Web.signal_cut_of_ne, hσ]
    intro k hk
    exact (h.knit.exact.suits _ _ _ hk).elim

end Teardown

/-- A window that is gone has no children, so there are none to forget. -/
theorem Shell.Sound.forget (h : s.Sound) (hw : s.isLive w = false) :
    Shell.Sound { s with children := s.children.forget w } := by
  refine ⟨h.exact, h.ranked, Web.agree_none.2 rfl, h.children.forget fun x hx => ?_,
    fun t ht => (nomatch ht), h.seated, h.once⟩
  obtain ⟨k, hk⟩ := Web.parent_eq_some_iff.1 hx
  have := h.exact.live _ _ _ hk
  rw [isSome_signal_window, hw] at this
  cases this

/-- Nothing is left of a window whose links have all ended. -/
theorem Teardown.finish (h : Teardown (.window w) v [] s) (hp : v.link (.parent w) = none)
    (hb : v.link (.boundOutput w) = none) :
    Shell.Sound { s with children := s.children.forget w } := by
  have hgone : s.isLive w = false := by
    rw [← Shell.isSome_signal_window, h.knit.gone _ rfl]
    rfl
  refine (h.sound (fun l hl => ?_) fun l hl => Shell.link_of_not_live hgone hl).forget hgone
  cases l with
  | parent x =>
    cases hl
    exact hp
  | boundOutput x =>
    cases hl
    exact hb
  | seatFocus seat => cases hl
  | grab seat => cases hl

theorem Teardown.finish_output {link : Option (Link .output)} (h : Teardown (.window w) v [] s)
    (hp : v.link (.parent w) = none) (hb : v.link (.boundOutput w) = link.map Link.toOutput) :
    Shell.Sound (let s := match link with
      | some link => s.unwatchOutput link
      | none => s
      { s with children := s.children.forget w }) := by
  cases link with
  | none => exact h.finish hp hb
  | some link =>
    refine (h.endOutput hb).finish ?_ (Web.link_cut_self _ _)
    rw [Web.link_cut_of_ne (by simp), hp]

theorem Dying.dropLinks (h : Dying w window v [] s) : (Desktop.dropLinks s w window).Sound := by
  have hparent := h.parent
  have hout : (v.cut (.parent w)).link (.boundOutput w) = window.boundOutput.map Link.toOutput := by
    rw [Web.link_cut_of_ne (by simp)]
    exact h.boundOutput
  unfold Desktop.dropLinks
  cases hp : window.parent with
  | none =>
    rw [hp] at hparent
    exact h.finish_output hparent h.boundOutput
  | some link =>
    rw [hp] at hparent
    exact (h.endParent hparent).finish_output (Web.link_cut_self _ _) hout

theorem Desktop.destroyWindow_sound (h : d.shell.Sound) (w : WindowId) :
    (d.destroyWindow w).shell.Sound := by
  unfold destroyWindow
  split
  · exact h
  next window hw =>
  obtain ⟨u, hu⟩ := Dying.foldl_windowGone _ (.start h hw)
  exact hu.dropLinks

end Kiosk
