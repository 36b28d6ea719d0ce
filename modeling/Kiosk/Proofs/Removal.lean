import Kiosk.Proofs.LayoutSteps
import Kiosk.Proofs.Siblings
import Kiosk.Proofs.Turned

/-!
# Removed windows

A window that is removed is spliced out of its family: its children move up to its
parent, after the siblings it leaves behind and in the order they had, or become
roots (`Shell.Spliced`). Nothing else happens to the windows that stay but that the
focus may move.

The record of the window is gone when its children move. What one listener does to
the others is said on the way down (`Dying`): how windows stand then
(`Dying.stance_windowGone`), and what lists of children become
(`Dying.children_windowGone`).
-/

namespace Kiosk

open Function (update update_self update_of_ne)

variable {config : Config} {d d' : Desktop} {s s' : Shell} {w p q x : WindowId} {seat : SeatId}
  {v : Web} {l : Listener} {ls : List Listener} {window : Window} {r r' r'' : Stance}
  {above : Option WindowId}

/-! ## How windows stand -/

/-- A window that stood as `r` stands as `r'`, now that it has moved up to `above`. A new root
stays on its output, if it was on one. -/
structure Stance.Promoted (above : Option WindowId) (r r' : Stance) : Prop where
  surface : r'.surface = r.surface
  parent : r'.parent = above
  placement : r'.placement = if above = none then .fullscreen else .normal
  output : above = none → ∀ o, r.output = some o → r'.output = some o

theorem Stance.Promoted.trans (h : Promoted above r r') (h' : Promoted above r' r'') :
    Promoted above r r'' :=
  ⟨h'.surface.trans h.surface, h'.parent, h'.placement,
    fun hp o ho => h'.output hp o (h.output hp o ho)⟩

/-- From `s` to `s'`, `x` moved up to `above`. -/
def Shell.Promotes (above : Option WindowId) (x : WindowId) (s s' : Shell) : Prop :=
  ∃ r r', s.stance x = some r ∧ s'.stance x = some r' ∧ Stance.Promoted above r r'

namespace Dying

theorem promotes_setParent (h : Dying w window v (.parent x :: ls) d.shell) :
    Shell.Promotes window.parentId x d.shell (d.setParent x window.parentId).shell ∧
      ∀ y, y ≠ x → (d.setParent x window.parentId).shell.stance y = d.shell.stance y := by
  obtain ⟨r, hr⟩ := Desktop.exists_stance h.isLive_child
  have hlayout : ∃ r', (d.setParent x window.parentId).layout = d.layout.place x r r' ∧
      Stance.Promoted window.parentId r r' := by
    cases hp : window.parentId with
    | none =>
      refine ⟨_, Desktop.setParent_none_layout hr, rfl, rfl, rfl, fun _ o ho => ?_⟩
      have hlive := h.knit.contains_output (by simp) hr ho
      simp [ho, hlive]
    | some p =>
      obtain ⟨output, hplace⟩ := Desktop.setParent_some_layout hr (h.isLive_parent hp)
        (h.not_isAncestorOrSelf hp)
      exact ⟨_, hplace, rfl, rfl, rfl, fun hnone => nomatch hnone⟩
  obtain ⟨r', hplace, hpromoted⟩ := hlayout
  have hstance := congrArg Layout.stance hplace
  exact ⟨⟨r, r', hr, (congrFun hstance x).trans (update_self ..), hpromoted⟩,
    fun y hy => (congrFun hstance y).trans (update_of_ne hy ..)⟩

/-- One listener promotes the child it stands for, and leaves the other windows standing. -/
theorem stance_windowGone (h : Dying w window v (l :: ls) d.shell) (x : WindowId) :
    (l ≠ .parent x →
      (Desktop.windowGone w window.parentId d l).shell.stance x = d.shell.stance x) ∧
    (l = .parent x → Shell.Promotes window.parentId x d.shell
      (Desktop.windowGone w window.parentId d l).shell) := by
  cases l with
  | parent child =>
    refine ⟨fun hne => h.promotes_setParent.2 x fun hx => hne (hx ▸ rfl), ?_⟩
    rintro ⟨⟩
    exact h.promotes_setParent.1
  | boundOutput y => exact ⟨fun _ => rfl, fun hl => nomatch hl⟩
  | seatFocus seat =>
    refine ⟨fun _ => ?_, fun hl => nomatch hl⟩
    show Shell.stance (Desktop.shell (if _ then _ else d)) x = _
    split <;> rfl
  | grab seat =>
    refine ⟨fun _ => ?_, fun hl => nomatch hl⟩
    show Shell.stance (Desktop.shell (if _ then _ else d)) x = _
    split <;> rfl

theorem stance_foldl_windowGone (x : WindowId) : ∀ (ls : List Listener) {v : Web} {d : Desktop},
    Dying w window v ls d.shell →
    (.parent x ∉ ls → (ls.foldl (Desktop.windowGone w window.parentId) d).shell.stance x =
      d.shell.stance x) ∧
    (.parent x ∈ ls → Shell.Promotes window.parentId x d.shell
      (ls.foldl (Desktop.windowGone w window.parentId) d).shell)
  | [], _, _, _ => ⟨fun _ => rfl, fun hm => nomatch hm⟩
  | l :: ls, _, d, h => by
    obtain ⟨u, hu⟩ := h.windowGone
    obtain ⟨hother, hchild⟩ := h.stance_windowGone x
    obtain ⟨hrest, hlater⟩ := stance_foldl_windowGone x ls hu
    rw [List.foldl_cons]
    refine ⟨fun hn => ?_, fun hm => ?_⟩
    · rw [List.mem_cons, not_or] at hn
      exact (hrest hn.2).trans (hother (Ne.symm hn.1))
    · by_cases hl : l = .parent x
      · obtain ⟨r, r', hr, hr', hpromoted⟩ := hchild hl
        by_cases hin : .parent x ∈ ls
        · obtain ⟨q, r'', hq, hr'', hagain⟩ := hlater hin
          cases hr'.symm.trans hq
          exact ⟨r, r'', hr, hr'', hpromoted.trans hagain⟩
        · exact ⟨r, r', hr, (hrest hin).trans hr', hpromoted⟩
      · have hin := (List.mem_cons.1 hm).resolve_left (Ne.symm hl)
        obtain ⟨r, r', hr, hr', hpromoted⟩ := hlater hin
        exact ⟨r, r', (hother hl) ▸ hr, hr', hpromoted⟩

end Dying

/-- The listeners of a window stand for its children, among others. -/
theorem Shell.Sound.parent_mem_drain (h : s.Sound) (hw : s.windows.get? w = some window) :
    .parent x ∈ window.signal.drain.1 ↔ Windows.parentOf s.windows x = some w := by
  have hsignal : s.web.signal (.window w) = some window.signal :=
    congrArg (Option.map Window.signal) hw
  rw [← parent_web, ← h.exact.mem_children, Web.children_of_signal hsignal,
    Signal.children_eq_drain, List.mem_filterMap]
  simp [Listener.child?_eq_some_iff]

theorem Desktop.stance_destroyWindow (h : d.shell.Sound)
    (hw : d.shell.windows.get? w = some window) (hx : x ≠ w) :
    (Windows.parentOf d.shell.windows x ≠ some w →
      (d.destroyWindow w).shell.stance x = d.shell.stance x) ∧
    (Windows.parentOf d.shell.windows x = some w →
      Shell.Promotes window.parentId x d.shell (d.destroyWindow w).shell) := by
  have hfold := Dying.stance_foldl_windowGone x _ (Dying.start h hw)
  have herased : (d.erased w window).shell.stance x = d.shell.stance x :=
    (congrFun (congrArg Layout.stance (d.erased_layout w window)) x).trans (update_of_ne hx ..)
  have hdestroyed : (d.destroyWindow w).shell.stance = (window.signal.drain.1.foldl
      (windowGone w window.parentId) (d.erased w window)).shell.stance := by
    rw [destroyWindow, hw]
    exact congrArg Layout.stance (dropLinks_layout _ w window)
  rw [h.parent_mem_drain hw, herased] at hfold
  refine ⟨fun hne => ?_, fun hp => ?_⟩
  · rw [hdestroyed]
    exact hfold.1 hne
  · obtain ⟨r, r', hr, hr', hpromoted⟩ := hfold.2 hp
    exact ⟨r, r', herased ▸ hr, hdestroyed ▸ hr', hpromoted⟩

/-! ## Lists of children -/

namespace Dying

/-- Only the list of `w`, which is gone, loses a child. -/
theorem children_detach (h : Dying w window v (.parent x :: ls) s) (hq : q ≠ w) :
    (s.detach x).children.of q = s.children.of q := by
  rw [h.knit.of_children_detach h.child_not_dead]
  exact h.knit.children.filter_ne fun hx => hq (Option.some.inj (hx.symm.trans h.up))

/-- One listener puts the child it stands for at the end of the list of the new parent. -/
theorem children_windowGone (h : Dying w window v (l :: ls) d.shell) (hq : q ≠ w) :
    (Desktop.windowGone w window.parentId d l).shell.children.of q =
      if window.parentId = some q then d.shell.children.of q ++ l.child?.toList
      else d.shell.children.of q := by
  cases l with
  | boundOutput y => simp [Desktop.windowGone, Listener.child?]
  | seatFocus seat =>
    show (Desktop.shell (if _ then _ else d)).children.of q = _
    split <;> simp [Desktop.update, Shell.modifySeat, Listener.child?]
  | grab seat =>
    show (Desktop.shell (if _ then _ else d)).children.of q = _
    split <;> simp [Desktop.update, Listener.child?]
  | parent child =>
    show (d.setParent child window.parentId).shell.children.of q = _
    cases hp : window.parentId with
    | none =>
      rw [(Desktop.setParent_none h.isLive_child).children, if_neg (by simp)]
      exact h.children_detach hq
    | some p =>
      have hlive := (d.shell.detach_steady child).isLive
      have hnot : child ∉ d.shell.children.of p := fun hm =>
        h.parent_ne hp (Option.some.inj (((h.knit.children p).2 child).1 hm |>.symm.trans h.up))
      rw [(Desktop.setParent_some h.isLive_child (h.isLive_parent hp)
        (h.not_isAncestorOrSelf hp)).children]
      show ((d.shell.detach child).attach child p).children.of q = _
      rw [Shell.children_attach (by rw [hlive]; exact h.isLive_parent hp), Children.of_link,
        h.children_detach hq, h.children_detach (h.parent_ne hp)]
      by_cases hqp : q = p
      · subst hqp
        simp [hnot, Listener.child?]
      · simp [hqp, Ne.symm hqp]

theorem children_foldl_windowGone (hq : q ≠ w) : ∀ (ls : List Listener) {v : Web} {d : Desktop},
    Dying w window v ls d.shell →
    (ls.foldl (Desktop.windowGone w window.parentId) d).shell.children.of q =
      if window.parentId = some q then
        d.shell.children.of q ++ ls.filterMap Listener.child?
      else d.shell.children.of q
  | [], _, _, _ => by simp
  | l :: ls, _, d, h => by
    obtain ⟨u, hu⟩ := h.windowGone
    rw [List.foldl_cons, children_foldl_windowGone hq ls hu, h.children_windowGone hq]
    split
    · rw [List.append_assoc, List.filterMap_cons]
      cases l.child? <;> rfl
    · rfl

/-- The window that is gone is taken off all lists. -/
theorem children_dropLinks (h : Dying w window v [] s) (hq : q ≠ w) :
    (Desktop.dropLinks s w window).children.of q = (s.children.of q).filter (· ≠ w) := by
  have hparent := h.parent_eq
  cases hp : window.parent with
  | none =>
    have hdrop : (Desktop.dropLinks s w window).children = s.children.forget w := by
      rw [Desktop.dropLinks, hp]
      cases window.boundOutput <;> rfl
    rw [Window.parentId, hp] at hparent
    rw [hdrop, Children.of_forget, if_neg hq]
    exact (h.knit.children.filter_ne (by simp [hparent])).symm
  | some link =>
    have hdrop : (Desktop.dropLinks s w window).children =
        (s.children.unlink link.source w).forget w := by
      rw [Desktop.dropLinks, hp]
      cases window.boundOutput <;> rfl
    rw [Window.parentId, hp] at hparent
    rw [hdrop, Children.of_forget, if_neg hq]
    exact h.knit.children.unlink_eq_filter hparent q

end Dying

/-- The children of a destroyed window follow those of its parent. -/
theorem Desktop.children_destroyWindow (h : d.shell.Sound)
    (hl : d.shell.children.of w = d.shell.web.children w)
    (hw : d.shell.windows.get? w = some window) (hq : q ≠ w) :
    (d.destroyWindow w).shell.children.of q = (d.shell.children.of q).filter (· ≠ w) ++
      if window.parentId = some q then d.shell.children.of w else [] := by
  have hsignal : d.shell.web.signal (.window w) = some window.signal :=
    congrArg (Option.map Window.signal) hw
  have hlisted : window.signal.drain.1.filterMap Listener.child? = d.shell.children.of w := by
    rw [hl, Web.children_of_signal hsignal, Signal.children_eq_drain]
  have hself : (d.shell.children.of w).filter (· ≠ w) = d.shell.children.of w :=
    h.children.filter_ne fun hp => h.ranked.not_transGen_self w (.single hp)
  have hstart := Dying.start h hw
  obtain ⟨u, hu⟩ := Dying.foldl_windowGone _ hstart
  have hdestroyed : (d.destroyWindow w).shell.children.of q =
      (dropLinks (window.signal.drain.1.foldl (windowGone w window.parentId)
        (d.erased w window)).shell w window).children.of q := by
    rw [destroyWindow, hw]
    rfl
  rw [hdestroyed, hu.children_dropLinks hq, Dying.children_foldl_windowGone hq _ hstart, hlisted]
  split
  · rw [List.filter_append, hself]
    rfl
  · rw [List.append_nil]
    rfl

/-! ## The family after a removal -/

/-- A window's record without placement, links, focus count and signal. -/
def Window.lasting (window : Window) : Window := { window.still with focusCount := 0 }

/-- From `s` to `s'`, `w` went away and was spliced out of its family. -/
structure Shell.Spliced (w : WindowId) (s s' : Shell) : Prop where
  gone : s'.isLive w = false
  stay : ∀ x, x ≠ w → s'.isLive x = s.isLive x
  parent : ∀ x, x ≠ w → Windows.parentOf s'.windows x =
    if Windows.parentOf s.windows x = some w then Windows.parentOf s.windows w
    else Windows.parentOf s.windows x
  children : ∀ p, Windows.parentOf s.windows w = some p →
    s'.children.of p = (s.children.of p).filter (· ≠ w) ++ s.children.of w
  otherChildren : ∀ q, q ≠ w → Windows.parentOf s.windows w ≠ some q →
    s'.children.of q = s.children.of q
  /-- The children of `w` have moved up to its parent, or are fullscreen roots. -/
  promoted : ∀ x, Windows.parentOf s.windows x = some w →
    Promotes (Windows.parentOf s.windows w) x s s'
  /-- The other windows stand as they stood. -/
  others : ∀ x, x ≠ w → Windows.parentOf s.windows x ≠ some w → s'.stance x = s.stance x
  stacking : s'.stacking = s.stacking.filter (· ≠ w)
  rest : ∀ x, x ≠ w →
    (s'.windows.get? x).map Window.lasting = (s.windows.get? x).map Window.lasting

theorem Shell.isLive_eq (s : Shell) (x : WindowId) : s.isLive x = (s.stance x).isSome :=
  Option.isSome_map.symm

theorem Desktop.destroyWindow_spliced (h : d.shell.Sound)
    (hl : d.shell.children.of w = d.shell.web.children w) (hw : d.shell.isLive w) :
    Shell.Spliced w d.shell (d.destroyWindow w).shell := by
  obtain ⟨window, hw⟩ := Option.isSome_iff_exists.1 hw
  have habove : Windows.parentOf d.shell.windows w = window.parentId := by
    rw [Windows.parentOf, hw]
    rfl
  obtain ⟨d₁, hwane, hgone, he⟩ := destroyWindow_eq hw
  have hchildren {q : WindowId} (hq : q ≠ w) := children_destroyWindow h hl hw hq
  have hother {x : WindowId} (hx : x ≠ w) := (stance_destroyWindow h hw hx).1
  have hchild {x : WindowId} (hp : Windows.parentOf d.shell.windows x = some w) :
      Shell.Promotes (Windows.parentOf d.shell.windows w) x d.shell (d.destroyWindow w).shell := by
    have hx : x ≠ w := by
      rintro rfl
      exact h.isForest.acyclic x (.single hp)
    exact habove ▸ (stance_destroyWindow h hw hx).2 hp
  have hstay {x : WindowId} (hx : x ≠ w) :
      (d.destroyWindow w).shell.isLive x = d.shell.isLive x := by
    rw [Shell.isLive_eq, Shell.isLive_eq]
    by_cases hp : Windows.parentOf d.shell.windows x = some w
    · obtain ⟨r, r', hr, hr', -⟩ := hchild hp
      rw [hr, hr']
      rfl
    · rw [hother hx hp]
  refine ⟨he ▸ hgone, fun x hx => hstay hx, fun x hx => ?_, fun p hp => ?_, fun q hq hp => ?_,
    fun x hp => hchild hp, fun x hx hp => hother hx hp, he ▸ hwane.stacking, fun x hx => ?_⟩
  · split
    · next hp =>
      obtain ⟨r, r', -, hr', hpromoted⟩ := hchild hp
      rw [Shell.parentOf_stance, hr']
      exact hpromoted.parent
    · next hp => rw [Shell.parentOf_stance, hother hx hp, Shell.parentOf_stance]
  · have hne : p ≠ w := by
      rintro rfl
      exact h.isForest.acyclic p (.single hp)
    rw [hchildren hne, if_pos (habove ▸ hp)]
  · rw [hchildren hq, if_neg (habove ▸ hp), List.append_nil, h.children.filter_ne]
    rwa [Shell.parent_web]
  · cases hr' : (d.destroyWindow w).shell.windows.get? x with
    | none =>
      have hnone : d.shell.isLive x = false := by
        rw [← hstay hx, Shell.isLive, Arena.contains, hr']
        rfl
      rw [Option.isNone_iff_eq_none.1 (Option.isSome_eq_false_iff.1 hnone)]
    | some r' =>
      rw [he] at hr'
      obtain ⟨r, hr, hstill⟩ := hwane.windows x r' hr'
      rw [get?_erased, if_neg hx] at hr
      rw [hr, Option.map_some, Option.map_some, Window.lasting, ← hstill, Window.lasting]

/-- The focus may have moved before. -/
theorem Shell.Spliced.of_turned (ht : d.Turned d') (h : Spliced w d'.shell s) :
    Spliced w d.shell s := by
  have hstance : d'.shell.stance = d.shell.stance :=
    funext (ht.map_eq Window.stance fun _ => rfl)
  have hparent := ht.parentOf
  refine ⟨h.gone, fun x hx => (h.stay x hx).trans (ht.isLive x), ?_, ?_, ?_, ?_, ?_, ?_,
    fun x hx => (h.rest x hx).trans (ht.map_eq Window.lasting (fun _ => rfl) x)⟩
  · rw [← hparent]
    exact h.parent
  · rw [← hparent, ← ht.children]
    exact h.children
  · rw [← hparent, ← ht.children]
    exact h.otherChildren
  · have hpromoted := h.promoted
    simp only [Promotes, hstance, hparent] at hpromoted
    exact hpromoted
  · rw [← hparent, ← hstance]
    exact h.others
  · rw [← ht.stacking]
    exact h.stacking

/-- What moves of the focus lead to. -/
theorem Reached.foldl_focusSeat (focus : Option WindowId) : ∀ (seats : List SeatId) {d : Desktop},
    Reached config d → Reached config (seats.foldl (fun d seat => d.focusSeat seat focus) d)
  | [], _, h => h
  | seat :: seats, _, h =>
    foldl_focusSeat focus seats
      (h.act (.call (.focusSeat seat focus)) (by simp [Desktop.act, Desktop.call]))

/-- The desktop once the seats on `w` have turned to its heir, with the record of `w` still
there. -/
def Desktop.turnedOver (d : Desktop) (w : WindowId) : Desktop :=
  (d.shell.seats.focusedOn w).foldl (fun d' seat => d'.focusSeat seat (d.shell.heirOf w)) d

theorem Desktop.windowRemoved_of_live (hw : d.shell.isLive w) :
    d.windowRemoved w = (d.turnedOver w).destroyWindow w :=
  if_pos hw

theorem Desktop.turnedOver_turned (d : Desktop) (w : WindowId) : d.Turned (d.turnedOver w) :=
  foldl_focusSeat_turned _ _ d

theorem Reached.turnedOver (h : Reached config d) (w : WindowId) :
    Reached config (d.turnedOver w) :=
  h.foldl_focusSeat _ _

theorem Reached.windowRemoved_spliced (h : Reached config d) (hw : d.shell.isLive w) :
    Shell.Spliced w d.shell (d.windowRemoved w).shell := by
  have hturned := d.turnedOver_turned w
  have hreached := h.turnedOver w
  rw [Desktop.windowRemoved_of_live hw]
  exact (Desktop.destroyWindow_spliced hreached.sound (hreached.lined w)
    ((hturned.isLive w).trans hw)).of_turned hturned

/-- A window that is removed is spliced out of its family, and nothing else happens to windows but
that the focus moves. -/
theorem Reached.removal_splices (h : Reached config d) (hw : d.shell.isLive w) :
    Shell.Spliced w d.shell (d.dispatch (.windowRemoved w)).2.shell :=
  h.windowRemoved_spliced hw

/-- The child in a family of three gets a second child, and then a younger sister. -/
def broodRun : List Action := familyRun ++
  [.event (.windowAdded ⟨13⟩ none (some ⟨1, 1⟩)), .event (.windowAdded ⟨14⟩ none (some ⟨0, 1⟩))]

theorem isSome_broodRun : ((Desktop.fresh .default).run broodRun).isSome := by decide +kernel

/-- When the child goes, its two children follow its sister. -/
theorem removal_splices_broodRun : ∃ d, Reached .default d ∧
    Shell.Spliced ⟨1, 1⟩ d.shell (d.dispatch (.windowRemoved ⟨1, 1⟩)).2.shell ∧
    (d.dispatch (.windowRemoved ⟨1, 1⟩)).2.shell.children.of ⟨0, 1⟩ =
      [⟨4, 1⟩, ⟨2, 1⟩, ⟨3, 1⟩] := by
  have hreached : Reached .default _ := Reached.run _ .fresh (Option.some_get isSome_broodRun).symm
  have hspliced := Reached.removal_splices (w := ⟨1, 1⟩) hreached (by decide +kernel)
  exact ⟨_, hreached, hspliced,
    (hspliced.children ⟨0, 1⟩ (by decide +kernel)).trans (by decide +kernel)⟩

end Kiosk
