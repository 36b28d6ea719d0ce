import Kiosk.Proofs.Forest

/-!
# Siblings in order

The children of a window are listed in the order in which they were attached. They
also subscribed to the window's signal in that order, and so the list of children
can be read off the listeners (`Web.children`). The two lists are the same on every
reachable desktop (`Reached.lined`): an attached window goes to the end of both, and
one that leaves is taken out of both.

Listeners run in order when a window is destroyed, so this is why its children move
up in order. While they do, the lists are compared for all other windows
(`Shell.Lined`).
-/

namespace Kiosk

variable {config : Config} {d d' : Desktop} {s s' : Shell} {w p q x : WindowId} {seat : SeatId}
  {v : Web} {l : Listener} {ls : List Listener} {t : Target} {dead : Option Target}
  {window : Window} {σ : Signal}

/-! ## Children among the listeners -/

/-- The window whose parent link the listener stands for. -/
def Listener.child? : Listener → Option WindowId
  | .parent child => some child
  | _ => none

/-- The children that listen, in the order in which they subscribed. -/
def Signal.children (σ : Signal) : List WindowId := σ.listeners.filterMap (·.2.child?)

/-- The children of `p`, in the order in which they subscribed. -/
def Web.children (v : Web) (p : WindowId) : List WindowId :=
  (v.signal (.window p)).elim [] Signal.children

theorem Listener.child?_eq_some_iff : l.child? = some x ↔ l = .parent x := by
  cases l <;> simp [child?]

theorem Signal.children_subscribe (σ : Signal) (l : Listener) :
    (σ.subscribe l).2.children = σ.children ++ l.child?.toList := by
  rw [children, subscribe, List.filterMap_append]
  cases h : l.child? <;> simp [children, h]

/-- The children among listeners that run one after the other. -/
theorem Signal.children_eq_drain (σ : Signal) :
    σ.children = σ.drain.1.filterMap Listener.child? := by
  rw [children, drain, List.filterMap_map]
  rfl

namespace Web

theorem children_of_signal (h : v.signal (.window p) = some σ) : v.children p = σ.children := by
  rw [children, h]
  rfl

theorem children_of_none (h : v.signal (.window p) = none) : v.children p = [] := by
  rw [children, h]
  rfl

theorem children_congr {u : Web} (h : u.signal (.window p) = v.signal (.window p)) :
    u.children p = v.children p := by
  rw [children, h, children]

/-- The children that listen are those whose parent link leads here. -/
theorem Exact.mem_children (h : v.Exact) : x ∈ v.children p ↔ v.parent x = some p := by
  rw [parent_eq_some_iff]
  cases hσ : v.signal (.window p) with
  | none =>
    rw [children_of_none hσ]
    refine ⟨fun hx => (nomatch hx), fun ⟨k, hk⟩ => ?_⟩
    have hlive := h.live _ _ _ hk
    rw [hσ] at hlive
    cases hlive
  | some σ =>
    rw [children_of_signal hσ, Signal.children, List.mem_filterMap]
    constructor
    · rintro ⟨⟨k, l⟩, hmem, hl⟩
      cases Listener.child?_eq_some_iff.1 hl
      exact ⟨k, (h.heard _ σ hσ k _).1 hmem⟩
    · rintro ⟨k, hk⟩
      exact ⟨_, (h.heard _ σ hσ k _).2 hk, rfl⟩

/-- The listener of a link that ends goes, and no other. -/
theorem Exact.children_cut (h : v.Exact) (l : Listener) (p : WindowId) :
    (v.cut l).children p = (v.children p).filter (l ≠ .parent ·) := by
  by_cases hl : ∃ k, v.link l = some (.window p, k)
  · obtain ⟨k, hk⟩ := hl
    obtain ⟨σ, hσ⟩ := Option.isSome_iff_exists.1 (h.live _ _ _ hk)
    have hcut : (v.cut l).signal (.window p) = some (σ.unsubscribe k) := by
      rw [cut_of_some hk, signal_mute_self]
      exact congrArg (Option.map _) hσ
    have hsame : ∀ e ∈ σ.listeners, decide (e.1 ≠ k) = decide (l ≠ e.2) := by
      rintro ⟨j, m⟩ he
      rw [decide_eq_decide, not_iff_not]
      have hj := (h.heard _ σ hσ j m).1 he
      constructor
      · rintro rfl
        exact (h.tidy _ σ hσ).eq_of_mem ((h.heard _ σ hσ j l).2 hk) he
      · rintro rfl
        exact congrArg Prod.snd (Option.some.inj (hj.symm.trans hk))
    rw [children_of_signal hcut, children_of_signal hσ, Signal.children, Signal.unsubscribe,
      Signal.children, List.filter_congr hsame, List.filterMap_filter, List.filter_filterMap]
    refine List.filterMap_congr fun e _ => ?_
    cases hc : e.2.child? with
    | none => simp
    | some x => simp [Listener.child?_eq_some_iff.1 hc, Option.filter]
  · have hkept := signal_cut_of_ne fun k hk => hl ⟨k, hk⟩
    rw [children_congr hkept]
    refine (List.filter_eq_self.2 fun x hx => ?_).symm
    have hne : l ≠ .parent x := by
      rintro rfl
      exact hl (parent_eq_some_iff.1 (h.mem_children.1 hx))
    simpa using hne

theorem Exact.children_cut_parent (h : v.Exact) (x p : WindowId) :
    (v.cut (.parent x)).children p = (v.children p).filter (· ≠ x) := by
  rw [h.children_cut]
  refine List.filter_congr fun y _ => ?_
  simp [eq_comm]

theorem Exact.children_cut_of_ne (h : v.Exact) (hl : ∀ x, l ≠ .parent x) (p : WindowId) :
    (v.cut l).children p = v.children p := by
  rw [h.children_cut]
  exact List.filter_eq_self.2 fun x _ => by simpa using hl x

/-- A new listener goes to the end of those of its target. -/
theorem children_tie (v : Web) (l : Listener) (t : Target) (p : WindowId) :
    (v.tie l t).children p =
      if t = .window p ∧ (v.signal t).isSome then v.children p ++ l.child?.toList
      else v.children p := by
  cases hσ : v.signal t with
  | none =>
    rw [tie, hσ]
    simp
  | some σ =>
    by_cases ht : t = .window p
    · subst ht
      have htie : (v.tie l (.window p)).signal (.window p) = some (σ.subscribe l).2 := by
        rw [tie_of_some hσ]
        exact signal_place_self ..
      rw [children_of_signal htie, children_of_signal hσ, Signal.children_subscribe]
      simp
    · rw [children_congr (signal_tie_of_ne (Ne.symm ht) v l), if_neg fun hn => ht hn.1]

theorem children_tie_of_ne (hl : ∀ x, l ≠ .parent x) (v : Web) (t : Target) (p : WindowId) :
    (v.tie l t).children p = v.children p := by
  have hnone : l.child? = none :=
    Option.eq_none_iff_forall_ne_some.2 fun x hx => hl x (Listener.child?_eq_some_iff.1 hx)
  rw [children_tie, hnone]
  simp

theorem children_tie_parent (h : (v.signal (.window p)).isSome) (x q : WindowId) :
    (v.tie (.parent x) (.window p)).children q =
      if q = p then v.children p ++ [x] else v.children q := by
  rw [children_tie]
  by_cases hq : q = p
  · rw [hq, if_pos ⟨rfl, h⟩, if_pos rfl]
    rfl
  · rw [if_neg fun hn => hq (by simpa using hn.1.symm), if_neg hq]

end Web

/-! ## The two lists -/

/-- The children of each window are listed as they listen, but perhaps for those of `dead`. -/
def Shell.Lined (dead : Option Target) (s : Shell) : Prop :=
  ∀ p, .window p ∉ dead → s.children.of p = s.web.children p

/-- Changes that do not concern children. -/
theorem Shell.Lined.congr (h : s.Lined dead) (hc : s'.children = s.children)
    (hweb : ∀ p, .window p ∉ dead → s'.web.children p = s.web.children p) : s'.Lined dead := by
  intro p hp
  rw [hc, hweb p hp]
  exact h p hp

namespace Knit

theorem children_web (h : Knit dead v s) (hp : .window p ∉ dead) :
    s.web.children p = v.children p :=
  Web.children_congr (h.agree.signal _ hp).symm

theorem lined_detach (h : Knit dead v s) (hw : .window w ∉ dead) (hl : s.Lined dead) :
    (s.detach w).Lined dead := by
  intro p hp
  rw [(h.detach hw).children_web hp, h.exact.children_cut_parent, ← h.children_web hp, ← hl p hp]
  exact h.of_children_detach hw p

theorem lined_attach (h : Knit dead v s) (hr : v.link (.parent w) = none) (hw : s.isLive w)
    (hp : s.isLive p) (hl : s.Lined dead) : (s.attach w p).Lined dead := by
  have hnot : w ∉ s.children.of p := by
    rw [(h.children p).2 w, Web.parent, hr]
    simp
  intro q hq
  rw [Shell.children_attach hp, Children.of_link, Shell.web_attach hw,
    Web.children_tie_parent (by rw [Shell.isSome_signal_window]; exact hp)]
  by_cases hqp : q = p
  · subst hqp
    rw [if_pos ⟨rfl, hnot⟩, if_pos rfl, hl q hq]
  · rw [if_neg fun hn => hqp hn.1, if_neg hqp, hl q hq]

theorem lined_adopt (h : Knit dead v s) (hw : s.isLive w) (hp : s.isLive p) (hl : s.Lined dead) :
    ((s.detach w).attach w p).Lined dead := by
  have hlive := (s.detach_steady w).isLive
  have hdead := h.not_mem_of_isLive hw
  exact (h.detach hdead).lined_attach (Web.link_cut_self v _) (by rwa [hlive]) (by rwa [hlive])
    (h.lined_detach hdead hl)

theorem lined_settles (h : Knit dead v d.shell) (hs : Settles d d') (hl : d.shell.Lined dead) :
    d'.shell.Lined dead := by
  obtain ⟨u, hu, hr⟩ := h.settles hs
  refine hl.congr hs.children fun p hp => ?_
  rw [hu.children_web hp, h.children_web hp]
  exact Web.children_congr (hr.signal p)

end Knit

/-! ## Destroyed windows -/

namespace Dying

theorem lined_windowGone (h : Dying w window v (l :: ls) d.shell)
    (hl : d.shell.Lined (some (.window w))) :
    (Desktop.windowGone w window.parentId d l).shell.Lined (some (.window w)) := by
  cases l with
  | boundOutput x => exact hl
  | seatFocus seat =>
    show Shell.Lined _ (Desktop.shell (if _ then _ else d))
    split
    · exact hl.congr rfl fun _ _ => rfl
    · exact hl
  | grab seat =>
    show Shell.Lined _ (Desktop.shell (if _ then _ else d))
    split
    · exact hl.congr rfl fun _ _ => rfl
    · exact hl
  | parent child =>
    show (d.setParent child window.parentId).shell.Lined _
    cases hp : window.parentId with
    | none =>
      exact Knit.lined_settles (d := d.update (·.detach child)) h.detach.knit
        (Desktop.setParent_none h.isLive_child) (h.knit.lined_detach h.child_not_dead hl)
    | some p =>
      exact Knit.lined_settles (d := d.update fun s => (s.detach child).attach child p)
        (h.adopt hp).knit
        (Desktop.setParent_some h.isLive_child (h.isLive_parent hp) (h.not_isAncestorOrSelf hp))
        (h.knit.lined_adopt h.isLive_child (h.isLive_parent hp) hl)

theorem lined_foldl_windowGone : ∀ (ls : List Listener) {v : Web} {d : Desktop},
    Dying w window v ls d.shell → d.shell.Lined (some (.window w)) →
    (ls.foldl (Desktop.windowGone w window.parentId) d).shell.Lined (some (.window w))
  | [], _, _, _, hl => hl
  | _ :: ls, _, _, h, hl => by
    obtain ⟨u, hu⟩ := h.windowGone
    exact lined_foldl_windowGone ls hu (h.lined_windowGone hl)

end Dying

/-- The window that is gone takes itself off the list it is on. -/
theorem Teardown.lined_endParent {link : Link .window} (h : Teardown (.window w) v [] s)
    (hr : v.link (.parent w) = some link.toWindow) (hl : s.Lined (some (.window w))) :
    Shell.Lined (some (.window w))
      { s.unwatchWindow link with children := s.children.unlink link.source w } := by
  have hparent : v.parent w = some link.source := Web.parent_eq_some_iff.2 ⟨_, hr⟩
  intro p hp
  rw [(h.endParent hr).knit.children_web hp, h.knit.exact.children_cut_parent,
    ← h.knit.children_web hp, ← hl p hp]
  exact h.knit.children.unlink_eq_filter hparent p

/-- A window that is gone has no listeners, nor a list. -/
theorem Shell.Lined.forget (hl : s.Lined (some (.window w))) (hw : s.isLive w = false) :
    Shell.Lined none { s with children := s.children.forget w } := by
  intro p _
  show (s.children.forget w).of p = s.web.children p
  rw [Children.of_forget]
  split
  · next hp =>
    have hnone : s.web.signal (.window p) = none := by
      rw [← Option.not_isSome_iff_eq_none, isSome_signal_window, hp, hw]
      simp
    exact (Web.children_of_none hnone).symm
  · next hp => exact hl p fun hm => hp (by simpa using hm.symm)

theorem Dying.lined_dropLinks (h : Dying w window v [] s) (hl : s.Lined (some (.window w))) :
    (Desktop.dropLinks s w window).Lined none := by
  have hgone : s.isLive w = false := by
    rw [← Shell.isSome_signal_window, h.knit.gone _ rfl]
    rfl
  have hparent := h.parent
  have hunwatch {s' : Shell} (hl' : s'.Lined (some (.window w))) (out : Link .output) :
      (s'.unwatchOutput out).Lined (some (.window w)) := hl'.congr rfl fun _ _ => rfl
  unfold Desktop.dropLinks
  cases hp : window.parent with
  | none =>
    cases window.boundOutput with
    | none => exact hl.forget hgone
    | some out => exact (hunwatch hl out).forget hgone
  | some link =>
    rw [hp] at hparent
    have hended := h.lined_endParent hparent hl
    have hgone' : (s.unwatchWindow link).isLive w = false :=
      (s.isLive_modifyWindow _ w _).trans hgone
    cases window.boundOutput with
    | none => exact hended.forget hgone'
    | some out => exact (hunwatch hended out).forget hgone'

theorem Desktop.destroyWindow_lined (h : d.shell.Sound) (hl : d.shell.Lined none) (w : WindowId) :
    (d.destroyWindow w).shell.Lined none := by
  unfold destroyWindow
  split
  · exact hl
  next window hw =>
  have hstart := Dying.start h hw
  have herased : (d.erased w window).shell.Lined (some (.window w)) := by
    intro p hp
    rw [hstart.knit.children_web hp]
    exact hl p (by simp)
  obtain ⟨u, hu⟩ := Dying.foldl_windowGone _ hstart
  exact hu.lined_dropLinks (Dying.lined_foldl_windowGone _ hstart herased)

/-! ## Moves -/

namespace Desktop

theorem releaseFocus_lined (h : d.shell.Sound) (hl : d.shell.Lined none) (seat : SeatId) :
    (d.releaseFocus seat).shell.Lined none := by
  refine hl.congr (d.children_releaseFocus seat) fun p _ => ?_
  rw [web_releaseFocus h, h.exact.children_cut_of_ne (by simp)]

theorem takeFocus_lined (hl : d.shell.Lined none) (hs : d.shell.seats.contains seat)
    (hw : d.shell.isLive w) : (d.takeFocus seat w).shell.Lined none := by
  refine hl.congr ?_ fun p _ => ?_
  · obtain ⟨window, hw⟩ := Option.isSome_iff_exists.1 hw
    rw [takeFocus_of_some hw]
    rfl
  · rw [web_takeFocus hs hw, Web.children_tie_of_ne (by simp)]

theorem keyboardFocusChanged_lined (h : d.shell.Sound) (hl : d.shell.Lined none) (seat : SeatId)
    (focus : Option WindowId) : (d.keyboardFocusChanged seat focus).shell.Lined none := by
  have hreleased := releaseFocus_lined h hl seat
  refine keyboardFocusChanged_cases (P := fun d' => d'.shell.Lined none) seat focus hl hreleased
    fun w _ hseat hlive => takeFocus_lined hreleased ?_ ?_
  · rwa [contains_releaseFocus]
  · rwa [isLive_releaseFocus h]

theorem createWindow_lined (h : d.shell.Sound) (hl : d.shell.Lined none) (surface : SurfaceHandle)
    (appId : Option String) : (d.createWindow surface appId).2.shell.Lined none := by
  unfold createWindow
  split
  · exact hl
  next view host _ =>
  have hfresh := Arena.get?_insert_self d.shell.windows (.ofSurface surface view appId)
  have hweb := d.shell.web_insertWindow surface view appId
  generalize d.shell.windows.insert (.ofSurface surface view appId) = e at hfresh hweb ⊢
  refine hl.congr rfl fun p _ => (congrArg (Web.children · p) hweb).trans ?_
  by_cases hp : p = e.1
  · subst hp
    have hgone : d.shell.isLive e.1 = false :=
      Option.isSome_eq_false_iff.2 (Option.isNone_iff_eq_none.2 hfresh)
    rw [Web.children_of_signal (Web.signal_place_self ..), ← hl e.1 (by simp),
      h.isForest.stale e.1 hgone]
    rfl
  · exact Web.children_congr (Web.signal_place_of_ne (by simpa using hp) _ _)

theorem outputGone_lined (o : OutputId) (hl : s.Lined dead) (l : Listener) :
    (outputGone o s l).Lined dead := by
  cases l with
  | boundOutput w =>
    show Shell.Lined dead (if _ then _ else s)
    split
    · exact hl.congr rfl fun p _ => Web.children_congr
        (Shell.map_modifyWindow Window.signal (fun _ => by rfl) s w p)
    · exact hl
  | parent | seatFocus | grab => exact hl

theorem foldl_outputGone_lined (o : OutputId) : ∀ (ls : List Listener) {s : Shell}, s.Lined dead →
    (ls.foldl (outputGone o) s).Lined dead
  | [], _, hl => hl
  | l :: ls, _, hl => foldl_outputGone_lined o ls (outputGone_lined o hl l)

theorem outputRemoved_lined (hl : d.shell.Lined none) (o : OutputId) :
    (d.outputRemoved o).shell.Lined none := by
  unfold outputRemoved
  split
  · exact hl
  · exact foldl_outputGone_lined o _ (hl.congr rfl fun _ _ => rfl)

end Desktop

theorem Shell.Lined.endGrab (hl : s.Lined none) (h : s.Sound) (seat : SeatId) :
    (s.endGrab seat).Lined none := by
  refine hl.congr ?_ fun p _ => ?_
  · unfold Shell.endGrab
    split <;> rfl
  · rw [web_endGrab, h.exact.children_cut_of_ne (by simp)]

theorem Shell.Lined.moveRequested (hl : s.Lined none) (w : WindowId) (seat : SeatId)
    (request : MoveRequest) : (s.moveRequested w seat request).2.Lined none := by
  unfold Shell.moveRequested
  split
  · next window _ _ hw _ =>
    split
    · exact hl
    obtain ⟨s', he, rfl, hweb⟩ := Shell.watchWindow_of_live hw (.grab seat)
    have hsignal : s.web.signal (.window w) = some window.signal :=
      congrArg (Option.map Window.signal) hw
    rw [he]
    refine hl.congr rfl fun p _ => ?_
    rw [← Web.children_tie_of_ne (l := .grab seat) (by simp) s.web (.window w),
      Web.tie_of_some hsignal]
    have hchildren := congrArg (Web.children · p) hweb
    exact hchildren
  · exact hl

theorem Move.lined (h : d.shell.Sound) (hl : d.shell.Lined none) (hm : Move d d') :
    d'.shell.Lined none := by
  cases hm with
  | settle hs => exact Knit.lined_settles h (.single hs) hl
  | detach w => exact Knit.lined_detach h (by simp) hl
  | adopt hw hp _ => exact Knit.lined_adopt h hw hp hl
  | create surface appId => exact Desktop.createWindow_lined h hl surface appId
  | destroy w => exact Desktop.destroyWindow_lined h hl w
  | note w f hf =>
    refine hl.congr rfl fun p _ => Web.children_congr ?_
    exact Shell.map_modifyWindow Window.signal (fun r => by rw [hf r]) d.shell w p
  | moveView w at_ =>
    unfold Desktop.moveView
    split
    · exact hl
    · refine hl.congr rfl fun p _ => Web.children_congr ?_
      exact Shell.map_modifyWindow Window.signal (fun _ => by rfl) d.shell w p
  | @map w window _ _ _ =>
    refine hl.congr rfl fun p _ => Web.children_congr ?_
    exact Shell.map_modifyWindow Window.signal (f := ({ · with mapped := true })) (fun _ => rfl)
      d.shell w p
  | focus seat focus => exact Desktop.keyboardFocusChanged_lined h hl seat focus
  | removeSeat seat =>
    have hreleased := Desktop.releaseFocus_lined h hl seat
    exact (hreleased.endGrab (Desktop.releaseFocus_sound h seat) seat).congr rfl fun _ _ => rfl
  | grab w seat request => exact hl.moveRequested w seat request
  | endGrab seat => exact hl.endGrab h seat
  | addOutput handle name area =>
    unfold Desktop.outputAdded
    split
    · exact hl
    · exact hl.congr rfl fun _ _ => rfl
  | removeOutput o => exact Desktop.outputRemoved_lined hl o
  | @renewOutput o output _ area =>
    unfold Desktop.renewBackground
    split <;> exact hl.congr rfl fun _ _ => rfl
  | raise | tellSize | addSeat | setHasKeyboard | tellFocus | shiftOutput | switch =>
    exact hl.congr rfl fun _ _ => rfl

/-- Children are listed in the order in which their listeners will run. -/
theorem Reached.lined (h : Reached config d) (p : WindowId) :
    d.shell.children.of p = d.shell.web.children p := by
  have hboth := h.of_moves (P := fun d => d.shell.Sound ∧ d.shell.Lined none)
    ⟨Shell.fresh_sound config, fun _ _ => rfl⟩ fun h hm => ⟨hm.sound h.1, hm.lined h.1 h.2⟩
  exact hboth.2 p (by simp)

end Kiosk
