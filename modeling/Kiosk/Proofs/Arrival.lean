import Kiosk.Proofs.Choice
import Kiosk.Proofs.Counted
import Kiosk.Proofs.Reports

/-!
# Windows that are added

A window that is added becomes a normal child of the window it was announced below, if that is
there, and else a fullscreen root. It goes to the output that there are the strongest grounds for
on the desktop as it was (`Shell.Invites`), and then every seat with a keyboard turns to it. No
other window notices more than that seats leave it (`Desktop.window_welcomed`). Only a window that
is announced below itself is not placed, and stays the normal root on no output that it was made.

The output is looked up when the window is there already and before any seat has turned, so the
grounds are those of the new window on a shell that otherwise is the old one (`Shell.Admits`).
-/

namespace Kiosk

open Relation (ReflTransGen)
open Function (update update_self update_of_ne update_idem)

variable {config : Config} {d d' : Desktop} {s t : Shell} {as : List Action} {w p x : WindowId}
  {o : OutputId} {seat j : SeatId} {surface : SurfaceHandle} {appId : Option String}
  {parent : Option WindowId} {outputs : List OutputId} {seats : List SeatId}

/-- Walks up are the same where parents are. -/
theorem reflTransGen_up_congr {α : Type} {f g : α → Option α} {P : α → Prop} {x y : α}
    (hsame : ∀ x, P x → g x = f x) (hup : ∀ x y, P x → f x = some y → P y) (hx : P x) :
    ReflTransGen (Up g) x y ↔ ReflTransGen (Up f) x y := by
  constructor
  · intro h
    suffices ReflTransGen (Up f) x y ∧ P y from this.1
    induction h with
    | refl => exact ⟨.refl, hx⟩
    | tail _ hg ih =>
      have hf := (hsame _ ih.2).symm.trans hg
      exact ⟨ih.1.tail hf, hup _ _ ih.2 hf⟩
  · intro h
    suffices ReflTransGen (Up g) x y ∧ P y from this.1
    induction h with
    | refl => exact ⟨.refl, hx⟩
    | tail _ hf ih => exact ⟨ih.1.tail ((hsame _ ih.2).trans hf), hup _ _ ih.2 hf⟩

/-! ## Grounds for a new window -/

namespace Shell

/-- There are these grounds for putting a window on `o` that is added for `appId` below `parent`.
Outputs and seats are given in the order in which they were registered. -/
def Invites (s : Shell) (outputs : List OutputId) (seats : List SeatId) (appId : Option String)
    (parent : Option WindowId) : Ground → OutputId → Prop
  | .bound, _ => False
  | .reserved, o => ∃ id, appId = some id ∧ Earliest outputs
      (fun o => ∃ output, s.outputs.get? o = some output ∧ id ∈ output.appIds.tokens) o
  | .root, o => ∃ p root, parent = some p ∧ s.isLive p ∧
      ReflTransGen (Up (Windows.parentOf s.windows)) p root ∧
      Windows.parentOf s.windows root = none ∧ s.outputOf root = some o
  | .focused, o => ∃ seat, Earliest seats (fun seat => ∃ o, s.FocusesOn seat o) seat ∧
      s.FocusesOn seat o
  | .oldest, o => Earliest outputs (s.outputs.contains ·) o

theorem leaveOutput_of_unbound (hw : s.outputOf w = none) : s.leaveOutput w = s := by
  have hlink : (s.windows.get? w).bind Window.boundOutput = none :=
    Option.map_eq_none_iff.1 (Option.map_bind.trans hw)
  rw [leaveOutput, hlink]

theorem outputs_attach (s : Shell) (w p : WindowId) : (s.attach w p).outputs = s.outputs := by
  unfold attach watchWindow
  cases s.windows.get? p <;> rfl

/-- What is above a window that is there is there. -/
theorem Sound.isLive_of_up (h : s.Sound) (hp : s.isLive p)
    (hup : ReflTransGen (Up (Windows.parentOf s.windows)) p x) : s.isLive x := by
  rcases hup.cases_tail with rfl | ⟨y, -, hy⟩
  · exact hp
  · exact h.isLive_of_parentOf hy

/-- `t` is `s` with a window `w` of `surface` for `appId`, which has the given parent and is on no
output. -/
structure Admits (w : WindowId) (surface : SurfaceHandle) (appId : Option String)
    (parent : Option WindowId) (s t : Shell) : Prop where
  new : s.isLive w = false
  stance : t.stance w = some ⟨surface, .normal, none, parent⟩
  appId : (t.windows.get? w).bind Window.appId = appId
  others : ∀ x, x ≠ w → t.stance x = s.stance x
  outputs : t.outputs = s.outputs
  seats : t.seats = s.seats

namespace Admits

theorem isLive_self (h : s.Admits w surface appId parent t) : t.isLive w :=
  isLive_of_stance h.stance

theorem ne (h : s.Admits w surface appId parent t) (hx : s.isLive x) : x ≠ w := by
  rintro rfl
  exact Bool.false_ne_true (h.new.symm.trans hx)

theorem isLive (h : s.Admits w surface appId parent t) (hx : x ≠ w) : t.isLive x = s.isLive x := by
  have := congrArg Option.isSome (h.others x hx)
  rwa [Shell.stance, Shell.stance, Option.isSome_map, Option.isSome_map] at this

theorem parentOf_self (h : s.Admits w surface appId parent t) :
    Windows.parentOf t.windows w = parent := by
  rw [parentOf_stance, h.stance]
  rfl

theorem parentOf (h : s.Admits w surface appId parent t) (hx : s.isLive x) :
    Windows.parentOf t.windows x = Windows.parentOf s.windows x := by
  rw [parentOf_stance, h.others x (h.ne hx), ← parentOf_stance]

theorem outputOf_self (h : s.Admits w surface appId parent t) : t.outputOf w = none := by
  rw [outputOf_stance, h.stance]
  rfl

theorem outputOf (h : s.Admits w surface appId parent t) (hx : s.isLive x) :
    t.outputOf x = s.outputOf x := by
  rw [outputOf_stance, h.others x (h.ne hx), ← outputOf_stance]

/-- Above the windows of `s` nothing is new. -/
theorem up_iff (h : s.Admits w surface appId parent t) (hs : s.Sound) (hp : s.isLive p) :
    ReflTransGen (Up (Windows.parentOf t.windows)) p x ↔
      ReflTransGen (Up (Windows.parentOf s.windows)) p x :=
  reflTransGen_up_congr (P := fun x => s.isLive x = true) (fun _ hx => h.parentOf hx)
    (fun _ _ _ hup => hs.isLive_of_parentOf hup) hp

/-- The new window is above no other. -/
theorem not_up (h : s.Admits w surface appId parent t) (hs : s.Sound) (hp : s.isLive p) :
    Windows.isAncestorOrSelf t.windows w p = false := by
  refine Bool.eq_false_iff.2 fun hup => Bool.false_ne_true (h.new.symm.trans ?_)
  exact hs.isLive_of_up hp ((h.up_iff hs hp).1 (Windows.isAncestorOrSelf_iff.1 hup))

theorem focusesOn_iff (h : s.Admits w surface appId parent t) (hs : s.Sound) :
    t.FocusesOn seat o ↔ s.FocusesOn seat o := by
  have hfocus : t.focusedWindow seat = s.focusedWindow seat := by
    rw [focusedWindow, h.seats, focusedWindow]
  unfold FocusesOn
  rw [hfocus]
  exact exists_congr fun x => and_congr_right fun hx => by
    rw [h.outputOf (hs.isLive_of_focusedWindow hx)]

/-- The new window's root is that of its parent. -/
theorem offers_root_iff (h : s.Admits w surface appId (parent.filter s.isLive) t) (hs : s.Sound) :
    t.Offers outputs seats w .root o ↔ s.Invites outputs seats appId parent .root o := by
  constructor
  · rintro ⟨root, hup, htop, ho⟩
    rcases hup.cases_head with rfl | ⟨p, hp, hup⟩
    · cases h.outputOf_self.symm.trans ho
    · obtain ⟨hparent, hlive⟩ := Option.filter_eq_some_iff.1 (h.parentOf_self.symm.trans hp)
      have hup := (h.up_iff hs hlive).1 hup
      have hroot := hs.isLive_of_up hlive hup
      exact ⟨p, root, hparent, hlive, hup, (h.parentOf hroot).symm.trans htop,
        (h.outputOf hroot).symm.trans ho⟩
  · rintro ⟨p, root, rfl, hlive, hup, htop, ho⟩
    have hroot := hs.isLive_of_up hlive hup
    have hp : Windows.parentOf t.windows w = some p := by
      rw [h.parentOf_self, Option.filter_some_pos hlive]
    exact ⟨root, ((h.up_iff hs hlive).2 hup).head hp, (h.parentOf hroot).trans htop,
      (h.outputOf hroot).trans ho⟩

/-- The grounds for the new window, where it has been made, are those there were for it. -/
theorem offers_iff (h : s.Admits w surface appId (parent.filter s.isLive) t) (hs : s.Sound)
    (g : Ground) (o : OutputId) :
    t.Offers outputs seats w g o ↔ s.Invites outputs seats appId parent g o := by
  cases g with
  | bound => exact iff_of_false (by simp [Offers, h.outputOf_self]) id
  | reserved =>
    unfold Offers Invites
    rw [h.appId, h.outputs]
  | root => exact h.offers_root_iff hs
  | focused =>
    unfold Offers Invites
    simp only [h.focusesOn_iff hs]
  | oldest =>
    unfold Offers Invites
    rw [h.outputs]

/-- The best output for the new window, where it has been made, is what the strongest grounds
offer on the shell as it was. -/
theorem bestOutput_iff (h : s.Admits w surface appId (parent.filter s.isLive) t) (hs : s.Sound)
    (ht : t.Sound) (houtputs : s.outputs.Chronicle outputs) (hseats : s.seats.Chronicle seats)
    (o : OutputId) : t.bestOutput w = some o ↔ ∃ g, Earliest Ground.all
      (fun g => ∃ o, s.Invites outputs seats appId parent g o) g ∧
        s.Invites outputs seats appId parent g o := by
  rw [Shell.bestOutput_iff ht h.isLive_self (h.outputs ▸ houtputs) (h.seats ▸ hseats)]
  simp only [h.offers_iff hs]

/-- The new window becomes a child, and is taken off the output that it is not on. -/
theorem adopt (h : s.Admits w surface appId none t) (hp : s.isLive p) :
    s.Admits w surface appId (some p) (((t.detach w).attach w p).setOutput w none) := by
  have hdetached : (t.detach w).stance w = some ⟨surface, .normal, none, none⟩ := by
    rw [stance_detach h.stance, update_self]
  have hlive : (t.detach w).isLive p := by
    rw [(t.detach_steady w).isLive, h.isLive (h.ne hp)]
    exact hp
  have hattached : ((t.detach w).attach w p).stance =
      update t.stance w (some ⟨surface, .normal, none, some p⟩) := by
    rw [stance_attach hdetached hlive, stance_detach h.stance, update_idem]
  have hstance : ((t.detach w).attach w p).stance w = some ⟨surface, .normal, none, some p⟩ := by
    rw [hattached, update_self]
  have hunbound : ((t.detach w).attach w p).outputOf w = none := by
    rw [outputOf_stance, hstance]
    rfl
  have hsteady := (t.detach_steady w).trans ((t.detach w).attach_steady w p)
  rw [setOutput_none (isLive_of_stance hstance), leaveOutput_of_unbound hunbound]
  refine ⟨h.new, hstance, ?_, fun x hx => ?_, ?_, hsteady.seats.trans h.seats⟩
  · have hsame := congrArg (·.bind id) (hsteady.map_eq Window.appId (fun _ => rfl) w)
    rw [Option.bind_map, Option.bind_map] at hsame
    exact hsame.trans h.appId
  · rw [hattached, update_of_ne hx]
    exact h.others x hx
  · rw [outputs_attach, outputs_detach]
    exact h.outputs

theorem filter_isLive (h : s.Admits w surface appId none t) (hparent : parent ≠ some w) :
    parent.filter t.isLive = parent.filter s.isLive := by
  cases parent with
  | none => rfl
  | some p => rw [Option.filter_some, Option.filter_some, h.isLive fun hp => hparent (hp ▸ rfl)]

end Admits

end Shell

/-! ## Placing a new window -/

namespace Desktop

/-- The new window `w`, announced below `parent`, is placed. -/
def house (d : Desktop) (w : WindowId) (parent : Option WindowId) : Desktop :=
  match parent.filter d.shell.isLive with
  | some p => d.setParent w (some p)
  | none => d.setFullscreen w none

theorem stance_of_place {r r' : Stance} (h : d'.layout = d.layout.place w r r') :
    d'.shell.stance w = some r' :=
  (congrFun (congrArg Layout.stance h) w).trans (update_self ..)

theorem house_steady (d : Desktop) (w : WindowId) (parent : Option WindowId) :
    Steady d (d.house w parent) := by
  unfold house
  split
  · exact d.setParent_steady w _
  · exact (d.setFullscreen_settles w none).steady

theorem windowAdded_of_ok (he : (d.windowAdded surface appId parent).1 = .ok w) :
    (d.createWindow surface appId).1 = .ok w ∧ (d.windowAdded surface appId parent).2 =
      let d := (d.createWindow surface appId).2.house w parent
      d.shell.seats.withKeyboard.foldl (fun d seat => d.focusSeat seat (some w)) d := by
  unfold windowAdded at he ⊢
  split at he
  · cases he
  · next made hcreated =>
    cases he
    rw [hcreated]
    exact ⟨rfl, rfl⟩

theorem createWindow_admits (he : (d.createWindow surface appId).1 = .ok w) :
    d.shell.Admits w surface appId none (d.createWindow surface appId).2.shell := by
  obtain ⟨view, windows, hshell, hnew, hget⟩ := createWindow_of_ok he
  rw [hshell]
  refine ⟨?_, ?_, ?_, fun x hx => ?_, rfl, rfl⟩
  · rw [Shell.isLive, Arena.contains, hnew]
    rfl
  · show (windows.get? w).map Window.stance = _
    rw [hget, if_pos rfl]
    rfl
  · show (windows.get? w).bind Window.appId = _
    rw [hget, if_pos rfl]
    rfl
  · show (windows.get? x).map Window.stance = _
    rw [hget, if_neg hx]
    rfl

/-- The new window is placed on its best output, on the shell that it has been made its parent's
child on. -/
theorem exists_admits_house (hs : s.Sound) (h : s.Admits w surface appId none d.shell)
    (hd : d.shell.Sound)
    (hbest : ∀ {t : Shell}, s.Admits w surface appId (parent.filter s.isLive) t → t.Sound →
      ∀ o, t.bestOutput w = some o → t.outputs.contains o)
    (hparent : parent ≠ some w) :
    ∃ t, s.Admits w surface appId (parent.filter s.isLive) t ∧ t.Sound ∧
      (d.house w parent).shell.stance w = some ⟨surface,
        if (parent.filter s.isLive).isSome then .normal else .fullscreen,
        t.bestOutput w, parent.filter s.isLive⟩ := by
  have hfilter := h.filter_isLive hparent
  unfold house
  rw [hfilter]
  cases hp : parent.filter s.isLive with
  | none =>
    rw [hp] at hbest
    refine ⟨d.shell, h, hd, ?_⟩
    have hlayout := setFullscreen_layout (d := d) h.stance rfl none
    dsimp only
    rw [stance_of_place hlayout, Option.filter_none, Option.none_or, filter_bestOutput (hbest h hd)]
    rfl
  | some p =>
    rw [hp] at hbest
    have hlive := (Option.filter_eq_some_iff.1 hp).2
    have hthere := (Option.filter_eq_some_iff.1 (hfilter.trans hp)).2
    have hup := h.not_up hs hlive
    have hadopted := h.adopt hlive
    have hattached : (d.update fun s => (s.detach w).attach w p).shell.Sound :=
      (Move.adopt h.isLive_self hthere hup).sound hd
    have hsound : ((d.update fun s => (s.detach w).attach w p).setOutput w none).shell.Sound :=
      (Move.settle (.output _ w none)).sound hattached
    refine ⟨_, hadopted, hsound, ?_⟩
    have hplaced : d.setParent w (some p) =
        (d.update fun s => ((s.detach w).attach w p).setOutput w none).setNormal w := by
      simp only [setParent, Option.filter, h.isLive_self, hthere, hup, if_true, Bool.false_eq_true,
        if_false]
    have hlayout := setNormal_layout
      (d := d.update fun s => ((s.detach w).attach w p).setOutput w none) hadopted.stance
    have hbound := filter_bestOutput
      (d := d.update fun s => ((s.detach w).attach w p).setOutput w none) (hbest hadopted hsound)
    dsimp only
    rw [hplaced, stance_of_place hlayout, hbound, Option.none_or]
    rfl

/-! ## Seats that turn to it -/

/-- A seat with a keyboard turns to the given window, if that is there, and no other seat does. -/
theorem focusedWindow_focusSeat (h : d.shell.Sound) (seat : SeatId) (focus : Option WindowId)
    (j : SeatId) : (d.focusSeat seat focus).shell.focusedWindow j =
      if j = seat ∧ d.shell.hasKeyboard j then focus.filter d.shell.isLive
      else d.shell.focusedWindow j := by
  cases hk : d.shell.hasKeyboard seat with
  | false =>
    rw [focusSeat_of_no_keyboard hk, if_neg]
    rintro ⟨rfl, hj⟩
    exact Bool.false_ne_true (hk.symm.trans hj)
  | true =>
    obtain ⟨record, hr, hrecord⟩ := (Option.any_eq_true ..).1 hk
    rw [focusSeat_of_keyboard hr hrecord]
    exact focusedWindow_report (d := d.tell _) h seat focus j

theorem focusedWindow_foldl_focusSeat (j : SeatId) : ∀ (seats : List SeatId) {d : Desktop},
    d.shell.Sound → d.shell.isLive w →
    (seats.foldl (fun d seat => d.focusSeat seat (some w)) d).shell.focusedWindow j =
      if j ∈ seats ∧ d.shell.hasKeyboard j then some w else d.shell.focusedWindow j
  | [], _, _, _ => by simp
  | seat :: seats, d, h, hw => by
    have hturned := d.focusSeat_turned seat (some w)
    have hrest := focusedWindow_foldl_focusSeat j seats (focusSeat_sound h seat (some w))
      ((hturned.isLive w).trans hw)
    rw [List.foldl_cons, hrest, hturned.hasKeyboard, focusedWindow_focusSeat h,
      Option.filter_some_pos hw]
    by_cases hj : j ∈ seats ∧ d.shell.hasKeyboard j
    · rw [if_pos hj, if_pos ⟨List.mem_cons_of_mem seat hj.1, hj.2⟩]
    · rw [if_neg hj]
      refine if_congr ?_ rfl rfl
      rw [List.mem_cons, or_and_right, or_iff_left hj]

end Desktop

namespace Shell

theorem mem_withKeyboard (h : s.seats.Ordered) :
    seat ∈ s.seats.withKeyboard ↔ s.hasKeyboard seat := by
  rw [withKeyboard_eq, List.mem_filter, h.mem, and_iff_right_iff_imp]
  exact contains_of_hasKeyboard

end Shell

/-! ## The result -/

/-- A window's record without its signal, its focus count and the tokens of its links. -/
def Window.own (window : Window) : Stance × Window := (window.stance, window.still.unattended)

theorem Shell.map_own {s' : Shell} (hstance : s'.stance x = s.stance x)
    (hstill : (s'.windows.get? x).map (·.still.unattended) =
      (s.windows.get? x).map (·.still.unattended)) :
    (s'.windows.get? x).map Window.own = (s.windows.get? x).map Window.own := by
  have hpair (o : Option Window) : o.map Window.own =
      (o.map Window.stance).bind fun r => (o.map (·.still.unattended)).map (r, ·) := by
    cases o <;> rfl
  rw [hpair, hpair, hstill, ← stance, ← stance, hstance]

/-- On `s'` the window `w` stands as one should that was announced on `s` for `surface` and `appId`
below `parent`: as a normal child of a parent that is there, and else as a fullscreen root, on the
output with the strongest grounds. -/
def Shell.Places (outputs : List OutputId) (seats : List SeatId) (surface : SurfaceHandle)
    (appId : Option String) (parent : Option WindowId) (w : WindowId) (s s' : Shell) : Prop :=
  ∃ output, s'.stance w = some ⟨surface,
      if (parent.filter s.isLive).isSome then .normal else .fullscreen, output,
      parent.filter s.isLive⟩ ∧
    ∀ o, output = some o ↔
      ∃ g, Earliest Ground.all (fun g => ∃ o, s.Invites outputs seats appId parent g o) g ∧
        s.Invites outputs seats appId parent g o

/-- From `s` to `s'` the window `w` was added for `surface` and `appId` below `parent`. Outputs and
seats are given in the order in which they were registered. -/
structure Shell.Welcomes (outputs : List OutputId) (seats : List SeatId) (surface : SurfaceHandle)
    (appId : Option String) (parent : Option WindowId) (w : WindowId) (s s' : Shell) : Prop where
  new : s.isLive w = false
  live : ∀ x, s'.isLive x ↔ x = w ∨ s.isLive x
  /-- The window is placed as it should be, unless it was announced below itself. -/
  placed : s.Places outputs seats surface appId parent w s' ↔ parent ≠ some w
  unplaced : parent = some w → s'.stance w = some (.new surface)
  /-- The rest of the record is that of a surface that has just been announced. -/
  record : ∃ view, (s'.windows.get? w).map (·.still.unattended) =
    some (.ofSurface surface view appId)
  /-- Every seat with a keyboard turns to the new window, and no other seat does. -/
  focus : ∀ seat, s'.focusedWindow seat =
    if s.hasKeyboard seat then some w else s.focusedWindow seat
  focused : s'.seats.focusedOn w = s.seats.withKeyboard
  count : s'.focusCountOf w = some s.seats.withKeyboard.length
  /-- The other windows lose the seats that turned, and nothing else of them changes. -/
  left : ∀ x, s.isLive x → s'.seats.focusedOn x =
    (s.seats.focusedOn x).filter fun seat => !s.hasKeyboard seat
  recount : ∀ x, s.isLive x →
    (s'.focusCountOf x).map (· + (s.typists x).length) = s.focusCountOf x
  others : ∀ x, s.isLive x →
    (s'.windows.get? x).map Window.own = (s.windows.get? x).map Window.own
  stacking : s'.stacking = s.stacking
  order : s'.seats.order = s.seats.order
  seats : ∀ seat, (s'.seats.get? seat).map Seat.unfocused =
    (s.seats.get? seat).map Seat.unfocused

theorem Shell.focusedOn_of_turned {s' : Shell} (ho : s'.seats.order = s.seats.order)
    (hfocus : ∀ seat, s'.focusedWindow seat =
      if s.hasKeyboard seat then some w else s.focusedWindow seat) (hx : x ≠ w) :
    s'.seats.focusedOn x = (s.seats.focusedOn x).filter fun seat => !s.hasKeyboard seat := by
  rw [focusedOn_eq, focusedOn_eq, List.filter_filter, ho]
  refine List.filter_congr fun j _ => ?_
  rw [hfocus]
  cases s.hasKeyboard j <;> simp [Ne.symm hx]

theorem Shell.focusedOn_of_turned_self {s' : Shell} (h : s.Sound) (hw : s.isLive w = false)
    (ho : s'.seats.order = s.seats.order)
    (hfocus : ∀ seat, s'.focusedWindow seat =
      if s.hasKeyboard seat then some w else s.focusedWindow seat) :
    s'.seats.focusedOn w = s.seats.withKeyboard := by
  rw [focusedOn_eq, withKeyboard_eq, ho]
  refine List.filter_congr fun j _ => ?_
  rw [hfocus]
  cases hk : s.hasKeyboard j with
  | true => simp
  | false =>
    rw [if_neg Bool.false_ne_true, decide_eq_false]
    exact fun hf => Bool.false_ne_true (hw.symm.trans (h.isLive_of_focusedWindow hf))

/-- The counts of the windows that seats turn away from go down by the seats that do. -/
theorem Shell.recount_of_turned {s' : Shell} (hc : s.Counted) (hc' : s'.Counted)
    (hx : s.isLive x) (hx' : s'.isLive x)
    (hleft : s'.seats.focusedOn x = (s.seats.focusedOn x).filter fun seat => !s.hasKeyboard seat) :
    (s'.focusCountOf x).map (· + (s.typists x).length) = s.focusCountOf x := by
  rw [hc x hx, hc' x hx', hleft, Option.map_some, typists, Nat.add_comm,
    ← List.length_eq_length_filter_add]

namespace Desktop

theorem house_moves (d : Desktop) (w : WindowId) (parent : Option WindowId) :
    Moves d (d.house w parent) := by
  unfold house
  split
  · exact d.setParent_moves w _
  · exact (d.setFullscreen_settles w none).moves

/-- Up to placements, links and the focus, the new window is all that is new. -/
theorem still_windowAdded (he : (d.windowAdded surface appId parent).1 = .ok w) :
    ∃ view, ∀ x,
      ((d.windowAdded surface appId parent).2.shell.windows.get? x).map (·.still.unattended) =
        if x = w then some (.ofSurface surface view appId)
        else (d.shell.windows.get? x).map (·.still.unattended) := by
  obtain ⟨hcreated, hadded⟩ := windowAdded_of_ok he
  obtain ⟨view, windows, hshell, -, hget⟩ := createWindow_of_ok hcreated
  refine ⟨view, fun x => ?_⟩
  rw [hadded, (foldl_focusSeat_turned _ _ _).map_eq (·.still.unattended) (fun _ => rfl),
    (house_steady _ w parent).shell.map_eq (·.still.unattended) (fun _ => rfl), hshell]
  show (windows.get? x).map _ = _
  rw [hget]
  split <;> rfl

/-- The order of windows and of seats stays what it is. -/
theorem orders_windowAdded (he : (d.windowAdded surface appId parent).1 = .ok w) :
    (d.windowAdded surface appId parent).2.shell.stacking = d.shell.stacking ∧
    (d.windowAdded surface appId parent).2.shell.seats.order = d.shell.seats.order := by
  obtain ⟨hcreated, hadded⟩ := windowAdded_of_ok he
  obtain ⟨view, windows, hshell, -⟩ := createWindow_of_ok hcreated
  have hsteady := ((d.createWindow surface appId).2.house_steady w parent).shell
  have hturned := foldl_focusSeat_turned (some w)
    ((d.createWindow surface appId).2.house w parent).shell.seats.withKeyboard
    ((d.createWindow surface appId).2.house w parent)
  rw [hadded]
  refine ⟨hturned.stacking.trans (hsteady.stacking.trans ?_), hturned.order.trans ?_⟩
  · rw [hshell]
  · rw [hsteady.seats, hshell]

/-- The seats with a keyboard turn to the new window. -/
theorem focusedWindow_windowAdded (h : d.shell.Sound) (ho : d.shell.seats.Ordered)
    (he : (d.windowAdded surface appId parent).1 = .ok w) (j : SeatId) :
    (d.windowAdded surface appId parent).2.shell.focusedWindow j =
      if d.shell.hasKeyboard j then some w else d.shell.focusedWindow j := by
  obtain ⟨hcreated, hadded⟩ := windowAdded_of_ok he
  have hadmits := createWindow_admits hcreated
  have hsteady := ((d.createWindow surface appId).2.house_steady w parent).shell
  have hsound := sound_of_moves (createWindow_sound h surface appId) (house_moves _ w parent)
  have hseats := hsteady.seats.trans hadmits.seats
  have hmem : j ∈ d.shell.seats.withKeyboard ↔ d.shell.hasKeyboard j := Shell.mem_withKeyboard ho
  rw [hadded, focusedWindow_foldl_focusSeat j _ hsound
    ((hsteady.isLive w).trans hadmits.isLive_self), Shell.hasKeyboard, Shell.focusedWindow, hseats,
    ← Shell.hasKeyboard, ← Shell.focusedWindow]
  exact if_congr (by rw [hmem, and_self]) rfl rfl

/-- The new window is placed on what the strongest grounds offer. -/
theorem places_windowAdded (h : d.shell.Sound) (houtputs : d.shell.outputs.Chronicle outputs)
    (hseats : d.shell.seats.Chronicle seats)
    (he : (d.windowAdded surface appId parent).1 = .ok w) (hparent : parent ≠ some w) :
    d.shell.Places outputs seats surface appId parent w
      (d.windowAdded surface appId parent).2.shell := by
  obtain ⟨hcreated, hadded⟩ := windowAdded_of_ok he
  obtain ⟨t, hadmits, hsound, hstance⟩ := exists_admits_house h (createWindow_admits hcreated)
    (createWindow_sound h surface appId) (fun ht hsound o ho => by
      obtain ⟨g, -, hoffers⟩ := (Shell.bestOutput_iff hsound ht.isLive_self
        (ht.outputs ▸ houtputs) (ht.seats ▸ hseats) o).1 ho
      exact hsound.contains_of_offers hoffers) hparent
  refine ⟨_, ?_, hadmits.bestOutput_iff h hsound houtputs hseats⟩
  rw [hadded, ← hstance]
  exact congrFun (congrArg Layout.stance (foldl_focusSeat_aside _ _ _).layout) w

/-- A window that is announced below itself stays as it was made. -/
theorem stance_windowAdded_below_itself
    (he : (d.windowAdded surface appId (some w)).1 = .ok w) :
    (d.windowAdded surface appId (some w)).2.shell.stance w = some (.new surface) := by
  have hmade := (windowAdded_below_itself_layout he).2
  exact (congrFun (congrArg Layout.stance hmade) w).trans
    ((d.layout.stance_create w surface w).trans (if_pos rfl))

/-- The root that such a window is would have to be fullscreen. -/
theorem places_windowAdded_iff (h : d.shell.Sound) (houtputs : d.shell.outputs.Chronicle outputs)
    (hseats : d.shell.seats.Chronicle seats)
    (he : (d.windowAdded surface appId parent).1 = .ok w) :
    d.shell.Places outputs seats surface appId parent w
      (d.windowAdded surface appId parent).2.shell ↔ parent ≠ some w := by
  refine ⟨?_, places_windowAdded h houtputs hseats he⟩
  rintro ⟨output, hstance, -⟩ rfl
  have hnew := (createWindow_admits (windowAdded_of_ok he).1).new
  rw [Option.filter_some_neg hnew] at hstance
  cases hstance.symm.trans (stance_windowAdded_below_itself he)

/-- After every run, a window that is added is placed and focused, and disturbs nothing else; only
one that is announced below itself is not placed. -/
theorem window_welcomed (h : (Desktop.fresh config).run as = some d)
    (hreply : (d.dispatch (.windowAdded surface appId parent)).1 = .window w) :
    Shell.Welcomes ((Desktop.fresh config).registered as) ((Desktop.fresh config).seated as)
      surface appId parent w d.shell (d.dispatch (.windowAdded surface appId parent)).2.shell := by
  have hreached := Reached.run as .fresh h
  have hsound := hreached.sound
  have hordered := hreached.seats_ordered
  obtain ⟨houtputs, hseats⟩ := run_chronicle h
  have he := ok_of_ofWindow hreply
  have hafter : Reached config (d.windowAdded surface appId parent).2 :=
    .act (.event (.windowAdded surface appId parent)) hreached (by simp [act, hreply])
  show Shell.Welcomes _ _ _ _ _ _ _ (d.windowAdded surface appId parent).2.shell
  have hnew := (createWindow_admits (windowAdded_of_ok he).1).new
  have hne {x : WindowId} (hx : d.shell.isLive x) : x ≠ w := by
    rintro rfl
    exact Bool.false_ne_true (hnew.symm.trans hx)
  obtain ⟨view, hstill⟩ := still_windowAdded he
  have hlive (x : WindowId) : (d.windowAdded surface appId parent).2.shell.isLive x ↔
      x = w ∨ d.shell.isLive x := by
    have hsome := congrArg Option.isSome (hstill x)
    rw [Option.isSome_map] at hsome
    rw [Shell.isLive, Arena.contains, hsome]
    split
    · next hx => simp [hx]
    · next hx => simp [hx, Shell.isLive, Arena.contains]
  have hfocus := focusedWindow_windowAdded hsound hordered he
  obtain ⟨hstacking, horder⟩ := orders_windowAdded he
  have hself := Shell.focusedOn_of_turned_self hsound hnew horder hfocus
  have hleft (x : WindowId) (hx : d.shell.isLive x) :=
    Shell.focusedOn_of_turned horder hfocus (hne hx)
  refine
    { new := hnew, live := hlive, focus := hfocus, focused := hself, left := hleft, order := horder,
      placed := places_windowAdded_iff hsound houtputs hseats he
      unplaced := fun hparent => by
        subst hparent
        exact stance_windowAdded_below_itself he
      record := ⟨view, (hstill w).trans (if_pos rfl)⟩
      count := by rw [hafter.counted w ((hlive w).2 (.inl rfl)), hself]
      recount := fun x hx => Shell.recount_of_turned hreached.counted hafter.counted hx
        ((hlive x).2 (.inr hx)) (hleft x hx)
      others := fun x hx => Shell.map_own (stance_windowAdded hsound surface appId parent hx)
        ((hstill x).trans (if_neg (hne hx)))
      stacking := hstacking, seats := d.unfocused_windowAdded surface appId parent }

/-- A dialog of the child in the family of three, which two seats with a keyboard focus and one
without, is added. -/
theorem window_welcomed_sharedRun : ∃ d, (Desktop.fresh .default).run sharedRun = some d ∧
    d.shell.seats.focusedOn ⟨1, 1⟩ = [⟨0, 1⟩, ⟨1, 1⟩, ⟨2, 1⟩] ∧
    Shell.Welcomes ((Desktop.fresh .default).registered sharedRun) [⟨0, 1⟩, ⟨1, 1⟩, ⟨2, 1⟩] ⟨20⟩
      none (some ⟨1, 1⟩) ⟨3, 1⟩ d.shell
      (d.dispatch (.windowAdded ⟨20⟩ none (some ⟨1, 1⟩))).2.shell := by
  have hrun := (Option.some_get isSome_sharedRun).symm
  have hseats : (Desktop.fresh .default).seated sharedRun = [⟨0, 1⟩, ⟨1, 1⟩, ⟨2, 1⟩] := by
    decide +kernel
  refine ⟨_, hrun, by decide +kernel, ?_⟩
  rw [← hseats]
  exact Desktop.window_welcomed hrun (by decide +kernel)

/-- The first window is announced below itself, and is no fullscreen root though it has no
parent. -/
theorem not_placed : ¬ ∀ config as d surface appId parent w,
    (Desktop.fresh config).run as = some d →
    (d.dispatch (.windowAdded surface appId parent)).1 = .window w →
    d.shell.Places ((Desktop.fresh config).registered as) ((Desktop.fresh config).seated as)
      surface appId parent w (d.dispatch (.windowAdded surface appId parent)).2.shell := by
  intro hplaced
  have hreply : ((fresh .default).dispatch (.windowAdded ⟨10⟩ none (some ⟨0, 1⟩))).1 =
      .window ⟨0, 1⟩ := by decide +kernel
  have hrun : (fresh .default).run [] = some (fresh .default) := rfl
  have hreached : Reached .default (fresh .default) := .fresh
  obtain ⟨houtputs, hseats⟩ := run_chronicle hrun
  exact (places_windowAdded_iff hreached.sound houtputs hseats (ok_of_ofWindow hreply)).1
    (hplaced _ _ _ _ _ _ _ hrun hreply) rfl

end Desktop

end Kiosk
