import Kiosk.Proofs.Handover

/-!
# The deactivation of a removed window

When a window is removed, its surface is told that it is no longer activated, once and
before its view is destroyed, if seats focused it and all of them have a keyboard. A
seat without one does not turn with the others: it keeps the window's count above zero
until the window is gone, and no deactivation is told (`Reached.removal_deactivates`,
`not_deactivated`).

While the focus moves to the heir, nothing activates the removed window
(`Desktop.Unroused`). Its changes alternate, so it can be told to be inactive once at
most, and the focus count says whether it was.
-/

namespace Kiosk

variable {config : Config} {d d' d'' : Desktop} {w x : WindowId} {window : Window}
  {seat : SeatId} {heir : Option WindowId} {surface : SurfaceHandle}

/-! ## Changes of activation -/

/-- What the commands tell `surface` of its activation. -/
def Command.activations (surface : SurfaceHandle) (cs : List Command) : List Bool :=
  cs.filterMap fun
    | .setActivated t b => if t = surface then some b else none
    | _ => none

theorem Command.mem_activations {cs : List Command} {b : Bool} :
    b ∈ activations surface cs ↔ .setActivated surface b ∈ cs := by
  rw [activations, List.mem_filterMap]
  constructor
  · rintro ⟨c, hm, hc⟩
    split at hc
    · split at hc
      · next ht =>
        cases hc
        exact ht ▸ hm
      · cases hc
    · cases hc
  · exact fun hm => ⟨_, hm, if_pos rfl⟩

/-- After alternating changes, a list of changes to false that alternates with them holds one
if it makes a difference, and none otherwise. -/
theorem Alternates.falses {changes more : List Bool} (h : Alternates (changes ++ more))
    (hfalse : true ∉ more) : more =
      if changes.length % 2 = 1 ∧ (changes ++ more).length % 2 = 0 then [false] else [] := by
  have hat (i : Nat) (b : Bool) (hb : more[i]? = some b) :
      b = decide ((changes.length + i) % 2 = 0) := by
    refine h _ b ?_
    rw [List.getElem?_append_right (Nat.le_add_right _ _), Nat.add_sub_cancel_left, hb]
  match more with
  | [] =>
    rw [List.append_nil, if_neg (by omega)]
  | true :: _ => exact absurd List.mem_cons_self hfalse
  | [false] =>
    have hodd := hat 0 false rfl
    rw [Nat.add_zero, eq_comm, decide_eq_false_iff_not] at hodd
    rw [if_pos]
    rw [List.length_append, List.length_singleton]
    omega
  | false :: true :: _ => exact absurd (List.mem_cons_of_mem _ List.mem_cons_self) hfalse
  | false :: false :: _ =>
    have hodd := hat 0 false rfl
    have heven := hat 1 false rfl
    rw [eq_comm, decide_eq_false_iff_not] at hodd heven
    omega

namespace Desktop

/-- What the host is told from `d` to `d'` does not activate `surface`. -/
def Unroused (surface : SurfaceHandle) (d d' : Desktop) : Prop :=
  ∃ cs, d'.host.log = d.host.log ++ cs ∧ .setActivated surface true ∉ cs

namespace Unroused

theorem of_log (h : d'.host.log = d.host.log) : Unroused surface d d' :=
  ⟨[], by rw [h, List.append_nil], List.not_mem_nil⟩

theorem trans (h : Unroused surface d d') (h' : Unroused surface d' d'') :
    Unroused surface d d'' := by
  obtain ⟨cs, hl, hn⟩ := h
  obtain ⟨cs', hl', hn'⟩ := h'
  refine ⟨cs ++ cs', by rw [hl', hl, List.append_assoc], fun hm => ?_⟩
  exact (List.mem_append.1 hm).elim hn hn'

theorem record {c : Command} (hc : c ≠ .setActivated surface true)
    (hl : d'.host.log = d.host.log ++ [c]) : Unroused surface d d' :=
  ⟨[c], hl, fun hm => hc (List.mem_singleton.1 hm).symm⟩

end Unroused

/-- A seat that leaves a window activates none. -/
theorem releaseFocus_unroused (surface : SurfaceHandle) (d : Desktop) (seat : SeatId) :
    Unroused surface d (d.releaseFocus seat) := by
  unfold releaseFocus
  split
  · exact .of_log rfl
  · dsimp only
    split
    · exact .of_log rfl
    · split
      · exact .record (by simp) rfl
      · exact .of_log rfl

/-- A seat that arrives at a window activates no other. -/
theorem takeFocus_unroused (seat : SeatId)
    (hx : (d.shell.windows.get? x).map Window.surface ≠ some surface) :
    Unroused surface d (d.takeFocus seat x) := by
  cases hr : d.shell.windows.get? x with
  | none =>
    rw [takeFocus, hr]
    exact .of_log rfl
  | some r =>
    rw [takeFocus_of_some hr]
    split
    · refine .record (c := .setActivated r.surface true) (fun he => hx ?_) rfl
      rw [hr]
      exact congrArg some (Command.setActivated.inj he).1
    · exact .of_log rfl

/-- A seat that turns to a window activates no other. -/
theorem keyboardFocusChanged_unroused (seat : SeatId)
    (hheir : ∀ x, heir = some x → (d.shell.windows.get? x).map Window.surface ≠ some surface) :
    Unroused surface d (d.keyboardFocusChanged seat heir) := by
  have hreleased := releaseFocus_unroused surface d seat
  refine keyboardFocusChanged_cases (P := Unroused surface d) seat heir (.of_log rfl) hreleased
    fun x hx _ _ => hreleased.trans (takeFocus_unroused seat ?_)
  rw [(d.releaseFocus_aside seat).map_eq Window.surface fun _ => rfl]
  exact hheir x hx

theorem focusSeat_unroused (seat : SeatId)
    (hheir : ∀ x, heir = some x → (d.shell.windows.get? x).map Window.surface ≠ some surface) :
    Unroused surface d (d.focusSeat seat heir) := by
  refine focusSeat_cases (P := Unroused surface d) seat heir (.of_log rfl) fun handle => ?_
  have htold : Unroused surface d (d.tell (·.setKeyboardFocus handle
      ((heir.bind d.shell.windows.get?).map Window.surface))) :=
    .record (c := .setKeyboardFocus _ _) (by simp) rfl
  exact htold.trans (keyboardFocusChanged_unroused seat hheir)

theorem foldl_focusSeat_unroused : ∀ (seats : List SeatId) {d : Desktop},
    (∀ x, heir = some x → (d.shell.windows.get? x).map Window.surface ≠ some surface) →
    Unroused surface d (seats.foldl (fun d seat => d.focusSeat seat heir) d)
  | [], _, _ => .of_log rfl
  | seat :: seats, d, hheir => by
    refine (focusSeat_unroused seat hheir).trans (foldl_focusSeat_unroused seats fun x hx => ?_)
    rw [(d.focusSeat_aside seat heir).map_eq Window.surface fun _ => rfl]
    exact hheir x hx

end Desktop

/-! ## The seats that turn -/

/-- Focus counts, seats and host agree as long as no two windows were made for one surface. -/
theorem Reached.focusKept (h : Reached config d) : d.FocusKept :=
  (h.of_moves (P := fun d => d.shell.Sound ∧ d.FocusKept)
    ⟨Shell.fresh_sound config, Desktop.fresh_focusKept config⟩
    fun hd hm => ⟨hm.sound hd.1, hm.focusKept hd.1 hd.2⟩).2

/-- No view is made while the focus moves. -/
theorem Desktop.Aside.createdSurfaces (h : d.Aside d') :
    d'.host.createdSurfaces = d.host.createdSurfaces := by
  obtain ⟨cs, hl, hadvice⟩ := h.log
  rw [Host.createdSurfaces, hl, List.filterMap_append]
  refine (congrArg (_ ++ ·) (List.filterMap_eq_nil_iff.2 fun c hm => ?_)).trans (List.append_nil _)
  have := (hadvice c hm).1
  cases c <;> first | rfl | cases this

/-- All seats leave `w` if they have keyboards, and else some stay. -/
theorem Shell.Turns.focusedOn_eq_nil {s s' : Shell} (h : Turns heir (s.seats.focusedOn w) s s')
    (ho : s.seats.Ordered) (ho' : s'.seats.Ordered) (hne : heir ≠ some w) :
    s'.seats.focusedOn w = [] ↔ ∀ seat ∈ s.seats.focusedOn w, s.hasKeyboard seat := by
  have hstays (seat : SeatId) : seat ∈ s'.seats.focusedOn w ↔
      seat ∈ s.seats.focusedOn w ∧ ¬ s.hasKeyboard seat := by
    rw [mem_focusedOn ho', h.focus]
    by_cases hturned : seat ∈ s.seats.focusedOn w ∧ s.hasKeyboard seat
    · rw [if_pos hturned]
      exact iff_of_false hne fun hn => hn.2 hturned.2
    · rw [if_neg hturned, ← mem_focusedOn ho]
      exact ⟨fun hm => ⟨hm, fun hk => hturned ⟨hm, hk⟩⟩, And.left⟩
  rw [List.eq_nil_iff_forall_not_mem]
  exact forall_congr' fun seat => by rw [hstays, not_and, not_not]

/-- While the seats on `w` turn to the heir, its surface is told to be inactive if it was not and
none of them stays. -/
theorem Reached.turnedOver_activations (h : Reached config d)
    (hn : d.host.createdSurfaces.Nodup) (hw : d.shell.windows.get? w = some window) :
    ∃ cs, (d.turnedOver w).host.log = d.host.log ++ cs ∧ (∀ c ∈ cs, c.isAdvice) ∧
      Command.activations window.surface cs =
        if 0 < window.focusCount ∧ ∀ seat ∈ d.shell.seats.focusedOn w, d.shell.hasKeyboard seat
        then [false] else [] := by
  have hlive : d.shell.isLive w := Option.isSome_iff_exists.2 ⟨window, hw⟩
  have haside : d.Aside (d.turnedOver w) := Desktop.foldl_focusSeat_aside _ _ d
  have hreached := h.turnedOver w
  have hbefore := h.focusKept hn
  have hafter := hreached.focusKept (haside.createdSurfaces ▸ hn)
  obtain ⟨cs, hl, hadvice⟩ := haside.log
  have hunroused : Desktop.Unroused window.surface d (d.turnedOver w) := by
    refine Desktop.foldl_focusSeat_unroused _ fun x hx hsame => ?_
    obtain ⟨r, hr, hsurface⟩ := Option.map_eq_some_iff.1 hsame
    exact (h.live_heir hlive hx).2 (hbefore.distinct x w r window hr hw hsurface)
  obtain ⟨window', hw', hsurface⟩ := Option.map_eq_some_iff.1
    ((haside.map_eq Window.surface (fun _ => rfl) w).trans (congrArg _ hw))
  have hchanges : (d.turnedOver w).host.activationChanges window.surface =
      d.host.activationChanges window.surface ++ Command.activations window.surface cs := by
    rw [Host.activationChanges, hl, List.filterMap_append]
    rfl
  have hfalse : true ∉ Command.activations window.surface cs := by
    obtain ⟨cs', hl', hnone⟩ := hunroused
    rw [Command.mem_activations, List.append_cancel_left (hl.symm.trans hl')]
    exact hnone
  have hcount : window'.focusCount = 0 ↔
      ∀ seat ∈ d.shell.seats.focusedOn w, d.shell.hasKeyboard seat := by
    rw [hafter.counted w window' hw', List.length_eq_zero_iff]
    exact (h.turnedOver_turns hlive).focusedOn_eq_nil h.seats_ordered hreached.seats_ordered
      fun he => (h.live_heir hlive he).2 rfl
  have halternates := hafter.tracked.alternates window.surface
  have hactive := hbefore.activated w window hw
  have hinactive := hafter.activated w window' hw'
  rw [hsurface, hafter.tracked.recorded, hchanges, decide_eq_decide] at hinactive
  rw [hbefore.tracked.recorded, decide_eq_decide] at hactive
  refine ⟨cs, hl, fun c hm => (hadvice c hm).1, ?_⟩
  rw [hchanges] at halternates
  rw [halternates.falses hfalse]
  refine if_congr (and_congr hactive ?_) rfl rfl
  rw [← hcount]
  omega

/-! ## The result -/

/-- From `d` to `d'` the window `w` went away, after its surface was told `told` of its
activation. -/
structure Desktop.Deactivates (w : WindowId) (window : Window) (told : List Bool)
    (d d' : Desktop) : Prop where
  /-- The view goes last, and once. -/
  log : ∃ cs, d'.host.log = d.host.log ++ cs ++ [.destroyView window.view] ∧
    Command.activations window.surface cs = told ∧ .destroyView window.view ∉ cs
  unfocused : ∀ seat, d'.shell.focusedWindow seat ≠ some w

/-- What a destroyed window's host is told: nothing of activation, and last that its view goes. -/
theorem Desktop.destroyWindow_log (hw : d.shell.windows.get? w = some window)
    (surface : SurfaceHandle) :
    ∃ cs, (d.destroyWindow w).host.log = d.host.log ++ cs ++ [.destroyView window.view] ∧
      Command.activations surface cs = [] ∧ ∀ view, .destroyView view ∉ cs := by
  obtain ⟨d₁, hwane, -, he⟩ := destroyWindow_eq hw
  obtain ⟨cs, hl, hplacing⟩ := hwane.host.log
  refine ⟨.setUserData window.surface false :: cs, ?_, ?_, fun view hm => ?_⟩
  · rw [he]
    show d₁.host.log ++ _ = _
    rw [hl, List.append_cons d.host.log]
    rfl
  · refine List.filterMap_eq_nil_iff.2 fun c hm => ?_
    rcases List.mem_cons.1 hm with rfl | hm
    · rfl
    · have := hplacing c hm
      cases c <;> first | rfl | cases this
  · rcases List.mem_cons.1 hm with hsame | hm
    · cases hsame
    · cases hplacing _ hm

/-- The surface of a removed window is told to be inactive, once and before its view goes, if the
window was focused and all its seats have keyboards, and else is told nothing. -/
theorem Reached.removal_deactivates (h : Reached config d) (hn : d.host.createdSurfaces.Nodup)
    (hw : d.shell.windows.get? w = some window) :
    Desktop.Deactivates w window
      (if 0 < window.focusCount ∧ ∀ seat ∈ d.shell.seats.focusedOn w, d.shell.hasKeyboard seat
        then [false] else [])
      d (d.dispatch (.windowRemoved w)).2 := by
  have hlive : d.shell.isLive w := Option.isSome_iff_exists.2 ⟨window, hw⟩
  have hturned := d.turnedOver_turned w
  show Desktop.Deactivates w window _ d (d.windowRemoved w)
  rw [Desktop.windowRemoved_of_live hlive]
  obtain ⟨window', hw', hview⟩ := Option.map_eq_some_iff.1
    ((hturned.map_eq Window.view (fun _ => rfl) w).trans (congrArg _ hw))
  obtain ⟨cs, hl, hadvice, hactivations⟩ := h.turnedOver_activations hn hw
  obtain ⟨cs', hl', hquiet, hkept⟩ := Desktop.destroyWindow_log hw' window.surface
  refine ⟨⟨cs ++ cs', ?_, ?_, fun hm => ?_⟩, fun seat hf => ?_⟩
  · rw [hl', hl, hview, List.append_assoc d.host.log]
  · rw [Command.activations, List.filterMap_append]
    exact (congrArg₂ (· ++ ·) hactivations hquiet).trans (List.append_nil _)
  · rcases List.mem_append.1 hm with hm | hm
    · cases hadvice _ hm
    · exact hkept _ hm
  · rw [((h.turnedOver w).destroyWindow_unfocuses ((hturned.isLive w).trans hlive)).1 seat,
      Option.filter_eq_some_iff] at hf
    exact of_decide_eq_true hf.2 rfl

/-- Two seats with keyboards are on the child in a mapped family of three. -/
def pairRun : List Action := stackRun ++
  [.event (.seatAdded ⟨8⟩ "seat1" true),
    .event (.keyboardFocusChanged ⟨1, 1⟩ (some ⟨1, 1⟩))]

theorem isSome_pairRun : ((Desktop.fresh .default).run pairRun).isSome := by decide +kernel

/-- When the child goes, both seats leave it, and it is deactivated once. -/
theorem removal_deactivates_pairRun : ∃ d window, Reached .default d ∧
    d.host.createdSurfaces.Nodup ∧ d.shell.windows.get? ⟨1, 1⟩ = some window ∧
    window.focusCount = 2 ∧
    Desktop.Deactivates ⟨1, 1⟩ window [false] d (d.dispatch (.windowRemoved ⟨1, 1⟩)).2 := by
  have hreached : Reached .default _ := Reached.run _ .fresh (Option.some_get isSome_pairRun).symm
  have hnodup : (((Desktop.fresh .default).run pairRun).get
      isSome_pairRun).host.createdSurfaces.Nodup := by decide +kernel
  have hdeactivates := Reached.removal_deactivates (w := ⟨1, 1⟩) hreached hnodup
    (Option.some_get (by decide +kernel)).symm
  rw [if_pos (by decide +kernel)] at hdeactivates
  exact ⟨_, _, hreached, hnodup, (Option.some_get _).symm, by decide +kernel, hdeactivates⟩

theorem Desktop.Deactivates.activationChanges {told : List Bool}
    (h : Deactivates w window told d d') : d'.host.activationChanges window.surface =
      d.host.activationChanges window.surface ++ told := by
  obtain ⟨cs, hl, rfl, -⟩ := h.log
  rw [Host.activationChanges, hl, List.append_assoc, List.filterMap_append, List.filterMap_append]
  exact congrArg (_ ++ ·) (List.append_nil _)

/-- A focused window one of whose seats has lost its keyboard is not deactivated. -/
theorem not_deactivated : ¬ ∀ config d w window, Reached config d →
    d.host.createdSurfaces.Nodup → d.shell.windows.get? w = some window →
    Desktop.Deactivates w window (if 0 < window.focusCount then [false] else []) d
      (d.dispatch (.windowRemoved w)).2 := by
  intro hdeactivated
  have hreached : Reached .default _ :=
    Reached.run _ .fresh (Option.some_get isSome_sharedRun).symm
  have hchanges := (hdeactivated .default _ ⟨1, 1⟩ _ hreached (by decide +kernel)
    (Option.some_get (by decide +kernel)).symm).activationChanges
  exact absurd hchanges (by decide +kernel)

end Kiosk
