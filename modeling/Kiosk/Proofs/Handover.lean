import Kiosk.Proofs.Heirs
import Kiosk.Proofs.Removal

/-!
# The focus of a removed window

When a window is removed, each seat with a keyboard that was focused on it turns to
its heir, a seat without one loses its focus, and all other seats keep theirs
(`Shell.HandsOver`, `Reached.focus_handed_over`).

The focus moves before the window's record is torn down. So the seats are followed
one by one (`Shell.Turns`), and then through the teardown, which may give the heir
another parent but leaves its focus alone.
-/

namespace Kiosk

variable {config : Config} {d d' : Desktop} {s s' s'' : Shell} {w x : WindowId} {seat : SeatId}
  {heir : Option WindowId} {seats : List SeatId} {record : Seat}

/-! ## Seats that turn -/

namespace Shell

/-- Whether `seat` has a keyboard. -/
def hasKeyboard (s : Shell) (seat : SeatId) : Bool := (s.seats.get? seat).any Seat.hasKeyboard

theorem withKeyboard_eq (s : Shell) :
    s.seats.withKeyboard = s.seats.order.filter s.hasKeyboard :=
  s.seats.filter_toList Seat.hasKeyboard

theorem contains_of_hasKeyboard (hk : s.hasKeyboard seat) : s.seats.contains seat := by
  obtain ⟨record, hr, -⟩ := (Option.any_eq_true ..).1 hk
  exact Option.isSome_iff_exists.2 ⟨record, hr⟩

theorem hasKeyboard_eq (hr : s.seats.get? seat = some record) :
    s.hasKeyboard seat = record.hasKeyboard := by
  rw [hasKeyboard, hr]
  rfl

theorem focusedWindow_eq (hr : s.seats.get? seat = some record) :
    s.focusedWindow seat = record.focusedWindow := by
  rw [focusedWindow, hr]
  rfl

/-- How many seats focus `w`, as its record has it. -/
def focusCountOf (s : Shell) (w : WindowId) : Option Nat :=
  (s.windows.get? w).map Window.focusCount

/-- From `s` to `s'`, those of `seats` that have a keyboard turned to `heir`. -/
structure Turns (heir : Option WindowId) (seats : List SeatId) (s s' : Shell) : Prop where
  focus : ∀ j, s'.focusedWindow j =
    if j ∈ seats ∧ s.hasKeyboard j then heir else s.focusedWindow j
  count : ∀ x, heir = some x →
    s'.focusCountOf x = (s.focusCountOf x).map (· + (seats.filter s.hasKeyboard).length)

theorem Turns.nil (heir : Option WindowId) (s : Shell) : Turns heir [] s s :=
  ⟨fun _ => by simp, fun _ _ => by simp⟩

theorem Turns.cons (h : Turns heir [seat] s s') (h' : Turns heir seats s' s'')
    (hk : s'.hasKeyboard = s.hasKeyboard) : Turns heir (seat :: seats) s s'' := by
  refine ⟨fun j => ?_, fun x hx => ?_⟩
  · rw [h'.focus, h.focus, hk]
    by_cases hj : j ∈ seats ∧ s.hasKeyboard j
    · rw [if_pos hj, if_pos ⟨List.mem_cons_of_mem seat hj.1, hj.2⟩]
    · rw [if_neg hj]
      refine if_congr ?_ rfl rfl
      rw [List.mem_singleton, List.mem_cons, or_and_right, or_iff_left hj]
  · have hlength : ((seat :: seats).filter s.hasKeyboard).length =
        ([seat].filter s.hasKeyboard).length + (seats.filter s.hasKeyboard).length := by
      rw [← List.length_append, ← List.filter_append, List.singleton_append]
    rw [h'.count x hx, h.count x hx, hk, Option.map_map, hlength]
    exact congrArg (fun f => (s.focusCountOf x).map f) (funext fun n => Nat.add_assoc _ _ _)

end Shell

namespace Desktop

theorem Turned.hasKeyboard (h : Turned d d') : d'.shell.hasKeyboard = d.shell.hasKeyboard := by
  funext j
  have hsame := congrArg (Option.any Seat.hasKeyboard) (h.seats j)
  rwa [Option.any_map, Option.any_map] at hsame

theorem focusSeat_sound (h : d.shell.Sound) (seat : SeatId) (focus : Option WindowId) :
    (d.focusSeat seat focus).shell.Sound :=
  focusSeat_cases (P := fun d' => d'.shell.Sound) seat focus h fun _ =>
    keyboardFocusChanged_sound (d := d.tell _) h seat focus

/-- A seat lets go of its window, and no other seat and no other window's count changes. -/
theorem releaseFocus_frees (h : d.shell.Sound) (seat : SeatId) :
    (∀ j, (d.releaseFocus seat).shell.focusedWindow j =
      if j = seat then none else d.shell.focusedWindow j) ∧
    ∀ x, d.shell.focusedWindow seat ≠ some x →
      (d.releaseFocus seat).shell.focusCountOf x = d.shell.focusCountOf x := by
  have hfocus : d.shell.focusedWindow seat =
      ((d.shell.seats.get? seat).bind Seat.focused).map Link.source := Option.map_bind.symm
  cases hf : (d.shell.seats.get? seat).bind Seat.focused with
  | none =>
    rw [hf] at hfocus
    rw [releaseFocus_of_none hf]
    refine ⟨fun j => ?_, fun _ _ => rfl⟩
    split
    · next hj =>
      rw [hj]
      exact hfocus
    · rfl
  | some link =>
    rw [hf] at hfocus
    obtain ⟨window, hw⟩ := Option.isSome_iff_exists.1 (h.isLive_of_focusedWindow hfocus)
    rw [releaseFocus_of_some hf hw]
    refine ⟨d.shell.focusedWindow_modifySeat (Shell.contains_of_focusedWindow hfocus) none,
      fun x hx => ?_⟩
    have hne : x ≠ link.source := by
      rintro rfl
      exact hx hfocus
    have hfocal := Shell.focal_modifyWindow
      (s := d.shell.modifySeat seat ({ · with focused := none }))
      (f := fun r => { r with signal := r.signal.unsubscribe link.token }) (fun _ => rfl) hw
      (window.focusCount - 1) x
    rw [if_neg hne] at hfocal
    have hcount := congrArg (Option.map Prod.snd) hfocal
    rwa [Option.map_map, Option.map_map] at hcount

theorem takeFocus_counts (hs : d.shell.seats.contains seat) (hw : d.shell.isLive w) :
    (∀ j, (d.takeFocus seat w).shell.focusedWindow j =
      if j = seat then some w else d.shell.focusedWindow j) ∧
    (d.takeFocus seat w).shell.focusCountOf w = (d.shell.focusCountOf w).map (· + 1) := by
  obtain ⟨window, hw⟩ := Option.isSome_iff_exists.1 hw
  rw [takeFocus_of_some hw]
  refine ⟨d.shell.focusedWindow_modifySeat hs (some ⟨w, window.signal.nextToken⟩), ?_⟩
  have hfocal := Shell.focal_modifyWindow (s := d.shell)
    (f := ({ · with signal := (window.signal.subscribe (.seatFocus seat)).2 })) (fun _ => rfl) hw
    (window.focusCount + 1) w
  have hold : d.shell.focusCountOf w = some window.focusCount :=
    congrArg (Option.map Window.focusCount) hw
  rw [if_pos rfl] at hfocal
  have hcount := congrArg (Option.map Prod.snd) hfocal
  rw [Option.map_map] at hcount
  rw [hold]
  exact hcount

/-- A seat that has a keyboard and focuses another window turns to the heir. -/
theorem keyboardFocusChanged_turns (h : d.shell.Sound)
    (hr : d.shell.seats.get? seat = some record) (hk : record.hasKeyboard = true)
    (hf : record.focusedWindow = some w)
    (hheir : ∀ x, heir = some x → d.shell.isLive x ∧ x ≠ w) :
    Shell.Turns heir [seat] d.shell (d.keyboardFocusChanged seat heir).shell := by
  have hkeyboard : d.shell.hasKeyboard seat = true := (Shell.hasKeyboard_eq hr).trans hk
  have hfocus : d.shell.focusedWindow seat = some w := (Shell.focusedWindow_eq hr).trans hf
  have hturn : ¬ (!record.hasKeyboard || decide (record.focusedWindow = heir)) = true := by
    simp only [hk, hf, Bool.not_true, Bool.false_or, decide_eq_true_eq]
    exact fun he => (hheir w he.symm).2 rfl
  have hturning (j : SeatId) : j ∈ [seat] ∧ d.shell.hasKeyboard j ↔ j = seat := by
    rw [List.mem_singleton, and_iff_left_iff_imp]
    rintro rfl
    exact hkeyboard
  obtain ⟨hfreed, hkept⟩ := releaseFocus_frees h seat
  unfold keyboardFocusChanged
  rw [hr]
  dsimp only
  cases heir with
  | none =>
    rw [Option.filter_none, if_neg hturn]
    refine ⟨fun j => by simp only [hfreed, hturning], ?_⟩
    rintro x ⟨⟩
  | some x =>
    obtain ⟨hlive, hne⟩ := hheir x rfl
    rw [Option.filter_some_pos hlive, if_neg hturn]
    have hcontains : (d.releaseFocus seat).shell.seats.contains seat := by
      rw [contains_releaseFocus]
      exact Shell.contains_of_focusedWindow hfocus
    obtain ⟨htaken, hcount⟩ := takeFocus_counts hcontains
      (((d.releaseFocus_turned seat).isLive x).trans hlive)
    refine ⟨fun j => ?_, ?_⟩
    · simp only [htaken, hfreed, hturning]
      split <;> rfl
    · rintro _ ⟨⟩
      have hother : d.shell.focusedWindow seat ≠ some x := by
        rw [hfocus]
        exact fun he => hne (Option.some.inj he).symm
      rw [hcount, hkept x hother, List.filter_cons_of_pos hkeyboard]
      rfl

/-- A seat that focuses another window turns to the heir, if it has a keyboard. -/
theorem focusSeat_turns (h : d.shell.Sound) (hf : d.shell.focusedWindow seat = some w)
    (hheir : ∀ x, heir = some x → d.shell.isLive x ∧ x ≠ w) :
    Shell.Turns heir [seat] d.shell (d.focusSeat seat heir).shell := by
  obtain ⟨record, hr, hfocus⟩ := Option.bind_eq_some_iff.1 hf
  unfold focusSeat
  rw [hr]
  dsimp only
  split
  · next hk => exact keyboardFocusChanged_turns (d := d.tell _) h hr hk hfocus hheir
  · next hk =>
    have hkeyboard : d.shell.hasKeyboard seat = false :=
      (Shell.hasKeyboard_eq hr).trans (Bool.eq_false_iff.2 hk)
    refine ⟨fun j => ?_, fun x hx => ?_⟩
    · rw [if_neg]
      rintro ⟨hj, hjk⟩
      rw [List.mem_singleton.1 hj, hkeyboard] at hjk
      cases hjk
    · simp [hkeyboard]

theorem foldl_focusSeat_turns : ∀ (seats : List SeatId) {d : Desktop}, d.shell.Sound →
    seats.Nodup → (∀ seat ∈ seats, d.shell.focusedWindow seat = some w) →
    (∀ x, heir = some x → d.shell.isLive x ∧ x ≠ w) →
    Shell.Turns heir seats d.shell (seats.foldl (fun d seat => d.focusSeat seat heir) d).shell
  | [], d, _, _, _, _ => .nil heir d.shell
  | seat :: seats, d, h, hn, hf, hheir => by
    have hone := focusSeat_turns h (hf seat List.mem_cons_self) hheir
    have hturned := d.focusSeat_turned seat heir
    rw [List.nodup_cons] at hn
    refine hone.cons (foldl_focusSeat_turns seats (focusSeat_sound h seat heir) hn.2
      (fun j hj => ?_) fun x hx => ?_) hturned.hasKeyboard
    · have hne : j ≠ seat := by
        rintro rfl
        exact hn.1 hj
      rw [hone.focus, if_neg (by simp [hne])]
      exact hf j (List.mem_cons_of_mem seat hj)
    · rw [hturned.isLive]
      exact hheir x hx

end Desktop

/-! ## The result -/

/-- The order of seats lists what is live. -/
theorem Move.seats_ordered (h : d.shell.seats.Ordered) (hm : Move d d') :
    d'.shell.seats.Ordered := by
  refine hm.drift_cases (P := fun d => d.shell.seats.Ordered)
    (fun hd => h.congr hd.order hd.seats) (fun surface appId => ?_)
    (fun handle name hasKeyboard => h.insert _) (fun seat focus => ?_) fun seat => ?_
  · unfold Desktop.createWindow
    split <;> exact h
  · have hturned := d.keyboardFocusChanged_turned seat focus
    exact h.congr hturned.order hturned.contains
  · have hturned := d.releaseFocus_turned seat
    have hreleased := (h.congr hturned.order hturned.contains).erase seat
    rw [← Shell.seats_endGrab _ seat] at hreleased
    exact hreleased

theorem Reached.seats_ordered (h : Reached config d) : d.shell.seats.Ordered :=
  h.of_moves (P := fun d => d.shell.seats.Ordered) Roster.ordered_empty
    fun hd hm => hm.seats_ordered hd

/-- Destroying a window ends the focus on it, and leaves all other focus alone. -/
theorem Reached.destroyWindow_unfocuses (h : Reached config d) (hw : d.shell.isLive w) :
    (∀ seat, (d.destroyWindow w).shell.focusedWindow seat =
      (d.shell.focusedWindow seat).filter (· ≠ w)) ∧
    ∀ x, x ≠ w → (d.destroyWindow w).shell.focusCountOf x = d.shell.focusCountOf x := by
  have hspliced := Desktop.destroyWindow_spliced h.sound (h.lined w) hw
  have hsound := Desktop.destroyWindow_sound h.sound w
  have hdrift := d.destroyWindow_drift w
  refine ⟨fun seat => Option.ext fun x => ?_, fun x hx => ?_⟩
  · rw [Option.filter_eq_some_iff]
    constructor
    · intro hf
      have hlive := hsound.isLive_of_focusedWindow hf
      refine ⟨(hdrift.focus x hlive seat).1 hf, decide_eq_true ?_⟩
      rintro rfl
      rw [hspliced.gone] at hlive
      cases hlive
    · rintro ⟨hf, hne⟩
      have hlive := (hspliced.stay x (of_decide_eq_true hne)).trans
        (h.sound.isLive_of_focusedWindow hf)
      exact (hdrift.focus x hlive seat).2 hf
  · cases hr' : (d.destroyWindow w).shell.windows.get? x with
    | some r' =>
      obtain ⟨r, hr, hfocal⟩ := hdrift.windows x r' hr'
      rw [Shell.focusCountOf, hr', Shell.focusCountOf, hr]
      exact congrArg some (congrArg Prod.snd hfocal).symm
    | none =>
      have hgone : d.shell.isLive x = false := by
        rw [← hspliced.stay x hx, Shell.isLive, Arena.contains, hr']
        rfl
      have hr : d.shell.windows.get? x = none :=
        Option.isNone_iff_eq_none.1 (Option.isSome_eq_false_iff.1 hgone)
      rw [Shell.focusCountOf, hr', Shell.focusCountOf, hr]

namespace Shell

/-- The seats with a keyboard whose focus is on `w`, oldest first. -/
def typists (s : Shell) (w : WindowId) : List SeatId :=
  (s.seats.focusedOn w).filter s.hasKeyboard

/-- From `s` to `s'`, the focus of `w` was handed over to `heir`. -/
structure HandsOver (w : WindowId) (heir : Option WindowId) (s s' : Shell) : Prop where
  nodup : (s.typists w).Nodup
  mem : ∀ seat, seat ∈ s.typists w ↔ ∃ record, s.seats.get? seat = some record ∧
    record.hasKeyboard ∧ record.focusedWindow = some w
  /-- Seats with a keyboard turn to the heir, the others that were on `w` lose their focus, and
  those that were not keep theirs. -/
  focus : ∀ seat record, s.seats.get? seat = some record →
    ∃ record', s'.seats.get? seat = some record' ∧ record'.focusedWindow =
      if record.focusedWindow = some w then if record.hasKeyboard then heir else none
      else record.focusedWindow
  live : ∀ x, heir = some x → s'.isLive x
  count : ∀ x window, heir = some x → s.windows.get? x = some window →
    ∃ window', s'.windows.get? x = some window' ∧
      window'.focusCount = window.focusCount + (s.typists w).length

theorem mem_typists (h : s.seats.Ordered) : seat ∈ s.typists w ↔
    ∃ record, s.seats.get? seat = some record ∧ record.hasKeyboard ∧
      record.focusedWindow = some w := by
  rw [typists, List.mem_filter, mem_focusedOn h]
  constructor
  · rintro ⟨hf, hk⟩
    obtain ⟨record, hr, hfocus⟩ := Option.bind_eq_some_iff.1 hf
    exact ⟨record, hr, hasKeyboard_eq hr ▸ hk, hfocus⟩
  · rintro ⟨record, hr, hk, hfocus⟩
    exact ⟨(focusedWindow_eq hr).trans hfocus, (hasKeyboard_eq hr).trans hk⟩

/-- Where seats are once those on `w` have turned and the focus left on `w` has ended. -/
theorem Turns.ended (h : Turns heir (s.seats.focusedOn w) s s') (ho : s.seats.Ordered)
    (hne : heir ≠ some w) (hr : s.seats.get? seat = some record) :
    (s'.focusedWindow seat).filter (· ≠ w) =
      if record.focusedWindow = some w then if record.hasKeyboard then heir else none
      else record.focusedWindow := by
  have hother {o : Option WindowId} (hn : o ≠ some w) : o.filter (· ≠ w) = o := by
    cases o with
    | none => rfl
    | some x => exact Option.filter_some_pos (decide_eq_true fun he => hn (congrArg some he))
  have hturned : seat ∈ s.seats.focusedOn w ∧ s.hasKeyboard seat ↔
      record.focusedWindow = some w ∧ record.hasKeyboard := by
    rw [mem_focusedOn ho, hasKeyboard_eq hr, focusedWindow_eq hr]
  rw [h.focus, if_congr hturned rfl rfl, focusedWindow_eq hr]
  by_cases hf : record.focusedWindow = some w
  · cases hk : record.hasKeyboard with
    | true => rw [if_pos ⟨hf, rfl⟩, if_pos hf, if_pos rfl, hother hne]
    | false =>
      rw [if_neg (by simp), if_pos hf, if_neg (by simp), hf]
      exact Option.filter_some_neg (by simp)
  · rw [if_neg fun hn => hf hn.1, if_neg hf, hother hf]

end Shell

theorem Reached.live_heir (h : Reached config d) (hw : d.shell.isLive w)
    (hx : d.shell.heirOf w = some x) : d.shell.isLive x ∧ x ≠ w := by
  have hheir := (h.heirOf_iff hw).1 hx
  exact ⟨Shell.isLive_of_isMapped hheir.mapped, hheir.ne⟩

theorem Reached.turnedOver_turns (h : Reached config d) (hw : d.shell.isLive w) :
    Shell.Turns (d.shell.heirOf w) (d.shell.seats.focusedOn w) d.shell (d.turnedOver w).shell :=
  Desktop.foldl_focusSeat_turns _ h.sound (Shell.nodup_focusedOn h.seats_ordered w)
    (fun _ => (Shell.mem_focusedOn h.seats_ordered).1) fun _ hx => h.live_heir hw hx

/-- The focus of a window that is removed goes to its heir. -/
theorem Reached.focus_handed_over (h : Reached config d) (hw : d.shell.isLive w) :
    (∀ heir, d.shell.heirOf w = heir ↔ d.shell.IsHeir w heir) ∧
    Shell.HandsOver w (d.shell.heirOf w) d.shell (d.dispatch (.windowRemoved w)).2.shell := by
  have hseats := h.seats_ordered
  have hturned := d.turnedOver_turned w
  have hturns := h.turnedOver_turns hw
  obtain ⟨hfocus, hcount⟩ :=
    (h.turnedOver w).destroyWindow_unfocuses ((hturned.isLive w).trans hw)
  refine ⟨fun heir => h.heirOf_iff hw, ?_⟩
  show Shell.HandsOver w (d.shell.heirOf w) d.shell (d.windowRemoved w).shell
  rw [Desktop.windowRemoved_of_live hw]
  refine ⟨(Shell.nodup_focusedOn hseats w).filter _, fun seat => Shell.mem_typists hseats,
    fun seat record hr => ?_, fun x hx => ?_, fun x window hx hwindow => ?_⟩
  · have hcontains : ((d.turnedOver w).destroyWindow w).shell.seats.contains seat :=
      ((Desktop.destroyWindow_drift _ w).seats seat).trans
        ((hturned.contains seat).trans (Option.isSome_iff_exists.2 ⟨record, hr⟩))
    obtain ⟨record', hr'⟩ := Option.isSome_iff_exists.1 hcontains
    refine ⟨record', hr', ?_⟩
    rw [← Shell.focusedWindow_eq hr', hfocus]
    exact hturns.ended hseats (fun he => (h.live_heir hw he).2 rfl) hr
  · obtain ⟨hlive, hne⟩ := h.live_heir hw hx
    rw [← Desktop.windowRemoved_of_live hw, (h.windowRemoved_spliced hw).stay x hne]
    exact hlive
  · have hgrown : ((d.turnedOver w).destroyWindow w).shell.focusCountOf x =
        some (window.focusCount + (d.shell.typists w).length) := by
      rw [hcount x (h.live_heir hw hx).2, hturns.count x hx, Shell.focusCountOf, hwindow]
      rfl
    exact Option.map_eq_some_iff.1 hgrown

/-- The child in a mapped family of three is focused by two seats with a keyboard and by one that
has lost its own. -/
def sharedRun : List Action := stackRun ++
  [.event (.seatAdded ⟨8⟩ "seat1" true), .event (.seatAdded ⟨9⟩ "seat2" true),
    .event (.keyboardFocusChanged ⟨1, 1⟩ (some ⟨1, 1⟩)),
    .event (.keyboardFocusChanged ⟨2, 1⟩ (some ⟨1, 1⟩)),
    .event (.seatCapabilitiesChanged ⟨2, 1⟩ false)]

theorem isSome_sharedRun : ((Desktop.fresh .default).run sharedRun).isSome := by decide +kernel

/-- When the child goes, the grandchild moves up to the root and gets the focus of two seats. -/
theorem focus_handed_over_sharedRun : ∃ d, Reached .default d ∧
    d.shell.focusedWindow ⟨2, 1⟩ = some ⟨1, 1⟩ ∧ d.shell.typists ⟨1, 1⟩ = [⟨0, 1⟩, ⟨1, 1⟩] ∧
    Windows.parentOf d.shell.windows ⟨2, 1⟩ = some ⟨1, 1⟩ ∧
    d.shell.IsHeir ⟨1, 1⟩ (some ⟨2, 1⟩) ∧
    Shell.HandsOver ⟨1, 1⟩ (some ⟨2, 1⟩) d.shell
      (d.dispatch (.windowRemoved ⟨1, 1⟩)).2.shell := by
  have hreached : Reached .default _ := Reached.run _ .fresh (Option.some_get isSome_sharedRun).symm
  have hheir : (((Desktop.fresh .default).run sharedRun).get
      isSome_sharedRun).shell.heirOf ⟨1, 1⟩ = some ⟨2, 1⟩ := by decide +kernel
  obtain ⟨hsearch, hhands⟩ :=
    Reached.focus_handed_over (w := ⟨1, 1⟩) hreached (by decide +kernel)
  exact ⟨_, hreached, by decide +kernel, by decide +kernel, by decide +kernel,
    (hsearch _).1 hheir, hheir ▸ hhands⟩

end Kiosk
