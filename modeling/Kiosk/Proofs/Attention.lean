import Kiosk.Proofs.Absorbed
import Kiosk.Proofs.Seating

/-!
# What becomes of the focus of one seat

An action leaves the keyboard focus of a seat alone and tells the host nothing of it, or the
seat turns and the host is told the same, or the seat loses a window that goes away, or the
host reports where the focus is (`Desktop.Heeds`, `Reached.act_heeds`). A seat turns only
while it has a keyboard.

Operations that end no window are followed by what they leave of the records of seats and of
the surfaces of windows (`Desktop.Minds`).
-/

namespace Kiosk

variable {config : Config} {d d' d'' : Desktop} {s s' : Shell} {w x : WindowId}
  {seat j : SeatId} {handle : SeatHandle} {record : Seat} {a : Action}

/-! ## What the host is told -/

theorem Assoc.get?_set {κ α : Type} [DecidableEq κ] (m : Assoc κ α) (k j : κ) (v : Option α) :
    (m.set k v).get? j = if j = k then v else m.get? j := by
  cases v with
  | none => exact m.get?_erase k j
  | some v => exact m.get?_insert k j v

/-- `h'` is `h` told nothing about the focus of the seat `handle`. -/
structure Host.Spares (handle : SeatHandle) (h h' : Host) : Prop where
  told : h'.keyboardFocus.get? handle = h.keyboardFocus.get? handle
  log : ∃ cs, h'.log = h.log ++ cs ∧ ∀ c ∈ cs, c.seat? ≠ some handle

namespace Host

variable {h h' h'' : Host}

theorem Spares.trans (hs : Spares handle h h') (hs' : Spares handle h' h'') :
    Spares handle h h'' := by
  obtain ⟨cs, hl, hc⟩ := hs.log
  obtain ⟨cs', hl', hc'⟩ := hs'.log
  refine ⟨hs'.told.trans hs.told, cs ++ cs', by rw [hl', hl, List.append_assoc], fun c hm => ?_⟩
  exact (List.mem_append.1 hm).elim (hc c) (hc' c)

theorem Idle.spares (hi : Idle h h') (handle : SeatHandle) : Spares handle h h' := by
  obtain ⟨cs, hl, hc⟩ := hi.log
  exact ⟨by rw [hi.keyboardFocus], cs, hl, fun c hm => by simp [hc c hm]⟩

theorem setKeyboardFocus_spares {other : SeatHandle} (hne : other ≠ handle) (h : Host)
    (surface : Option SurfaceHandle) : Spares handle h (h.setKeyboardFocus other surface) := by
  refine ⟨?_, [.setKeyboardFocus other surface], rfl, by simpa [Command.seat?] using hne⟩
  exact (h.keyboardFocus.get?_set other handle surface).trans (if_neg (Ne.symm hne))

end Host

namespace Shell

/-- The surface of the window with the keyboard focus of `seat`. -/
def focusedSurface (s : Shell) (seat : SeatId) : Option SurfaceHandle :=
  (s.focusedWindow seat).bind s.surfaceOf

theorem KeepsSurfaces.isLive (h : s.KeepsSurfaces s') (hw : s.isLive w) : s'.isLive w := by
  obtain ⟨window, hwindow⟩ := Option.isSome_iff_exists.1 hw
  obtain ⟨window', hwindow', -⟩ := Option.map_eq_some_iff.1
    (h w window.surface (congrArg (Option.map Window.surface) hwindow))
  exact Option.isSome_iff_exists.2 ⟨window', hwindow'⟩

/-- A seat that stays on its window stays on its surface. -/
theorem KeepsSurfaces.focusedSurface (h : s.KeepsSurfaces s')
    (hlive : ∀ w, s.focusedWindow seat = some w → s.isLive w)
    (hf : s'.focusedWindow seat = s.focusedWindow seat) :
    s'.focusedSurface seat = s.focusedSurface seat := by
  rw [Shell.focusedSurface, hf, Shell.focusedSurface]
  cases hw : s.focusedWindow seat with
  | none => rfl
  | some w =>
    obtain ⟨window, hwindow⟩ := Option.isSome_iff_exists.1 (hlive w hw)
    have hsurface : s.surfaceOf w = some window.surface :=
      congrArg (Option.map Window.surface) hwindow
    exact (h w _ hsurface).trans hsurface.symm

/-- A seat that appears has no focus. -/
theorem focusedWindow_addSeat (s : Shell) (handle : SeatHandle) (name : String)
    (hasKeyboard : Bool) (j : SeatId) :
    (s.addSeat handle name hasKeyboard).2.focusedWindow j = s.focusedWindow j := by
  show ((s.seats.insert _).2.get? j).bind _ = _
  rw [Roster.get?_insert]
  split
  · next hj =>
    rw [hj, focusedWindow, Roster.get?, Roster.insert, Arena.get?_insert_self]
    rfl
  · rfl

theorem focusedWindow_setHasKeyboard (s : Shell) (seat : SeatId) (hasKeyboard : Bool)
    (j : SeatId) : (s.setHasKeyboard seat hasKeyboard).focusedWindow j = s.focusedWindow j := by
  show ((s.modifySeat seat _).seats.get? j).bind _ = _
  rw [get?_modifySeat]
  split
  · next hj =>
    rw [hj, Option.bind_map]
    rfl
  · rfl

end Shell

/-! ## Seats that turn -/

namespace Desktop

/-- The host has been told the focus that `seat` has, which is on a window that is there. -/
structure Agrees (seat : SeatId) (handle : SeatHandle) (d : Desktop) : Prop where
  told : d.host.keyboardFocus.get? handle = d.shell.focusedSurface seat
  live : ∀ w, d.shell.focusedWindow seat = some w → d.shell.isLive w

/-- From `d` to `d'`, windows stayed, and so did seats but for their focus. That of `seat` either
stayed, or was moved while `seat` had a keyboard, and the host was told so. -/
structure Minds (seat : SeatId) (handle : SeatHandle) (d d' : Desktop) : Prop where
  surfaces : d.shell.KeepsSurfaces d'.shell
  seats : ∀ j, (d'.shell.seats.get? j).map Seat.unfocused =
    (d.shell.seats.get? j).map Seat.unfocused
  focus : d'.shell.focusedWindow seat = d.shell.focusedWindow seat ∧
      d.host.Spares handle d'.host ∨
    d.shell.hasKeyboard seat ∧ d'.Agrees seat handle

namespace Minds

theorem trans (h : Minds seat handle d d') (h' : Minds seat handle d' d'') :
    Minds seat handle d d'' where
  surfaces := h.surfaces.trans h'.surfaces
  seats j := (h'.seats j).trans (h.seats j)
  focus := by
    rcases h'.focus with ⟨hf', hs'⟩ | ⟨hk, hagrees⟩
    · rcases h.focus with ⟨hf, hs⟩ | ⟨hk, hagrees⟩
      · exact .inl ⟨hf'.trans hf, hs.trans hs'⟩
      · refine .inr ⟨hk, ?_, fun w hw => ?_⟩
        · rw [hs'.told, hagrees.told]
          exact (h'.surfaces.focusedSurface hagrees.live hf').symm
        · exact h'.surfaces.isLive (hagrees.live w (hf' ▸ hw))
    · exact .inr ⟨(Shell.hasKeyboard_of_unfocused (h.seats seat)).symm.trans hk, hagrees⟩

/-- Seats stay what they are. -/
theorem of_seats (hw : d.shell.KeepsSurfaces d'.shell) (hs : d'.shell.seats = d.shell.seats)
    (hh : d.host.Idle d'.host) : Minds seat handle d d' :=
  ⟨hw, fun _ => by rw [hs], .inl ⟨by rw [Shell.focusedWindow, hs, Shell.focusedWindow],
    hh.spares handle⟩⟩

theorem refl (d : Desktop) : Minds seat handle d d := of_seats (.of_eq fun _ => rfl) rfl (.refl _)

end Minds

theorem Idle.minds (h : Idle d d') : Minds seat handle d d' := .of_seats h.surfaces h.seats h.host

theorem Turned.surfaceOf (h : Turned d d') (x : WindowId) :
    d'.shell.surfaceOf x = d.shell.surfaceOf x :=
  h.map_eq Window.surface (fun _ => rfl) x

theorem releaseFocus_hostIdle (d : Desktop) (seat : SeatId) :
    d.host.Idle (d.releaseFocus seat).host := by
  unfold releaseFocus
  split
  · exact .refl _
  · dsimp only
    split
    · exact .refl _
    · split
      · exact .of_record rfl rfl rfl
      · exact .refl _

theorem takeFocus_hostIdle (d : Desktop) (seat : SeatId) (w : WindowId) :
    d.host.Idle (d.takeFocus seat w).host := by
  cases hw : d.shell.windows.get? w with
  | none =>
    rw [takeFocus, hw]
    exact .refl _
  | some window =>
    rw [takeFocus_of_some hw]
    dsimp only
    split
    · exact .of_record rfl rfl rfl
    · exact .refl _

theorem keyboardFocusChanged_hostIdle (d : Desktop) (seat : SeatId) (focus : Option WindowId) :
    d.host.Idle (d.keyboardFocusChanged seat focus).host :=
  keyboardFocusChanged_cases (P := fun d' => d.host.Idle d'.host) seat focus (.refl _)
    (d.releaseFocus_hostIdle seat) fun w _ _ _ =>
      (d.releaseFocus_hostIdle seat).trans (takeFocus_hostIdle _ seat w)

/-- A seat with a keyboard turns to what is reported, and no other seat does. -/
theorem focusedWindow_keyboardFocusChanged (h : d.shell.Sound)
    (hr : d.shell.seats.get? seat = some record) (hk : record.hasKeyboard = true)
    (focus : Option WindowId) (j : SeatId) :
    (d.keyboardFocusChanged seat focus).shell.focusedWindow j =
      if j = seat then focus.filter d.shell.isLive else d.shell.focusedWindow j := by
  obtain ⟨hfreed, -⟩ := releaseFocus_frees h seat
  have hseat := Shell.focusedWindow_eq hr
  unfold keyboardFocusChanged
  rw [hr]
  dsimp only
  split
  · next hsame =>
    rw [hk, Bool.not_true, Bool.false_or, decide_eq_true_eq] at hsame
    split
    · next hj => rw [hj, hseat, hsame]
    · rfl
  · split
    · next hfocus => rw [hfreed, hfocus]
    · next w hfocus =>
      have hlive := (Option.filter_eq_some_iff.1 hfocus).2
      have hcontains : (d.releaseFocus seat).shell.seats.contains seat := by
        rw [contains_releaseFocus]
        exact Option.isSome_iff_exists.2 ⟨record, hr⟩
      obtain ⟨htaken, -⟩ := takeFocus_counts hcontains
        (((d.releaseFocus_turned seat).isLive w).trans hlive)
      rw [htaken, hfreed, hfocus]
      split <;> rfl

/-- A seat without a keyboard ignores what is reported. -/
theorem keyboardFocusChanged_of_no_keyboard (hk : d.shell.hasKeyboard seat = false)
    (focus : Option WindowId) : d.keyboardFocusChanged seat focus = d := by
  unfold keyboardFocusChanged
  split
  · rfl
  · next record hr =>
    rw [Shell.hasKeyboard_eq hr] at hk
    exact if_pos (by rw [hk]; rfl)

theorem focusSeat_of_no_keyboard (hk : d.shell.hasKeyboard seat = false) (w : Option WindowId) :
    d.focusSeat seat w = d := by
  unfold focusSeat
  split
  · rfl
  · next record hr =>
    rw [Shell.hasKeyboard_eq hr] at hk
    exact if_neg (by rw [hk]; simp)

theorem focusSeat_of_keyboard (hr : d.shell.seats.get? seat = some record)
    (hk : record.hasKeyboard = true) (w : Option WindowId) : d.focusSeat seat w =
      (d.tell (·.setKeyboardFocus record.handle
        ((w.bind d.shell.windows.get?).map Window.surface))).keyboardFocusChanged seat w := by
  rw [focusSeat, hr]
  exact if_pos hk

/-- The host is told of the surface of the window that the seat turns to. -/
theorem focusSeat_agrees (h : d.shell.Sound) (hr : d.shell.seats.get? seat = some record)
    (hk : record.hasKeyboard = true) (w : Option WindowId) :
    (d.focusSeat seat w).Agrees seat record.handle := by
  have hturned := d.focusSeat_turned seat w
  have hfocus : (d.focusSeat seat w).shell.focusedWindow seat = w.filter d.shell.isLive := by
    rw [focusSeat_of_keyboard hr hk]
    exact (focusedWindow_keyboardFocusChanged (d := d.tell _) h hr hk w seat).trans (if_pos rfl)
  refine ⟨?_, fun x hx => ?_⟩
  · have htold : (d.focusSeat seat w).host.keyboardFocus.get? record.handle =
        (w.bind d.shell.windows.get?).map Window.surface := by
      rw [focusSeat_of_keyboard hr hk, (keyboardFocusChanged_hostIdle _ seat w).keyboardFocus]
      exact (Assoc.get?_set ..).trans (if_pos rfl)
    rw [htold, Shell.focusedSurface, hfocus]
    cases w with
    | none => rfl
    | some x =>
      rw [Option.filter_some]
      cases hx : d.shell.isLive x with
      | true => exact (hturned.surfaceOf x).symm
      | false => exact congrArg _ (Shell.get?_of_not_live hx)
  · rw [hfocus, Option.filter_eq_some_iff] at hx
    exact (hturned.isLive x).trans hx.2

/-- No seat minds that another turns. -/
theorem focusSeat_spares (h : d.shell.Sound) (ho : d.shell.Owns seat handle) (hj : j ≠ seat)
    (w : Option WindowId) : (d.focusSeat j w).shell.focusedWindow seat =
      d.shell.focusedWindow seat ∧ d.host.Spares handle (d.focusSeat j w).host := by
  cases hk : d.shell.hasKeyboard j with
  | false =>
    rw [focusSeat_of_no_keyboard hk]
    exact ⟨rfl, (Host.Idle.refl _).spares handle⟩
  | true =>
    obtain ⟨record, hr, hk⟩ := (Option.any_eq_true ..).1 hk
    rw [focusSeat_of_keyboard hr hk]
    generalize (w.bind d.shell.windows.get?).map Window.surface = surface
    have hother : record.handle ≠ handle := fun he => hj ((ho j _ (Shell.handleOf_eq hr)).1 he)
    have hidle := keyboardFocusChanged_hostIdle
      (d.tell (·.setKeyboardFocus record.handle surface)) j w
    exact ⟨(focusedWindow_keyboardFocusChanged (d := d.tell _) h hr hk w seat).trans
      (if_neg (Ne.symm hj)),
      (Host.setKeyboardFocus_spares hother d.host surface).trans (hidle.spares handle)⟩

theorem focusSeat_minds (h : d.shell.Sound) (ho : d.shell.Owns seat handle) (j : SeatId)
    (w : Option WindowId) : Minds seat handle d (d.focusSeat j w) := by
  have hturned := d.focusSeat_turned j w
  refine ⟨.of_eq hturned.surfaceOf, hturned.seats, ?_⟩
  by_cases hj : j = seat
  · subst hj
    cases hk : d.shell.hasKeyboard j with
    | false =>
      rw [focusSeat_of_no_keyboard hk]
      exact .inl ⟨rfl, (Host.Idle.refl _).spares handle⟩
    | true =>
      obtain ⟨record, hr, hrecord⟩ := (Option.any_eq_true ..).1 hk
      obtain rfl := (ho j _ (Shell.handleOf_eq hr)).2 rfl
      exact .inr ⟨rfl, focusSeat_agrees h hr hrecord w⟩
  · exact .inl (focusSeat_spares h ho hj w)

theorem foldl_focusSeat_minds (w : Option WindowId) : ∀ (seats : List SeatId) {d : Desktop},
    d.shell.Sound → d.shell.Owns seat handle →
    Minds seat handle d (seats.foldl (fun d seat => d.focusSeat seat w) d)
  | [], d, _, _ => .refl d
  | j :: seats, _, h, ho =>
    have hone := focusSeat_minds h ho j w
    hone.trans (foldl_focusSeat_minds w seats (focusSeat_sound h j w) (ho.congr hone.seats))

theorem activateWindow_minds (h : d.shell.Sound) (ho : d.shell.Owns seat handle) (j : SeatId)
    (w : WindowId) : Minds seat handle d (d.activateWindow j w) := by
  unfold activateWindow
  split
  · exact .refl d
  · next window hw =>
    dsimp only
    split
    · next hup =>
      have hsound := (Move.raise hw (Bool.and_eq_true_iff.1 hup).2).sound h
      exact (d.raiseWindow_idle w window.view).minds.trans (focusSeat_minds hsound ho j (some w))
    · exact focusSeat_minds h ho j (some w)

theorem touchDown_minds (h : d.shell.Sound) (ho : d.shell.Owns seat handle) (j : SeatId)
    (focus : Option WindowId) (defaultGrab : Bool) :
    Minds seat handle d (d.touchDown j focus defaultGrab) := by
  unfold touchDown
  split
  · exact activateWindow_minds h ho j _
  · exact .refl d

theorem sound_of_moves (h : d.shell.Sound) (hm : Moves d d') : d'.shell.Sound := by
  induction hm with
  | refl => exact h
  | tail _ hmove ih => exact hmove.sound ih

theorem windowAdded_minds (h : d.shell.Sound) (ho : d.shell.Owns seat handle)
    (surface : SurfaceHandle) (appId : Option String) (parent : Option WindowId) :
    Minds seat handle d (d.windowAdded surface appId parent).2 := by
  have hcreated := d.createWindow_idle surface appId
  have hsound := createWindow_sound h surface appId
  unfold windowAdded
  split
  · next he =>
    rw [he] at hcreated
    exact hcreated.minds
  · next w d₁ he =>
    rw [he] at hcreated hsound
    -- Whichever way the new window is placed, seats turn to it after that.
    have hturn {d₂ : Desktop} (hs : Steady d₁ d₂) (hm : Moves d₁ d₂) : Minds seat handle d
        (d₂.shell.seats.withKeyboard.foldl (fun d seat => d.focusSeat seat (some w)) d₂) := by
      have hplaced : Minds seat handle d d₂ := (hcreated.trans hs.idle).minds
      exact hplaced.trans
        (foldl_focusSeat_minds _ _ (sound_of_moves hsound hm) (ho.congr hplaced.seats))
    dsimp only
    split
    · exact hturn (d₁.setParent_steady w _) (setParent_moves d₁ w _)
    · exact hturn (d₁.setFullscreen_settles w none).steady (d₁.setFullscreen_settles w none).moves

/-! ## Windows that go away -/

theorem destroyWindow_hostIdle (d : Desktop) (w : WindowId) :
    d.host.Idle (d.destroyWindow w).host := by
  cases hw : d.shell.windows.get? w with
  | none =>
    rw [destroyWindow, hw]
    exact .refl _
  | some window =>
    obtain ⟨d₁, hwane, -, he⟩ := destroyWindow_eq hw
    have herased : d.host.Idle (d.erased w window).host := .of_record rfl rfl rfl
    rw [he]
    exact (herased.trans hwane.host.idle).trans (.of_record rfl rfl rfl)

end Desktop

theorem Reached.surfaceOf_destroyWindow (h : Reached config d) (hw : d.shell.isLive w)
    (hx : x ≠ w) : (d.destroyWindow w).shell.surfaceOf x = d.shell.surfaceOf x := by
  have hrest := (Desktop.destroyWindow_spliced h.sound (h.lined w) hw).rest x hx
  have hsurface := congrArg (Option.map Window.surface) hrest
  rwa [Option.map_map, Option.map_map] at hsurface

/-- A seat that is on another window does not notice. -/
theorem Reached.destroyWindow_keeps (h : Reached config d) (hw : d.shell.isLive w)
    (hf : d.shell.focusedWindow seat ≠ some w) :
    (d.destroyWindow w).shell.focusedWindow seat = d.shell.focusedWindow seat ∧
    (d.destroyWindow w).shell.focusedSurface seat = d.shell.focusedSurface seat := by
  have hfocus : (d.destroyWindow w).shell.focusedWindow seat = d.shell.focusedWindow seat := by
    rw [(h.destroyWindow_unfocuses hw).1 seat]
    cases hx : d.shell.focusedWindow seat with
    | none => rfl
    | some x => exact Option.filter_some_pos (decide_eq_true fun he => hf (he ▸ hx))
  refine ⟨hfocus, ?_⟩
  rw [Shell.focusedSurface, hfocus, Shell.focusedSurface]
  cases hx : d.shell.focusedWindow seat with
  | none => rfl
  | some x => exact h.surfaceOf_destroyWindow hw fun he => hf (he ▸ hx)

theorem Reached.destroyWindow_loses (h : Reached config d)
    (hf : d.shell.focusedWindow seat = some w) :
    (d.destroyWindow w).shell.focusedWindow seat = none ∧
    (d.destroyWindow w).shell.isLive w = false := by
  have hw := h.sound.isLive_of_focusedWindow hf
  refine ⟨?_, (Desktop.destroyWindow_spliced h.sound (h.lined w) hw).gone⟩
  rw [(h.destroyWindow_unfocuses hw).1 seat, hf]
  exact Option.filter_some_neg (by simp)

/-! ## Actions -/

/-- What `a`, which leads from `d` to `d'`, does to the focus of `seat`. -/
inductive Desktop.Heeds (seat : SeatId) (handle : SeatHandle) (a : Action) (d d' : Desktop) : Prop
  /-- Nothing. -/
  | spared (hf : d'.shell.focusedWindow seat = d.shell.focusedWindow seat)
      (hs : d'.shell.focusedSurface seat = d.shell.focusedSurface seat)
      (hh : d.host.Spares handle d'.host)
  /-- The shell moves it, and tells the host where to. -/
  | turned (hk : d.shell.hasKeyboard seat) (hagrees : d'.Agrees seat handle)
  /-- It was on a window that goes away, and the host is not told. -/
  | lost {w : WindowId} (ha : a = .event (.windowRemoved w) ∧ d.shell.hasKeyboard seat = false ∨
        a = .call (.destroyWindow w))
      (hf : d.shell.focusedWindow seat = some w) (hgone : d'.shell.isLive w = false)
      (hnone : d'.shell.focusedWindow seat = none) (hh : d.host.Spares handle d'.host)
  /-- The host says where it is. -/
  | reported {focus : Option WindowId} (ha : a = .event (.keyboardFocusChanged seat focus))
      (hk : d.shell.hasKeyboard seat)

namespace Desktop

theorem Heeds.of_surfaces (h : d.shell.Sound) (hw : ∀ x, d'.shell.surfaceOf x = d.shell.surfaceOf x)
    (hf : d'.shell.focusedWindow seat = d.shell.focusedWindow seat) (hh : d.host.Idle d'.host) :
    Heeds seat handle a d d' :=
  .spared hf ((Shell.KeepsSurfaces.of_eq hw).focusedSurface (fun _ => h.isLive_of_focusedWindow) hf)
    (hh.spares handle)

theorem Minds.heeds (hm : Minds seat handle d d') (h : d.shell.Sound) :
    Heeds seat handle a d d' := by
  rcases hm.focus with ⟨hf, hh⟩ | ⟨hk, hagrees⟩
  · exact .spared hf (hm.surfaces.focusedSurface (fun _ => h.isLive_of_focusedWindow) hf) hh
  · exact .turned hk hagrees

/-- Seats may turn before a window goes away. -/
theorem Minds.destroyWindow (hm : Minds seat handle d d') (h : d.shell.Sound)
    (h' : Reached config d') (hw : d'.shell.isLive w)
    (hne : d'.shell.focusedWindow seat ≠ some w) :
    Heeds seat handle a d (d'.destroyWindow w) := by
  obtain ⟨hfocus, hsurface⟩ := h'.destroyWindow_keeps hw hne
  have hhost := (d'.destroyWindow_hostIdle w).spares handle
  rcases hm.focus with ⟨hf, hh⟩ | ⟨hk, hagrees⟩
  · have hsame := hm.surfaces.focusedSurface (fun _ => h.isLive_of_focusedWindow) hf
    exact .spared (hfocus.trans hf) (hsurface.trans hsame) (hh.trans hhost)
  · refine .turned hk ⟨?_, fun x hx => ?_⟩
    · rw [hhost.told, hagrees.told, hsurface]
    · exact (destroyWindow_sound h'.sound w).isLive_of_focusedWindow hx

end Desktop

/-- A removed window is left by the seats with a keyboard before it goes away, and lost by the
others. -/
theorem Reached.windowRemoved_heeds (h : Reached config d) (ho : d.shell.Owns seat handle)
    (w : WindowId) :
    Desktop.Heeds seat handle (.event (.windowRemoved w)) d (d.windowRemoved w) := by
  cases hw : d.shell.isLive w with
  | false =>
    rw [Desktop.windowRemoved, hw]
    exact (Desktop.Minds.refl d).heeds h.sound
  | true =>
    have hturns := h.turnedOver_turns hw
    have hminds : Desktop.Minds seat handle d (d.turnedOver w) :=
      Desktop.foldl_focusSeat_minds _ _ h.sound ho
    have hlive := ((d.turnedOver_turned w).isLive w).trans hw
    rw [Desktop.windowRemoved_of_live hw]
    by_cases hf : d.shell.focusedWindow seat = some w
    · have hon : seat ∈ d.shell.seats.focusedOn w := (Shell.mem_focusedOn h.seats_ordered).2 hf
      have hfocus := hturns.focus seat
      cases hk : d.shell.hasKeyboard seat with
      | true =>
        rw [if_pos ⟨hon, hk⟩] at hfocus
        refine hminds.destroyWindow h.sound (h.turnedOver w) hlive fun hheir => ?_
        exact (h.live_heir hw (hfocus.symm.trans hheir)).2 rfl
      | false =>
        rw [if_neg (by simp [hk]), hf] at hfocus
        obtain ⟨hnone, hgone⟩ := (h.turnedOver w).destroyWindow_loses hfocus
        rcases hminds.focus with ⟨-, hh⟩ | ⟨hk', -⟩
        · exact .lost (.inl ⟨rfl, hk⟩) hf hgone hnone
            (hh.trans ((Desktop.destroyWindow_hostIdle _ w).spares handle))
        · rw [hk] at hk'
          cases hk'
    · refine hminds.destroyWindow h.sound (h.turnedOver w) hlive ?_
      rw [hturns.focus, if_neg fun hon => hf ((Shell.mem_focusedOn h.seats_ordered).1 hon.1)]
      exact hf

theorem Reached.destroyWindow_heeds (h : Reached config d) (w : WindowId) :
    Desktop.Heeds seat handle (.call (.destroyWindow w)) d (d.destroyWindow w) := by
  cases hw : d.shell.isLive w with
  | false =>
    rw [Desktop.destroyWindow, Shell.get?_of_not_live hw]
    exact (Desktop.Minds.refl d).heeds h.sound
  | true =>
    by_cases hf : d.shell.focusedWindow seat = some w
    · obtain ⟨hnone, hgone⟩ := h.destroyWindow_loses hf
      exact .lost (.inr rfl) hf hgone hnone ((d.destroyWindow_hostIdle w).spares handle)
    · exact (Desktop.Minds.refl d).destroyWindow h.sound h hw hf

namespace Desktop

theorem seatRemoved_heeds (h : d.shell.Sound) (hj : j ≠ seat) :
    Heeds seat handle a d (d.seatRemoved j) := by
  refine .of_surfaces h ((d.seatRemoved_aside j).map_eq Window.surface fun _ => rfl) ?_
    (d.releaseFocus_hostIdle j)
  have hfreed := (releaseFocus_frees h j).1 seat
  rw [if_neg (Ne.symm hj)] at hfreed
  rwa [Shell.focusedWindow, get?_seatRemoved, if_neg (Ne.symm hj)]

theorem keyboardFocusChanged_heeds (h : d.shell.Sound) (j : SeatId) (focus : Option WindowId) :
    Heeds seat handle (.event (.keyboardFocusChanged j focus)) d
      (d.keyboardFocusChanged j focus) := by
  cases hk : d.shell.hasKeyboard j with
  | false =>
    rw [keyboardFocusChanged_of_no_keyboard hk]
    exact (Minds.refl d).heeds h
  | true =>
    by_cases hj : j = seat
    · subst hj
      exact .reported rfl hk
    · refine .of_surfaces h (d.keyboardFocusChanged_turned j focus).surfaceOf ?_
        (d.keyboardFocusChanged_hostIdle j focus)
      obtain ⟨record, hr, hk⟩ := (Option.any_eq_true ..).1 hk
      exact (focusedWindow_keyboardFocusChanged h hr hk focus seat).trans (if_neg (Ne.symm hj))

end Desktop

/-- What becomes of the focus of a seat that stays. -/
theorem Reached.dispatch_heeds (h : Reached config d) (ho : d.shell.Owns seat handle) {e : Event}
    (he : e ≠ .seatRemoved seat) : Desktop.Heeds seat handle (.event e) d (d.dispatch e).2 := by
  by_cases hi : e.isIdle
  · exact (Desktop.dispatch_idle hi d).minds.heeds h.sound
  cases e with
  | windowAdded surface appId parent =>
    exact (Desktop.windowAdded_minds h.sound ho surface appId parent).heeds h.sound
  | windowRemoved w => exact h.windowRemoved_heeds ho w
  | moveRequested w j request =>
    refine .of_surfaces h.sound
      ((d.moveRequested_aside w j request).map_eq Window.surface fun _ => rfl) ?_ (.refl _)
    show ((d.shell.moveRequested w j request).2.seats.get? seat).bind _ = _
    rw [Shell.seats_moveRequested]
    rfl
  | seatAdded handle' name hasKeyboard =>
    exact .of_surfaces h.sound (fun _ => rfl)
      (d.shell.focusedWindow_addSeat handle' name hasKeyboard seat) (.refl _)
  | seatCapabilitiesChanged j hasKeyboard =>
    exact .of_surfaces h.sound (fun _ => rfl)
      (d.shell.focusedWindow_setHasKeyboard j hasKeyboard seat) (.refl _)
  | seatRemoved j => exact Desktop.seatRemoved_heeds h.sound fun hj => he (hj ▸ rfl)
  | keyboardFocusChanged j focus => exact Desktop.keyboardFocusChanged_heeds h.sound j focus
  | pointerButton j button focus defaultGrab =>
    show Desktop.Heeds _ _ _ d (if _ then _ else d)
    split
    · exact (Desktop.touchDown_minds h.sound ho j focus defaultGrab).heeds h.sound
    · exact (Desktop.Minds.refl d).heeds h.sound
  | touchDown j focus defaultGrab =>
    exact (Desktop.touchDown_minds h.sound ho j focus defaultGrab).heeds h.sound
  | grabReleased j =>
    refine .of_surfaces h.sound ((d.endGrab_aside j).map_eq Window.surface fun _ => rfl) ?_
      (.refl _)
    show ((d.shell.endGrab j).seats.get? seat).bind _ = _
    rw [Shell.seats_endGrab]
    rfl
  | _ => exact absurd rfl hi

theorem Reached.act_heeds (h : Reached config d) (ho : d.shell.Owns seat handle)
    (hne : a ≠ .event (.seatRemoved seat)) : Desktop.Heeds seat handle a d (d.act a).2 := by
  cases a with
  | event e => exact h.dispatch_heeds ho fun he => hne (he ▸ rfl)
  | call c =>
    by_cases hi : c.isIdle
    · exact (Desktop.call_idle hi d).minds.heeds h.sound
    cases c with
    | destroyWindow w => exact h.destroyWindow_heeds w
    | focusSeat j w => exact (Desktop.focusSeat_minds h.sound ho j w).heeds h.sound
    | activateWindow j w => exact (Desktop.activateWindow_minds h.sound ho j w).heeds h.sound
    | _ => exact absurd rfl hi
  | switch s => exact .of_surfaces h.sound (fun _ => rfl) rfl (d.host.switch_idle s)

end Kiosk
