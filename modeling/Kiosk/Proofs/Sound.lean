import Kiosk.Proofs.Teardown

/-!
# All reachable shells are sound

Every move keeps links, listeners, families and drags in order (`Move.sound`), so
they are in order on every desktop that events and calls can lead to
(`Reached.sound`), whatever was stale and whatever could not be allocated.
-/

namespace Kiosk

open Function (update update_self update_of_ne)

variable {config : Config} {d d' : Desktop} {s : Shell} {w p : WindowId} {seat : SeatId}

/-! ## New records -/

namespace Shell

theorem web_insertWindow (s : Shell) (surface : SurfaceHandle) (view : ViewHandle)
    (appId : Option String) :
    { s with windows := (s.windows.insert (.ofSurface surface view appId)).2 }.web =
      s.web.place (.window (s.windows.insert (.ofSurface surface view appId)).1) (some .empty) := by
  have hget := Arena.get?_insert s.windows (.ofSurface surface view appId)
  have hfresh := Arena.get?_insert_self s.windows (.ofSurface surface view appId)
  generalize s.windows.insert (.ofSurface surface view appId) = e at hget hfresh ⊢
  obtain ⟨w, windows⟩ := e
  dsimp only at hget hfresh ⊢
  refine Web.eq_place (fun l => ?_) ?_ fun t ht => ?_
  · cases l with
    | parent x =>
      show ((windows.get? x).bind Window.parent).map Link.toWindow =
        ((s.windows.get? x).bind Window.parent).map Link.toWindow
      rw [hget]
      split
      · next hx =>
        rw [hx, hfresh]
        rfl
      · rfl
    | boundOutput x =>
      show ((windows.get? x).bind Window.boundOutput).map Link.toOutput =
        ((s.windows.get? x).bind Window.boundOutput).map Link.toOutput
      rw [hget]
      split
      · next hx =>
        rw [hx, hfresh]
        rfl
      · rfl
    | seatFocus seat => rfl
    | grab seat => rfl
  · show (windows.get? w).map Window.signal = _
    rw [hget, if_pos rfl]
    rfl
  · cases t with
    | window x =>
      show (windows.get? x).map Window.signal = _
      rw [hget, if_neg (by simpa using ht)]
      rfl
    | output o => rfl

theorem web_insertOutput (s : Shell) (output : Output) (hsignal : output.signal = .empty) :
    { s with outputs := (s.outputs.insert output).2 }.web =
      s.web.place (.output (s.outputs.insert output).1) (some .empty) := by
  refine Web.eq_place (fun l => ?_) ?_ fun t ht => ?_
  · cases l <;> rfl
  · show ((s.outputs.insert output).2.get? _).map Output.signal = _
    rw [Roster.get?_insert, if_pos rfl, ← hsignal]
    rfl
  · cases t with
    | window x => rfl
    | output j =>
      show ((s.outputs.insert output).2.get? j).map Output.signal = _
      rw [Roster.get?_insert, if_neg (by simpa using ht)]
      rfl

/-- A new seat listens to nothing. -/
theorem web_addSeat (s : Shell) (handle : SeatHandle) (name : String) (hasKeyboard : Bool) :
    (s.addSeat handle name hasKeyboard).2.web = s.web := by
  refine web_congr (fun _ => rfl) (fun _ => rfl) (fun _ => rfl) (fun _ => rfl) (fun j => ?_) rfl
  show ((s.seats.insert _).2.get? j).bind Seat.focused = _
  rw [Roster.get?_insert]
  split
  · next hj =>
    rw [hj, show s.seats.get? (s.seats.insert (.ofHandle handle name hasKeyboard)).1 = none from
      Arena.get?_insert_self _ _]
    rfl
  · rfl

/-- A seat without focus leaves no link behind. -/
theorem web_eraseSeat (h : s.web.link (.seatFocus seat) = none) :
    { s with seats := s.seats.erase seat }.web = s.web := by
  refine web_congr (fun _ => rfl) (fun _ => rfl) (fun _ => rfl) (fun _ => rfl) (fun j => ?_) rfl
  show ((s.seats.erase seat).get? j).bind Seat.focused = _
  rw [Roster.get?_erase]
  split
  · next hj =>
    rw [hj]
    exact (Option.map_eq_none_iff.1 h).symm
  · rfl

end Shell

namespace Shell.Sound

/-- A new record that nothing leads to yet. -/
theorem spawn {t : Target} {s' : Shell} (h : s.Sound) (ht : s.web.signal t = none)
    (hweb : s'.web = s.web.place t (some .empty)) (hc : s'.children = s.children)
    (hs : s'.seats = s.seats) : s'.Sound := by
  have hparent : s'.web.parent = s.web.parent := by
    rw [hweb]
    rfl
  refine ⟨?_, hparent ▸ h.ranked, Web.agree_none.2 rfl, ?_, fun u hu => (nomatch hu), ?_, ?_⟩
  · rw [hweb]
    exact h.exact.spawn ht
  · rw [hparent, hc]
    exact h.children
  · rw [hweb, hs]
    exact h.seated
  · rw [hweb]
    exact h.once

theorem of_web_eq {s' : Shell} (h : s.Sound) (hweb : s'.web = s.web)
    (hc : s'.children = s.children)
    (hs : ∀ seat, s.seats.contains seat → s'.seats.contains seat) : s'.Sound :=
  (Knit.of_web_eq h hweb hc hs).sound

/-- A change of a window that keeps its links and its signal. -/
theorem modifyWindow (h : s.Sound) {f : Window → Window} (hp : ∀ r, (f r).parent = r.parent)
    (hb : ∀ r, (f r).boundOutput = r.boundOutput) (hs : ∀ r, (f r).signal = r.signal)
    (w : WindowId) : (s.modifyWindow w f).Sound :=
  h.of_web_eq (web_modifyWindow hp hb hs s w) rfl fun _ hseat => hseat

theorem modifyOutput (h : s.Sound) {f : Output → Output} (hs : ∀ r, (f r).signal = r.signal)
    (o : OutputId) : (s.modifyOutput o f).Sound :=
  h.of_web_eq (web_modifyOutput hs s o) rfl fun _ hseat => hseat

end Shell.Sound

/-! ## Focus -/

namespace Desktop

/-- A seat without focus has nothing to release. -/
theorem releaseFocus_of_none (h : (d.shell.seats.get? seat).bind Seat.focused = none) :
    d.releaseFocus seat = d := by
  rw [releaseFocus, h]

theorem releaseFocus_of_some {link : Link .window} {window : Window}
    (hf : (d.shell.seats.get? seat).bind Seat.focused = some link)
    (hw : d.shell.windows.get? link.source = some window) :
    d.releaseFocus seat =
      ⟨((d.shell.modifySeat seat ({ · with focused := none })).unwatchWindow link).modifyWindow
          link.source ({ · with focusCount := window.focusCount - 1 }),
        if window.focusCount - 1 = 0 then d.host.setActivated window.surface false
        else d.host⟩ := by
  have hkept : (d.update (·.modifySeat seat ({ · with focused := none }))).shell.windows.get?
      link.source = some window := hw
  unfold releaseFocus
  rw [hf]
  dsimp only
  rw [hkept]
  dsimp only
  split <;> rfl

theorem takeFocus_of_some {window : Window} (hw : d.shell.windows.get? w = some window) :
    d.takeFocus seat w =
      ⟨(((d.shell.modifyWindow w
            ({ · with signal := (window.signal.subscribe (.seatFocus seat)).2 })).modifyWindow w
          ({ · with focusCount := window.focusCount + 1 })).modifySeat seat
          ({ · with focused := some ⟨w, window.signal.nextToken⟩ })),
        if window.focusCount = 0 then d.host.setActivated window.surface true else d.host⟩ := by
  unfold takeFocus
  rw [Shell.watchWindow, hw]
  dsimp only
  show Desktop.update (if _ then _ else _) _ = _
  split <;> rfl

/-- A seat that lets go of its window cuts its link. -/
theorem web_releaseFocus (h : d.shell.Sound) (seat : SeatId) :
    (d.releaseFocus seat).shell.web = d.shell.web.cut (.seatFocus seat) := by
  cases hf : (d.shell.seats.get? seat).bind Seat.focused with
  | none =>
    rw [releaseFocus_of_none hf, Web.cut_of_none]
    exact congrArg (Option.map Link.toWindow) hf
  | some link =>
    obtain ⟨record, hr, -⟩ := Option.bind_eq_some_iff.1 hf
    have hl : d.shell.web.link (.seatFocus seat) = some link.toWindow :=
      congrArg (Option.map Link.toWindow) hf
    obtain ⟨window, hw⟩ := Option.isSome_iff_exists.1
      (Shell.isSome_signal_window.symm.trans (h.exact.live _ _ _ hl))
    rw [releaseFocus_of_some hf hw, Web.cut_of_some hl,
      Shell.web_modifyWindow (fun _ => by rfl) (fun _ => by rfl) (fun _ => by rfl),
      Shell.web_unwatchWindow, Shell.web_setFocusLink (Option.isSome_iff_exists.2 ⟨record, hr⟩)]
    rfl

/-- A seat that takes a window ties a link to it. -/
theorem web_takeFocus (hs : d.shell.seats.contains seat) (hw : d.shell.isLive w) :
    (d.takeFocus seat w).shell.web = d.shell.web.tie (.seatFocus seat) (.window w) := by
  obtain ⟨window, hw⟩ := Option.isSome_iff_exists.1 hw
  obtain ⟨s', -, rfl, hweb⟩ := Shell.watchWindow_of_live hw (.seatFocus seat)
  have hsignal : d.shell.web.signal (.window w) = some window.signal :=
    congrArg (Option.map Window.signal) hw
  rw [takeFocus_of_some hw, Web.tie_of_some hsignal, ← hweb]
  refine (Shell.web_setFocusLink (by exact hs) _).trans ?_
  rw [Shell.web_modifyWindow (fun _ => by rfl) (fun _ => by rfl) (fun _ => by rfl)]
  rfl

theorem children_releaseFocus (d : Desktop) (seat : SeatId) :
    (d.releaseFocus seat).shell.children = d.shell.children := by
  unfold releaseFocus
  split
  · rfl
  · dsimp only
    split
    · rfl
    · split <;> rfl

theorem contains_releaseFocus (d : Desktop) (seat j : SeatId) :
    (d.releaseFocus seat).shell.seats.contains j = d.shell.seats.contains j := by
  unfold releaseFocus
  split
  · rfl
  · dsimp only
    split
    · exact Shell.contains_modifySeat _ _ _ _
    · split <;> exact Shell.contains_modifySeat _ _ _ _

theorem isLive_releaseFocus (h : d.shell.Sound) (seat : SeatId) (w : WindowId) :
    (d.releaseFocus seat).shell.isLive w = d.shell.isLive w := by
  rw [← Shell.isSome_signal_window, web_releaseFocus h, Web.isSome_signal_cut,
    Shell.isSome_signal_window]

theorem releaseFocus_sound (h : d.shell.Sound) (seat : SeatId) :
    (d.releaseFocus seat).shell.Sound := by
  have hcut : Knit none (d.shell.web.cut (.seatFocus seat)) (d.releaseFocus seat).shell :=
    Knit.cut h (fun t ht => nomatch ht) (by simp) (web_releaseFocus h seat)
      (children_releaseFocus d seat) fun j hj => by rwa [contains_releaseFocus]
  exact hcut.sound

theorem takeFocus_sound (h : d.shell.Sound) (hf : d.shell.web.link (.seatFocus seat) = none)
    (hs : d.shell.seats.contains seat) (hw : d.shell.isLive w) :
    (d.takeFocus seat w).shell.Sound := by
  have htie : Knit none (d.shell.web.tie (.seatFocus seat) (.window w))
      (d.takeFocus seat w).shell := by
    refine Knit.tie h hf (fun ht => nomatch ht) trivial (by simp) (by simp) (by simp)
      (web_takeFocus hs hw) ?_ fun j hj => ?_
    · obtain ⟨window, hw⟩ := Option.isSome_iff_exists.1 hw
      rw [takeFocus_of_some hw]
      rfl
    · obtain ⟨window, hw⟩ := Option.isSome_iff_exists.1 hw
      rw [takeFocus_of_some hw, Shell.contains_modifySeat]
      exact hj
  exact htie.sound

theorem keyboardFocusChanged_sound (h : d.shell.Sound) (seat : SeatId) (focus : Option WindowId) :
    (d.keyboardFocusChanged seat focus).shell.Sound := by
  have hreleased := releaseFocus_sound h seat
  have hnone : (d.releaseFocus seat).shell.web.link (.seatFocus seat) = none := by
    rw [web_releaseFocus h, Web.link_cut_self]
  refine keyboardFocusChanged_cases (P := fun d' => d'.shell.Sound) seat focus h hreleased
    fun w _ hseat hlive => takeFocus_sound hreleased hnone ?_ ?_
  · rwa [contains_releaseFocus]
  · rwa [isLive_releaseFocus h]

end Desktop

/-! ## Drags -/

namespace Shell.Sound

theorem endGrab (h : s.Sound) (seat : SeatId) : (s.endGrab seat).Sound := by
  have hcut : Knit none (s.web.cut (.grab seat)) (s.endGrab seat) := by
    refine Knit.cut h (fun t ht => nomatch ht) (by simp) (web_endGrab s seat) ?_ fun j hj => ?_
    · unfold Shell.endGrab
      split <;> rfl
    · unfold Shell.endGrab
      split <;> exact hj
  exact hcut.sound

end Shell.Sound

/-- A window that no seat is found to drag is dragged by none. -/
theorem Shell.grab_ne_of_grabbingSeat (h : s.grabbingSeat w = none) (seat : SeatId) (k : Token) :
    s.web.link (.grab seat) ≠ some (.window w, k) := by
  intro hl
  obtain ⟨grab, hg, hto⟩ := Option.map_eq_some_iff.1 hl
  obtain ⟨before, after, he, -⟩ := List.lookup_eq_some_iff.1 hg
  have hmem : (seat, grab) ∈ s.grabs.entries := by
    rw [he]
    exact List.mem_append_right _ List.mem_cons_self
  have hne := List.find?_eq_none.1 (Option.map_eq_none_iff.1 h) _ hmem
  cases hto
  simp at hne

theorem Shell.Sound.moveRequested (h : s.Sound) (w : WindowId) (seat : SeatId)
    (request : MoveRequest) : (s.moveRequested w seat request).2.Sound := by
  unfold Shell.moveRequested
  split
  · next window device location hw _ =>
    split
    · exact h
    next hfree =>
    rw [Bool.or_eq_true, Bool.or_eq_true, Bool.or_eq_true, not_or, not_or, not_or] at hfree
    obtain ⟨⟨⟨-, hungrabbed⟩, hidle⟩, hseat⟩ := hfree
    have hseat : s.seats.contains seat := by simpa using hseat
    have hnone : s.web.link (.grab seat) = none :=
      Option.map_eq_none_iff.2 (Option.not_isSome_iff_eq_none.1 hidle)
    obtain ⟨s', he, hs', hweb⟩ := Shell.watchWindow_of_live hw (.grab seat)
    rw [he]
    have htie (grab : Grab) (hgrab : grab.window = ⟨w, window.signal.nextToken⟩) :
        Knit none (s.web.tie (.grab seat) (.window w))
          { s' with grabs := s'.grabs.insert seat grab } := by
      refine Knit.tie h hnone (fun ht => nomatch ht) trivial (by simp) (fun j hj => ?_)
        (fun j a k hj => Shell.grab_ne_of_grabbingSeat (by simpa using hungrabbed) a k) ?_ ?_
        fun j hj => ?_
      · cases hj
        rw [hs']
        exact hseat
      · have hsignal : s.web.signal (.window w) = some window.signal :=
          congrArg (Option.map Window.signal) hw
        rw [Shell.web_setGrab, hweb, Web.tie_of_some hsignal, hgrab]
        rfl
      · rw [hs']
        rfl
      · rw [hs']
        exact hj
    exact (htie _ rfl).sound
  · exact h

/-! ## Moves -/

theorem Desktop.createWindow_sound (h : d.shell.Sound) (surface : SurfaceHandle)
    (appId : Option String) : (d.createWindow surface appId).2.shell.Sound := by
  unfold createWindow
  split
  · exact h
  · next view host _ =>
    refine h.spawn ?_ (d.shell.web_insertWindow surface view appId) rfl rfl
    show (d.shell.windows.get? _).map Window.signal = none
    rw [Arena.get?_insert_self]
    rfl

theorem Desktop.outputAdded_sound (h : d.shell.Sound) (handle : OutputHandle) (name : String)
    (area : Rect) : (d.outputAdded handle name area).2.shell.Sound := by
  unfold outputAdded
  split
  · exact h
  · next background host _ =>
    refine h.spawn ?_ (d.shell.web_insertOutput _ ?_) rfl rfl
    · show (d.shell.outputs.get? _).map Output.signal = none
      rw [Roster.get?, Roster.insert, Arena.get?_insert_self]
      rfl
    · rfl

theorem Desktop.seatRemoved_sound (h : d.shell.Sound) (seat : SeatId) :
    (d.seatRemoved seat).shell.Sound := by
  have hreleased := releaseFocus_sound h seat
  have hended := hreleased.endGrab seat
  have hfocus : ((d.releaseFocus seat).shell.endGrab seat).web.link (.seatFocus seat) = none := by
    rw [Shell.web_endGrab, Web.link_cut_of_ne (by simp), web_releaseFocus h, Web.link_cut_self]
  have hgrab : ((d.releaseFocus seat).shell.endGrab seat).web.link (.grab seat) = none := by
    rw [Shell.web_endGrab, Web.link_cut_self]
  have hweb := Shell.web_eraseSeat hfocus
  show Shell.Sound { (d.releaseFocus seat).shell.endGrab seat with
    seats := ((d.releaseFocus seat).shell.endGrab seat).seats.erase seat }
  generalize (d.releaseFocus seat).shell.endGrab seat = s at hended hgrab hweb ⊢
  have hknit : Knit none s.web { s with seats := s.seats.erase seat } := by
    refine ⟨hended.exact, hended.ranked, hweb ▸ Web.agree_none.2 rfl, hended.children,
      fun t ht => (nomatch ht), fun j hj => ?_, hended.once⟩
    have hne : j ≠ seat := by
      rintro rfl
      rw [hgrab] at hj
      cases hj
    show ((s.seats.erase seat).get? j).isSome
    rw [Roster.get?_erase, if_neg hne]
    exact hended.seated j hj
  exact hknit.sound

theorem Desktop.renewBackground_sound (h : d.shell.Sound) (o : OutputId) (output : Output)
    (area : Rect) : (d.renewBackground o output area).shell.Sound := by
  unfold renewBackground
  split
  · exact h.modifyOutput (fun _ => by rfl) o
  · exact h

/-- What one move keeps. -/
theorem Move.sound (h : d.shell.Sound) (hm : Move d d') : d'.shell.Sound := by
  cases hm with
  | settle hs =>
    obtain ⟨u, hu, -⟩ := Knit.settling h hs
    exact hu.sound
  | detach w => exact (Knit.detach h (w := w) fun hw => nomatch hw).sound
  | adopt hw hp ha =>
    refine (Knit.adopt h hw hp fun hr => ?_).sound
    rw [Shell.parent_web] at hr
    rw [Windows.isAncestorOrSelf_iff.2 hr] at ha
    cases ha
  | create surface appId => exact Desktop.createWindow_sound h surface appId
  | destroy w => exact Desktop.destroyWindow_sound h w
  | note w f hf =>
    exact h.modifyWindow (fun r => by rw [hf r]) (fun r => by rw [hf r]) (fun r => by rw [hf r]) w
  | moveView w at_ =>
    unfold Desktop.moveView
    split
    · exact h
    · exact h.modifyWindow (fun _ => by rfl) (fun _ => by rfl) (fun _ => by rfl) w
  | @map w window hw _ _ =>
    have hmapped := h.modifyWindow (f := ({ · with mapped := true })) (fun _ => rfl) (fun _ => rfl)
      (fun _ => rfl) w
    exact hmapped.of_web_eq rfl rfl fun _ hseat => hseat
  | raise _ _ => exact h.of_web_eq rfl rfl fun _ hseat => hseat
  | tellSize _ _ => exact h
  | addSeat handle name hasKeyboard =>
    refine h.of_web_eq (Shell.web_addSeat _ _ _ _) rfl fun j hj => ?_
    show ((d.shell.seats.insert _).2.get? j).isSome
    rw [Roster.get?_insert]
    split
    · rfl
    · exact hj
  | setHasKeyboard seat hasKeyboard =>
    refine h.of_web_eq (Shell.web_modifySeat (fun _ => by rfl) _ _) rfl fun j hj => ?_
    exact (Shell.contains_modifySeat _ _ _ _).trans hj
  | tellFocus _ _ => exact h
  | focus seat focus => exact Desktop.keyboardFocusChanged_sound h seat focus
  | removeSeat seat => exact Desktop.seatRemoved_sound h seat
  | grab w seat request => exact h.moveRequested w seat request
  | endGrab seat => exact h.endGrab seat
  | addOutput handle name area => exact Desktop.outputAdded_sound h handle name area
  | removeOutput o => exact Desktop.outputRemoved_sound h o
  | @renewOutput o output _ area =>
    have harea := h.modifyOutput (f := ({ · with area })) (fun _ => rfl) o
    exact Desktop.renewBackground_sound (d := d.update (·.modifyOutput o ({ · with area }))) harea
      o output area
  | @shiftOutput o output _ area => exact h.modifyOutput (f := ({ · with area })) (fun _ => rfl) o
  | switch _ => exact h

theorem Shell.fresh_sound (config : Config) : (Shell.fresh config).Sound := by
  have hweb : (Shell.fresh config).web = ⟨fun _ => none, fun _ => none⟩ := by
    refine Web.ext (funext fun l => ?_) (funext fun t => ?_)
    · cases l <;> rfl
    · cases t <;> rfl
  have hparent : (Shell.fresh config).web.parent = fun _ => none := by
    rw [hweb]
    rfl
  refine ⟨hweb ▸ Web.exact_empty, hparent ▸ ranked_none, Web.agree_none.2 rfl,
    hparent ▸ Children.matches_empty, fun t ht => (nomatch ht), fun seat hs => ?_,
    fun a b t j k ha => ?_⟩
  · rw [hweb] at hs
    cases hs
  · rw [hweb] at ha
    cases ha

theorem Reached.sound (h : Reached config d) : d.shell.Sound :=
  h.of_moves (P := fun d => d.shell.Sound) (Shell.fresh_sound config) Move.sound

end Kiosk
