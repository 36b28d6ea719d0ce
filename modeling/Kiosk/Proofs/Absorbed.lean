import Kiosk.Proofs.Listeners
import Kiosk.Proofs.Mirror

/-!
# Events for records that are gone

An event that comes late, for a window, an output or a seat that is gone, is to be
absorbed: it is answered, and neither the records nor the host notice
(`Event.absorbedReply`). All events are, but for one case. A click or a touch by a
seat that is gone still brings the window it hits to the front, if that is a
mapped child; only the focus that would follow is missed out
(`Desktop.dispatch_of_seat_gone`, `Reached.stale_absorbed`).
-/

namespace Kiosk

variable {config : Config} {d : Desktop} {s : Shell} {w : WindowId} {o : OutputId} {seat : SeatId}
  {e : Event}

namespace Event

/-- The window the event is about. -/
def window? : Event → Option WindowId
  | windowRemoved w => some w
  | windowCommitted w _ => some w
  | parentChanged w _ => some w
  | fullscreenRequested w _ _ => some w
  | maximizeRequested w _ => some w
  | minimizeRequested w => some w
  | resizeRequested w => some w
  | moveRequested w _ _ => some w
  | xwaylandPositionSet w _ => some w
  | appIdChanged w _ => some w
  | _ => none

/-- The output the event is about. -/
def output? : Event → Option OutputId
  | outputRemoved o => some o
  | outputResized o _ => some o
  | outputMoved o _ => some o
  | _ => none

/-- The seat the event is about. -/
def seat? : Event → Option SeatId
  | moveRequested _ seat _ => some seat
  | seatCapabilitiesChanged seat _ => some seat
  | seatRemoved seat => some seat
  | keyboardFocusChanged seat _ => some seat
  | pointerButton seat _ _ _ => some seat
  | touchDown seat _ _ => some seat
  | grabMotion seat _ => some seat
  | grabReleased seat => some seat
  | _ => none

/-- Whether a record the event is about is gone. References that may be missing do not count:
a parent, an output to go to or a window to focus that is gone is none. -/
def isStale (e : Event) (s : Shell) : Bool :=
  e.window?.any (!s.isLive ·) || e.output?.any (!s.outputs.contains ·) ||
    e.seat?.any (!s.seats.contains ·)

theorem isStale_iff : e.isStale s ↔ (∃ w, e.window? = some w ∧ s.isLive w = false) ∨
    (∃ o, e.output? = some o ∧ s.outputs.contains o = false) ∨
    ∃ seat, e.seat? = some seat ∧ s.seats.contains seat = false := by
  simp [isStale, Option.any_eq_true, or_assoc]

/-- The reply to an event of which nothing comes. -/
def absorbedReply : Event → Reply
  | moveRequested _ _ _ => .grab .ignored
  | _ => .handled

/-- The window a click or a touch activates. -/
def activates : Event → Option WindowId
  | pointerButton _ button focus defaultGrab =>
    if (button = Desktop.leftButton ∨ button = Desktop.rightButton) ∧ defaultGrab then focus
    else none
  | touchDown _ focus defaultGrab => if defaultGrab then focus else none
  | _ => none

end Event

/-- The view of `w`, if it is a mapped child. Those come to the front when they are activated. -/
def Shell.raisable (s : Shell) (w : WindowId) : Option ViewHandle :=
  ((s.windows.get? w).filter fun window => !window.isRoot && window.mapped).map Window.view

/-- Moves `w` to the front, if it is a mapped child. -/
def Desktop.raiseChild (d : Desktop) (w : WindowId) : Desktop :=
  (d.shell.raisable w).elim d (d.raiseWindow w)

/-! ## Operations on records that are gone -/

theorem Shell.get?_of_not_live (h : s.isLive w = false) : s.windows.get? w = none :=
  Option.isNone_iff_eq_none.1 (Option.isSome_eq_false_iff.1 h)

theorem Roster.get?_of_not_contains {kind : Kind} {α : Type} {r : Roster kind α} {id : Id kind}
    (h : r.contains id = false) : r.get? id = none :=
  Option.isNone_iff_eq_none.1 (Option.isSome_eq_false_iff.1 h)

theorem Shell.modifySeat_of_not_live (h : s.seats.contains seat = false) (f : Seat → Seat) :
    s.modifySeat seat f = s := by
  have : s.seats.modify seat f = s.seats := by
    unfold Roster.modify Arena.modify
    split
    · next hr => cases (Roster.get?_of_not_contains h).symm.trans hr
    · rfl
  rw [modifySeat, this]

/-- Seats that drag are live, so one that is gone drags nothing. -/
theorem Shell.Sound.grab_of_not_live (h : s.Sound) (hs : s.seats.contains seat = false) :
    s.grabs.get? seat = none := by
  refine Option.not_isSome_iff_eq_none.1 fun hgrab => ?_
  rw [h.linksExact.seated seat hgrab] at hs
  cases hs

namespace Desktop

theorem focusSeat_of_not_live (h : d.shell.seats.contains seat = false) (focus : Option WindowId) :
    d.focusSeat seat focus = d := by
  rw [focusSeat, Roster.get?_of_not_contains h]

theorem seatRemoved_of_not_live (hs : d.shell.Sound) (h : d.shell.seats.contains seat = false) :
    d.seatRemoved seat = d := by
  have hfocus : (d.shell.seats.get? seat).bind Seat.focused = none := by
    rw [Roster.get?_of_not_contains h]
    rfl
  rw [seatRemoved, releaseFocus_of_none hfocus, update, Shell.endGrab, hs.grab_of_not_live h]
  dsimp only
  rw [Roster.erase, h]
  rfl

/-- Of an activation by a seat that is gone, only the raising is left. -/
theorem activateWindow_of_not_live (h : d.shell.seats.contains seat = false) (w : WindowId) :
    d.activateWindow seat w = d.raiseChild w := by
  unfold activateWindow raiseChild Shell.raisable
  cases d.shell.windows.get? w with
  | none => rfl
  | some window =>
    dsimp only
    rw [Option.filter_some]
    split
    · exact focusSeat_of_not_live (d := d.raiseWindow w window.view) h _
    · exact focusSeat_of_not_live h _

theorem touchDown_of_not_live (h : d.shell.seats.contains seat = false) (focus : Option WindowId)
    (defaultGrab : Bool) : d.touchDown seat focus defaultGrab =
      (if defaultGrab then focus else none).elim d d.raiseChild := by
  unfold touchDown
  cases focus with
  | none => cases defaultGrab <;> rfl
  | some w =>
    cases defaultGrab with
    | false => rfl
    | true => exact activateWindow_of_not_live h w

theorem pointerButton_of_not_live (h : d.shell.seats.contains seat = false) (button : UInt32)
    (focus : Option WindowId) (defaultGrab : Bool) : d.pointerButton seat button focus defaultGrab =
      (if (button = leftButton ∨ button = rightButton) ∧ defaultGrab then focus else none).elim d
        d.raiseChild := by
  unfold pointerButton
  split
  · next hb => rw [touchDown_of_not_live h]; simp only [hb, true_and]
  · next hb => simp only [hb, false_and, if_false]; rfl

theorem moveRequested_of_stale (h : s.isLive w = false ∨ s.seats.contains seat = false)
    (request : MoveRequest) : s.moveRequested w seat request = (.ignored, s) := by
  unfold Shell.moveRequested
  split
  · next window device location hw _ =>
    rcases h with h | h
    · cases (Shell.get?_of_not_live h).symm.trans hw
    · rw [h, if_pos (by simp)]
  · rfl

/-! ## Events -/

theorem dispatch_of_window_gone (he : e.window? = some w) (hw : d.shell.isLive w = false) :
    d.dispatch e = (e.absorbedReply, d) := by
  have hnone := Shell.get?_of_not_live hw
  cases e <;> cases he
  case windowRemoved =>
    rw [dispatch, windowRemoved, hw]
    rfl
  case windowCommitted =>
    rw [dispatch, windowCommitted, hnone]
    rfl
  case parentChanged =>
    rw [dispatch, setParent_of_not_live hw]
    rfl
  case fullscreenRequested =>
    rw [dispatch, fullscreenRequested, hnone]
    rfl
  case maximizeRequested =>
    rw [dispatch, maximizeRequested, hnone]
    rfl
  case minimizeRequested => rfl
  case resizeRequested => rfl
  case moveRequested seat request =>
    rw [dispatch, moveRequested_of_stale (.inl hw)]
    rfl
  case xwaylandPositionSet =>
    rw [dispatch, update, Shell.setXwaylandPosition, Shell.modifyWindow_of_none hnone]
    rfl
  case appIdChanged =>
    rw [dispatch, update, Shell.setAppId, Shell.modifyWindow_of_none hnone]
    rfl

theorem dispatch_of_output_gone (he : e.output? = some o)
    (ho : d.shell.outputs.contains o = false) : d.dispatch e = (e.absorbedReply, d) := by
  have hnone := Roster.get?_of_not_contains ho
  cases e <;> cases he
  case outputRemoved =>
    rw [dispatch, outputRemoved, hnone]
    rfl
  case outputResized =>
    rw [dispatch, outputResized, hnone]
    rfl
  case outputMoved =>
    rw [dispatch, outputMoved, hnone]
    rfl

/-- All that comes of an event for a seat that is gone. -/
theorem dispatch_of_seat_gone (h : d.shell.Sound) (he : e.seat? = some seat)
    (hs : d.shell.seats.contains seat = false) :
    d.dispatch e = (e.absorbedReply, e.activates.elim d d.raiseChild) := by
  have hnone := Roster.get?_of_not_contains hs
  cases e <;> cases he
  case moveRequested w request =>
    rw [dispatch, moveRequested_of_stale (.inr hs)]
    rfl
  case seatCapabilitiesChanged =>
    rw [dispatch, update, Shell.setHasKeyboard, Shell.modifySeat_of_not_live hs]
    rfl
  case seatRemoved =>
    rw [dispatch, seatRemoved_of_not_live h hs]
    rfl
  case keyboardFocusChanged =>
    rw [dispatch, keyboardFocusChanged, hnone]
    rfl
  case pointerButton =>
    rw [dispatch, pointerButton_of_not_live hs]
    rfl
  case touchDown =>
    rw [dispatch, touchDown_of_not_live hs]
    rfl
  case grabMotion =>
    rw [dispatch, grabMotion, h.grab_of_not_live hs]
    rfl
  case grabReleased =>
    rw [dispatch, update, Shell.endGrab, h.grab_of_not_live hs]
    rfl

/-- Raising shows in the log. -/
theorem raiseChild_eq_iff : d.raiseChild w = d ↔ d.shell.raisable w = none := by
  rw [raiseChild]
  cases d.shell.raisable w with
  | none => exact iff_of_true rfl rfl
  | some view =>
    refine iff_of_false (fun hsame => ?_) (by simp)
    have hlog : d.host.log ++ [.raiseView view] = d.host.log :=
      congrArg (fun d => d.host.log) hsame
    simp at hlog

end Desktop

/-- An event for a record that is gone is absorbed, unless it activates a mapped child. -/
theorem Reached.stale_absorbed (h : Reached config d) (he : e.isStale d.shell) :
    d.dispatch e = (e.absorbedReply, d) ↔
      ∀ w, e.activates = some w → d.shell.raisable w = none := by
  rcases Event.isStale_iff.1 he with ⟨w, hw, hgone⟩ | ⟨o, ho, hgone⟩ | ⟨seat, hs, hgone⟩
  · have hnone : e.activates = none := by cases e <;> cases hw <;> rfl
    exact iff_of_true (Desktop.dispatch_of_window_gone hw hgone) (by simp [hnone])
  · have hnone : e.activates = none := by cases e <;> cases ho <;> rfl
    exact iff_of_true (Desktop.dispatch_of_output_gone ho hgone) (by simp [hnone])
  · rw [Desktop.dispatch_of_seat_gone h.sound hs hgone, Prod.mk.injEq, and_iff_right rfl]
    cases e.activates with
    | none => simp
    | some w => simp [Desktop.raiseChild_eq_iff]

/-- The windows of a family are mapped, and the seat that focused and dragged the youngest goes
away. -/
def unseatedRun : List Action := stackRun ++ [.event (.seatRemoved ⟨0, 1⟩)]

theorem isSome_unseatedRun : ((Desktop.fresh .default).run unseatedRun).isSome := by
  decide +kernel

/-- The seat that is gone can no longer move the focus, nor touch the root of the family. -/
theorem stale_absorbed_unseatedRun : ∃ d, Reached .default d ∧
    d.dispatch (.keyboardFocusChanged ⟨0, 1⟩ (some ⟨2, 1⟩)) = (.handled, d) ∧
    d.dispatch (.touchDown ⟨0, 1⟩ (some ⟨0, 1⟩) true) = (.handled, d) := by
  have hreached : Reached .default _ :=
    Reached.run _ .fresh (Option.some_get isSome_unseatedRun).symm
  refine ⟨_, hreached, (Reached.stale_absorbed hreached ?_).2 ?_,
    (Reached.stale_absorbed hreached ?_).2 ?_⟩
  · decide +kernel
  · exact fun w hw => nomatch hw
  · decide +kernel
  · rintro w ⟨⟩
    decide +kernel

/-- A touch by the seat that is gone brings the youngest to the front. -/
theorem not_absorbed : ¬ ∀ config d e, Reached config d → e.isStale d.shell →
    d.dispatch e = (e.absorbedReply, d) := by
  intro habsorbed
  have hreached : Reached .default _ :=
    Reached.run _ .fresh (Option.some_get isSome_unseatedRun).symm
  have hsame := habsorbed .default _ (.touchDown ⟨0, 1⟩ (some ⟨2, 1⟩) true) hreached
    (by decide +kernel)
  have hstacking := congrArg (fun r => r.2.shell.stacking) hsame
  exact absurd hstacking (by decide +kernel)

end Kiosk
