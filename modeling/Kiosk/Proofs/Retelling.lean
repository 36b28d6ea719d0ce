import Kiosk.Run
import Mathlib.Logic.Function.Basic

/-!
# What the log tells

Nothing a host remembers is missing from its log. Whoever starts from nothing and hears the commands
one by one (`Picture.hear`) ends with what can be seen of the host (`Host.picture`), after any calls
with any handles, among them calls that make no sense and views that are refused
(`Host.log_complete`).

A call logs one command, or none if it is refused a view, and that command makes the change the call
made (`Host.perform_retold`). Views are numbered in the order in which they are made. A refusal is
asked for ahead, and the next view that is to be made is the one that is refused
(`Host.failNextView_after`).
-/

namespace Kiosk

open Function (update)

/-! ## Calls -/

/-- What a host may be called for. -/
inductive HostCall where
  | setUserData (surface : SurfaceHandle) (window : Option WindowId)
  | createView (surface : SurfaceHandle)
  | destroyView (view : ViewHandle)
  | mapView (view : ViewHandle)
  | raiseView (view : ViewHandle)
  | setViewPosition (view : ViewHandle) (position : Point)
  | createBackground (output : OutputHandle) (area : Rect)
  | setFullscreen (surface : SurfaceHandle) (fullscreen : Bool)
  | setMaximized (surface : SurfaceHandle) (maximized : Bool)
  | setSize (surface : SurfaceHandle) (size : Size)
  | setActivated (surface : SurfaceHandle) (activated : Bool)
  | setKeyboardFocus (seat : SeatHandle) (surface : Option SurfaceHandle)
  | postNoMemory (surface : SurfaceHandle)
  /-- Its settings may be changed between the calls. -/
  | switch (s : HostSwitch)
  deriving DecidableEq, Repr

namespace HostCall

/-- Whether the call makes a view. -/
def allocates : HostCall → Bool
  | createView .. => true
  | createBackground .. => true
  | _ => false

/-- Whether the next view is refused after the call, for calls that have to do with that. -/
def refusal? : HostCall → Option Bool
  | switch (.failNextView value) => some value
  | createView .. => some false
  | createBackground .. => some false
  | _ => none

/-- Whether the next view is refused, after these calls. -/
def refusing (calls : List HostCall) : Bool :=
  ((calls.filterMap refusal?).getLast?).getD false

end HostCall

namespace Host

/-- The view that a call hands out, if any, and the host after the call. -/
def perform (h : Host) : HostCall → Option ViewHandle × Host
  | .setUserData s w => (none, h.setUserData s w)
  | .createView s => h.createView s
  | .destroyView v => (none, h.destroyView v)
  | .mapView v => (none, h.mapView v)
  | .raiseView v => (none, h.raiseView v)
  | .setViewPosition v p => (none, h.setViewPosition v p)
  | .createBackground o area => h.createBackground o area
  | .setFullscreen s b => (none, h.setFullscreen s b)
  | .setMaximized s b => (none, h.setMaximized s b)
  | .setSize s size => (none, h.setSize s size)
  | .setActivated s b => (none, h.setActivated s b)
  | .setKeyboardFocus seat s => (none, h.setKeyboardFocus seat s)
  | .postNoMemory s => (none, (h.postNoMemory s).2)
  | .switch s => (none, h.switch s)

/-- The host after some calls. -/
def after (h : Host) (calls : List HostCall) : Host :=
  calls.foldl (fun h c => (h.perform c).2) h

/-- The views that calls hand out, in order. -/
def handedOut (h : Host) : List HostCall → List ViewHandle
  | [] => []
  | c :: cs => (h.perform c).1.toList ++ (h.perform c).2.handedOut cs

end Host

/-! ## Pictures -/

/-- What can be seen of a host. -/
structure Picture where
  liveViews : List ViewHandle
  /-- The mapped views, top first. -/
  viewStack : List ViewHandle
  positions : ViewHandle → Option Point
  /-- The surfaces that a window is stored with. -/
  attached : SurfaceHandle → Bool
  fullscreen : SurfaceHandle → Option Bool
  maximized : SurfaceHandle → Option Bool
  sizes : SurfaceHandle → Option Size
  activated : SurfaceHandle → Option Bool
  keyboardFocus : SeatHandle → Option SurfaceHandle

/-- What can be seen of this host. -/
def Host.picture (h : Host) : Picture where
  liveViews := h.liveViews
  viewStack := h.viewStack
  positions := h.viewPositions.get?
  attached := h.userData.contains
  fullscreen := h.fullscreen.get?
  maximized := h.maximized.get?
  sizes := h.sizes.get?
  activated := h.activated.get?
  keyboardFocus := h.keyboardFocus.get?

namespace Picture

/-- There is nothing to be seen. -/
def blank : Picture where
  liveViews := []
  viewStack := []
  positions _ := none
  attached _ := false
  fullscreen _ := none
  maximized _ := none
  sizes _ := none
  activated _ := none
  keyboardFocus _ := none

/-- `v` is put on top of the others. -/
def onTop (p : Picture) (v : ViewHandle) : Picture :=
  { p with viewStack := v :: p.viewStack.filter (· ≠ v) }

/-- What is seen after a command, if `p` was seen before it. -/
def hear (p : Picture) : Command → Picture
  | .setUserData s attached => { p with attached := update p.attached s attached }
  | .createView _ v => { p with liveViews := p.liveViews ++ [v] }
  | .destroyView v =>
    { p with
      liveViews := p.liveViews.filter (· ≠ v)
      viewStack := p.viewStack.filter (· ≠ v)
      positions := update p.positions v none }
  | .mapView v => p.onTop v
  | .raiseView v => p.onTop v
  | .setViewPosition v at_ => { p with positions := update p.positions v (some at_) }
  | .createBackground _ v area =>
    { p with
      liveViews := p.liveViews ++ [v]
      positions := update p.positions v (some area.loc) }
  | .setFullscreen s b => { p with fullscreen := update p.fullscreen s (some b) }
  | .setMaximized s b => { p with maximized := update p.maximized s (some b) }
  | .setSize s size => { p with sizes := update p.sizes s (some size) }
  | .setActivated s b => { p with activated := update p.activated s (some b) }
  | .setKeyboardFocus seat s => { p with keyboardFocus := update p.keyboardFocus seat s }
  | .postNoMemory _ => p

end Picture

/-! ## What one call tells -/

namespace Assoc

variable {κ α : Type} [DecidableEq κ]

/-- To insert is to set to something, and to erase is to set to nothing. -/
theorem get?_set_eq_update (m : Assoc κ α) (k : κ) (a : Option α) :
    (m.set k a).get? = update m.get? k a := by
  funext j
  cases a with
  | none => exact (m.get?_erase k j).trans (Function.update_apply ..).symm
  | some a => exact (m.get?_insert k j a).trans (Function.update_apply ..).symm

theorem contains_set (m : Assoc κ α) (k : κ) (a : Option α) :
    (m.set k a).contains = update m.contains k a.isSome := by
  funext j
  rw [contains, get?_set_eq_update, Function.update_apply, Function.update_apply]
  split <;> rfl

end Assoc

namespace Host

variable {h h' h'' : Host} {calls : List HostCall} {c : HostCall}

/-- What `h'` logged after `h` tells how what is seen of `h` became what is seen of `h'`. -/
def Retold (h h' : Host) : Prop :=
  ∃ cs, h'.log = h.log ++ cs ∧ h'.picture = cs.foldl Picture.hear h.picture

theorem Retold.of_silent (hl : h'.log = h.log) (hp : h'.picture = h.picture) : h.Retold h' :=
  ⟨[], hl.trans (List.append_nil _).symm, hp⟩

theorem Retold.of_command (c : Command) (hl : h'.log = h.log ++ [c])
    (hp : h'.picture = h.picture.hear c) : h.Retold h' :=
  ⟨[c], hl, hp⟩

theorem Retold.trans (hr : h.Retold h') (hr' : h'.Retold h'') : h.Retold h'' := by
  obtain ⟨cs, hl, hp⟩ := hr
  obtain ⟨cs', hl', hp'⟩ := hr'
  refine ⟨cs ++ cs', ?_, ?_⟩
  · rw [hl', hl, List.append_assoc]
  · rw [hp', hp, List.foldl_append]

theorem allocateView_refused (hf : h.failNextView = true) :
    h.allocateView = (none, { h with failNextView := false }) :=
  if_pos hf

theorem allocateView_made (hf : h.failNextView = false) :
    h.allocateView = (some ⟨h.lastView + 1⟩,
      { h with lastView := h.lastView + 1, liveViews := h.liveViews ++ [⟨h.lastView + 1⟩] }) :=
  if_neg (Bool.eq_false_iff.1 hf)

/-- A call that is refused a view logs nothing and leaves all as it was. -/
theorem perform_retold (h : Host) (c : HostCall) : h.Retold (h.perform c).2 := by
  cases c with
  | setUserData s w =>
    refine .of_command (.setUserData s w.isSome) rfl ?_
    exact congrArg (fun f => { h.picture with attached := f }) (h.userData.contains_set s w)
  | createView s =>
    cases hf : h.failNextView with
    | true =>
      rw [perform, createView, allocateView_refused hf]
      exact .of_silent rfl rfl
    | false =>
      rw [perform, createView, allocateView_made hf]
      exact .of_command (.createView s ⟨h.lastView + 1⟩) rfl rfl
  | destroyView v =>
    refine .of_command (.destroyView v) rfl ?_
    exact congrArg
      (fun f => { h.picture with
        liveViews := h.liveViews.filter (· ≠ v), viewStack := h.viewStack.filter (· ≠ v)
        positions := f })
      (h.viewPositions.get?_set_eq_update v none)
  | mapView v => exact .of_command (.mapView v) rfl rfl
  | raiseView v => exact .of_command (.raiseView v) rfl rfl
  | setViewPosition v p =>
    refine .of_command (.setViewPosition v p) rfl ?_
    exact congrArg (fun f => { h.picture with positions := f })
      (h.viewPositions.get?_set_eq_update v (some p))
  | createBackground o area =>
    cases hf : h.failNextView with
    | true =>
      rw [perform, createBackground, allocateView_refused hf]
      exact .of_silent rfl rfl
    | false =>
      rw [perform, createBackground, allocateView_made hf]
      refine .of_command (.createBackground o ⟨h.lastView + 1⟩ area) rfl ?_
      exact congrArg
        (fun f => { h.picture with
          liveViews := h.liveViews ++ [(⟨h.lastView + 1⟩ : ViewHandle)], positions := f })
        (h.viewPositions.get?_set_eq_update ⟨h.lastView + 1⟩ (some area.loc))
  | setFullscreen s b =>
    refine .of_command (.setFullscreen s b) rfl ?_
    exact congrArg (fun f => { h.picture with fullscreen := f })
      (h.fullscreen.get?_set_eq_update s (some b))
  | setMaximized s b =>
    refine .of_command (.setMaximized s b) rfl ?_
    exact congrArg (fun f => { h.picture with maximized := f })
      (h.maximized.get?_set_eq_update s (some b))
  | setSize s size =>
    refine .of_command (.setSize s size) rfl ?_
    exact congrArg (fun f => { h.picture with sizes := f })
      (h.sizes.get?_set_eq_update s (some size))
  | setActivated s b =>
    refine .of_command (.setActivated s b) rfl ?_
    exact congrArg (fun f => { h.picture with activated := f })
      (h.activated.get?_set_eq_update s (some b))
  | setKeyboardFocus seat s =>
    refine .of_command (.setKeyboardFocus seat s) rfl ?_
    exact congrArg (fun f => { h.picture with keyboardFocus := f })
      (h.keyboardFocus.get?_set_eq_update seat s)
  | postNoMemory s => exact .of_command (.postNoMemory s) rfl rfl
  | switch s => cases s <;> exact .of_silent rfl rfl

theorem after_retold (calls : List HostCall) (h : Host) : h.Retold (h.after calls) := by
  induction calls generalizing h with
  | nil => exact .of_silent rfl rfl
  | cons c calls ih => exact (h.perform_retold c).trans (ih _)

/-! ## The numbers of views -/

/-- A call that makes a view hands out the next one, unless it is refused. -/
theorem perform_numbers (h : Host) (c : HostCall) :
    (h.perform c).1 =
      (if c.allocates && !h.failNextView then some ⟨h.lastView + 1⟩ else none) ∧
    (h.perform c).2.lastView = h.lastView + (h.perform c).1.toList.length ∧
    (h.perform c).2.failNextView = c.refusal?.getD h.failNextView := by
  cases c with
  | createView s =>
    cases hf : h.failNextView with
    | true =>
      rw [perform, createView, allocateView_refused hf]
      exact ⟨rfl, rfl, rfl⟩
    | false =>
      rw [perform, createView, allocateView_made hf]
      exact ⟨rfl, rfl, hf⟩
  | createBackground o area =>
    cases hf : h.failNextView with
    | true =>
      rw [perform, createBackground, allocateView_refused hf]
      exact ⟨rfl, rfl, rfl⟩
    | false =>
      rw [perform, createBackground, allocateView_made hf]
      exact ⟨rfl, rfl, hf⟩
  | switch s => cases s <;> exact ⟨rfl, rfl, rfl⟩
  | _ => exact ⟨rfl, rfl, rfl⟩

theorem lastView_after (calls : List HostCall) (h : Host) :
    (h.after calls).lastView = h.lastView + (h.handedOut calls).length := by
  induction calls generalizing h with
  | nil => rfl
  | cons c calls ih =>
    show ((h.perform c).2.after calls).lastView = _
    rw [ih, (h.perform_numbers c).2.1, handedOut, List.length_append, Nat.add_assoc]

/-- The views that are handed out follow one another. -/
theorem handedOut_eq (calls : List HostCall) (h : Host) : h.handedOut calls =
    (List.range' (h.lastView + 1) (h.handedOut calls).length).map Handle.mk := by
  induction calls generalizing h with
  | nil => rfl
  | cons c calls ih =>
    obtain ⟨hview, hlast, -⟩ := h.perform_numbers c
    specialize ih (h.perform c).2
    rw [handedOut, List.length_append, ← List.range'_append_1, List.map_append]
    rw [hlast, Nat.add_right_comm] at ih
    rw [← ih, hview]
    split <;> rfl

/-- A refusal stays asked for until a view is to be made. -/
theorem failNextView_after (calls : List HostCall) (h : Host) : (h.after calls).failNextView =
    ((calls.filterMap HostCall.refusal?).getLast?).getD h.failNextView := by
  induction calls generalizing h with
  | nil => rfl
  | cons c calls ih =>
    show ((h.perform c).2.after calls).failNextView = _
    rw [ih, (h.perform_numbers c).2.2]
    cases hc : c.refusal? with
    | none => rw [List.filterMap_cons_none hc, Option.getD_none]
    | some value => rw [List.filterMap_cons_some hc, List.getLast?_cons, Option.getD_some,
        Option.getD_some]

/-! ## The result -/

/-- The log of a host that was called in any way, told to someone who starts from nothing, gives
what is to be seen of the host. The views that were handed out are numbered from one on without a
gap; a call that makes a view is refused if that was asked for since the last such call, and uses
no number up then. -/
theorem log_complete (calls : List HostCall) :
    (fresh.after calls).log.foldl Picture.hear .blank = (fresh.after calls).picture ∧
    fresh.handedOut calls =
      (List.range' 1 (fresh.handedOut calls).length).map Handle.mk ∧
    ∀ before c rest, calls = before ++ c :: rest → ((fresh.after before).perform c).1 =
      if c.allocates && !HostCall.refusing before then
        some ⟨(fresh.handedOut before).length + 1⟩
      else none := by
  refine ⟨?_, handedOut_eq calls fresh, ?_⟩
  · obtain ⟨cs, hlog, hpicture⟩ := after_retold calls fresh
    have hall : (fresh.after calls).log = cs := hlog
    have hblank : fresh.picture = .blank := rfl
    rw [hall, hpicture, hblank]
  · rintro before c rest -
    have hlast : (fresh.after before).lastView = (fresh.handedOut before).length :=
      (lastView_after before fresh).trans (Nat.zero_add _)
    rw [((fresh.after before).perform_numbers c).1, failNextView_after, hlast]
    rfl

end Host

end Kiosk
