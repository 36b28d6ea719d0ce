import Kiosk.Proofs.Registry

/-!
# The names of seats

A seat goes by the label of the step that made it, and no operation reads that name: an operation
on a desktop whose seats have other names (`Desktop.rename`) does what it does on the desktop, and
leaves it with the seats renamed (`Desktop.dispatch_rename`). So names reach neither the host nor
any other record.
-/

namespace Kiosk

section Maps

variable {kind : Kind} {α β : Type} {f : α → β} {g : α → α} {g' : β → β}

/-- Changing a record and mapping the arena may be done in either order, where they may be on a
record. -/
theorem Arena.map_modify_comm (a : Arena kind α) (id : Id kind) (h : ∀ r, f (g r) = g' (f r)) :
    (a.modify id g).map f = (a.map f).modify id g' := by
  have hget := a.get?_map f id
  unfold modify
  split
  · next record hr =>
    split
    · next record' hr' =>
      obtain rfl : f record = record' := Option.some.inj (by rw [← hr', hget, hr]; rfl)
      refine ext_slots ?_ rfl
      show (a.slots.set id.slot ⟨id.generation, some (g record)⟩).map (Slot.map f) =
        (a.slots.map (Slot.map f)).set id.slot ⟨id.generation, some (g' (f record))⟩
      rw [List.map_set, ← h]
      rfl
    · next hr' => simp_all
  · next hr =>
    split
    · next hr' => simp_all
    · rfl

theorem Roster.map_modify_comm (r : Roster kind α) (id : Id kind)
    (h : ∀ record, f (g record) = g' (f record)) :
    (r.modify id g).map f = (r.map f).modify id g' :=
  congrArg (Roster.mk · r.order) (r.arena.map_modify_comm id h)

/-- Mapping the records keeps their ids and the order they were registered in. -/
theorem Roster.toList_map (r : Roster kind α) :
    (r.map f).toList = r.toList.map (Prod.map id f) := by
  unfold toList
  rw [List.map_filterMap]
  refine List.filterMap_congr fun id _ => ?_
  rw [get?_map, Option.map_map, Option.map_map]
  rfl

end Maps

variable {f : String → String}

/-- The seat, going by another name. -/
def Seat.rename (f : String → String) (r : Seat) : Seat :=
  { r with name := f r.name }

/-- The shell, its seats going by other names. -/
def Shell.rename (f : String → String) (s : Shell) : Shell :=
  { s with seats := s.seats.map (Seat.rename f) }

/-- The desktop, its seats going by other names. -/
def Desktop.rename (f : String → String) (d : Desktop) : Desktop :=
  d.update (·.rename f)

/-- The event, with another name for the seat it is to make. -/
def Event.rename (f : String → String) : Event → Event
  | .seatAdded handle name hasKeyboard => .seatAdded handle (f name) hasKeyboard
  | e => e

/-! ## Seats -/

namespace Seats

variable (seats : Seats)

/-- The seats with a keyboard are the same whatever they are named. -/
theorem withKeyboard_map : withKeyboard (seats.map (Seat.rename f)) = seats.withKeyboard := by
  unfold withKeyboard
  rw [Roster.toList_map, List.filter_map, List.map_map]
  rfl

/-- The seats focused on a window are the same whatever they are named. -/
theorem focusedOn_map (w : WindowId) :
    focusedOn (seats.map (Seat.rename f)) w = seats.focusedOn w := by
  unfold focusedOn
  rw [Roster.toList_map, List.filter_map, List.map_map]
  rfl

end Seats

/-! ## Shells -/

namespace Shell

variable (s : Shell)

@[simp]
theorem windows_rename : (s.rename f).windows = s.windows := rfl

@[simp]
theorem outputs_rename : (s.rename f).outputs = s.outputs := rfl

@[simp]
theorem grabs_rename : (s.rename f).grabs = s.grabs := rfl

@[simp]
theorem config_rename : (s.rename f).config = s.config := rfl

@[simp]
theorem isLive_rename : (s.rename f).isLive = s.isLive := rfl

@[simp]
theorem outputOf_rename : (s.rename f).outputOf = s.outputOf := rfl

@[simp]
theorem areaOf_rename : (s.rename f).areaOf = s.areaOf := rfl

@[simp]
theorem grabbingSeat_rename : (s.rename f).grabbingSeat = s.grabbingSeat := rfl

@[simp]
theorem heirOf_rename : (s.rename f).heirOf = s.heirOf := rfl

@[simp]
theorem windowsOn_rename : (s.rename f).windowsOn = s.windowsOn := rfl

@[simp]
theorem filledWindowsOn_rename : (s.rename f).filledWindowsOn = s.filledWindowsOn := rfl

@[simp]
theorem get?_seats_rename (seat : SeatId) :
    (s.rename f).seats.get? seat = (s.seats.get? seat).map (Seat.rename f) :=
  s.seats.get?_map _ seat

@[simp]
theorem withKeyboard_rename : (s.rename f).seats.withKeyboard = s.seats.withKeyboard :=
  s.seats.withKeyboard_map

@[simp]
theorem focusedOn_rename (w : WindowId) :
    (s.rename f).seats.focusedOn w = s.seats.focusedOn w :=
  s.seats.focusedOn_map w

/-- A seat is found by its id, so a new name leaves it its focused window. -/
@[simp]
theorem focusedWindow_rename (seat : SeatId) :
    (s.rename f).focusedWindow seat = s.focusedWindow seat := by
  unfold focusedWindow
  rw [get?_seats_rename]
  cases s.seats.get? seat <;> rfl

/-- The focused output is looked for among the seats in the order of their age, and that is not in
their names. -/
@[simp]
theorem focusedOutput_rename : (s.rename f).focusedOutput = s.focusedOutput := by
  unfold focusedOutput
  rw [show (s.rename f).seats.toList = _ from s.seats.toList_map, List.findSome?_map]
  rfl

/-- What an output is called counts for the choice of an output; what a seat is called does not. -/
@[simp]
theorem bestOutput_rename (w : WindowId) : (s.rename f).bestOutput w = s.bestOutput w := by
  unfold bestOutput
  rw [focusedOutput_rename]
  rfl

@[simp]
theorem modifyWindow_rename (w : WindowId) (g : Window → Window) :
    (s.rename f).modifyWindow w g = (s.modifyWindow w g).rename f := rfl

@[simp]
theorem modifyOutput_rename (o : OutputId) (g : Output → Output) :
    (s.rename f).modifyOutput o g = (s.modifyOutput o g).rename f := rfl

/-- A change of a seat that leaves the name alone may be made before or after the renaming. -/
theorem modifySeat_rename (seat : SeatId) {g : Seat → Seat}
    (hg : ∀ r, (g r).rename f = g (r.rename f)) :
    (s.rename f).modifySeat seat g = (s.modifySeat seat g).rename f :=
  congrArg (fun seats => { s with seats }) (s.seats.map_modify_comm seat hg).symm

@[simp]
theorem setFocused_rename (seat : SeatId) (focused : Option (Link .window)) :
    (s.rename f).modifySeat seat ({ · with focused }) =
      (s.modifySeat seat ({ · with focused })).rename f :=
  s.modifySeat_rename seat fun _ => rfl

@[simp]
theorem setHasKeyboard_rename (seat : SeatId) (hasKeyboard : Bool) :
    (s.rename f).setHasKeyboard seat hasKeyboard =
      (s.setHasKeyboard seat hasKeyboard).rename f :=
  s.modifySeat_rename seat fun _ => rfl

/-- A link is made out to the seat's id: the window's listeners do not hold a name. -/
@[simp]
theorem watchWindow_rename (w : WindowId) (listener : Listener) :
    (s.rename f).watchWindow w listener =
      ((s.watchWindow w listener).1, (s.watchWindow w listener).2.rename f) := by
  unfold watchWindow
  rw [windows_rename]
  cases s.windows.get? w <;> rfl

@[simp]
theorem detach_rename (w : WindowId) : (s.rename f).detach w = (s.detach w).rename f := by
  unfold detach
  rw [windows_rename]
  cases (s.windows.get? w).bind Window.parent <;> rfl

@[simp]
theorem attach_rename (w p : WindowId) :
    (s.rename f).attach w p = (s.attach w p).rename f := by
  unfold attach
  rw [watchWindow_rename]
  rcases s.watchWindow p (.parent w) with ⟨_ | link, s⟩ <;> rfl

/-- Binding a window touches windows and outputs only. -/
@[simp]
theorem setOutput_rename (w : WindowId) (o : Option OutputId) :
    (s.rename f).setOutput w o = (s.setOutput w o).rename f := by
  have hleave : (s.rename f).leaveOutput w = (s.leaveOutput w).rename f := by
    unfold leaveOutput
    rw [windows_rename]
    cases (s.windows.get? w).bind Window.boundOutput <;> rfl
  have henter (s : Shell) (o : OutputId) :
      (s.rename f).enterOutput w o = (s.enterOutput w o).rename f := by
    unfold enterOutput watchOutput
    rw [outputs_rename]
    cases s.outputs.get? o <;> rfl
  unfold setOutput
  rw [isLive_rename]
  split
  · cases o with
    | none => exact hleave
    | some o =>
      dsimp only
      rw [hleave, henter]
  · rfl

@[simp]
theorem endGrab_rename (seat : SeatId) :
    (s.rename f).endGrab seat = (s.endGrab seat).rename f := by
  unfold endGrab
  rw [grabs_rename]
  cases s.grabs.get? seat <;> rfl

/-- Whether a drag starts, and what it grabs, does not depend on the name of the seat. -/
@[simp]
theorem moveRequested_rename (w : WindowId) (seat : SeatId) (request : MoveRequest) :
    (s.rename f).moveRequested w seat request =
      ((s.moveRequested w seat request).1, (s.moveRequested w seat request).2.rename f) := by
  have hseats : (s.rename f).seats.contains seat = s.seats.contains seat :=
    s.seats.contains_map _ seat
  simp only [moveRequested, windows_rename, grabbingSeat_rename, grabs_rename, hseats,
    watchWindow_rename]
  split
  · split
    · rfl
    · rcases s.watchWindow w (.grab seat) with ⟨_ | link, s⟩ <;> rfl
  · rfl

/-- A new seat gets the same id under another name. -/
@[simp]
theorem addSeat_rename (handle : SeatHandle) (name : String) (hasKeyboard : Bool) :
    (s.rename f).addSeat handle (f name) hasKeyboard =
      ((s.addSeat handle name hasKeyboard).1, (s.addSeat handle name hasKeyboard).2.rename f) := by
  unfold addSeat
  rw [show (s.rename f).seats.insert (.ofHandle handle (f name) hasKeyboard) = _ from
    s.seats.map_insert (Seat.rename f) (.ofHandle handle name hasKeyboard)]
  rfl

/-- The seat with the id goes, whatever it is named. -/
theorem eraseSeat_rename (seat : SeatId) :
    { s.rename f with seats := (s.rename f).seats.erase seat } =
      Shell.rename f { s with seats := s.seats.erase seat } :=
  congrArg (fun seats => { s with seats }) (s.seats.map_erase _ seat).symm

end Shell

/-! ## Desktops -/

namespace Desktop

variable (d : Desktop)

@[simp]
theorem shell_rename : (d.rename f).shell = d.shell.rename f := rfl

@[simp]
theorem host_rename : (d.rename f).host = d.host := rfl

@[simp]
theorem mk_rename (s : Shell) (h : Host) : (⟨s.rename f, h⟩ : Desktop) = rename f ⟨s, h⟩ := rfl

@[simp]
theorem tell_rename (g : Host → Host) : (d.rename f).tell g = (d.tell g).rename f := rfl

/-- A change of the shell alone that commutes with the renaming does so on the desktop. -/
theorem update_rename {g : Shell → Shell} (hg : g (d.shell.rename f) = (g d.shell).rename f) :
    (d.rename f).update g = (d.update g).rename f :=
  congrArg (Desktop.mk · d.host) hg

@[simp]
theorem ite_rename (c : Prop) [Decidable c] (d d' : Desktop) :
    (if c then d.rename f else d'.rename f) = (if c then d else d').rename f :=
  (apply_ite (rename f) c d d').symm

/-- A loop commutes with the renaming when each of its steps does. -/
theorem foldl_rename {α : Type} {g : Desktop → α → Desktop}
    (hg : ∀ d a, g (d.rename f) a = (g d a).rename f) :
    ∀ (as : List α) (d : Desktop), as.foldl g (d.rename f) = (as.foldl g d).rename f
  | [], _ => rfl
  | a :: as, d => by rw [List.foldl_cons, hg, foldl_rename hg as, List.foldl_cons]

@[simp]
theorem moveView_rename (w : WindowId) (p : Point) :
    (d.rename f).moveView w p = (d.moveView w p).rename f := by
  unfold moveView
  rw [shell_rename, Shell.windows_rename]
  split <;> rfl

/-! ### Placing -/

@[simp]
theorem setOutput_rename (w : WindowId) (o : Option OutputId) :
    (d.rename f).setOutput w o = (d.setOutput w o).rename f :=
  d.update_rename (d.shell.setOutput_rename w o)

/-- The output an unbound window is given is the same for seats of other names. -/
@[simp]
theorem ensureOutput_rename (w : WindowId) :
    (d.rename f).ensureOutput w = (d.ensureOutput w).rename f := by
  simp only [ensureOutput, shell_rename, Shell.outputOf_rename, Shell.bestOutput_rename,
    setOutput_rename]
  split <;> rfl

@[simp]
theorem setNormal_rename (w : WindowId) :
    (d.rename f).setNormal w = (d.setNormal w).rename f := by
  simp only [setNormal, ensureOutput_rename, shell_rename, Shell.windows_rename]
  split <;> rfl

@[simp]
theorem fillOutput_rename (w : WindowId) (placement : Placement) :
    (d.rename f).fillOutput w placement = (d.fillOutput w placement).rename f := by
  unfold fillOutput
  rw [shell_rename, Shell.windows_rename]
  cases d.shell.windows.get? w with
  | none => rfl
  | some window =>
    dsimp only
    rw [update_rename _ (Shell.modifyWindow_rename ..), tell_rename, shell_rename,
      Shell.areaOf_rename]
    split <;> rfl

/-- The best output stands in for an output that is gone, and seats of other names have the same. -/
@[simp]
theorem setFullscreen_rename (w : WindowId) (o : Option OutputId) :
    (d.rename f).setFullscreen w o = (d.setFullscreen w o).rename f := by
  simp only [setFullscreen, shell_rename, Shell.windows_rename, Shell.outputs_rename,
    Shell.bestOutput_rename, setOutput_rename, fillOutput_rename, setNormal_rename, ite_rename]
  split <;> rfl

@[simp]
theorem setMaximized_rename (w : WindowId) :
    (d.rename f).setMaximized w = (d.setMaximized w).rename f := by
  simp only [setMaximized, shell_rename, Shell.windows_rename, Shell.bestOutput_rename,
    setOutput_rename, fillOutput_rename, setNormal_rename, ite_rename]
  split <;> rfl

/-- Adoption, refusal and release go by windows: the renaming passes through each of them. -/
@[simp]
theorem setParent_rename (w : WindowId) (parent : Option WindowId) :
    (d.rename f).setParent w parent = (d.setParent w parent).rename f := by
  have hdetach : (d.rename f).update (·.detach w) = (d.update (·.detach w)).rename f :=
    update_rename _ (Shell.detach_rename ..)
  have hattach (p : WindowId) :
      (d.rename f).update (fun s => ((s.detach w).attach w p).setOutput w none) =
        (d.update fun s => ((s.detach w).attach w p).setOutput w none).rename f :=
    update_rename _ (by simp)
  simp only [setParent, shell_rename, Shell.isLive_rename, Shell.windows_rename, hdetach, hattach,
    Shell.outputOf_rename, setFullscreen_rename, setNormal_rename]
  cases parent.filter d.shell.isLive <;> simp only [ite_rename]

@[simp]
theorem fullscreenRequested_rename (w : WindowId) (fullscreen : Bool) (o : Option OutputId) :
    (d.rename f).fullscreenRequested w fullscreen o =
      (d.fullscreenRequested w fullscreen o).rename f := by
  simp only [fullscreenRequested, shell_rename, Shell.windows_rename, Shell.config_rename,
    setFullscreen_rename, setNormal_rename, ite_rename]
  split <;> rfl

@[simp]
theorem maximizeRequested_rename (w : WindowId) (maximized : Bool) :
    (d.rename f).maximizeRequested w maximized =
      (d.maximizeRequested w maximized).rename f := by
  simp only [maximizeRequested, shell_rename, Shell.windows_rename, Shell.config_rename,
    setFullscreen_rename, setMaximized_rename, setNormal_rename, ite_rename]
  split <;> rfl

/-! ### Commits -/

@[simp]
theorem mapWindow_rename (w : WindowId) (view : ViewHandle) :
    (d.rename f).mapWindow w view = (d.mapWindow w view).rename f := rfl

@[simp]
theorem shiftWindow_rename (w : WindowId) (offset : Point) :
    (d.rename f).shiftWindow w offset = (d.shiftWindow w offset).rename f := by
  simp only [shiftWindow, shell_rename, Shell.windows_rename, moveView_rename]
  split <;> rfl

@[simp]
theorem finishCommit_rename (w : WindowId) (window : Window) (commit : Commit) :
    (d.rename f).finishCommit w window commit =
      (d.finishCommit w window commit).rename f := by
  simp only [finishCommit, mapWindow_rename, ite_rename, shiftWindow_rename]
  rfl

/-- Where a commit puts a window, and whether it ends in a fault, is read from windows and
outputs. -/
@[simp]
theorem windowCommitted_rename (w : WindowId) (commit : Commit) :
    (d.rename f).windowCommitted w commit =
      ((d.windowCommitted w commit).1, (d.windowCommitted w commit).2.rename f) := by
  have hposition (window : Window) :
      commitPosition (d.shell.rename f) window commit = commitPosition d.shell window commit := rfl
  simp only [windowCommitted, shell_rename, Shell.windows_rename, hposition, moveView_rename,
    finishCommit_rename]
  split
  · rfl
  · split
    · rfl
    · split
      · split <;> rfl
      · rfl

/-! ### Focus and pointing -/

/-- The window a seat lets go of is named by the seat's link, which stays. -/
@[simp]
theorem releaseFocus_rename (seat : SeatId) :
    (d.rename f).releaseFocus seat = (d.releaseFocus seat).rename f := by
  have hfocused : ((d.shell.seats.get? seat).map (Seat.rename f)).bind Seat.focused =
      (d.shell.seats.get? seat).bind Seat.focused := by
    cases d.shell.seats.get? seat <;> rfl
  simp only [releaseFocus, shell_rename, Shell.get?_seats_rename, hfocused]
  split
  · rfl
  · rw [update_rename _ (Shell.setFocused_rename ..), shell_rename, Shell.windows_rename]
    split
    · rfl
    · next window _ => by_cases h : window.focusCount - 1 = 0 <;> simp only [h] <;> rfl

/-- The window that is focused counts the seat and links to its id, and the host hears of the
surface only. -/
@[simp]
theorem takeFocus_rename (seat : SeatId) (w : WindowId) :
    (d.rename f).takeFocus seat w = (d.takeFocus seat w).rename f := by
  simp only [takeFocus, shell_rename, Shell.windows_rename, Shell.watchWindow_rename]
  cases d.shell.windows.get? w with
  | none => rfl
  | some window =>
    rcases d.shell.watchWindow w (.seatFocus seat) with ⟨_ | link, s⟩
    · rfl
    · simp only [mk_rename, host_rename, tell_rename, ite_rename]
      refine update_rename _ ?_
      rw [Shell.modifyWindow_rename, Shell.setFocused_rename]

/-- The record a seat keeps of its focus changes in the same way under any name. -/
@[simp]
theorem keyboardFocusChanged_rename (seat : SeatId) (focus : Option WindowId) :
    (d.rename f).keyboardFocusChanged seat focus =
      (d.keyboardFocusChanged seat focus).rename f := by
  unfold keyboardFocusChanged
  rw [shell_rename, Shell.get?_seats_rename]
  cases d.shell.seats.get? seat with
  | none => rfl
  | some record =>
    dsimp only [Option.map_some]
    rw [Shell.isLive_rename]
    cases focus.filter d.shell.isLive <;>
      simp only [releaseFocus_rename, takeFocus_rename] <;>
      exact ite_rename ..

/-- The host is told of the seat's handle, which is not its name. -/
@[simp]
theorem focusSeat_rename (seat : SeatId) (w : Option WindowId) :
    (d.rename f).focusSeat seat w = (d.focusSeat seat w).rename f := by
  unfold focusSeat
  rw [shell_rename, Shell.get?_seats_rename]
  cases d.shell.seats.get? seat with
  | none => rfl
  | some record =>
    dsimp only [Option.map_some]
    rw [tell_rename, keyboardFocusChanged_rename]
    exact ite_rename ..

/-- What a seat leaves behind, its focus and its drag, is found by its id. -/
@[simp]
theorem seatRemoved_rename (seat : SeatId) :
    (d.rename f).seatRemoved seat = (d.seatRemoved seat).rename f := by
  unfold seatRemoved
  rw [releaseFocus_rename]
  refine update_rename _ ?_
  dsimp only
  rw [Shell.endGrab_rename, Shell.eraseSeat_rename]

@[simp]
theorem activateWindow_rename (seat : SeatId) (w : WindowId) :
    (d.rename f).activateWindow seat w = (d.activateWindow seat w).rename f := by
  have hraise (view : ViewHandle) :
      (d.rename f).raiseWindow w view = (d.raiseWindow w view).rename f := rfl
  simp only [activateWindow, shell_rename, Shell.windows_rename, hraise, ite_rename,
    focusSeat_rename]
  split <;> rfl

@[simp]
theorem touchDown_rename (seat : SeatId) (focus : Option WindowId) (defaultGrab : Bool) :
    (d.rename f).touchDown seat focus defaultGrab =
      (d.touchDown seat focus defaultGrab).rename f := by
  unfold touchDown
  split <;> simp

@[simp]
theorem pointerButton_rename (seat : SeatId) (button : UInt32) (focus : Option WindowId)
    (defaultGrab : Bool) : (d.rename f).pointerButton seat button focus defaultGrab =
      (d.pointerButton seat button focus defaultGrab).rename f := by
  unfold pointerButton
  split <;> simp

@[simp]
theorem grabMotion_rename (seat : SeatId) (location : Point) :
    (d.rename f).grabMotion seat location = (d.grabMotion seat location).rename f := by
  simp only [grabMotion, shell_rename, Shell.grabs_rename, moveView_rename]
  split <;> rfl

/-! ### Windows that come and go -/

/-- Whether there is memory for a view is up to the host, which has no names. -/
@[simp]
theorem createWindow_rename (surface : SurfaceHandle) (appId : Option String) :
    (d.rename f).createWindow surface appId =
      ((d.createWindow surface appId).1, (d.createWindow surface appId).2.rename f) := by
  unfold createWindow
  rw [host_rename]
  rcases d.host.createView surface with ⟨_ | view, h⟩ <;> rfl

/-- The loop that gives the new window the focus runs over the same seats. -/
@[simp]
theorem windowAdded_rename (surface : SurfaceHandle) (appId : Option String)
    (parent : Option WindowId) : (d.rename f).windowAdded surface appId parent =
      ((d.windowAdded surface appId parent).1,
        (d.windowAdded surface appId parent).2.rename f) := by
  simp only [windowAdded, createWindow_rename]
  rcases d.createWindow surface appId with ⟨_ | w, d⟩
  · rfl
  · simp only [shell_rename, Shell.isLive_rename]
    split <;> simp [foldl_rename]

/-- A listener that hears of a window's end is named by an id. -/
@[simp]
theorem windowGone_rename (w : WindowId) (parent : Option WindowId) (l : Listener) :
    windowGone w parent (d.rename f) l = (windowGone w parent d l).rename f := by
  cases l with
  | parent child => exact d.setParent_rename child parent
  | boundOutput x => rfl
  | seatFocus seat =>
    simp only [windowGone, shell_rename, Shell.focusedWindow_rename]
    rw [update_rename _ (Shell.setFocused_rename ..), ite_rename]
  | grab seat =>
    by_cases h : (d.shell.grabs.get? seat).any (·.window.source = w) <;>
      simp only [windowGone, shell_rename, Shell.grabs_rename, h] <;> rfl

theorem dropLinks_rename (s : Shell) (w : WindowId) (window : Window) :
    dropLinks (s.rename f) w window = (dropLinks s w window).rename f := by
  unfold dropLinks
  cases window.parent <;> cases window.boundOutput <;> rfl

/-- All the links of a window that goes are ids, so its end is the same for seats of other names. -/
@[simp]
theorem destroyWindow_rename (w : WindowId) :
    (d.rename f).destroyWindow w = (d.destroyWindow w).rename f := by
  unfold destroyWindow
  rw [shell_rename, Shell.windows_rename]
  cases d.shell.windows.get? w with
  | none => rfl
  | some window =>
    dsimp only
    rw [update_rename, tell_rename, foldl_rename fun d l => d.windowGone_rename w _ l,
      update_rename _ (dropLinks_rename ..), tell_rename]
    rfl

/-- The seats that are handed over to the heir are those focused on the window, whatever their
names. -/
@[simp]
theorem windowRemoved_rename (w : WindowId) :
    (d.rename f).windowRemoved w = (d.windowRemoved w).rename f := by
  unfold windowRemoved
  simp only [shell_rename, Shell.isLive_rename, Shell.heirOf_rename, Shell.focusedOn_rename]
  rw [foldl_rename fun d seat => d.focusSeat_rename seat _, destroyWindow_rename, ite_rename]

/-! ### Outputs -/

@[simp]
theorem outputAdded_rename (handle : OutputHandle) (name : String) (area : Rect) :
    (d.rename f).outputAdded handle name area =
      ((d.outputAdded handle name area).1, (d.outputAdded handle name area).2.rename f) := by
  unfold outputAdded
  rw [host_rename]
  rcases d.host.createBackground handle area with ⟨_ | view, h⟩ <;> rfl

/-- The listeners an output that goes still has are windows. -/
theorem foldl_outputGone_rename (o : OutputId) : ∀ (ls : List Listener) (s : Shell),
    ls.foldl (outputGone o) (s.rename f) = (ls.foldl (outputGone o) s).rename f
  | [], _ => rfl
  | l :: ls, s => by
    have hgone : outputGone o (s.rename f) l = (outputGone o s l).rename f := by
      cases l with
      | boundOutput w =>
        simp only [outputGone, Shell.outputOf_rename]
        exact (apply_ite (Shell.rename f) _ (s.modifyWindow w _) s).symm
      | parent | seatFocus | grab => rfl
    rw [List.foldl_cons, hgone, foldl_outputGone_rename o ls, List.foldl_cons]

@[simp]
theorem outputRemoved_rename (o : OutputId) :
    (d.rename f).outputRemoved o = (d.outputRemoved o).rename f := by
  unfold outputRemoved
  rw [shell_rename, Shell.outputs_rename]
  cases d.shell.outputs.get? o with
  | none => rfl
  | some output =>
    dsimp only
    rw [update_rename _ (foldl_outputGone_rename o _ { d.shell with outputs := _ }), tell_rename]

@[simp]
theorem reconfigure_rename (w : WindowId) : (d.rename f).reconfigure w =
    ((d.reconfigure w).1, (d.reconfigure w).2.rename f) := by
  simp only [reconfigure, shell_rename, Shell.windows_rename, Shell.areaOf_rename]
  split
  · rfl
  · split
    · rfl
    · simp only [tell_rename, ite_rename, moveView_rename]
      split <;> rfl

/-- The windows of an output are given its size, up to the first whose size does not fit. -/
theorem reconfigureAll_rename : ∀ (ws : List WindowId) (d : Desktop),
    (d.rename f).reconfigureAll ws =
      ((d.reconfigureAll ws).1, (d.reconfigureAll ws).2.rename f)
  | [], _ => rfl
  | w :: ws, d => by
    simp only [reconfigureAll, reconfigure_rename]
    rcases d.reconfigure w with ⟨_ | fault, d⟩
    · exact reconfigureAll_rename ws d
    · rfl

/-- A background belongs to an output. -/
@[simp]
theorem renewBackground_rename (o : OutputId) (output : Output) (area : Rect) :
    (d.rename f).renewBackground o output area =
      (d.renewBackground o output area).rename f := by
  unfold renewBackground
  rw [host_rename]
  rcases d.host.createBackground output.handle area with ⟨_ | view, h⟩ <;> rfl

@[simp]
theorem outputResized_rename (o : OutputId) (area : Rect) :
    (d.rename f).outputResized o area =
      ((d.outputResized o area).1, (d.outputResized o area).2.rename f) := by
  unfold outputResized
  rw [shell_rename, Shell.outputs_rename]
  cases d.shell.outputs.get? o with
  | none => rfl
  | some output =>
    dsimp only
    rw [update_rename _ (Shell.modifyOutput_rename ..), renewBackground_rename, shell_rename,
      Shell.filledWindowsOn_rename, reconfigureAll_rename]

/-- The windows of an output that moves follow it, and no seat is looked at. -/
@[simp]
theorem outputMoved_rename (o : OutputId) (delta : Point) :
    (d.rename f).outputMoved o delta = (d.outputMoved o delta).rename f := by
  unfold outputMoved
  rw [shell_rename, Shell.outputs_rename]
  cases d.shell.outputs.get? o with
  | none => rfl
  | some output =>
    dsimp only
    rw [update_rename _ (Shell.modifyOutput_rename ..), tell_rename, shell_rename,
      Shell.windowsOn_rename, foldl_rename fun d w => d.shiftWindow_rename w delta]

/-! ### Events -/

/-- What an event leads to does not depend on what seats are named. -/
theorem dispatch_rename (e : Event) :
    (d.rename f).dispatch (e.rename f) = ((d.dispatch e).1, (d.dispatch e).2.rename f) := by
  cases e with
  | xwaylandPositionSet | appIdChanged => rfl
  | seatCapabilitiesChanged => exact congrArg _ (update_rename _ (Shell.setHasKeyboard_rename ..))
  | grabReleased => exact congrArg _ (update_rename _ (Shell.endGrab_rename ..))
  | _ => simp [dispatch, Event.rename]

end Desktop

end Kiosk
