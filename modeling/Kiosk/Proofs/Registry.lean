import Kiosk.Proofs.Steady

/-!
# The registry

Which outputs and seats there are, and what of their records never changes, is a small
machine of its own inside the shell: `Shell.registry`, a pair of rosters beside the
configuration. An output keeps its name and the application ids it was registered for
(`Output.label`), a seat nothing that matters here.

Four events touch the registry (`Event.registers`), each in one operation on one roster,
and all other actions leave it alone (`Registry.Step`, `Desktop.act_registers`).
-/

namespace Kiosk

/-! ## Rosters without what changes in their records -/

section Maps

variable {kind : Kind} {α β : Type}

/-- What is fixed of the record in a slot. -/
def Slot.map (f : α → β) (s : Slot α) : Slot β := ⟨s.generation, s.record.map f⟩

/-- The arena with `f` of its records. -/
def Arena.map (f : α → β) (a : Arena kind α) : Arena kind β where
  slots := a.slots.map (Slot.map f)
  free := a.free
  free_vacant i hi := by
    obtain ⟨s, hs, hv⟩ := a.free_vacant i hi
    exact ⟨s.map f, by rw [List.getElem?_map, hs]; rfl, by rw [Slot.map, hv]; rfl⟩
  free_nodup := a.free_nodup

namespace Arena

/-- Two arenas with the same slots and free list are equal: the rest of an arena is proofs. -/
theorem ext_slots {a b : Arena kind α} (hs : a.slots = b.slots) (hf : a.free = b.free) : a = b := by
  cases a
  cases b
  cases hs
  cases hf
  rfl

variable (f : α → β) (a : Arena kind α) (id : Id kind)

/-- What is fixed of a record is found under the record's id. -/
theorem get?_map : (a.map f).get? id = (a.get? id).map f := by
  unfold get?
  rw [show (a.map f).slots[id.slot]? = _ from List.getElem?_map]
  cases a.slots[id.slot]? with
  | none => rfl
  | some s =>
    show (if s.generation = id.generation then s.record.map f else none) = _
    split <;> simp_all

/-- A record and what is fixed of it are given the same id, as slots are taken by the free list
alone. -/
theorem map_insert (record : α) :
    (a.map f).insert (f record) = ((a.insert record).1, (a.insert record).2.map f) := by
  obtain ⟨slots, free, hv, hn⟩ := a
  cases free with
  | nil =>
    refine Prod.ext (congrArg (Id.mk · 1) (slots.length_map _)) (ext_slots ?_ rfl)
    show slots.map (Slot.map f) ++ _ = (slots ++ [(⟨1, some record⟩ : Slot α)]).map (Slot.map f)
    rw [List.map_append]
    rfl
  | cons i free =>
    have hgeneration : ((slots.map (Slot.map f))[i]?.map Slot.generation).getD 1 =
        (slots[i]?.map Slot.generation).getD 1 := by
      rw [List.getElem?_map, Option.map_map]
      rfl
    refine Prod.ext (congrArg (Id.mk i) hgeneration) (ext_slots ?_ rfl)
    show (slots.map (Slot.map f)).set i ⟨((slots.map (Slot.map f))[i]?.map Slot.generation).getD 1,
      some (f record)⟩ = (slots.set i ⟨_, some record⟩).map (Slot.map f)
    rw [hgeneration, List.map_set]
    rfl

/-- A change that keeps what is fixed of a record does not show in the mapped arena. -/
theorem map_modify {g : α → α} (hg : ∀ r, f (g r) = f r) :
    (a.modify id g).map f = a.map f := by
  unfold modify
  split
  · next record hr =>
    obtain ⟨hlt, hslot⟩ := List.getElem?_eq_some_iff.1 (getElem?_of_get? hr)
    have hsame : Slot.map f ⟨id.generation, some (g record)⟩ = Slot.map f a.slots[id.slot] := by
      rw [hslot]
      exact congrArg (fun r => Slot.mk id.generation (some r)) (hg record)
    refine ext_slots ?_ rfl
    show (a.slots.set id.slot _).map (Slot.map f) = a.slots.map (Slot.map f)
    rw [List.map_set, hsame, ← List.map_set, List.set_getElem_self]
  · rfl

/-- The slot that is vacated, and put on the free list, is the same. -/
theorem map_erase : (a.erase id).map f = (a.map f).erase id := by
  have hget := a.get?_map f id
  unfold erase
  split
  · next record hr =>
    split
    · exact ext_slots List.map_set rfl
    · next hr' => simp_all
  · next hr =>
    split
    · next hr' => simp_all
    · rfl

end Arena

/-- The roster with `f` of its records. -/
def Roster.map (f : α → β) (r : Roster kind α) : Roster kind β := ⟨r.arena.map f, r.order⟩

namespace Roster

variable (f : α → β) (r : Roster kind α) (id : Id kind)

theorem get?_map : (r.map f).get? id = (r.get? id).map f := r.arena.get?_map f id

/-- The ids that name a record are the same. -/
theorem contains_map : (r.map f).contains id = r.contains id := by
  show ((r.map f).get? id).isSome = (r.get? id).isSome
  rw [get?_map, Option.isSome_map]

theorem map_insert (record : α) :
    (r.map f).insert (f record) = ((r.insert record).1, (r.insert record).2.map f) := by
  unfold insert
  rw [show (r.map f).arena.insert (f record) = _ from r.arena.map_insert f record]
  rfl

theorem map_modify {g : α → α} (hg : ∀ record, f (g record) = f record) :
    (r.modify id g).map f = r.map f := by
  unfold modify map
  rw [r.arena.map_modify f id hg]

theorem map_erase : (r.erase id).map f = (r.map f).erase id := by
  unfold erase
  rw [contains_map]
  split
  · unfold map
    rw [r.arena.map_erase f id]
  · rfl

/-- Letting go of a record that is not there changes nothing. -/
theorem erase_of_get?_none {r : Roster kind α} {id : Id kind} (h : r.get? id = none) :
    r.erase id = r := by
  have hgone : r.contains id = false := congrArg Option.isSome h
  rw [erase, hgone]
  rfl

end Roster

end Maps

/-! ## The registry of a shell -/

/-- What an output is registered with and keeps. -/
def Output.label (output : Output) : String × AppIds := (output.name, output.appIds)

/-- The application ids an output of this name is registered with. -/
def Config.reserved (c : Config) (name : String) : AppIds :=
  (c.outputAppIds name).elim .none AppIds.ofText

/-- Outputs and seats, without what changes in their records. -/
structure Registry where
  config : Config
  outputs : Roster .output (String × AppIds)
  seats : Roster .seat Unit

/-- The registry of a shell. -/
def Shell.registry (s : Shell) : Registry where
  config := s.config
  outputs := s.outputs.map Output.label
  seats := s.seats.map fun _ => ()

/-- The output that was registered. -/
def Reply.output? : Reply → Option OutputId
  | .output o => some o
  | _ => none

/-- The seat that was registered. -/
def Reply.seat? : Reply → Option SeatId
  | .seat id => some id
  | _ => none

/-- Whether the event registers an output or a seat, or lets one go. -/
def Event.registers : Event → Bool
  | .outputAdded .. => true
  | .outputRemoved _ => true
  | .seatAdded .. => true
  | .seatRemoved _ => true
  | _ => false

/-- Whether the action registers an output or a seat, or lets one go. -/
def Action.registers : Action → Bool
  | .event e => e.registers
  | _ => false

/-- A new window is neither an output nor a seat. -/
theorem Reply.ofWindow_registers (made : Except Shortage WindowId) :
    (ofWindow made).output? = none ∧ (ofWindow made).seat? = none := by
  cases made <;> exact ⟨rfl, rfl⟩

/-- A fault names nothing. -/
theorem Reply.ofFault_registers (fault : Option Fault) :
    (ofFault fault).output? = none ∧ (ofFault fault).seat? = none := by
  cases fault <;> exact ⟨rfl, rfl⟩

namespace Registry

/-- The registry with an output more, which gets the application ids configured for its name. -/
def addOutput (g : Registry) (name : String) : OutputId × Registry :=
  let (o, outputs) := g.outputs.insert (name, g.config.reserved name)
  (o, { g with outputs })

/-- The registry with a seat more. -/
def addSeat (g : Registry) : SeatId × Registry :=
  let (seat, seats) := g.seats.insert ()
  (seat, { g with seats })

/-- What one action does to the registry, and what the reply says of it. -/
inductive Step (g : Registry) : Reply → Registry → Prop
  | keep {reply : Reply} (ho : reply.output? = none) (hs : reply.seat? = none) : Step g reply g
  | addOutput (name : String) : Step g (.output (g.addOutput name).1) (g.addOutput name).2
  | removeOutput (o : OutputId) : Step g .handled { g with outputs := g.outputs.erase o }
  | addSeat : Step g (.seat g.addSeat.1) g.addSeat.2
  | removeSeat (seat : SeatId) : Step g .handled { g with seats := g.seats.erase seat }

end Registry

/-! ## What leaves the registry alone -/

namespace Shell

variable (s : Shell) (w p : WindowId) (o : OutputId) (seat : SeatId)

/-- All that a seat's record holds may change. -/
theorem registry_modifySeat (f : Seat → Seat) : (s.modifySeat seat f).registry = s.registry := by
  show Registry.mk _ _ ((s.seats.modify seat f).map _) = _
  rw [Roster.map_modify (fun _ => ()) _ _ fun _ => rfl]
  rfl

/-- An output may change but for its name and its application ids. -/
theorem registry_modifyOutput {f : Output → Output} (hf : ∀ r, (f r).label = r.label) :
    (s.modifyOutput o f).registry = s.registry := by
  show Registry.mk _ ((s.outputs.modify o f).map _) _ = _
  rw [Roster.map_modify _ _ _ hf]
  rfl

theorem registry_detach : (s.detach w).registry = s.registry := by
  unfold detach
  split <;> rfl

theorem registry_attach : (s.attach w p).registry = s.registry := by
  unfold attach watchWindow
  cases s.windows.get? p <;> rfl

theorem registry_unwatchOutput (link : Link .output) :
    (s.unwatchOutput link).registry = s.registry :=
  s.registry_modifyOutput link.source fun _ => rfl

theorem registry_leaveOutput : (s.leaveOutput w).registry = s.registry := by
  unfold leaveOutput
  split
  · rfl
  · exact registry_unwatchOutput (s.modifyWindow w _) _

theorem registry_enterOutput : (s.enterOutput w o).registry = s.registry := by
  unfold enterOutput watchOutput
  cases s.outputs.get? o with
  | none => rfl
  | some output => exact s.registry_modifyOutput o fun _ => rfl

/-- Binding a window changes who listens to the outputs, not what they are registered with. -/
theorem registry_setOutput (o : Option OutputId) : (s.setOutput w o).registry = s.registry := by
  unfold setOutput
  split
  · split
    · exact s.registry_leaveOutput w
    · exact (registry_enterOutput _ w _).trans (s.registry_leaveOutput w)
  · rfl

/-- The end of a drag concerns a window's listeners and the grabs. -/
theorem registry_endGrab : (s.endGrab seat).registry = s.registry := by
  unfold endGrab
  split <;> rfl

/-- A drag that starts is noted in the window and among the grabs. -/
theorem registry_moveRequested (request : MoveRequest) :
    (s.moveRequested w seat request).2.registry = s.registry := by
  unfold moveRequested watchWindow
  cases s.windows.get? w with
  | none => rfl
  | some window =>
    cases request.deviceFor w with
    | none => rfl
    | some held =>
      dsimp only
      split <;> rfl

end Shell

/-- A placement that is set leaves outputs and seats registered as they were. -/
theorem Settling.registry {d d' : Desktop} (h : Settling d d') :
    d'.shell.registry = d.shell.registry := by
  cases h with
  | output w o => exact d.shell.registry_setOutput w o
  | normal => rfl
  | fill w placement =>
    rw [d.shell_fillOutput]
    rfl

theorem Settles.registry {d d' : Desktop} (h : Settles d d') :
    d'.shell.registry = d.shell.registry := by
  induction h with
  | refl => rfl
  | tail _ h ih => exact h.registry.trans ih

namespace Desktop

variable (d : Desktop) (w : WindowId) (o : OutputId) (seat : SeatId)

/-- Adoption, refusal and release rearrange windows only. -/
theorem registry_setParent (parent : Option WindowId) :
    (d.setParent w parent).shell.registry = d.shell.registry :=
  setParent_cases (P := fun d' => d'.shell.registry = d.shell.registry) parent rfl
    (fun hw => (setParent_none hw).registry.trans (d.shell.registry_detach w))
    fun p _ hw hp h => (setParent_some hw hp h).registry.trans
      ((Shell.registry_attach _ w p).trans (d.shell.registry_detach w))

/-! ### Focus -/

theorem registry_releaseFocus : (d.releaseFocus seat).shell.registry = d.shell.registry := by
  have hseat := d.shell.registry_modifySeat seat ({ · with focused := none })
  unfold releaseFocus
  split
  · rfl
  · dsimp only
    split
    · exact hseat
    · split <;> exact hseat

theorem registry_takeFocus : (d.takeFocus seat w).shell.registry = d.shell.registry := by
  unfold takeFocus Shell.watchWindow
  cases d.shell.windows.get? w with
  | none => rfl
  | some window =>
    refine .trans (Shell.registry_modifySeat _ seat _) ?_
    split <;> rfl

/-- A seat's focus is not among what is fixed of it. -/
theorem registry_keyboardFocusChanged (focus : Option WindowId) :
    (d.keyboardFocusChanged seat focus).shell.registry = d.shell.registry :=
  keyboardFocusChanged_cases (P := fun d' => d'.shell.registry = d.shell.registry) seat focus rfl
    (d.registry_releaseFocus seat)
    fun w _ _ _ => (registry_takeFocus _ w seat).trans (d.registry_releaseFocus seat)

theorem registry_focusSeat (focus : Option WindowId) :
    (d.focusSeat seat focus).shell.registry = d.shell.registry :=
  focusSeat_cases (P := fun d' => d'.shell.registry = d.shell.registry) seat focus rfl
    fun _ => registry_keyboardFocusChanged (d.tell _) seat focus

/-- What leaves the registry alone each time does so in the end. -/
theorem registry_foldl {α : Type} {f : Desktop → α → Desktop}
    (hf : ∀ d a, (f d a).shell.registry = d.shell.registry) :
    ∀ (as : List α) (d : Desktop), (as.foldl f d).shell.registry = d.shell.registry
  | [], _ => rfl
  | a :: as, d => (registry_foldl hf as (f d a)).trans (hf d a)

theorem registry_activateWindow :
    (d.activateWindow seat w).shell.registry = d.shell.registry := by
  unfold activateWindow
  split
  · rfl
  · refine (registry_focusSeat _ seat _).trans ?_
    split <;> rfl

theorem registry_touchDown (focus : Option WindowId) (defaultGrab : Bool) :
    (d.touchDown seat focus defaultGrab).shell.registry = d.shell.registry := by
  unfold touchDown
  split
  · exact d.registry_activateWindow _ seat
  · rfl

theorem registry_pointerButton (button : UInt32) (focus : Option WindowId) (defaultGrab : Bool) :
    (d.pointerButton seat button focus defaultGrab).shell.registry = d.shell.registry := by
  unfold pointerButton
  split
  · exact d.registry_touchDown seat focus defaultGrab
  · rfl

/-! ### Windows that come and go -/

theorem registry_createWindow (surface : SurfaceHandle) (appId : Option String) :
    (d.createWindow surface appId).2.shell.registry = d.shell.registry := by
  unfold createWindow
  split <;> rfl

/-- A window that comes is bound and focused, and registers nothing. -/
theorem registry_windowAdded (surface : SurfaceHandle) (appId : Option String)
    (parent : Option WindowId) :
    (d.windowAdded surface appId parent).2.shell.registry = d.shell.registry := by
  have hmade := d.registry_createWindow surface appId
  unfold windowAdded
  split
  · next he =>
    rw [he] at hmade
    exact hmade
  · next w d' he =>
    rw [he] at hmade
    refine (registry_foldl (fun d seat => d.registry_focusSeat seat _) _ _).trans (.trans ?_ hmade)
    split
    · exact d'.registry_setParent w _
    · exact (d'.setFullscreen_settles w none).registry

/-- Whatever listens to a window that ends stays registered. -/
theorem registry_windowGone (parent : Option WindowId) (l : Listener) :
    (windowGone w parent d l).shell.registry = d.shell.registry := by
  unfold windowGone
  split
  · exact d.registry_setParent _ parent
  · rfl
  · split
    · exact d.shell.registry_modifySeat _ _
    · rfl
  · split <;> rfl

theorem registry_dropLinks (s : Shell) (window : Window) :
    (dropLinks s w window).registry = s.registry := by
  unfold dropLinks
  cases window.boundOutput with
  | none => cases window.parent <;> rfl
  | some link =>
    cases window.parent with
    | none => exact s.registry_unwatchOutput link
    | some parent => exact Shell.registry_unwatchOutput (s.unwatchWindow parent) link

/-- The links that a window had are dropped; the outputs and seats at their other ends stay. -/
theorem registry_destroyWindow : (d.destroyWindow w).shell.registry = d.shell.registry := by
  unfold destroyWindow
  split
  · rfl
  · exact (registry_dropLinks w _ _).trans
      (registry_foldl (fun d l => d.registry_windowGone w _ l) _ _)

theorem registry_windowRemoved : (d.windowRemoved w).shell.registry = d.shell.registry := by
  unfold windowRemoved
  split
  · exact (registry_destroyWindow _ w).trans
      (registry_foldl (fun d seat => d.registry_focusSeat seat _) _ _)
  · rfl

/-! ### Positions -/

theorem registry_moveView (p : Point) : (d.moveView w p).shell.registry = d.shell.registry := by
  unfold moveView
  split <;> rfl

theorem registry_shiftWindow (offset : Point) :
    (d.shiftWindow w offset).shell.registry = d.shell.registry := by
  unfold shiftWindow
  split
  · rfl
  · exact d.registry_moveView w _

theorem registry_finishCommit (window : Window) (commit : Commit) :
    (d.finishCommit w window commit).shell.registry = d.shell.registry := by
  have hmapped : (if window.mapped then d else d.mapWindow w window.view).shell.registry =
      d.shell.registry := by
    split <;> rfl
  unfold finishCommit
  refine .trans ?_ hmapped
  show Shell.registry (Desktop.shell (if _ then _ else _)) = _
  split
  · rfl
  · exact registry_shiftWindow _ w _

/-- A commit moves windows, or ends in a fault. -/
theorem registry_windowCommitted (commit : Commit) :
    (d.windowCommitted w commit).2.shell.registry = d.shell.registry := by
  unfold windowCommitted
  split
  · rfl
  · split
    · rfl
    · split
      · split
        · rfl
        · exact (registry_finishCommit _ w _ commit).trans (d.registry_moveView w _)
      · exact d.registry_finishCommit w _ commit

theorem registry_grabMotion (location : Point) :
    (d.grabMotion seat location).shell.registry = d.shell.registry := by
  unfold grabMotion
  split
  · rfl
  · exact d.registry_moveView _ _

/-! ### Outputs that change -/

theorem registry_reconfigure : (d.reconfigure w).2.shell.registry = d.shell.registry := by
  unfold reconfigure
  split
  · rfl
  · split
    · rfl
    · next window _ _ area _ =>
      have hsize : (if window.placement.fillsOutput then
          d.tell (·.setSize window.surface area.size) else d).shell.registry =
          d.shell.registry := by
        split <;> rfl
      dsimp only
      split
      · exact hsize
      · exact (registry_moveView _ w _).trans hsize

/-- The registry is the same wherever the windows stop being told their sizes. -/
theorem registry_reconfigureAll : ∀ (ws : List WindowId) (d : Desktop),
    (d.reconfigureAll ws).2.shell.registry = d.shell.registry
  | [], _ => rfl
  | w :: ws, d => by
    have h := d.registry_reconfigure w
    unfold reconfigureAll
    split
    · next he =>
      rw [he] at h
      exact h
    · next d' he =>
      rw [he] at h
      exact (registry_reconfigureAll ws d').trans h

/-- The background of an output is replaced, not the output. -/
theorem registry_renewBackground (output : Output) (area : Rect) :
    (d.renewBackground o output area).shell.registry = d.shell.registry := by
  unfold renewBackground
  split
  · exact d.shell.registry_modifyOutput o fun _ => rfl
  · rfl

/-- An output that gets another area is the same output, also when a size does not fit. -/
theorem registry_outputResized (area : Rect) :
    (d.outputResized o area).2.shell.registry = d.shell.registry := by
  unfold outputResized
  split
  · rfl
  · exact (registry_reconfigureAll _ _).trans ((registry_renewBackground _ o _ area).trans
      (d.shell.registry_modifyOutput o fun _ => rfl))

theorem registry_outputMoved (delta : Point) :
    (d.outputMoved o delta).shell.registry = d.shell.registry := by
  unfold outputMoved
  split
  · rfl
  · exact (registry_foldl (fun d w => d.registry_shiftWindow w delta) _ _).trans
      (d.shell.registry_modifyOutput o fun _ => rfl)

end Desktop

/-! ## What changes it -/

namespace Shell

variable (s : Shell)

/-- A new output is registered for the application ids configured for its name. -/
theorem registry_insertOutput (handle : OutputHandle) (name : String) (area : Rect)
    (background : ViewHandle) :
    let output := Output.ofHandle handle name area (s.config.reserved name) background
    ((s.outputs.insert output).1,
      registry { s with outputs := (s.outputs.insert output).2 }) = s.registry.addOutput name := by
  intro output
  have hinsert : s.registry.outputs.insert (name, s.registry.config.reserved name) = _ :=
    s.outputs.map_insert Output.label output
  rw [Registry.addOutput, hinsert]
  rfl

/-- A new seat is registered under the id that it goes by. -/
theorem registry_addSeat (handle : SeatHandle) (name : String) (hasKeyboard : Bool) :
    ((s.addSeat handle name hasKeyboard).1, (s.addSeat handle name hasKeyboard).2.registry) =
      s.registry.addSeat := by
  have hinsert : s.registry.seats.insert () = _ :=
    s.seats.map_insert (fun _ => ()) (.ofHandle handle name hasKeyboard)
  rw [Registry.addSeat, hinsert]
  rfl

/-- An output that is let go of leaves the registry. -/
theorem registry_eraseOutput (o : OutputId) : registry { s with outputs := s.outputs.erase o } =
    { s.registry with outputs := s.registry.outputs.erase o } :=
  congrArg (fun outputs => { s.registry with outputs }) (s.outputs.map_erase Output.label o)

theorem registry_eraseSeat (seat : SeatId) : registry { s with seats := s.seats.erase seat } =
    { s.registry with seats := s.registry.seats.erase seat } :=
  congrArg (fun seats => { s.registry with seats }) (s.seats.map_erase (fun _ => ()) seat)

theorem contains_registry_outputs (o : OutputId) :
    s.registry.outputs.contains o = s.outputs.contains o :=
  s.outputs.contains_map Output.label o

theorem contains_registry_seats (seat : SeatId) :
    s.registry.seats.contains seat = s.seats.contains seat :=
  s.seats.contains_map (fun _ => ()) seat

/-- Windows leave an output that goes away. -/
theorem registry_foldl_outputGone (o : OutputId) : ∀ (ls : List Listener) (s : Shell),
    (ls.foldl (Desktop.outputGone o) s).registry = s.registry
  | [], _ => rfl
  | l :: ls, s => by
    refine (registry_foldl_outputGone o ls _).trans ?_
    unfold Desktop.outputGone
    split
    · split <;> rfl
    · rfl

end Shell

namespace Desktop

variable (d : Desktop)

/-- An output that is added is registered, unless there is no memory for its background. -/
theorem outputAdded_step (handle : OutputHandle) (name : String) (area : Rect) :
    d.shell.registry.Step (.ofOutput (d.outputAdded handle name area).1)
      (d.outputAdded handle name area).2.shell.registry := by
  unfold outputAdded
  split
  · exact .keep rfl rfl
  · next background host _ =>
    have hstep := Registry.Step.addOutput (g := d.shell.registry) name
    rw [← d.shell.registry_insertOutput handle name area background] at hstep
    exact hstep

/-- The output leaves the registry, and the windows that leave it do not show there. -/
theorem registry_outputRemoved (o : OutputId) : (d.outputRemoved o).shell.registry =
    { d.shell.registry with outputs := d.shell.registry.outputs.erase o } := by
  unfold outputRemoved
  split
  · next hnone =>
    have hgone : d.shell.registry.outputs.get? o = none :=
      (d.shell.outputs.get?_map Output.label o).trans (congrArg _ hnone)
    rw [Roster.erase_of_get?_none hgone]
  · next output _ =>
    exact (Shell.registry_foldl_outputGone o output.signal.drain.1 _).trans
      (d.shell.registry_eraseOutput o)

/-- The outputs left are those other than the one that went. -/
theorem contains_outputs_outputRemoved (x o : OutputId) :
    (d.outputRemoved x).shell.outputs.contains o ↔ d.shell.outputs.contains o ∧ x ≠ o := by
  rw [← Shell.contains_registry_outputs, registry_outputRemoved, Roster.contains_erase,
    Shell.contains_registry_outputs, and_comm, ne_comm]

theorem contains_seats_outputRemoved (x : OutputId) (seat : SeatId) :
    (d.outputRemoved x).shell.seats.contains seat = d.shell.seats.contains seat := by
  rw [← Shell.contains_registry_seats, registry_outputRemoved, Shell.contains_registry_seats]

/-- Nothing can keep a seat from being registered. -/
theorem seatAdded_step (handle : SeatHandle) (name : String) (hasKeyboard : Bool) :
    d.shell.registry.Step (.seat (d.shell.addSeat handle name hasKeyboard).1)
      (d.shell.addSeat handle name hasKeyboard).2.registry := by
  have hstep := Registry.Step.addSeat (g := d.shell.registry)
  rw [← d.shell.registry_addSeat handle name hasKeyboard] at hstep
  exact hstep

/-- The seat leaves the registry, after its focus and its drag, which are not in it. -/
theorem registry_seatRemoved (seat : SeatId) : (d.seatRemoved seat).shell.registry =
    { d.shell.registry with seats := d.shell.registry.seats.erase seat } := by
  have hkept := (Shell.registry_endGrab _ seat).trans (d.registry_releaseFocus seat)
  have herased := Shell.registry_eraseSeat ((d.releaseFocus seat).shell.endGrab seat) seat
  rw [hkept] at herased
  exact herased

theorem contains_outputs_seatRemoved (x : SeatId) (o : OutputId) :
    (d.seatRemoved x).shell.outputs.contains o = d.shell.outputs.contains o := by
  rw [← Shell.contains_registry_outputs, registry_seatRemoved, Shell.contains_registry_outputs]

/-- The seats left are those other than the one that went. -/
theorem contains_seats_seatRemoved (x seat : SeatId) :
    (d.seatRemoved x).shell.seats.contains seat ↔ d.shell.seats.contains seat ∧ x ≠ seat := by
  rw [← Shell.contains_registry_seats, registry_seatRemoved, Roster.contains_erase,
    Shell.contains_registry_seats, and_comm, ne_comm]

/-- No direct call registers anything or lets it go. -/
theorem registry_call (c : Call) : (d.call c).2.shell.registry = d.shell.registry := by
  cases c with
  | createWindow surface appId => exact d.registry_createWindow surface appId
  | destroyWindow w => exact d.registry_destroyWindow w
  | setParent w parent => exact d.registry_setParent w parent
  | setOutput w o => exact d.shell.registry_setOutput w o
  | setFullscreen w o => exact (d.setFullscreen_settles w o).registry
  | setMaximized w => exact (d.setMaximized_settles w).registry
  | setNormal w => exact (d.setNormal_settles w).registry
  | focusSeat seat w => exact d.registry_focusSeat seat w
  | activateWindow seat w => exact d.registry_activateWindow w seat

/-- Direct calls register nothing. -/
theorem reply_call (c : Call) : (d.call c).1.output? = none ∧ (d.call c).1.seat? = none := by
  cases c with
  | createWindow surface appId => exact Reply.ofWindow_registers (d.createWindow surface appId).1
  | _ => exact ⟨rfl, rfl⟩

/-- All other events leave the registry alone, and their replies name nothing of it. -/
theorem dispatch_unregistered {e : Event} (he : e.registers = false) :
    (d.dispatch e).2.shell.registry = d.shell.registry ∧
    (d.dispatch e).1.output? = none ∧ (d.dispatch e).1.seat? = none := by
  have hwindow := Reply.ofWindow_registers
  have hfault := Reply.ofFault_registers
  cases e with
  | windowAdded surface appId parent =>
    exact ⟨d.registry_windowAdded surface appId parent, hwindow _⟩
  | windowRemoved w => exact ⟨d.registry_windowRemoved w, rfl, rfl⟩
  | windowCommitted w commit => exact ⟨d.registry_windowCommitted w commit, hfault _⟩
  | parentChanged w parent => exact ⟨d.registry_setParent w parent, rfl, rfl⟩
  | fullscreenRequested w fullscreen o =>
    exact ⟨(d.fullscreenRequested_settles w fullscreen o).registry, rfl, rfl⟩
  | maximizeRequested w maximized =>
    exact ⟨(d.maximizeRequested_settles w maximized).registry, rfl, rfl⟩
  | minimizeRequested w => exact ⟨rfl, rfl, rfl⟩
  | resizeRequested w => exact ⟨rfl, rfl, rfl⟩
  | moveRequested w seat request =>
    exact ⟨d.shell.registry_moveRequested w seat request, rfl, rfl⟩
  | xwaylandPositionSet w p => exact ⟨rfl, rfl, rfl⟩
  | appIdChanged w appId => exact ⟨rfl, rfl, rfl⟩
  | outputAdded handle name area => cases he
  | outputRemoved o => cases he
  | outputResized o area => exact ⟨d.registry_outputResized o area, hfault _⟩
  | outputMoved o delta => exact ⟨d.registry_outputMoved o delta, rfl, rfl⟩
  | seatAdded handle name hasKeyboard => cases he
  | seatCapabilitiesChanged seat hasKeyboard =>
    exact ⟨d.shell.registry_modifySeat seat _, rfl, rfl⟩
  | seatRemoved seat => cases he
  | keyboardFocusChanged seat focus =>
    exact ⟨d.registry_keyboardFocusChanged seat focus, rfl, rfl⟩
  | pointerButton seat button focus defaultGrab =>
    exact ⟨d.registry_pointerButton seat button focus defaultGrab, rfl, rfl⟩
  | touchDown seat focus defaultGrab =>
    exact ⟨d.registry_touchDown seat focus defaultGrab, rfl, rfl⟩
  | grabMotion seat location => exact ⟨d.registry_grabMotion seat location, rfl, rfl⟩
  | grabReleased seat => exact ⟨d.shell.registry_endGrab seat, rfl, rfl⟩

/-- Only events register, and of these only four. -/
theorem act_unregistered {a : Action} (ha : a.registers = false) :
    (d.act a).2.shell.registry = d.shell.registry ∧
    (d.act a).1.output? = none ∧ (d.act a).1.seat? = none := by
  cases a with
  | event e => exact d.dispatch_unregistered ha
  | call c => exact ⟨d.registry_call c, d.reply_call c⟩
  | switch s => exact ⟨rfl, rfl, rfl⟩

/-- What an action does to the registry. -/
theorem act_registers (a : Action) :
    d.shell.registry.Step (d.act a).1 (d.act a).2.shell.registry := by
  cases ha : a.registers with
  | false =>
    obtain ⟨hkept, houtput, hseat⟩ := d.act_unregistered ha
    exact hkept ▸ .keep houtput hseat
  | true =>
    cases a with
    | event e =>
      cases e with
      | outputAdded handle name area => exact d.outputAdded_step handle name area
      | outputRemoved o => exact d.registry_outputRemoved o ▸ Registry.Step.removeOutput o
      | seatAdded handle name hasKeyboard => exact d.seatAdded_step handle name hasKeyboard
      | seatRemoved seat => exact d.registry_seatRemoved seat ▸ Registry.Step.removeSeat seat
      | _ => cases ha
    | call c => cases ha
    | switch s => cases ha

end Desktop

end Kiosk
