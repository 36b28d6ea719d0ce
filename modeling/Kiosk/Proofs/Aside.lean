import Kiosk.Proofs.Steady

/-!
# What happens aside from windows and views

Focus, seats, drags and what clients report of themselves have no part in how
windows are placed or where views are. `Desktop.Aside` says so of two desktops:
each window's record is what it was after notes, focus count and signal are
blanked out (`Window.plain`), outputs are what they were, and the host was only
given advice, which is a command that makes, moves and releases nothing, for
surfaces of windows that are there (`Command.Advises`).
-/

namespace Kiosk

namespace Command

/-- The surface the command names. -/
def surface? : Command → Option SurfaceHandle
  | .setUserData s _ => some s
  | .createView s _ => some s
  | .setFullscreen s _ => some s
  | .setMaximized s _ => some s
  | .setSize s _ => some s
  | .setActivated s _ => some s
  | .setKeyboardFocus _ s => s
  | .postNoMemory s => some s
  | _ => none

/-- Whether the command tells a client or a seat how things stand. -/
def isAdvice : Command → Bool
  | .setFullscreen .. => true
  | .setMaximized .. => true
  | .setSize .. => true
  | .setActivated .. => true
  | .setKeyboardFocus .. => true
  | _ => false

/-- The command is advice that concerns no surface but those that `bears` holds of. -/
def Advises (bears : SurfaceHandle → Prop) (c : Command) : Prop :=
  c.isAdvice ∧ ∀ surface, c.surface? = some surface → bears surface

end Command

/-- Some live window shows `surface`. -/
def Shell.Bears (s : Shell) (surface : SurfaceHandle) : Prop :=
  ∃ w, (s.windows.get? w).map Window.surface = some surface

/-- A window's record without focus count, signal and what its client reported. -/
def Window.plain (window : Window) : Window :=
  { window with
    appId := none, focusCount := 0, lastSize := .zero, xwaylandPosition := none, signal := .empty }

/-- What the host remembers, without log, settings and focus. -/
def Host.plain (h : Host) : Host :=
  { h with
    log := [], failNextView := false, clientsConnected := true, keyboardFocus := .empty,
    activated := .empty }

namespace Desktop

variable {d d' d'' : Desktop} {w : WindowId} {seat : SeatId}

/-- `d'` is `d` up to focus, seats, drags and notes. -/
structure Aside (d d' : Desktop) : Prop where
  config : d'.shell.config = d.shell.config
  windows : ∀ w, (d'.shell.windows.get? w).map Window.plain =
    (d.shell.windows.get? w).map Window.plain
  stacking : d'.shell.stacking = d.shell.stacking
  outputs : d'.shell.outputs = d.shell.outputs
  host : d'.host.plain = d.host.plain
  log : ∃ cs, d'.host.log = d.host.log ++ cs ∧ ∀ c ∈ cs, c.Advises d.shell.Bears

namespace Aside

/-- A property of windows that has to do with the rest of the record only. -/
theorem map_eq {α : Type} (h : Aside d d') (g : Window → α) (hg : ∀ r, g r.plain = g r)
    (w : WindowId) : (d'.shell.windows.get? w).map g = (d.shell.windows.get? w).map g := by
  have := congrArg (Option.map g) (h.windows w)
  rw [Option.map_map, Option.map_map] at this
  rwa [show g ∘ Window.plain = g from funext hg] at this

theorem bears (h : Aside d d') {surface : SurfaceHandle} (hs : d'.shell.Bears surface) :
    d.shell.Bears surface := by
  obtain ⟨w, hw⟩ := hs
  rw [h.map_eq Window.surface fun _ => rfl] at hw
  exact ⟨w, hw⟩

theorem trans (h : Aside d d') (h' : Aside d' d'') : Aside d d'' where
  config := h'.config.trans h.config
  windows w := (h'.windows w).trans (h.windows w)
  stacking := h'.stacking.trans h.stacking
  outputs := h'.outputs.trans h.outputs
  host := h'.host.trans h.host
  log := by
    obtain ⟨cs, hl, hc⟩ := h.log
    obtain ⟨cs', hl', hc'⟩ := h'.log
    refine ⟨cs ++ cs', by rw [hl', hl, List.append_assoc], fun c hm => ?_⟩
    refine (List.mem_append.1 hm).elim (hc c) fun hm => ?_
    exact ⟨(hc' c hm).1, fun surface hs => h.bears ((hc' c hm).2 surface hs)⟩

/-- The host is told nothing. -/
theorem of_shell {s : Shell} (hconfig : s.config = d.shell.config)
    (hw : ∀ w, (s.windows.get? w).map Window.plain = (d.shell.windows.get? w).map Window.plain)
    (hs : s.stacking = d.shell.stacking) (ho : s.outputs = d.shell.outputs) :
    Aside d ⟨s, d.host⟩ :=
  ⟨hconfig, hw, hs, ho, rfl, [], (List.append_nil _).symm, by simp⟩

theorem refl (d : Desktop) : Aside d d := of_shell rfl (fun _ => rfl) rfl rfl

/-- A window is changed in ways that do not matter. -/
theorem modifyWindow {f : Window → Window} (hf : ∀ r, (f r).plain = r.plain) (d : Desktop)
    (w : WindowId) : Aside d (d.update (·.modifyWindow w f)) :=
  of_shell rfl (Shell.map_modifyWindow Window.plain hf d.shell w) rfl rfl

/-- The host is given one more piece of advice. -/
theorem record {h : Host} {c : Command} (ha : Aside d d') (hc : c.Advises d.shell.Bears)
    (hp : h.plain = d'.host.plain) (hl : h.log = d'.host.log) : Aside d ⟨d'.shell, h.record c⟩ := by
  obtain ⟨cs, hcs, hadvice⟩ := ha.log
  refine { ha with host := hp.trans ha.host, log := ⟨cs ++ [c], ?_, fun c' hm => ?_⟩ }
  · rw [Host.record, hl, hcs, List.append_assoc]
  · rcases List.mem_append.1 hm with hm | hm
    · exact hadvice c' hm
    · exact List.mem_singleton.1 hm ▸ hc

theorem setActivated {window : Window} (ha : Aside d d')
    (hw : d.shell.windows.get? w = some window) (b : Bool) :
    Aside d (d'.tell (·.setActivated window.surface b)) :=
  ha.record ⟨rfl, fun _ hs => ⟨w, (congrArg (Option.map Window.surface) hw).trans hs⟩⟩ rfl rfl

end Aside

/-! ## Focus -/

/-- The host moves the focus of a seat to the surface of a live window, or takes it away. -/
theorem setKeyboardFocus_aside (d : Desktop) (handle : SeatHandle) (w : Option WindowId) :
    Aside d (d.tell (·.setKeyboardFocus handle ((w.bind d.shell.windows.get?).map
      Window.surface))) := by
  refine (Aside.refl d).record ⟨rfl, fun surface hs => ?_⟩ rfl rfl
  obtain ⟨window, hwindow, -⟩ := Option.map_eq_some_iff.1 hs
  obtain ⟨w, -, hw⟩ := Option.bind_eq_some_iff.1 hwindow
  exact ⟨w, by rw [hw, ← hwindow]; exact hs⟩

theorem releaseFocus_aside (d : Desktop) (seat : SeatId) : Aside d (d.releaseFocus seat) := by
  unfold releaseFocus
  split
  · exact .refl d
  · next link _ =>
    have hseat : Aside d (d.update (·.modifySeat seat ({ · with focused := none }))) :=
      .of_shell rfl (fun _ => rfl) rfl rfl
    dsimp only
    split
    · exact hseat
    · next window hw =>
      have hunwatch := Aside.modifyWindow
        (f := fun r => { r with signal := r.signal.unsubscribe link.token }) (fun _ => rfl)
        (d.update (·.modifySeat seat ({ · with focused := none }))) link.source
      have hreleased := (hseat.trans hunwatch).trans (.modifyWindow
        (f := ({ · with focusCount := window.focusCount - 1 })) (fun _ => rfl) _ link.source)
      split
      · exact hreleased.setActivated hw false
      · exact hreleased

theorem takeFocus_aside (d : Desktop) (seat : SeatId) (w : WindowId) :
    Aside d (d.takeFocus seat w) := by
  unfold takeFocus
  cases hw : d.shell.windows.get? w with
  | none => exact .refl d
  | some window =>
    obtain ⟨s', he, rfl, -⟩ := Shell.watchWindow_of_live hw (.seatFocus seat)
    have hwatch := Aside.modifyWindow
      (f := ({ · with signal := (window.signal.subscribe (.seatFocus seat)).2 })) (fun _ => rfl) d w
    have hcount (d : Desktop) : Aside d (d.update fun s =>
        (s.modifyWindow w ({ · with focusCount := window.focusCount + 1 })).modifySeat seat
          ({ · with focused := some ⟨w, window.signal.nextToken⟩ })) :=
      (Aside.modifyWindow (f := ({ · with focusCount := window.focusCount + 1 })) (fun _ => rfl) d
        w).trans (.of_shell rfl (fun _ => rfl) rfl rfl)
    rw [he]
    refine .trans ?_ (hcount _)
    split
    · exact hwatch.setActivated hw true
    · exact hwatch

theorem keyboardFocusChanged_aside (d : Desktop) (seat : SeatId) (focus : Option WindowId) :
    Aside d (d.keyboardFocusChanged seat focus) :=
  keyboardFocusChanged_cases (P := Aside d) seat focus (.refl d) (d.releaseFocus_aside seat)
    fun w _ _ _ => (d.releaseFocus_aside seat).trans (takeFocus_aside _ seat w)

theorem focusSeat_aside (d : Desktop) (seat : SeatId) (w : Option WindowId) :
    Aside d (d.focusSeat seat w) :=
  focusSeat_cases (P := Aside d) seat w (.refl d) fun handle =>
    (d.setKeyboardFocus_aside handle w).trans (keyboardFocusChanged_aside _ seat w)

theorem foldl_focusSeat_aside (w : Option WindowId) : ∀ (seats : List SeatId) (d : Desktop),
    Aside d (seats.foldl (fun d seat => d.focusSeat seat w) d)
  | [], d => .refl d
  | seat :: seats, d => (d.focusSeat_aside seat w).trans (foldl_focusSeat_aside w seats _)

/-! ## Seats and drags -/

theorem endGrab_aside (d : Desktop) (seat : SeatId) : Aside d (d.update (·.endGrab seat)) := by
  show Aside d ⟨d.shell.endGrab seat, d.host⟩
  unfold Shell.endGrab
  split
  · exact .refl d
  · next grab _ =>
    exact .of_shell rfl (Shell.map_modifyWindow Window.plain (fun _ => by rfl) _ grab.window.source)
      rfl rfl

theorem seatRemoved_aside (d : Desktop) (seat : SeatId) : Aside d (d.seatRemoved seat) :=
  ((d.releaseFocus_aside seat).trans (endGrab_aside _ seat)).trans
    (.of_shell rfl (fun _ => rfl) rfl rfl)

theorem moveRequested_aside (d : Desktop) (w : WindowId) (seat : SeatId) (request : MoveRequest) :
    Aside d (d.update fun s => (s.moveRequested w seat request).2) := by
  show Aside d ⟨(d.shell.moveRequested w seat request).2, d.host⟩
  unfold Shell.moveRequested
  split
  · next window _ _ hw _ =>
    split
    · exact .refl d
    · obtain ⟨s', he, rfl, -⟩ := Shell.watchWindow_of_live hw (.grab seat)
      rw [he]
      exact .of_shell rfl (Shell.map_modifyWindow Window.plain (fun _ => by rfl) d.shell w) rfl rfl
  · exact .refl d

theorem switch_aside (d : Desktop) (s : HostSwitch) : Aside d (d.tell (·.switch s)) := by
  cases s <;> exact ⟨rfl, fun _ => rfl, rfl, rfl, rfl, [], (List.append_nil _).symm, by simp⟩

end Desktop

end Kiosk
