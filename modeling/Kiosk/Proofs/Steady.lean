import Kiosk.Proofs.Links
import Kiosk.Proofs.Moves

/-!
# What placing leaves alone

Placing windows and changing their parents concerns placements, links and
signals, and tells the host about fullscreen and maximized states and sizes. All
else stays what it was: `Steady` says so of two desktops, with each record
compared after what may change in it is blanked out (`Window.still`,
`Output.still`, `Host.still`).

Tearing down a window runs such changes, and lets the seats go that focused it.
`Wane` says so for the windows that stay.
-/

namespace Kiosk

/-- A window's record without placement, links and signal. -/
def Window.still (window : Window) : Window :=
  { window with placement := .normal, boundOutput := none, parent := none, signal := .empty }

/-- An output's record without its signal. -/
def Output.still (output : Output) : Output := { output with signal := .empty }

/-- What the host remembers, without log and placements. -/
def Host.still (h : Host) : Host :=
  { h with log := [], fullscreen := .empty, maximized := .empty, sizes := .empty }

/-- Whether the command tells a client about its placement. -/
def Command.isPlacing : Command → Bool
  | .setFullscreen .. => true
  | .setMaximized .. => true
  | .setSize .. => true
  | _ => false

/-- A record that is there after a change that `f` does not see was there before. -/
theorem exists_of_map_eq {α β : Type} {f : α → β} {old new : Option α} {r' : α}
    (h : new.map f = old.map f) (hr' : new = some r') : ∃ r, old = some r ∧ f r = f r' := by
  rw [hr'] at h
  exact Option.map_eq_some_iff.1 h.symm

/-! ## Shells -/

/-- `s'` is `s` up to placements, links and signals. -/
structure Shell.Steady (s s' : Shell) : Prop where
  config : s'.config = s.config
  windows : ∀ w, (s'.windows.get? w).map Window.still = (s.windows.get? w).map Window.still
  stacking : s'.stacking = s.stacking
  outputs : ∀ o, (s'.outputs.get? o).map Output.still = (s.outputs.get? o).map Output.still
  order : s'.outputs.order = s.outputs.order
  seats : s'.seats = s.seats
  grabs : s'.grabs = s.grabs

namespace Shell

variable {s s' s'' : Shell} {w p : WindowId} {o : OutputId}

namespace Steady

theorem refl (s : Shell) : Steady s s :=
  ⟨rfl, fun _ => rfl, rfl, fun _ => rfl, rfl, rfl, rfl⟩

theorem trans (h : Steady s s') (h' : Steady s' s'') : Steady s s'' :=
  ⟨h'.config.trans h.config, fun w => (h'.windows w).trans (h.windows w),
    h'.stacking.trans h.stacking, fun o => (h'.outputs o).trans (h.outputs o),
    h'.order.trans h.order, h'.seats.trans h.seats, h'.grabs.trans h.grabs⟩

/-- A property of windows that has to do with the rest of the record only. -/
theorem map_eq {α : Type} (h : Steady s s') (g : Window → α) (hg : ∀ r, g r.still = g r)
    (w : WindowId) : (s'.windows.get? w).map g = (s.windows.get? w).map g := by
  have := congrArg (Option.map g) (h.windows w)
  rw [Option.map_map, Option.map_map] at this
  rwa [show g ∘ Window.still = g from funext hg] at this

/-- The windows that are there stay, and no window comes. -/
theorem isLive (h : Steady s s') (w : WindowId) : s'.isLive w = s.isLive w := by
  have := congrArg Option.isSome (h.windows w)
  rwa [Option.isSome_map, Option.isSome_map] at this

end Steady

theorem modifyWindow_steady {f : Window → Window} (hf : ∀ r, (f r).still = r.still) (s : Shell)
    (w : WindowId) : Steady s (s.modifyWindow w f) :=
  { Steady.refl s with windows := map_modifyWindow Window.still hf s w }

theorem modifyOutput_steady {f : Output → Output} (hf : ∀ r, (f r).still = r.still) (s : Shell)
    (o : OutputId) : Steady s (s.modifyOutput o f) := by
  refine { Steady.refl s with outputs := fun j => ?_ }
  rw [get?_modifyOutput]
  split
  · next hj =>
    rw [hj, Option.map_map]
    exact congrArg (fun f => (s.outputs.get? o).map f) (funext hf)
  · rfl

/-- A window that leaves its parent is otherwise the window it was. -/
theorem detach_steady (s : Shell) (w : WindowId) : Steady s (s.detach w) := by
  unfold detach
  split
  · exact .refl s
  · next link _ =>
    have hlink := modifyWindow_steady (f := ({ · with parent := none })) (fun _ => rfl) s w
    have hsignal := modifyWindow_steady
      (f := fun r => { r with signal := r.signal.unsubscribe link.token }) (fun _ => rfl)
      (s.modifyWindow w ({ · with parent := none })) link.source
    exact { hlink.trans hsignal with }

theorem watchWindow_steady (s : Shell) (w : WindowId) (l : Listener) :
    Steady s (s.watchWindow w l).2 := by
  unfold watchWindow
  split
  · exact .refl s
  · exact modifyWindow_steady (fun _ => by rfl) s w

theorem watchOutput_steady (s : Shell) (o : OutputId) (l : Listener) :
    Steady s (s.watchOutput o l).2 := by
  unfold watchOutput
  split
  · exact .refl s
  · exact modifyOutput_steady (fun _ => by rfl) s o

theorem attach_steady (s : Shell) (w p : WindowId) : Steady s (s.attach w p) := by
  have hwatch := s.watchWindow_steady p (.parent w)
  unfold attach
  split
  · next he =>
    rw [he] at hwatch
    exact hwatch
  · next link s' he =>
    rw [he] at hwatch
    replace hwatch : Steady s s' := hwatch
    have hlink := modifyWindow_steady (f := ({ · with parent := some link })) (fun _ => rfl) s' w
    exact { hwatch.trans hlink with }

theorem leaveOutput_steady (s : Shell) (w : WindowId) : Steady s (s.leaveOutput w) := by
  unfold leaveOutput
  split
  · exact .refl s
  · exact (modifyWindow_steady (fun _ => by rfl) s w).trans
      (modifyOutput_steady (fun _ => by rfl) _ _)

theorem enterOutput_steady (s : Shell) (w : WindowId) (o : OutputId) :
    Steady s (s.enterOutput w o) := by
  have hwatch := s.watchOutput_steady o (.boundOutput w)
  unfold enterOutput
  split
  · next he =>
    rw [he] at hwatch
    exact hwatch
  · next link s' he =>
    rw [he] at hwatch
    replace hwatch : Steady s s' := hwatch
    exact hwatch.trans (modifyWindow_steady (fun _ => by rfl) s' w)

/-- Binding a window to an output moves a link, and the links are not among what stays. -/
theorem setOutput_steady (s : Shell) (w : WindowId) (o : Option OutputId) :
    Steady s (s.setOutput w o) := by
  cases hw : s.isLive w with
  | false =>
    rw [setOutput_of_not_live hw]
    exact .refl s
  | true =>
    cases o with
    | none =>
      rw [setOutput_none hw]
      exact leaveOutput_steady s w
    | some o =>
      rw [setOutput_some hw]
      exact (leaveOutput_steady s w).trans (enterOutput_steady _ w o)

end Shell

/-! ## Hosts -/

/-- `h'` is `h` told nothing but placements. -/
structure Host.Steady (h h' : Host) : Prop where
  still : h'.still = h.still
  log : ∃ cs, h'.log = h.log ++ cs ∧ ∀ c ∈ cs, c.isPlacing

namespace Host

theorem Steady.refl (h : Host) : Steady h h := ⟨rfl, [], by simp, by simp⟩

theorem Steady.trans {h h' h'' : Host} (hs : Steady h h') (hs' : Steady h' h'') : Steady h h'' := by
  obtain ⟨cs, hl, hc⟩ := hs.log
  obtain ⟨cs', hl', hc'⟩ := hs'.log
  refine ⟨hs'.still.trans hs.still, cs ++ cs', by rw [hl', hl, List.append_assoc], fun c hm => ?_⟩
  exact (List.mem_append.1 hm).elim (hc c) (hc' c)

theorem setFullscreen_steady (h : Host) (surface : SurfaceHandle) (b : Bool) :
    Steady h (h.setFullscreen surface b) :=
  ⟨rfl, [.setFullscreen surface b], rfl, by simp [Command.isPlacing]⟩

theorem setMaximized_steady (h : Host) (surface : SurfaceHandle) (b : Bool) :
    Steady h (h.setMaximized surface b) :=
  ⟨rfl, [.setMaximized surface b], rfl, by simp [Command.isPlacing]⟩

theorem setSize_steady (h : Host) (surface : SurfaceHandle) (size : Size) :
    Steady h (h.setSize surface size) :=
  ⟨rfl, [.setSize surface size], rfl, by simp [Command.isPlacing]⟩

/-- Telling a client its placement leaves all else that the host remembers. -/
theorem announce_steady (h : Host) (surface : SurfaceHandle) (previous placement : Placement) :
    Steady h (Desktop.announce h surface previous placement) := by
  unfold Desktop.announce
  split
  · dsimp only
    split
    · exact (h.setMaximized_steady surface false).trans (setFullscreen_steady _ surface true)
    · exact h.setFullscreen_steady surface true
  · dsimp only
    split
    · exact (h.setFullscreen_steady surface false).trans (setMaximized_steady _ surface true)
    · exact h.setMaximized_steady surface true
  · exact .refl h

end Host

/-! ## Desktops -/

/-- `d'` is `d` up to placements, links and signals. -/
structure Desktop.Steady (d d' : Desktop) : Prop where
  shell : d.shell.Steady d'.shell
  host : d.host.Steady d'.host

namespace Desktop

variable {d d' d'' : Desktop} {w p : WindowId}

theorem Steady.refl (d : Desktop) : Steady d d := ⟨.refl _, .refl _⟩

theorem Steady.trans (h : Steady d d') (h' : Steady d' d'') : Steady d d'' :=
  ⟨h.shell.trans h'.shell, h.host.trans h'.host⟩

theorem update_steady {f : Shell → Shell} (h : d.shell.Steady (f d.shell)) :
    Steady d (d.update f) :=
  ⟨h, .refl _⟩

theorem tell_steady {f : Host → Host} (h : d.host.Steady (f d.host)) : Steady d (d.tell f) :=
  ⟨.refl _, h⟩

/-- Filling an output sets the placement; the size goes to the client only. -/
theorem shell_fillOutput (d : Desktop) (w : WindowId) (placement : Placement) :
    (d.fillOutput w placement).shell = d.shell.modifyWindow w ({ · with placement }) := by
  unfold fillOutput
  split
  · next hw => rw [Shell.modifyWindow_of_none hw]
  · dsimp only
    split <;> rfl

theorem fillOutput_steady (d : Desktop) (w : WindowId) (placement : Placement) :
    Steady d (d.fillOutput w placement) := by
  unfold fillOutput
  split
  · exact .refl d
  · next window _ =>
    have hfill : d.Steady ⟨d.shell.modifyWindow w ({ · with placement }),
        announce d.host window.surface window.placement placement⟩ :=
      ⟨Shell.modifyWindow_steady (fun _ => by rfl) _ w, d.host.announce_steady _ _ placement⟩
    dsimp only
    split
    · next area _ =>
      exact hfill.trans (tell_steady (Host.setSize_steady _ window.surface area.size))
    · exact hfill

end Desktop

open Desktop

variable {d d' : Desktop} {w p : WindowId}

/-- A placement that is set leaves what is steady as it was. -/
theorem Settling.steady (h : Settling d d') : d.Steady d' := by
  cases h with
  | output w o => exact update_steady (d.shell.setOutput_steady w o)
  | @normal w window hw =>
    have hshell := update_steady (d := d)
      (f := (·.modifyWindow w ({ · with placement := .normal })))
      (Shell.modifyWindow_steady (fun _ => by rfl) _ w)
    have hhost := ((Host.setFullscreen_steady d.host window.surface false).trans
      (Host.setMaximized_steady _ window.surface false)).trans
      (Host.setSize_steady _ window.surface .zero)
    exact hshell.trans (tell_steady hhost)
  | fill w placement => exact d.fillOutput_steady w placement

theorem Settles.steady (h : Settles d d') : d.Steady d' := by
  induction h with
  | refl => exact .refl _
  | tail _ h ih => exact ih.trans h.steady

/-- Settling leaves the lists of children alone, too. -/
theorem Settling.children (h : Settling d d') : d'.shell.children = d.shell.children := by
  cases h with
  | output w o => exact d.shell.children_setOutput w o
  | normal => rfl
  | fill w placement =>
    rw [d.shell_fillOutput]
    rfl

theorem Settles.children (h : Settles d d') : d'.shell.children = d.shell.children := by
  induction h with
  | refl => rfl
  | tail _ h ih => exact h.children.trans ih

/-- A window's parent and placement are not among what stays. -/
theorem Desktop.setParent_steady (d : Desktop) (w : WindowId) (parent : Option WindowId) :
    d.Steady (d.setParent w parent) := by
  refine setParent_cases (P := d.Steady) parent (.refl d) (fun hw => ?_) fun p _ hw hp h => ?_
  · exact (update_steady (d.shell.detach_steady w)).trans (setParent_none hw).steady
  · exact (update_steady ((d.shell.detach_steady w).trans (Shell.attach_steady _ w p))).trans
      (setParent_some hw hp h).steady

/-! ## Records that are torn down -/

namespace Desktop

/-- A window that loses its output is otherwise the window it was. -/
theorem outputGone_steady (o : OutputId) (s : Shell) (l : Listener) :
    Shell.Steady s (outputGone o s l) := by
  cases l with
  | boundOutput w =>
    show Shell.Steady s (if s.outputOf w = some o then _ else s)
    split
    · exact Shell.modifyWindow_steady (fun _ => by rfl) s w
    · exact .refl s
  | parent | seatFocus | grab => exact .refl s

theorem foldl_outputGone_steady (o : OutputId) : ∀ (ls : List Listener) (s : Shell),
    Shell.Steady s (ls.foldl (outputGone o) s)
  | [], s => .refl s
  | l :: ls, s => (outputGone_steady o s l).trans (foldl_outputGone_steady o ls _)

/-- `d'` is `d` up to placements, links and signals, where windows may be gone, and seats may have
lost the focus of such windows. -/
structure Wane (d d' : Desktop) : Prop where
  windows : ∀ x r', d'.shell.windows.get? x = some r' →
    ∃ r, d.shell.windows.get? x = some r ∧ r.still = r'.still
  stacking : d'.shell.stacking = d.shell.stacking
  outputs : ∀ o, (d'.shell.outputs.get? o).map Output.still =
    (d.shell.outputs.get? o).map Output.still
  order : d'.shell.seats.order = d.shell.seats.order
  seats : ∀ seat, d'.shell.seats.contains seat = d.shell.seats.contains seat
  focus : ∀ x, d'.shell.isLive x → ∀ seat,
    d'.shell.focusedWindow seat = some x ↔ d.shell.focusedWindow seat = some x
  host : d.host.Steady d'.host

/-- A window that is left was there before. -/
theorem Wane.isLive (h : Wane d d') (hw : d'.shell.isLive w) : d.shell.isLive w := by
  obtain ⟨r', hr'⟩ := Option.isSome_iff_exists.1 hw
  obtain ⟨r, hr, -⟩ := h.windows w r' hr'
  exact Option.isSome_iff_exists.2 ⟨r, hr⟩

theorem Wane.trans {d'' : Desktop} (h : Wane d d') (h' : Wane d' d'') : Wane d d'' where
  windows x r'' hr'' := by
    obtain ⟨r', hr', hs'⟩ := h'.windows x r'' hr''
    obtain ⟨r, hr, hs⟩ := h.windows x r' hr'
    exact ⟨r, hr, hs.trans hs'⟩
  stacking := h'.stacking.trans h.stacking
  outputs o := (h'.outputs o).trans (h.outputs o)
  order := h'.order.trans h.order
  seats seat := (h'.seats seat).trans (h.seats seat)
  focus x hx seat := (h'.focus x hx seat).trans (h.focus x (h'.isLive hx) seat)
  host := h.host.trans h'.host

/-- Nothing is lost where nothing changes but placements, links and signals. -/
theorem Steady.wane (h : Steady d d') : Wane d d' where
  windows x _ hr' := exists_of_map_eq (h.shell.windows x) hr'
  stacking := h.shell.stacking
  outputs := h.shell.outputs
  order := by rw [h.shell.seats]
  seats seat := by rw [h.shell.seats]
  focus x _ seat := by rw [Shell.focusedWindow, h.shell.seats, Shell.focusedWindow]
  host := h.host

/-- A listener of a window that is gone touches no other window's focus. -/
theorem windowGone_wane (hw : d.shell.isLive w = false) (parent : Option WindowId) (l : Listener) :
    Wane d (windowGone w parent d l) := by
  cases l with
  | parent child => exact (d.setParent_steady child parent).wane
  | boundOutput x => exact (Steady.refl d).wane
  | grab seat =>
    show Wane d (if _ then _ else d)
    split
    · exact { (Steady.refl d).wane with }
    · exact (Steady.refl d).wane
  | seatFocus seat =>
    show Wane d (if d.shell.focusedWindow seat = some w then _ else d)
    split
    · next hfocus =>
      refine { (Steady.refl d).wane with
        seats := fun j => Shell.contains_modifySeat d.shell seat j _
        focus := fun x hx j => ?_ }
      have hne : x ≠ w := by
        rintro rfl
        cases hw.symm.trans hx
      show ((d.shell.modifySeat seat _).seats.get? j).bind Seat.focusedWindow = some x ↔ _
      rw [Shell.get?_modifySeat]
      split
      · next hj =>
        rw [hj, hfocus, Option.bind_map]
        constructor
        · intro hnone
          obtain ⟨record, -, hr⟩ := Option.bind_eq_some_iff.1 hnone
          cases hr
        · intro hsame
          exact absurd (Option.some.inj hsame).symm hne
      · rfl
    · exact (Steady.refl d).wane

theorem foldl_windowGone_wane (parent : Option WindowId) : ∀ (ls : List Listener) {d : Desktop},
    d.shell.isLive w = false → Wane d (ls.foldl (windowGone w parent) d)
  | [], d, _ => (Steady.refl d).wane
  | l :: ls, d, hw => by
    have hstep := windowGone_wane hw parent l
    have hgone : (windowGone w parent d l).shell.isLive w = false := by
      refine Bool.eq_false_iff.2 fun hlive => ?_
      rw [hstep.isLive hlive] at hw
      cases hw
    exact hstep.trans (foldl_windowGone_wane parent ls hgone)

/-- The links of a window that ends are dropped at their other ends. -/
theorem dropLinks_steady (s : Shell) (w : WindowId) (window : Window) :
    Shell.Steady s (dropLinks s w window) := by
  have hparent (link : Link .window) : Shell.Steady s
      { s.unwatchWindow link with children := s.children.unlink link.source w } :=
    { Shell.modifyWindow_steady (f := fun r => { r with signal := r.signal.unsubscribe link.token })
      (fun _ => rfl) s link.source with }
  have houtput (s : Shell) (link : Link .output) : Shell.Steady s (s.unwatchOutput link) :=
    Shell.modifyOutput_steady (fun _ => by rfl) s link.source
  unfold dropLinks
  cases window.parent with
  | none =>
    cases window.boundOutput with
    | none => exact { Shell.Steady.refl s with }
    | some link => exact { houtput s link with }
  | some link =>
    cases window.boundOutput with
    | none => exact { hparent link with }
    | some out => exact { (hparent link).trans (houtput _ out) with }

/-- `d` without the record `window` of `w`, whose links have not ended yet. -/
def erased (d : Desktop) (w : WindowId) (window : Window) : Desktop where
  shell := { d.shell with
    windows := d.shell.windows.erase w, stacking := d.shell.stacking.filter (· ≠ w) }
  host := d.host.setUserData window.surface none

theorem get?_erased (d : Desktop) (w : WindowId) (window : Window) (x : WindowId) :
    (d.erased w window).shell.windows.get? x = if x = w then none else d.shell.windows.get? x :=
  Arena.get?_erase _ _ _

/-- Destroying a window: its record goes, the others wane, and its view goes. -/
theorem destroyWindow_eq {window : Window} (hw : d.shell.windows.get? w = some window) :
    ∃ d₁, Wane (d.erased w window) d₁ ∧ d₁.shell.isLive w = false ∧
      d.destroyWindow w = d₁.tell (·.destroyView window.view) := by
  have hgone : (d.erased w window).shell.isLive w = false := by
    rw [Shell.isLive, Arena.contains, get?_erased, if_pos rfl]
    rfl
  have hfold := foldl_windowGone_wane window.parentId window.signal.drain.1 hgone
  have hdrop (d : Desktop) : Steady d (d.update (dropLinks · w window)) :=
    update_steady (f := (dropLinks · w window)) (dropLinks_steady d.shell w window)
  have hwane := hfold.trans (hdrop _).wane
  refine ⟨_, hwane, Bool.eq_false_iff.2 fun hlive => ?_, ?_⟩
  · rw [hwane.isLive hlive] at hgone
    cases hgone
  · rw [destroyWindow, hw]
    rfl

end Desktop

end Kiosk
