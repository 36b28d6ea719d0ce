import Kiosk.Proofs.Web
import Kiosk.Shell

/-!
# The links of a shell

The web of a shell, and what each operation on records does to it: those that
make a link are a `Web.tie`, those that end one a `Web.cut`, and the rest leave
the web as it is. So the web is all that later proofs about links look at.
-/

namespace Kiosk

open Function (update update_self update_of_ne)

/-- Where a link to a window leads. -/
def Link.toWindow (link : Link .window) : Target × Token := (.window link.source, link.token)

/-- Where a link to an output leads. -/
def Link.toOutput (link : Link .output) : Target × Token := (.output link.source, link.token)

namespace Shell

variable {s s' : Shell} {w p : WindowId} {o : OutputId} {seat : SeatId} {l : Listener}

/-- Where the link that `l` stands for leads, if there is such a link. -/
def linkOf (s : Shell) : Listener → Option (Target × Token)
  | .parent w => ((s.windows.get? w).bind Window.parent).map Link.toWindow
  | .boundOutput w => ((s.windows.get? w).bind Window.boundOutput).map Link.toOutput
  | .seatFocus seat => ((s.seats.get? seat).bind Seat.focused).map Link.toWindow
  | .grab seat => (s.grabs.get? seat).map fun grab => grab.window.toWindow

/-- The signal of a live record. -/
def signalOf (s : Shell) : Target → Option Signal
  | .window w => (s.windows.get? w).map Window.signal
  | .output o => (s.outputs.get? o).map Output.signal

/-- All links and all signals. -/
def web (s : Shell) : Web := ⟨s.linkOf, s.signalOf⟩

theorem isSome_signal_window : (s.web.signal (.window w)).isSome = s.isLive w :=
  Option.isSome_map

theorem isSome_signal_output : (s.web.signal (.output o)).isSome = s.outputs.contains o :=
  Option.isSome_map

theorem parent_web (s : Shell) : s.web.parent = Windows.parentOf s.windows := by
  funext w
  have hlink : s.web.link (.parent w) =
      ((s.windows.get? w).bind Window.parent).map Link.toWindow := rfl
  rw [Web.parent, hlink, Windows.parentOf]
  cases s.windows.get? w with
  | none => rfl
  | some window =>
    rw [Option.bind_some, Option.bind_some, Window.parentId]
    cases window.parent <;> rfl

/-- The web is a matter of these parts only. -/
theorem web_congr
    (hw : ∀ w, (s'.windows.get? w).bind Window.parent = (s.windows.get? w).bind Window.parent)
    (hb : ∀ w, (s'.windows.get? w).bind Window.boundOutput =
      (s.windows.get? w).bind Window.boundOutput)
    (hs : ∀ w, (s'.windows.get? w).map Window.signal = (s.windows.get? w).map Window.signal)
    (ho : ∀ o, (s'.outputs.get? o).map Output.signal = (s.outputs.get? o).map Output.signal)
    (hf : ∀ seat, (s'.seats.get? seat).bind Seat.focused = (s.seats.get? seat).bind Seat.focused)
    (hg : s'.grabs = s.grabs) : s'.web = s.web := by
  refine Web.ext (funext fun l => ?_) (funext fun t => ?_)
  · cases l with
    | parent w => exact congrArg (Option.map Link.toWindow) (hw w)
    | boundOutput w => exact congrArg (Option.map Link.toOutput) (hb w)
    | seatFocus seat => exact congrArg (Option.map Link.toWindow) (hf seat)
    | grab seat =>
      show (s'.grabs.get? seat).map _ = (s.grabs.get? seat).map _
      rw [hg]
  · cases t with
    | window w => exact hs w
    | output o => exact ho o

/-! ## Changes of records -/

theorem get?_modifyWindow (s : Shell) (w j : WindowId) (f : Window → Window) :
    (s.modifyWindow w f).windows.get? j =
      if j = w then (s.windows.get? w).map f else s.windows.get? j :=
  Arena.get?_modify _ _ _ _

theorem get?_modifyOutput (s : Shell) (o j : OutputId) (f : Output → Output) :
    (s.modifyOutput o f).outputs.get? j =
      if j = o then (s.outputs.get? o).map f else s.outputs.get? j :=
  Roster.get?_modify _ _ _ _

theorem get?_modifySeat (s : Shell) (seat j : SeatId) (f : Seat → Seat) :
    (s.modifySeat seat f).seats.get? j =
      if j = seat then (s.seats.get? seat).map f else s.seats.get? j :=
  Roster.get?_modify _ _ _ _

theorem contains_modifySeat (s : Shell) (seat j : SeatId) (f : Seat → Seat) :
    (s.modifySeat seat f).seats.contains j = s.seats.contains j := by
  show ((s.modifySeat seat f).seats.get? j).isSome = (s.seats.get? j).isSome
  rw [get?_modifySeat]
  split
  · next hj => rw [hj, Option.isSome_map]
  · rfl

/-- There is nothing to change of a window that is gone. -/
theorem modifyWindow_of_none (h : s.windows.get? w = none) (f : Window → Window) :
    s.modifyWindow w f = s := by
  have : s.windows.modify w f = s.windows := by
    unfold Arena.modify
    split
    · next hr => cases h.symm.trans hr
    · rfl
  rw [modifyWindow, this]

/-- A property of records that `f` keeps is what it was, under every id. -/
theorem map_modifyWindow {α : Type} (g : Window → α) {f : Window → Window} (h : ∀ r, g (f r) = g r)
    (s : Shell) (w j : WindowId) :
    ((s.modifyWindow w f).windows.get? j).map g = (s.windows.get? j).map g := by
  rw [get?_modifyWindow]
  split
  · next hj =>
    rw [hj, Option.map_map]
    exact congrArg (fun f => (s.windows.get? w).map f) (funext h)
  · rfl

theorem bind_modifyWindow {α : Type} (g : Window → Option α) {f : Window → Window}
    (h : ∀ r, g (f r) = g r) (s : Shell) (w j : WindowId) :
    ((s.modifyWindow w f).windows.get? j).bind g = (s.windows.get? j).bind g := by
  rw [get?_modifyWindow]
  split
  · next hj =>
    rw [hj, Option.bind_map]
    exact congrArg (fun f => (s.windows.get? w).bind f) (funext h)
  · rfl

theorem isLive_modifyWindow (s : Shell) (w j : WindowId) (f : Window → Window) :
    (s.modifyWindow w f).isLive j = s.isLive j := by
  have := congrArg Option.isSome (map_modifyWindow (fun _ => ()) (f := f) (fun _ => rfl) s w j)
  rwa [Option.isSome_map, Option.isSome_map] at this

/-- A change of a window that keeps its links and its signal. -/
theorem web_modifyWindow {f : Window → Window} (hp : ∀ r, (f r).parent = r.parent)
    (hb : ∀ r, (f r).boundOutput = r.boundOutput) (hs : ∀ r, (f r).signal = r.signal)
    (s : Shell) (w : WindowId) : (s.modifyWindow w f).web = s.web :=
  web_congr (bind_modifyWindow _ hp s w) (bind_modifyWindow _ hb s w) (map_modifyWindow _ hs s w)
    (fun _ => rfl) (fun _ => rfl) rfl

theorem web_setPlacement (s : Shell) (w : WindowId) (placement : Placement) :
    (s.modifyWindow w ({ · with placement })).web = s.web :=
  web_modifyWindow (fun _ => by rfl) (fun _ => by rfl) (fun _ => by rfl) s w

theorem web_modifyOutput {f : Output → Output} (hs : ∀ r, (f r).signal = r.signal) (s : Shell)
    (o : OutputId) : (s.modifyOutput o f).web = s.web := by
  refine web_congr (fun _ => rfl) (fun _ => rfl) (fun _ => rfl) (fun j => ?_) (fun _ => rfl) rfl
  rw [get?_modifyOutput]
  split
  · next hj =>
    rw [hj, Option.map_map]
    exact congrArg (fun f => (s.outputs.get? o).map f) (funext hs)
  · rfl

theorem web_modifySeat {f : Seat → Seat} (hf : ∀ r, (f r).focused = r.focused) (s : Shell)
    (seat : SeatId) : (s.modifySeat seat f).web = s.web := by
  refine web_congr (fun _ => rfl) (fun _ => rfl) (fun _ => rfl) (fun _ => rfl) (fun j => ?_) rfl
  rw [get?_modifySeat]
  split
  · next hj =>
    rw [hj, Option.bind_map]
    exact congrArg (fun f => (s.seats.get? seat).bind f) (funext hf)
  · rfl

/-! ## Changes of links and signals -/

/-- The parent link in a live window's record is where its link leads. -/
theorem web_setParentLink (hw : s.isLive w) (link : Option (Link .window)) :
    (s.modifyWindow w ({ · with parent := link })).web =
      s.web.point (.parent w) (link.map Link.toWindow) := by
  obtain ⟨window, hr⟩ := Option.isSome_iff_exists.1 hw
  refine Web.eq_point ?_ (fun m hm => ?_) (fun t => ?_)
  · show (((s.modifyWindow w _).windows.get? w).bind Window.parent).map Link.toWindow = _
    rw [get?_modifyWindow, if_pos rfl, hr]
    rfl
  · cases m with
    | parent j =>
      show (((s.modifyWindow w _).windows.get? j).bind Window.parent).map Link.toWindow = _
      rw [get?_modifyWindow, if_neg (by simpa using hm)]
      rfl
    | boundOutput j =>
      exact congrArg (Option.map Link.toOutput)
        (bind_modifyWindow Window.boundOutput (fun _ => by rfl) s w j)
    | seatFocus => rfl
    | grab => rfl
  · cases t with
    | window j => exact map_modifyWindow Window.signal (fun _ => by rfl) s w j
    | output => rfl

theorem web_setOutputLink (hw : s.isLive w) (link : Option (Link .output)) :
    (s.modifyWindow w ({ · with boundOutput := link })).web =
      s.web.point (.boundOutput w) (link.map Link.toOutput) := by
  obtain ⟨window, hr⟩ := Option.isSome_iff_exists.1 hw
  refine Web.eq_point ?_ (fun m hm => ?_) (fun t => ?_)
  · show (((s.modifyWindow w _).windows.get? w).bind Window.boundOutput).map Link.toOutput = _
    rw [get?_modifyWindow, if_pos rfl, hr]
    rfl
  · cases m with
    | boundOutput j =>
      show (((s.modifyWindow w _).windows.get? j).bind Window.boundOutput).map Link.toOutput = _
      rw [get?_modifyWindow, if_neg (by simpa using hm)]
      rfl
    | parent j =>
      exact congrArg (Option.map Link.toWindow)
        (bind_modifyWindow Window.parent (fun _ => by rfl) s w j)
    | seatFocus => rfl
    | grab => rfl
  · cases t with
    | window j => exact map_modifyWindow Window.signal (fun _ => by rfl) s w j
    | output => rfl

theorem web_setFocusLink (hs : s.seats.contains seat) (link : Option (Link .window)) :
    (s.modifySeat seat ({ · with focused := link })).web =
      s.web.point (.seatFocus seat) (link.map Link.toWindow) := by
  obtain ⟨record, hr⟩ := Option.isSome_iff_exists.1 hs
  refine Web.eq_point ?_ (fun m hm => ?_) (fun t => rfl)
  · show (((s.modifySeat seat _).seats.get? seat).bind Seat.focused).map Link.toWindow = _
    rw [get?_modifySeat, if_pos rfl, Roster.get?, hr]
    rfl
  · cases m with
    | seatFocus j =>
      show (((s.modifySeat seat _).seats.get? j).bind Seat.focused).map Link.toWindow = _
      rw [get?_modifySeat, if_neg (by simpa using hm)]
      rfl
    | parent => rfl
    | boundOutput => rfl
    | grab => rfl

theorem web_setGrab (s : Shell) (seat : SeatId) (grab : Grab) :
    { s with grabs := s.grabs.insert seat grab }.web =
      s.web.point (.grab seat) (some grab.window.toWindow) := by
  refine Web.eq_point ?_ (fun m hm => ?_) (fun t => rfl)
  · show ((s.grabs.insert seat grab).get? seat).map _ = _
    rw [Assoc.get?_insert, if_pos rfl]
    rfl
  · cases m with
    | grab j =>
      show ((s.grabs.insert seat grab).get? j).map _ = _
      rw [Assoc.get?_insert, if_neg (by simpa using hm)]
      rfl
    | parent => rfl
    | boundOutput => rfl
    | seatFocus => rfl

theorem web_eraseGrab (s : Shell) (seat : SeatId) :
    { s with grabs := s.grabs.erase seat }.web = s.web.point (.grab seat) none := by
  refine Web.eq_point ?_ (fun m hm => ?_) (fun t => rfl)
  · show ((s.grabs.erase seat).get? seat).map _ = _
    rw [Assoc.get?_erase, if_pos rfl]
    rfl
  · cases m with
    | grab j =>
      show ((s.grabs.erase seat).get? j).map _ = _
      rw [Assoc.get?_erase, if_neg (by simpa using hm)]
      rfl
    | parent => rfl
    | boundOutput => rfl
    | seatFocus => rfl

/-- The signal in a window's record is the window's signal. -/
theorem web_setWindowSignal (s : Shell) (w : WindowId) (f : Signal → Signal) :
    (s.modifyWindow w fun window => { window with signal := f window.signal }).web =
      s.web.place (.window w) ((s.web.signal (.window w)).map f) := by
  refine Web.eq_place (fun l => ?_) ?_ (fun t ht => ?_)
  · cases l with
    | parent j =>
      exact congrArg (Option.map Link.toWindow)
        (bind_modifyWindow Window.parent (fun _ => by rfl) s w j)
    | boundOutput j =>
      exact congrArg (Option.map Link.toOutput)
        (bind_modifyWindow Window.boundOutput (fun _ => by rfl) s w j)
    | seatFocus => rfl
    | grab => rfl
  · show ((s.modifyWindow w _).windows.get? w).map Window.signal =
      ((s.windows.get? w).map Window.signal).map f
    rw [get?_modifyWindow, if_pos rfl, Option.map_map, Option.map_map]
    rfl
  · cases t with
    | window j =>
      show ((s.modifyWindow w _).windows.get? j).map Window.signal = _
      rw [get?_modifyWindow, if_neg (by simpa using ht)]
      rfl
    | output => rfl

theorem web_setOutputSignal (s : Shell) (o : OutputId) (f : Signal → Signal) :
    (s.modifyOutput o fun output => { output with signal := f output.signal }).web =
      s.web.place (.output o) ((s.web.signal (.output o)).map f) := by
  refine Web.eq_place (fun l => ?_) ?_ (fun t ht => ?_)
  · cases l <;> rfl
  · show ((s.modifyOutput o _).outputs.get? o).map Output.signal =
      ((s.outputs.get? o).map Output.signal).map f
    rw [get?_modifyOutput, if_pos rfl, Option.map_map, Option.map_map]
    rfl
  · cases t with
    | window => rfl
    | output j =>
      show ((s.modifyOutput o _).outputs.get? j).map Output.signal = _
      rw [get?_modifyOutput, if_neg (by simpa using ht)]
      rfl

theorem web_unwatchWindow (s : Shell) (link : Link .window) :
    (s.unwatchWindow link).web = s.web.mute (.window link.source) link.token :=
  web_setWindowSignal s link.source (·.unsubscribe link.token)

theorem web_unwatchOutput (s : Shell) (link : Link .output) :
    (s.unwatchOutput link).web = s.web.mute (.output link.source) link.token :=
  web_setOutputSignal s link.source (·.unsubscribe link.token)

/-- Watching a live window: the token is the next one of its signal. -/
theorem watchWindow_of_live {window : Window} (hw : s.windows.get? w = some window) (l : Listener) :
    ∃ s', s.watchWindow w l = (some ⟨w, window.signal.nextToken⟩, s') ∧
      s' = s.modifyWindow w ({ · with signal := (window.signal.subscribe l).2 }) ∧
      s'.web = s.web.place (.window w) (some (window.signal.subscribe l).2) := by
  refine ⟨_, by rw [watchWindow, hw]; rfl, rfl, ?_⟩
  refine (web_setWindowSignal s w fun _ => (window.signal.subscribe l).2).trans ?_
  show s.web.place _ (((s.windows.get? w).map Window.signal).map _) = _
  rw [hw]
  rfl

theorem watchOutput_of_live {output : Output} (ho : s.outputs.get? o = some output) (l : Listener) :
    ∃ s', s.watchOutput o l = (some ⟨o, output.signal.nextToken⟩, s') ∧
      s' = s.modifyOutput o ({ · with signal := (output.signal.subscribe l).2 }) ∧
      s'.web = s.web.place (.output o) (some (output.signal.subscribe l).2) := by
  refine ⟨_, by rw [watchOutput, ho]; rfl, rfl, ?_⟩
  refine (web_setOutputSignal s o fun _ => (output.signal.subscribe l).2).trans ?_
  show s.web.place _ (((s.outputs.get? o).map Output.signal).map _) = _
  rw [ho]
  rfl

/-! ## Families -/

theorem web_detach (s : Shell) (w : WindowId) : (s.detach w).web = s.web.cut (.parent w) := by
  unfold detach
  split
  · next h =>
    refine (Web.cut_of_none ?_).symm
    show ((s.windows.get? w).bind Window.parent).map Link.toWindow = none
    rw [h]
    rfl
  · next link h =>
    have hw : s.isLive w := by
      obtain ⟨window, hw, -⟩ := Option.bind_eq_some_iff.1 h
      exact Option.isSome_iff_exists.2 ⟨window, hw⟩
    have hl : s.web.link (.parent w) = some link.toWindow := by
      show ((s.windows.get? w).bind Window.parent).map Link.toWindow = _
      rw [h]
      rfl
    show ((s.modifyWindow w _).unwatchWindow link).web = _
    rw [web_unwatchWindow, web_setParentLink hw, Web.cut_of_some hl]
    rfl

theorem children_detach (s : Shell) (w : WindowId) :
    (s.detach w).children =
      match s.web.parent w with
      | some p => s.children.unlink p w
      | none => s.children := by
  rw [parent_web, Windows.parentOf]
  unfold detach
  cases hw : s.windows.get? w with
  | none => rfl
  | some window =>
    rw [Option.bind_some, Option.bind_some, Window.parentId]
    cases window.parent <;> rfl

theorem web_attach (hw : s.isLive w) :
    (s.attach w p).web = s.web.tie (.parent w) (.window p) := by
  unfold attach
  cases hp : s.windows.get? p with
  | none =>
    rw [watchWindow, hp, Web.tie, show s.web.signal (.window p) = none from by
      show (s.windows.get? p).map Window.signal = none
      rw [hp]
      rfl]
  | some parent =>
    obtain ⟨s', he, hs', hweb⟩ := watchWindow_of_live hp (.parent w)
    have hσ : s.web.signal (.window p) = some parent.signal := by
      show (s.windows.get? p).map Window.signal = _
      rw [hp]
      rfl
    rw [he, Web.tie_of_some hσ, ← hweb]
    refine web_setParentLink ?_ _
    rw [hs', isLive_modifyWindow]
    exact hw

theorem children_attach (hp : s.isLive p) : (s.attach w p).children = s.children.link p w := by
  obtain ⟨parent, hp⟩ := Option.isSome_iff_exists.1 hp
  obtain ⟨s', he, rfl, -⟩ := watchWindow_of_live hp (.parent w)
  rw [attach, he]
  rfl

/-! ## Outputs of windows -/

theorem web_leaveOutput (s : Shell) (w : WindowId) :
    (s.leaveOutput w).web = s.web.cut (.boundOutput w) := by
  unfold leaveOutput
  split
  · next h =>
    refine (Web.cut_of_none ?_).symm
    show ((s.windows.get? w).bind Window.boundOutput).map Link.toOutput = none
    rw [h]
    rfl
  · next link h =>
    have hw : s.isLive w := by
      obtain ⟨window, hw, -⟩ := Option.bind_eq_some_iff.1 h
      exact Option.isSome_iff_exists.2 ⟨window, hw⟩
    have hl : s.web.link (.boundOutput w) = some link.toOutput := by
      show ((s.windows.get? w).bind Window.boundOutput).map Link.toOutput = _
      rw [h]
      rfl
    rw [web_unwatchOutput, web_setOutputLink hw, Web.cut_of_some hl]
    rfl

theorem web_enterOutput (hw : s.isLive w) :
    (s.enterOutput w o).web = s.web.tie (.boundOutput w) (.output o) := by
  unfold enterOutput
  cases ho : s.outputs.get? o with
  | none =>
    rw [watchOutput, ho, Web.tie, show s.web.signal (.output o) = none from by
      show (s.outputs.get? o).map Output.signal = none
      rw [ho]
      rfl]
  | some output =>
    obtain ⟨s', he, hs', hweb⟩ := watchOutput_of_live ho (.boundOutput w)
    have hσ : s.web.signal (.output o) = some output.signal := by
      show (s.outputs.get? o).map Output.signal = _
      rw [ho]
      rfl
    rw [he, Web.tie_of_some hσ, ← hweb]
    exact web_setOutputLink (hs' ▸ hw) _

theorem enterOutput_of_not_live (ho : s.outputs.contains o = false) (w : WindowId) :
    s.enterOutput w o = s := by
  have hnone : s.outputs.get? o = none :=
    Option.isNone_iff_eq_none.1 (Option.isSome_eq_false_iff.1 ho)
  rw [enterOutput, watchOutput, hnone]

theorem isLive_leaveOutput (s : Shell) (w j : WindowId) :
    (s.leaveOutput w).isLive j = s.isLive j := by
  rw [← isSome_signal_window, web_leaveOutput, Web.isSome_signal_cut, isSome_signal_window]

theorem children_leaveOutput (s : Shell) (w : WindowId) :
    (s.leaveOutput w).children = s.children := by
  unfold leaveOutput
  split <;> rfl

theorem children_enterOutput (s : Shell) (w : WindowId) (o : OutputId) :
    (s.enterOutput w o).children = s.children := by
  unfold enterOutput
  cases ho : s.outputs.get? o with
  | none => rw [watchOutput, ho]
  | some output =>
    obtain ⟨s', he, rfl, -⟩ := watchOutput_of_live ho (.boundOutput w)
    rw [he]
    rfl

theorem setOutput_of_not_live (hw : s.isLive w = false) (o : Option OutputId) :
    s.setOutput w o = s := by
  simp only [setOutput, hw, Bool.false_eq_true, if_false]

theorem setOutput_none (hw : s.isLive w) : s.setOutput w none = s.leaveOutput w := by
  simp only [setOutput, hw, if_true]

theorem setOutput_some (hw : s.isLive w) (o : OutputId) :
    s.setOutput w (some o) = (s.leaveOutput w).enterOutput w o := by
  simp only [setOutput, hw, if_true]

theorem children_setOutput (s : Shell) (w : WindowId) (o : Option OutputId) :
    (s.setOutput w o).children = s.children := by
  cases hw : s.isLive w with
  | false => rw [setOutput_of_not_live hw]
  | true =>
    cases o with
    | none => rw [setOutput_none hw, children_leaveOutput]
    | some o => rw [setOutput_some hw, children_enterOutput, children_leaveOutput]

/-! ## Drags -/

theorem web_endGrab (s : Shell) (seat : SeatId) :
    (s.endGrab seat).web = s.web.cut (.grab seat) := by
  unfold endGrab
  split
  · next h =>
    refine (Web.cut_of_none ?_).symm
    show (s.grabs.get? seat).map _ = none
    rw [h]
    rfl
  · next grab h =>
    have hl : s.web.link (.grab seat) = some grab.window.toWindow := by
      show (s.grabs.get? seat).map _ = _
      rw [h]
      rfl
    rw [web_unwatchWindow, web_eraseGrab, Web.cut_of_some hl]

/-! ## Records that go -/

/-- A window that is gone holds no links. -/
theorem link_of_not_live (hw : s.isLive w = false) (hl : l.holder = some (.window w)) :
    s.web.link l = none := by
  have hnone : s.windows.get? w = none := by
    rw [← Option.not_isSome_iff_eq_none]
    exact Bool.eq_false_iff.1 hw
  cases l with
  | parent x =>
    cases hl
    show ((s.windows.get? w).bind Window.parent).map Link.toWindow = none
    rw [hnone]
    rfl
  | boundOutput x =>
    cases hl
    show ((s.windows.get? w).bind Window.boundOutput).map Link.toOutput = none
    rw [hnone]
    rfl
  | seatFocus seat => cases hl
  | grab seat => cases hl

/-- An erased window takes its signal and its own links with it. -/
theorem agree_eraseWindow (s : Shell) (w : WindowId) (stacking : List WindowId) :
    Web.Agree (some (.window w)) s.web { s with windows := s.windows.erase w, stacking }.web ∧
      { s with windows := s.windows.erase w, stacking }.web.signal (.window w) = none := by
  refine ⟨⟨fun l hl => ?_, fun t ht => ?_⟩, ?_⟩
  · cases l with
    | parent x =>
      show _ = (((s.windows.erase w).get? x).bind Window.parent).map Link.toWindow
      rw [Arena.get?_erase, if_neg fun hx => hl _ rfl (congrArg _ (congrArg _ hx))]
      rfl
    | boundOutput x =>
      show _ = (((s.windows.erase w).get? x).bind Window.boundOutput).map Link.toOutput
      rw [Arena.get?_erase, if_neg fun hx => hl _ rfl (congrArg _ (congrArg _ hx))]
      rfl
    | seatFocus seat => rfl
    | grab seat => rfl
  · cases t with
    | window x =>
      show _ = ((s.windows.erase w).get? x).map Window.signal
      rw [Arena.get?_erase, if_neg fun hx => ht (congrArg _ (congrArg _ hx.symm))]
      rfl
    | output o => rfl
  · show ((s.windows.erase w).get? w).map Window.signal = none
    rw [Arena.get?_erase, if_pos rfl]
    rfl

theorem agree_eraseOutput (s : Shell) (o : OutputId) :
    Web.Agree (some (.output o)) s.web { s with outputs := s.outputs.erase o }.web ∧
      { s with outputs := s.outputs.erase o }.web.signal (.output o) = none := by
  refine ⟨⟨fun l _ => ?_, fun t ht => ?_⟩, ?_⟩
  · cases l <;> rfl
  · cases t with
    | window x => rfl
    | output j =>
      show _ = ((s.outputs.erase o).get? j).map Output.signal
      rw [Roster.get?_erase, if_neg fun hj => ht (congrArg _ (congrArg _ hj.symm))]
      rfl
  · show ((s.outputs.erase o).get? o).map Output.signal = none
    rw [Roster.get?_erase, if_pos rfl]
    rfl

end Shell

end Kiosk
