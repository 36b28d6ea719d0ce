import Kiosk.Proofs.Attention
import Kiosk.Proofs.Deactivation

/-!
# Reports of the focus

The host reports where the keyboard focus of a seat is, and the seats of a desktop are reported
on one by one. A report is about one seat, so what seats focus in the end is what was last
reported of each of them (`Desktop.focusedWindow_reports`), and the order in which the reports on
different seats come in makes no difference to it. Seats share the counts of windows and the
activation of surfaces, but both follow from what the seats focus, so they come out the same as
well (`Reached.reports_commute`).
-/

namespace Kiosk

variable {config : Config} {d d' : Desktop} {w : WindowId} {seat j : SeatId}
  {surface : SurfaceHandle}

/-- The host's word on where the keyboard focus of a seat is. -/
structure FocusReport where
  seat : SeatId
  focus : Option WindowId
  deriving DecidableEq, Repr

/-- The event that brings a report. -/
def FocusReport.event (r : FocusReport) : Event := .keyboardFocusChanged r.seat r.focus

/-- The reports on `seat`, in the order in which they come. -/
def FocusReport.on (seat : SeatId) (rs : List FocusReport) : List FocusReport :=
  rs.filter (·.seat = seat)

/-- A seat's record, whatever number its subscription goes by. -/
def Seat.unnumbered (record : Seat) : Seat :=
  { record with focused := record.focused.map ({ · with token := 0 }) }

/-- A window's record, whoever listens to it. -/
def Window.unheard (window : Window) : Window := { window with signal := .empty }

namespace Desktop

/-- The desktop after reports. -/
def reports (d : Desktop) (rs : List FocusReport) : Desktop :=
  rs.foldl (fun d r => d.keyboardFocusChanged r.seat r.focus) d

theorem run_reports : ∀ (rs : List FocusReport) (d : Desktop),
    d.run (rs.map fun r => .event r.event) = some (d.reports rs)
  | [], _ => rfl
  | r :: rs, d => run_reports rs (d.keyboardFocusChanged r.seat r.focus)

theorem reports_turned : ∀ (rs : List FocusReport) (d : Desktop), Turned d (d.reports rs)
  | [], d => .refl d
  | r :: rs, d => (d.keyboardFocusChanged_turned r.seat r.focus).trans (reports_turned rs _)

theorem reports_aside : ∀ (rs : List FocusReport) (d : Desktop), Aside d (d.reports rs)
  | [], d => .refl d
  | r :: rs, d => (d.keyboardFocusChanged_aside r.seat r.focus).trans (reports_aside rs _)

/-- What a report on `seat` makes of the focus of `j`. -/
theorem focusedWindow_report (h : d.shell.Sound) (seat : SeatId) (focus : Option WindowId)
    (j : SeatId) : (d.keyboardFocusChanged seat focus).shell.focusedWindow j =
      if j = seat ∧ d.shell.hasKeyboard j then focus.filter d.shell.isLive
      else d.shell.focusedWindow j := by
  cases hk : d.shell.hasKeyboard seat with
  | false =>
    rw [keyboardFocusChanged_of_no_keyboard hk, if_neg]
    rintro ⟨rfl, hj⟩
    exact Bool.false_ne_true (hk.symm.trans hj)
  | true =>
    obtain ⟨record, hr, hrecord⟩ := (Option.any_eq_true ..).1 hk
    rw [focusedWindow_keyboardFocusChanged h hr hrecord]
    refine if_congr ⟨?_, And.left⟩ rfl rfl
    rintro rfl
    exact ⟨rfl, hk⟩

/-- A seat with a keyboard ends up where it was last reported to be, if that window is there, and
all other seats stay where they are. -/
theorem focusedWindow_reports (j : SeatId) : ∀ (rs : List FocusReport) {d : Desktop},
    d.shell.Sound → (d.reports rs).shell.focusedWindow j =
      match (FocusReport.on j rs).getLast?, d.shell.hasKeyboard j with
      | some r, true => r.focus.filter d.shell.isLive
      | _, _ => d.shell.focusedWindow j
  | [], _, _ => rfl
  | r :: rs, d, h => by
    have hturned := d.keyboardFocusChanged_turned r.seat r.focus
    have hrest := focusedWindow_reports j rs (keyboardFocusChanged_sound h r.seat r.focus)
    rw [hturned.hasKeyboard, funext hturned.isLive, focusedWindow_report h] at hrest
    refine hrest.trans ?_
    unfold FocusReport.on
    by_cases hj : r.seat = j
    · rw [List.filter_cons_of_pos (by simpa using hj), List.getLast?_cons]
      cases (rs.filter (·.seat = j)).getLast? <;> cases d.shell.hasKeyboard j <;> simp [hj]
    · rw [List.filter_cons_of_neg (by simpa using hj), if_neg fun hn => hj hn.1.symm]

/-! ## Activation -/

/-- A surface that no window shows hears nothing of its activation. -/
theorem Aside.activationChanges (h : Aside d d') (hs : ¬ d.shell.Bears surface) :
    d'.host.activationChanges surface = d.host.activationChanges surface := by
  obtain ⟨cs, hl, hadvice⟩ := h.log
  rw [Host.activationChanges, hl, List.filterMap_append]
  refine (congrArg (_ ++ ·) (List.filterMap_eq_nil_iff.2 fun c hm => ?_)).trans (List.append_nil _)
  cases c with
  | setActivated t b =>
    refine if_neg fun hts => hs ?_
    exact hts ▸ (hadvice _ hm).2 t rfl
  | _ => rfl

/-- `d'` is `d` as far as the focus goes: seats and windows are the same but for the numbers of
subscriptions, and the same surfaces are activated. -/
structure AttendsAs (d d' : Desktop) : Prop where
  order : d'.shell.seats.order = d.shell.seats.order
  seats : ∀ seat, (d'.shell.seats.get? seat).map Seat.unnumbered =
    (d.shell.seats.get? seat).map Seat.unnumbered
  windows : ∀ w, (d'.shell.windows.get? w).map Window.unheard =
    (d.shell.windows.get? w).map Window.unheard
  activated : ∀ surface, d'.host.isActivated surface = d.host.isActivated surface

variable {dx dy : Desktop}

end Desktop

/-- Up to its number, a seat's link is given by the window it focuses. -/
theorem Shell.map_unnumbered (s : Shell) (seat : SeatId) :
    (s.seats.get? seat).map Seat.unnumbered = ((s.seats.get? seat).map Seat.unfocused).map
      ({ · with focused := (s.focusedWindow seat).map (⟨·, 0⟩) }) := by
  rw [Shell.focusedWindow]
  cases s.seats.get? seat with
  | none => rfl
  | some record =>
    show some record.unnumbered = some { record with
      focused := (record.focused.map Link.source).map (⟨·, 0⟩) }
    rw [Option.map_map]
    rfl

/-- Up to its signal, a window's record is given by its focus count and what does not change with
the focus. -/
theorem Shell.map_unheard (s : Shell) (w : WindowId) :
    (s.windows.get? w).map Window.unheard = ((s.windows.get? w).map Window.unattended).map
      ({ · with focusCount := (s.focusCountOf w).getD 0 }) := by
  rw [Shell.focusCountOf]
  cases s.windows.get? w <;> rfl

namespace Desktop

theorem focusCountOf_eq (h : Attended d) (w : WindowId) : d.shell.focusCountOf w =
    (d.shell.windows.get? w).map fun _ => (d.shell.seats.focusedOn w).length := by
  rw [Shell.focusCountOf]
  cases hw : d.shell.windows.get? w with
  | none => rfl
  | some window => exact congrArg some (h.counted w window hw)

/-- Where focus counts are right, they are the same if seats focus the same windows. -/
theorem Turned.focusCountOf (hx : Turned d dx) (hy : Turned d dy) (hax : Attended dx)
    (hay : Attended dy) (hfocus : ∀ j, dy.shell.focusedWindow j = dx.shell.focusedWindow j)
    (w : WindowId) : dy.shell.focusCountOf w = dx.shell.focusCountOf w := by
  have hcongr : dy.shell.seats.focusedOn w = dx.shell.seats.focusedOn w :=
    Shell.focusedOn_congr (hy.order.trans hx.order.symm) fun j => by rw [hfocus]
  have hlive := congrArg (Option.map fun _ => (dx.shell.seats.focusedOn w).length)
    ((hy.windows w).trans (hx.windows w).symm)
  rw [focusCountOf_eq hax, focusCountOf_eq hay, hcongr]
  rwa [Option.map_map, Option.map_map] at hlive

/-- Two desktops that a desktop turns to are the same as far as the focus goes once the seats
focus the same windows. -/
theorem Turned.attendsAs (hx : Turned d dx) (hy : Turned d dy) (hax : Attended dx)
    (hay : Attended dy) (hsx : Aside d dx) (hsy : Aside d dy)
    (hfocus : ∀ j, dy.shell.focusedWindow j = dx.shell.focusedWindow j) : dx.AttendsAs dy := by
  have hcount := hx.focusCountOf hy hax hay hfocus
  refine ⟨hy.order.trans hx.order.symm, fun j => ?_, fun w => ?_, fun surface => ?_⟩
  · rw [Shell.map_unnumbered, Shell.map_unnumbered, hfocus, hy.seats, hx.seats]
  · rw [Shell.map_unheard, Shell.map_unheard, hcount, hy.windows, hx.windows]
  · by_cases hs : d.shell.Bears surface
    · -- The window that shows the surface has the same count on both sides.
      obtain ⟨w, hw⟩ := hs
      obtain ⟨rx, hrx, hsurface⟩ := Option.map_eq_some_iff.1 ((hx.surfaceOf w).trans hw)
      obtain ⟨ry, hry, hsurface'⟩ := Option.map_eq_some_iff.1 ((hy.surfaceOf w).trans hw)
      have hsame := hcount w
      rw [Shell.focusCountOf, hry, Shell.focusCountOf, hrx] at hsame
      rw [← hsurface, hax.activated w rx hrx, hsurface, ← hsurface', hay.activated w ry hry,
        Option.some.inj hsame]
    · rw [hay.tracked.recorded, hax.tracked.recorded, hsy.activationChanges hs,
        hsx.activationChanges hs]

end Desktop

/-! ## The result -/

theorem Reached.attended_reports (h : Reached config d) (hn : d.host.createdSurfaces.Nodup)
    (rs : List FocusReport) : Attended (d.reports rs) := by
  have hreached := Reached.run _ h (Desktop.run_reports rs d)
  exact hreached.focusKept ((Desktop.reports_aside rs d).createdSurfaces ▸ hn)

/-- Reports on different seats commute: as long as no two windows were made for one surface,
whatever way reports come in, if those on each seat come in the same order, seats end up on the
same windows, windows with the same counts, and surfaces activated alike. -/
theorem Reached.reports_commute (h : Reached config d) (hn : d.host.createdSurfaces.Nodup)
    {xs ys : List FocusReport} (hxy : ∀ seat, FocusReport.on seat xs = FocusReport.on seat ys) :
    ∃ dx dy, d.run (xs.map fun r => .event r.event) = some dx ∧
      d.run (ys.map fun r => .event r.event) = some dy ∧ dx.AttendsAs dy := by
  refine ⟨_, _, d.run_reports xs, d.run_reports ys, ?_⟩
  refine (d.reports_turned xs).attendsAs (d.reports_turned ys) (h.attended_reports hn xs)
    (h.attended_reports hn ys) (d.reports_aside xs) (d.reports_aside ys) fun j => ?_
  rw [Desktop.focusedWindow_reports j ys h.sound, Desktop.focusedWindow_reports j xs h.sound, hxy]

/-- Two seats come to the root of a family and leave it, the second for its grandchild. -/
def visits : List FocusReport :=
  [⟨⟨0, 1⟩, some ⟨0, 1⟩⟩, ⟨⟨0, 1⟩, some ⟨9, 1⟩⟩, ⟨⟨1, 1⟩, some ⟨0, 1⟩⟩, ⟨⟨1, 1⟩, some ⟨2, 1⟩⟩]

/-- The same, the second coming before the first has left. -/
def crossedVisits : List FocusReport :=
  [⟨⟨0, 1⟩, some ⟨0, 1⟩⟩, ⟨⟨1, 1⟩, some ⟨0, 1⟩⟩, ⟨⟨0, 1⟩, some ⟨9, 1⟩⟩, ⟨⟨1, 1⟩, some ⟨2, 1⟩⟩]

/-- The root is activated twice in the one case and once in the other, and the family ends up the
same. -/
theorem reports_commute_sharedRun : ∃ d, Reached .default d ∧ d.host.createdSurfaces.Nodup ∧
    (∀ seat, FocusReport.on seat visits = FocusReport.on seat crossedVisits) ∧
    (d.reports visits).host.log ≠ (d.reports crossedVisits).host.log ∧
    ∃ dx dy, d.run (visits.map fun r => .event r.event) = some dx ∧
      d.run (crossedVisits.map fun r => .event r.event) = some dy ∧ dx.AttendsAs dy := by
  have hreached : Reached .default _ := Reached.run _ .fresh (Option.some_get isSome_sharedRun).symm
  have hnodup : (((Desktop.fresh .default).run sharedRun).get
      isSome_sharedRun).host.createdSurfaces.Nodup := by decide +kernel
  have hseats (seat : SeatId) :
      FocusReport.on seat visits = FocusReport.on seat crossedVisits := by
    by_cases h₀ : (⟨0, 1⟩ : SeatId) = seat
    · subst h₀
      decide
    · by_cases h₁ : (⟨1, 1⟩ : SeatId) = seat
      · subst h₁
        decide
      · simp [FocusReport.on, visits, crossedVisits, h₀, h₁]
  exact ⟨_, hreached, hnodup, hseats, by decide +kernel,
    Reached.reports_commute hreached hnodup hseats⟩

end Kiosk
