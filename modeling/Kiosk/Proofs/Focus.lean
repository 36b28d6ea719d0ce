import Kiosk.Proofs.Activation
import Kiosk.Proofs.Rosters
import Kiosk.Proofs.Sound

/-!
# Focus counts and activation

A window's focus count, the focus that seats record and what the host was told
about activation are three copies of one thing. `Attended` is the invariant that
they agree, as long as no two windows were made for one surface. A move of focus
changes the count of one window (`Attended.recount`). Seats come and go without a
focus (`Attended.of_seats`), windows come without one (`Attended.insertWindow`),
and everything else drifts (`Attended.drift`).
-/

namespace Kiosk

variable {config : Config} {d d' : Desktop} {s : Shell} {w : WindowId} {seat : SeatId}

/-! ## Seats -/

namespace Seats

variable {seats : Seats}

/-- The seats on a window, read off the seats one by one. -/
theorem focusedOn_eq (seats : Seats) (w : WindowId) : seats.focusedOn w =
    seats.order.filter fun seat => (seats.get? seat).bind Seat.focusedWindow = some w := by
  rw [focusedOn, Roster.filter_toList seats (·.focusedWindow = some w)]
  refine List.filter_congr fun seat _ => ?_
  cases seats.get? seat <;> simp

/-- A new seat that focuses nothing. -/
theorem focusedOn_insert {record : Seat} (hfree : record.focusedWindow = none) (w : WindowId) :
    Seats.focusedOn (seats.insert record).2 w = seats.focusedOn w := by
  have hnew : seats.get? (seats.insert record).1 = none := Arena.get?_insert_self seats.arena record
  have horder : (seats.insert record).2.order = seats.order ++ [(seats.insert record).1] := rfl
  have hfocused (j : SeatId) : ((seats.insert record).2.get? j).bind Seat.focusedWindow =
      (seats.get? j).bind Seat.focusedWindow := by
    rw [Roster.get?_insert]
    split
    · next hj =>
      rw [hj, hnew]
      exact hfree
    · rfl
  have hlast : [(seats.insert record).1].filter (fun seat =>
      (seats.get? seat).bind Seat.focusedWindow = some w) = [] := by
    simp [hnew]
  rw [focusedOn_eq, focusedOn_eq, horder]
  simp only [hfocused]
  rw [List.filter_append, hlast, List.append_nil]

/-- A seat that focuses nothing goes. -/
theorem focusedOn_erase (hfree : (seats.get? seat).bind Seat.focusedWindow = none) (w : WindowId) :
    Seats.focusedOn (seats.erase seat) w = seats.focusedOn w := by
  cases hlive : seats.contains seat with
  | false => rw [Roster.erase, hlive, if_neg Bool.false_ne_true]
  | true =>
    have horder : (seats.erase seat).order = seats.order.filter (· ≠ seat) := by
      rw [Roster.erase, hlive]
      rfl
    rw [focusedOn_eq, focusedOn_eq, horder, List.filter_filter]
    refine List.filter_congr fun j _ => ?_
    rw [Roster.get?_erase]
    by_cases hj : j = seat
    · simp [hj, hfree]
    · simp [hj]

end Seats

theorem Shell.focusedOn_eq (s : Shell) (w : WindowId) :
    s.seats.focusedOn w = s.seats.order.filter fun seat => s.focusedWindow seat = some w :=
  s.seats.focusedOn_eq w

theorem Shell.focusedOn_congr {s' : Shell} (ho : s'.seats.order = s.seats.order)
    (hf : ∀ j, s'.focusedWindow j = some w ↔ s.focusedWindow j = some w) :
    s'.seats.focusedOn w = s.seats.focusedOn w := by
  rw [focusedOn_eq, focusedOn_eq, ho]
  refine List.filter_congr fun j _ => ?_
  rw [decide_eq_decide]
  exact hf j

/-- One seat less on `w`. -/
theorem Shell.length_focusedOn {t : Shell} (hn : s.seats.order.Nodup) (hs : seat ∈ s.seats.order)
    (ho : t.seats.order = s.seats.order) (hf : s.focusedWindow seat = some w)
    (hf' : t.focusedWindow seat ≠ some w)
    (hothers : ∀ j, j ≠ seat → t.focusedWindow j = s.focusedWindow j) :
    (t.seats.focusedOn w).length + 1 = (s.seats.focusedOn w).length := by
  have hmem : seat ∈ s.seats.focusedOn w := by
    rw [focusedOn_eq]
    exact List.mem_filter.2 ⟨hs, decide_eq_true hf⟩
  have hnodup : (s.seats.focusedOn w).Nodup := by
    rw [focusedOn_eq]
    exact hn.filter _
  have herase : t.seats.focusedOn w = (s.seats.focusedOn w).erase seat := by
    rw [hnodup.erase_eq_filter, focusedOn_eq, focusedOn_eq, List.filter_filter, ho]
    refine List.filter_congr fun j _ => ?_
    by_cases hj : j = seat
    · simp [hj, hf']
    · simp [hj, hothers j hj]
  have hpos := List.length_pos_of_mem hmem
  rw [herase, List.length_erase_of_mem hmem]
  omega

theorem Shell.contains_of_focusedWindow (hf : s.focusedWindow seat = some w) :
    s.seats.contains seat := by
  obtain ⟨record, hr, -⟩ := Option.bind_eq_some_iff.1 hf
  exact Option.isSome_iff_exists.2 ⟨record, hr⟩

theorem Shell.mem_focusedOn (h : s.seats.Ordered) :
    seat ∈ s.seats.focusedOn w ↔ s.focusedWindow seat = some w := by
  rw [focusedOn_eq, List.mem_filter, decide_eq_true_iff, h.mem, and_iff_right_iff_imp]
  exact contains_of_focusedWindow

theorem Shell.nodup_focusedOn (h : s.seats.Ordered) (w : WindowId) :
    (s.seats.focusedOn w).Nodup := by
  rw [focusedOn_eq]
  exact h.nodup.filter _

/-- The window a seat focuses is where its link leads. -/
theorem Shell.link_of_focusedWindow (h : s.focusedWindow seat = some w) :
    ∃ k, s.web.link (.seatFocus seat) = some (.window w, k) := by
  obtain ⟨record, hr, hw⟩ := Option.bind_eq_some_iff.1 h
  obtain ⟨link, hf, rfl⟩ := Option.map_eq_some_iff.1 hw
  refine ⟨link.token, ?_⟩
  show ((s.seats.get? seat).bind Seat.focused).map Link.toWindow = _
  rw [hr]
  show record.focused.map Link.toWindow = _
  rw [hf]
  rfl

theorem Shell.Sound.isLive_of_focusedWindow (h : s.Sound) (hf : s.focusedWindow seat = some w) :
    s.isLive w := by
  obtain ⟨k, hk⟩ := Shell.link_of_focusedWindow hf
  rw [← Shell.isSome_signal_window]
  exact h.exact.live _ _ _ hk

/-- Setting the focus of a live seat. -/
theorem Shell.focusedWindow_modifySeat (hs : s.seats.contains seat) (link : Option (Link .window))
    (j : SeatId) : (s.modifySeat seat ({ · with focused := link })).focusedWindow j =
      if j = seat then link.map Link.source else s.focusedWindow j := by
  obtain ⟨record, hr⟩ := Option.isSome_iff_exists.1 hs
  have hget : s.seats.get? seat = some record := hr
  rw [focusedWindow, get?_modifySeat]
  split
  · rw [hget]
    rfl
  · rfl

/-- A seat that turns from one window to another matters to no third. -/
theorem Shell.focusedOn_modifySeat (hs : s.seats.contains seat) {link : Option (Link .window)}
    (hold : s.focusedWindow seat ≠ some w) (hnew : link.map Link.source ≠ some w) :
    (s.modifySeat seat ({ · with focused := link })).seats.focusedOn w = s.seats.focusedOn w := by
  refine focusedOn_congr rfl fun j => ?_
  rw [focusedWindow_modifySeat hs]
  split
  · next hj =>
    rw [hj]
    exact iff_of_false hnew hold
  · rfl

/-- Setting the focus count of a window after another change of it. -/
theorem Shell.focal_modifyWindow {window : Window} {f : Window → Window}
    (hf : ∀ r, (f r).surface = r.surface) (hw : s.windows.get? w = some window) (n : Nat)
    (x : WindowId) :
    (((s.modifyWindow w f).modifyWindow w ({ · with focusCount := n })).windows.get? x).map
        Window.focal =
      if x = w then some (window.surface, n) else (s.windows.get? x).map Window.focal := by
  rw [get?_modifyWindow]
  split
  · rw [get?_modifyWindow, if_pos rfl, hw]
    exact congrArg (fun surface => some (surface, n)) (hf window)
  · next hx => rw [get?_modifyWindow, if_neg hx]

/-! ## The invariant -/

/-- Focus counts, seats and host agree. -/
structure Attended (d : Desktop) : Prop where
  seats : d.shell.seats.Ordered
  counted : ∀ w r, d.shell.windows.get? w = some r →
    r.focusCount = (d.shell.seats.focusedOn w).length
  activated : ∀ w r, d.shell.windows.get? w = some r →
    d.host.isActivated r.surface = decide (0 < r.focusCount)
  distinct : ∀ w x r q, d.shell.windows.get? w = some r → d.shell.windows.get? x = some q →
    r.surface = q.surface → w = x
  created : ∀ w r, d.shell.windows.get? w = some r → r.surface ∈ d.host.createdSurfaces
  tracked : d.host.Tracked

namespace Attended

/-- Windows that stay keep count, and as many seats focus them. -/
theorem of_focusedOn (h : Attended d)
    (hw : ∀ x r', d'.shell.windows.get? x = some r' →
      ∃ r, d.shell.windows.get? x = some r ∧ r.focal = r'.focal)
    (hs : d'.shell.seats.Ordered)
    (hf : ∀ x, d'.shell.isLive x → d'.shell.seats.focusedOn x = d.shell.seats.focusedOn x)
    (hh : d.host.Calm d'.host) : Attended d' where
  seats := hs
  counted w r' hr' := by
    obtain ⟨r, hr, hfocal⟩ := hw w r' hr'
    rw [hf w (Option.isSome_iff_exists.2 ⟨r', hr'⟩), ← h.counted w r hr]
    exact (congrArg Prod.snd hfocal).symm
  activated w r' hr' := by
    obtain ⟨r, hr, hfocal⟩ := hw w r' hr'
    have hsurface : r.surface = r'.surface := congrArg Prod.fst hfocal
    have hcount : r.focusCount = r'.focusCount := congrArg Prod.snd hfocal
    rw [hh.isActivated, ← hsurface, ← hcount]
    exact h.activated w r hr
  distinct w x r' q' hr' hq' hsame := by
    obtain ⟨r, hr, hfr⟩ := hw w r' hr'
    obtain ⟨q, hq, hfq⟩ := hw x q' hq'
    exact h.distinct w x r q hr hq
      ((congrArg Prod.fst hfr).trans (hsame.trans (congrArg Prod.fst hfq).symm))
  created w r' hr' := by
    obtain ⟨r, hr, hfocal⟩ := hw w r' hr'
    have hsurface : r.surface = r'.surface := congrArg Prod.fst hfocal
    rw [hh.createdSurfaces, ← hsurface]
    exact h.created w r hr
  tracked := h.tracked.calm hh

theorem drift (h : Attended d) (hd : Desktop.Drift d d') : Attended d' := by
  refine h.of_focusedOn hd.windows (h.seats.congr hd.order hd.seats) (fun x hx => ?_) hd.host
  exact Shell.focusedOn_congr hd.order (hd.focus x hx)

/-! ### Focus that moves -/

/-- The count of `w` becomes `n`, and the host is told if that starts or ends its activation. -/
theorem recount {window : Window} {n : Nat} (h : Attended d)
    (hw : d.shell.windows.get? w = some window)
    (hwin : ∀ x, (d'.shell.windows.get? x).map Window.focal =
      if x = w then some (window.surface, n) else (d.shell.windows.get? x).map Window.focal)
    (ho : d'.shell.seats.order = d.shell.seats.order)
    (hs : ∀ seat, d'.shell.seats.contains seat = d.shell.seats.contains seat)
    (hothers : ∀ x, x ≠ w → d'.shell.seats.focusedOn x = d.shell.seats.focusedOn x)
    (hn : n = (d'.shell.seats.focusedOn w).length)
    (hhost : d'.host = d.host.activate window.surface (decide (0 < n))) : Attended d' := by
  -- The windows are those of `d`, and only the count of `w` differs.
  have hold (x : WindowId) (r' : Window) (hr' : d'.shell.windows.get? x = some r') :
      ∃ r, d.shell.windows.get? x = some r ∧ r.surface = r'.surface ∧
        r'.focusCount = if x = w then n else r.focusCount := by
    have hx := hwin x
    by_cases hxw : x = w
    · rw [hr', if_pos hxw] at hx
      refine ⟨window, hxw ▸ hw, (congrArg Prod.fst (Option.some.inj hx)).symm, ?_⟩
      rw [if_pos hxw]
      exact congrArg Prod.snd (Option.some.inj hx)
    · rw [if_neg hxw] at hx
      obtain ⟨r, hr, hfocal⟩ := exists_of_map_eq hx hr'
      refine ⟨r, hr, congrArg Prod.fst hfocal, ?_⟩
      rw [if_neg hxw]
      exact (congrArg Prod.snd hfocal).symm
  refine ⟨h.seats.congr ho hs, fun x r' hr' => ?_, fun x r' hr' => ?_,
    fun x y r' q' hr' hq' hsame => ?_, fun x r' hr' => ?_, ?_⟩
  · obtain ⟨r, hr, -, hcount⟩ := hold x r' hr'
    rw [hcount]
    split
    · next hxw => rw [hn, hxw]
    · next hxw =>
      rw [hothers x hxw]
      exact h.counted x r hr
  · obtain ⟨r, hr, hsurface, hcount⟩ := hold x r' hr'
    rw [hhost, Host.isActivated_activate, hcount, ← hsurface]
    by_cases hxw : x = w
    · have hsame : r = window := by
        rw [hxw, hw] at hr
        exact (Option.some.inj hr).symm
      rw [if_pos (by rw [hsame]), if_pos hxw]
    · rw [if_neg fun hsame => hxw (h.distinct x w r window hr hw hsame), if_neg hxw]
      exact h.activated x r hr
  · obtain ⟨r, hr, hfr, -⟩ := hold x r' hr'
    obtain ⟨q, hq, hfq, -⟩ := hold y q' hq'
    exact h.distinct x y r q hr hq (hfr.trans (hsame.trans hfq.symm))
  · obtain ⟨r, hr, hfr, -⟩ := hold x r' hr'
    rw [hhost, Host.createdSurfaces_activate, ← hfr]
    exact h.created x r hr
  · rw [hhost]
    exact h.tracked.activate (h.created w window hw) _

/-- A seat that focuses `w` is counted there. -/
theorem mem_focusedOn (h : Attended d) :
    seat ∈ d.shell.seats.focusedOn w ↔ d.shell.focusedWindow seat = some w :=
  Shell.mem_focusedOn h.seats

theorem nodup_focusedOn (h : Attended d) (w : WindowId) : (d.shell.seats.focusedOn w).Nodup :=
  Shell.nodup_focusedOn h.seats w

theorem release (h : Attended d) (hs : d.shell.Sound) (seat : SeatId) :
    Attended (d.releaseFocus seat) := by
  cases hf : (d.shell.seats.get? seat).bind Seat.focused with
  | none =>
    rw [Desktop.releaseFocus_of_none hf]
    exact h
  | some link =>
    have hfocus : d.shell.focusedWindow seat = some link.source := by
      obtain ⟨record, hr, hlink⟩ := Option.bind_eq_some_iff.1 hf
      rw [Shell.focusedWindow, hr]
      exact congrArg (Option.map Link.source) hlink
    obtain ⟨window, hw⟩ := Option.isSome_iff_exists.1 (hs.isLive_of_focusedWindow hfocus)
    have hseat := Shell.contains_of_focusedWindow hfocus
    have hfocused := d.shell.focusedWindow_modifySeat hseat none
    rw [Desktop.releaseFocus_of_some hf hw]
    have hlength := Shell.length_focusedOn
      (t := d.shell.modifySeat seat ({ · with focused := none })) h.seats.nodup
      ((h.seats.mem seat).2 hseat) rfl hfocus (by simp [hfocused])
      fun j hj => (hfocused j).trans (if_neg hj)
    have hcount := h.counted link.source window hw
    refine h.recount (n := window.focusCount - 1) hw (fun x => ?_) rfl
      (fun j => Shell.contains_modifySeat d.shell seat j _) (fun x hx => ?_) ?_ ?_
    · exact Shell.focal_modifyWindow
        (s := d.shell.modifySeat seat ({ · with focused := none })) (fun _ => by rfl) hw _ x
    · refine Shell.focusedOn_modifySeat hseat ?_ (by simp)
      rw [hfocus]
      exact fun hsame => hx (Option.some.inj hsame).symm
    · show window.focusCount - 1 =
        ((d.shell.modifySeat seat ({ · with focused := none })).seats.focusedOn link.source).length
      omega
    · have hpos : 0 < window.focusCount := by omega
      show (if window.focusCount - 1 = 0 then _ else d.host) = _
      rw [Host.activate, h.activated link.source window hw]
      by_cases hone : window.focusCount - 1 = 0
      · simp [hone, hpos]
      · simp [hone, hpos, Nat.pos_of_ne_zero hone]

theorem take (h : Attended d) (hseat : d.shell.seats.contains seat)
    (hfree : d.shell.focusedWindow seat = none) (hw : d.shell.isLive w) :
    Attended (d.takeFocus seat w) := by
  obtain ⟨window, hw⟩ := Option.isSome_iff_exists.1 hw
  rw [Desktop.takeFocus_of_some hw]
  have hcount := h.counted w window hw
  have hfocused := d.shell.focusedWindow_modifySeat hseat (some ⟨w, window.signal.nextToken⟩)
  have hlength := Shell.length_focusedOn (w := w) (t := d.shell)
    (s := d.shell.modifySeat seat ({ · with focused := some ⟨w, window.signal.nextToken⟩ }))
    h.seats.nodup ((h.seats.mem seat).2 hseat) rfl ((hfocused seat).trans (if_pos rfl))
    (by simp [hfree])
    fun j hj => ((hfocused j).trans (if_neg hj)).symm
  refine h.recount (n := window.focusCount + 1) hw (fun x => ?_) rfl
    (fun j => Shell.contains_modifySeat d.shell seat j _) (fun x hx => ?_) ?_ ?_
  · exact Shell.focal_modifyWindow (s := d.shell) (fun _ => by rfl) hw _ x
  · refine Shell.focusedOn_modifySeat hseat (by simp [hfree]) ?_
    exact fun hsame => hx (Option.some.inj hsame).symm
  · show window.focusCount + 1 = ((d.shell.modifySeat seat
      ({ · with focused := some ⟨w, window.signal.nextToken⟩ })).seats.focusedOn w).length
    omega
  · show (if window.focusCount = 0 then _ else d.host) = _
    rw [Host.activate, h.activated w window hw]
    by_cases hzero : window.focusCount = 0
    · simp [hzero]
    · simp [hzero, Nat.pos_of_ne_zero hzero]

/-- Seats that focus nothing come and go. -/
theorem of_seats {seats : Seats} (h : Attended d) (hs : seats.Ordered)
    (hf : ∀ x, seats.focusedOn x = d.shell.seats.focusedOn x) :
    Attended (d.update ({ · with seats })) :=
  h.of_focusedOn (fun _ r hr => ⟨r, hr, rfl⟩) hs (fun x _ => hf x) (.refl _)

theorem addSeat (h : Attended d) (handle : SeatHandle) (name : String) (hasKeyboard : Bool) :
    Attended (d.update fun s => (s.addSeat handle name hasKeyboard).2) := by
  have hfree : (Seat.ofHandle handle name hasKeyboard).focusedWindow = none := rfl
  exact h.of_seats (h.seats.insert _) (Seats.focusedOn_insert hfree)

theorem eraseSeat (h : Attended d) (hfree : d.shell.focusedWindow seat = none) :
    Attended (d.update fun s => { s with seats := s.seats.erase seat }) :=
  h.of_seats (h.seats.erase seat) (Seats.focusedOn_erase hfree)

/-- A window is made for a surface that none was made for before. -/
theorem insertWindow {h' : Host} {r : Window} (h : Attended d) (hs : d.shell.Sound)
    (hcount : r.focusCount = 0) (hnew : r.surface ∉ d.host.createdSurfaces)
    (hactivated : h'.activated = d.host.activated)
    (hcreated : h'.createdSurfaces = d.host.createdSurfaces ++ [r.surface])
    (hchanges : ∀ t, h'.activationChanges t = d.host.activationChanges t) :
    Attended ⟨{ d.shell with windows := (d.shell.windows.insert r).2 }, h'⟩ := by
  have hget := Arena.get?_insert d.shell.windows r
  have hfresh := Arena.get?_insert_self d.shell.windows r
  generalize d.shell.windows.insert r = e at hget hfresh ⊢
  obtain ⟨w, windows⟩ := e
  dsimp only at hget hfresh ⊢
  have hold {x : WindowId} {q : Window} (hq : windows.get? x = some q) :
      x = w ∧ q = r ∨ x ≠ w ∧ d.shell.windows.get? x = some q := by
    rw [hget] at hq
    split at hq
    · next hx => exact .inl ⟨hx, (Option.some.inj hq).symm⟩
    · next hx => exact .inr ⟨hx, hq⟩
  have hisActivated (t : SurfaceHandle) : h'.isActivated t = d.host.isActivated t := by
    rw [Host.isActivated, hactivated, Host.isActivated]
  have hunfocused : d.shell.seats.focusedOn w = [] := by
    rw [Shell.focusedOn_eq]
    refine List.filter_eq_nil_iff.2 fun seat _ => ?_
    rw [decide_eq_true_iff]
    intro hf
    have hlive := hs.isLive_of_focusedWindow hf
    rw [Shell.isLive, Arena.contains, hfresh] at hlive
    cases hlive
  have hasleep : d.host.isActivated r.surface = false := by
    rw [h.tracked.recorded, h.tracked.dormant _ hnew]
    rfl
  refine ⟨h.seats, fun x q hq => ?_, fun x q hq => ?_, fun x y q q' hq hq' hsame => ?_,
    fun x q hq => ?_, fun t ht => ?_, fun t => ?_, fun t => ?_⟩
  · rcases hold hq with ⟨rfl, rfl⟩ | ⟨-, hq⟩
    · show q.focusCount = (d.shell.seats.focusedOn x).length
      rw [hcount, hunfocused]
      rfl
    · exact h.counted x q hq
  · rw [hisActivated]
    rcases hold hq with ⟨rfl, rfl⟩ | ⟨-, hq⟩
    · rw [hasleep, hcount]
      rfl
    · exact h.activated x q hq
  · rcases hold hq with ⟨rfl, rfl⟩ | ⟨-, hq⟩
    · rcases hold hq' with ⟨rfl, -⟩ | ⟨-, hq'⟩
      · rfl
      · exact absurd (hsame ▸ h.created y q' hq') hnew
    · rcases hold hq' with ⟨rfl, rfl⟩ | ⟨-, hq'⟩
      · exact absurd (hsame ▸ h.created x q hq) hnew
      · exact h.distinct x y q q' hq hq' hsame
  · rw [hcreated, List.mem_append, List.mem_singleton]
    rcases hold hq with ⟨-, rfl⟩ | ⟨-, hq⟩
    · exact .inr rfl
    · exact .inl (h.created x q hq)
  · rw [hcreated, List.mem_append, not_or] at ht
    rw [hchanges]
    exact h.tracked.dormant t ht.1
  · rw [hisActivated, hchanges]
    exact h.tracked.recorded t
  · rw [hchanges]
    exact h.tracked.alternates t

end Attended

theorem Shell.seats_endGrab (s : Shell) (seat : SeatId) : (s.endGrab seat).seats = s.seats := by
  unfold endGrab
  split <;> rfl

/-- A seat that has released its focus has none. -/
theorem Desktop.focusedWindow_releaseFocus (h : d.shell.Sound) (seat : SeatId) :
    (d.releaseFocus seat).shell.focusedWindow seat = none := by
  refine Option.eq_none_iff_forall_not_mem.2 fun w hw => ?_
  obtain ⟨k, hk⟩ := Shell.link_of_focusedWindow hw
  rw [web_releaseFocus h, Web.link_cut_self] at hk
  cases hk

/-! ## Moves -/

theorem Desktop.createdSurfaces_createWindow (hf : d.host.failNextView = false)
    (surface : SurfaceHandle) (appId : Option String) :
    (d.createWindow surface appId).2.host.createdSurfaces =
      d.host.createdSurfaces ++ [surface] := by
  rw [createWindow_made hf]
  exact (Host.Calm.of_record rfl rfl rfl).createdSurfaces.trans
    (Host.createdSurfaces_createView _ surface _)

theorem Desktop.activationChanges_createWindow (hf : d.host.failNextView = false)
    (surface : SurfaceHandle) (appId : Option String) (t : SurfaceHandle) :
    (d.createWindow surface appId).2.host.activationChanges t = d.host.activationChanges t := by
  rw [createWindow_made hf]
  exact ((Host.Calm.of_record rfl rfl rfl).activationChanges t).trans
    (Host.activationChanges_createView _ surface t _)

theorem Host.Calm.nodup {h h' : Host} (hc : Calm h h') (hn : h'.createdSurfaces.Nodup) :
    h.createdSurfaces.Nodup :=
  hc.createdSurfaces ▸ hn

/-- What holds of a desktop that no two windows were made for one surface on. -/
def Desktop.FocusKept (d : Desktop) : Prop := d.host.createdSurfaces.Nodup → Attended d

namespace Desktop.FocusKept

theorem drift (h : d.FocusKept) (hd : Drift d d') : d'.FocusKept :=
  fun hn => (h (hd.host.nodup hn)).drift hd

theorem createWindow (h : d.FocusKept) (hs : d.shell.Sound) (surface : SurfaceHandle)
    (appId : Option String) : (d.createWindow surface appId).2.FocusKept := by
  cases hf : d.host.failNextView with
  | true =>
    rw [createWindow_refused hf]
    exact h.drift (.of_windows (fun _ => rfl) rfl ⟨rfl, [_], rfl, by simp [Command.isFocal]⟩)
  | false =>
    intro hn
    have hcreated := createdSurfaces_createWindow hf surface appId
    have hchanges := activationChanges_createWindow hf surface appId
    have hfresh := List.nodup_append.1 (hcreated ▸ hn)
    have hnew : surface ∉ d.host.createdSurfaces := fun hm =>
      hfresh.2.2 surface hm surface List.mem_cons_self rfl
    rw [createWindow_made hf] at hcreated hchanges ⊢
    exact (h hfresh.1).insertWindow hs rfl hnew rfl hcreated hchanges

theorem releaseFocus (h : d.FocusKept) (hs : d.shell.Sound) (seat : SeatId) :
    (d.releaseFocus seat).FocusKept := by
  intro hn
  refine (h ?_).release hs seat
  unfold Desktop.releaseFocus at hn
  split at hn
  · exact hn
  · dsimp only at hn
    split at hn
    · exact hn
    · split at hn
      · rwa [tell, Host.createdSurfaces_setActivated] at hn
      · exact hn

theorem takeFocus (h : d.FocusKept) (hseat : d.shell.seats.contains seat)
    (hfree : d.shell.focusedWindow seat = none) (hw : d.shell.isLive w) :
    (d.takeFocus seat w).FocusKept := by
  intro hn
  refine (h ?_).take hseat hfree hw
  obtain ⟨window, hw⟩ := Option.isSome_iff_exists.1 hw
  rw [takeFocus_of_some hw] at hn
  dsimp only at hn
  split at hn
  · rwa [Host.createdSurfaces_setActivated] at hn
  · exact hn

theorem keyboardFocusChanged (h : d.FocusKept) (hs : d.shell.Sound) (seat : SeatId)
    (focus : Option WindowId) : (d.keyboardFocusChanged seat focus).FocusKept := by
  have hreleased := h.releaseFocus hs seat
  refine keyboardFocusChanged_cases (P := FocusKept) seat focus h hreleased fun w _ hseat hlive =>
    hreleased.takeFocus ?_ (focusedWindow_releaseFocus hs seat) ?_
  · rwa [contains_releaseFocus]
  · rwa [isLive_releaseFocus hs]

theorem seatRemoved (h : d.FocusKept) (hs : d.shell.Sound) (seat : SeatId) :
    (d.seatRemoved seat).FocusKept := by
  have hended := (h.releaseFocus hs seat).drift (endGrab_drift _ seat)
  have hfree : ((d.releaseFocus seat).update (·.endGrab seat)).shell.focusedWindow seat = none := by
    show (((d.releaseFocus seat).shell.endGrab seat).seats.get? seat).bind Seat.focusedWindow = none
    rw [Shell.seats_endGrab]
    exact focusedWindow_releaseFocus hs seat
  exact fun hn => (hended hn).eraseSeat hfree

end Desktop.FocusKept

/-- What one move keeps. -/
theorem Move.focusKept (hs : d.shell.Sound) (h : d.FocusKept) (hm : Move d d') : d'.FocusKept :=
  hm.drift_cases (fun hd => h.drift hd) (h.createWindow hs)
    (fun handle name hasKeyboard hn => (h hn).addSeat handle name hasKeyboard)
    (h.keyboardFocusChanged hs) (h.seatRemoved hs)

theorem Desktop.fresh_focusKept (config : Config) : (Desktop.fresh config).FocusKept := by
  intro _
  have hnone (w : WindowId) : (Desktop.fresh config).shell.windows.get? w = none :=
    Arena.get?_empty w
  refine ⟨Roster.ordered_empty, fun w r hr => ?_, fun w r hr => ?_, fun w x r q hr => ?_,
    fun w r hr => ?_, Host.tracked_fresh⟩
  · cases (hnone w).symm.trans hr
  · cases (hnone w).symm.trans hr
  · cases (hnone w).symm.trans hr
  · cases (hnone w).symm.trans hr

/-! ## The result -/

/-- Focus counts are the numbers of seats, the host's flags follow them, and so do the changes
that surfaces were told. -/
structure Desktop.FocusExact (d : Desktop) : Prop where
  nodup : ∀ w, (d.shell.seats.focusedOn w).Nodup
  mem : ∀ w seat, seat ∈ d.shell.seats.focusedOn w ↔ d.shell.focusedWindow seat = some w
  counted : ∀ w r, d.shell.windows.get? w = some r →
    r.focusCount = (d.shell.seats.focusedOn w).length
  activated : ∀ w r, d.shell.windows.get? w = some r →
    (d.host.isActivated r.surface ↔ 0 < r.focusCount)
  /-- A count that goes down was positive. -/
  positive : ∀ seat w, d.shell.focusedWindow seat = some w →
    ∃ r, d.shell.windows.get? w = some r ∧ 0 < r.focusCount
  alternates : ∀ surface, Alternates (d.host.activationChanges surface)

/-- As long as no two windows were made for one surface. -/
theorem Reached.focus_exact (h : Reached config d) (hn : d.host.createdSurfaces.Nodup) :
    d.FocusExact := by
  have hkept : d.shell.Sound ∧ d.FocusKept :=
    h.of_moves (P := fun d => d.shell.Sound ∧ d.FocusKept)
      ⟨Shell.fresh_sound config, Desktop.fresh_focusKept config⟩
      fun hd hm => ⟨hm.sound hd.1, hm.focusKept hd.1 hd.2⟩
  obtain ⟨hs, hk⟩ := hkept
  have hd := hk hn
  refine ⟨hd.nodup_focusedOn, fun w seat => hd.mem_focusedOn, hd.counted, fun w r hr => ?_,
    fun seat w hf => ?_, hd.tracked.alternates⟩
  · rw [hd.activated w r hr, decide_eq_true_iff]
  · obtain ⟨r, hr⟩ := Option.isSome_iff_exists.1 (hs.isLive_of_focusedWindow hf)
    have hr : d.shell.windows.get? w = some r := hr
    refine ⟨r, hr, ?_⟩
    rw [hd.counted w r hr]
    exact List.length_pos_of_mem (hd.mem_focusedOn.2 hf)

/-- In a family of three, the focus went from each window to the next. -/
theorem focus_exact_familyRun : ∃ d, Reached .default d ∧ d.host.createdSurfaces.Nodup ∧
    d.shell.focusedWindow ⟨0, 1⟩ = some ⟨2, 1⟩ ∧
    d.host.activationChanges ⟨11⟩ = [true, false] ∧ d.FocusExact := by
  have hreached : Reached .default _ := Reached.run _ .fresh (Option.some_get isSome_familyRun).symm
  have hnodup : (((Desktop.fresh .default).run familyRun).get
      isSome_familyRun).host.createdSurfaces.Nodup := by decide +kernel
  exact ⟨_, hreached, hnodup, by decide +kernel, by decide +kernel,
    Reached.focus_exact hreached hnodup⟩

end Kiosk
