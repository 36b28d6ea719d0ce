import Kiosk.Proofs.Heirs
import Kiosk.Proofs.LayoutSteps
import Kiosk.Proofs.Ledger

/-!
# The windows on an output

An output that moves or changes its size takes its windows along, one after the other.
`Shell.Occupants` says that a list is that of the windows on an output, each once, and in which
order. The list that the shell goes through is one (`Reached.occupants`), since just the mapped
windows are stacked.

`Desktop.Arranges` says what it comes to that the windows of a list are put in place in turn. None
is listed twice and no two have one view, so each goes where its record before the first turn says.
-/

namespace Kiosk

variable {config : Config} {d d₁ d' : Desktop} {w x : WindowId} {o : OutputId} {window : Window}
  {size : Option Size} {place : Window → Point} {ws : List WindowId}

/-! ## Lists of windows -/

namespace Shell

variable {s : Shell}

theorem outputOf_eq_some_iff : s.outputOf w = some o ↔
    ∃ window, s.windows.get? w = some window ∧ window.output = some o :=
  Option.bind_eq_some_iff

/-- The windows that are not mapped, by slot. -/
def unmapped (s : Shell) : List WindowId :=
  (s.windows.toList.filter fun (_, window) => !window.mapped).map Prod.fst

theorem mem_unmapped : w ∈ s.unmapped ↔ s.isLive w ∧ s.isMapped w = false := by
  rw [unmapped, isLive, Arena.contains, isMapped]
  cases hw : s.windows.get? w with
  | none => simp [Arena.mem_toList, hw]
  | some window => simp [Arena.mem_toList, hw]

theorem windowsOn_eq (s : Shell) (o : OutputId) : s.windowsOn o =
    s.stacking.filter (s.outputOf · = some o) ++ s.unmapped.filter (s.outputOf · = some o) :=
  List.filter_append ..

/-- The windows on `o` are those of `ws`: the mapped ones front to back, then the others by slot. -/
structure Occupants (s : Shell) (o : OutputId) (ws : List WindowId) : Prop where
  nodup : ws.Nodup
  mem : ∀ w, w ∈ ws ↔ s.outputOf w = some o
  order : ∃ front rest, ws = front ++ rest ∧
    front.Sublist s.stacking ∧ (∀ w ∈ front, s.isMapped w) ∧
    rest.Sublist s.windows.ids ∧ ∀ w ∈ rest, s.isMapped w = false

namespace Occupants

theorem mem_iff (h : s.Occupants o ws) (hw : s.windows.get? w = some window) :
    w ∈ ws ↔ window.output = some o := by
  rw [h.mem, outputOf, hw, Option.bind_some]

theorem isLive (h : s.Occupants o ws) : ∀ w ∈ ws, s.isLive w := by
  intro w hw
  obtain ⟨window, hwindow, -⟩ := outputOf_eq_some_iff.1 ((h.mem w).1 hw)
  exact Option.isSome_iff_exists.2 ⟨window, hwindow⟩

end Occupants

end Shell

/-- The list that the shell goes through is that of the windows on the output. -/
theorem Reached.occupants (h : Reached config d) (o : OutputId) :
    d.shell.Occupants o (d.shell.windowsOn o) := by
  have hmapped := h.mem_stacking_iff
  have hids : d.shell.unmapped.Sublist d.shell.windows.ids := List.filter_sublist.map _
  refine ⟨?_, fun w => Desktop.mem_windowsOn h.mem_stacking, _, _, d.shell.windowsOn_eq o,
    List.filter_sublist, fun w hw => ?_, List.filter_sublist.trans hids, fun w hw => ?_⟩
  · refine List.Nodup.filter _ (List.nodup_append.2
      ⟨h.mirrored.nodup, hids.nodup d.shell.windows.nodup_ids, ?_⟩)
    rintro w hw _ hx rfl
    exact Bool.false_ne_true ((Shell.mem_unmapped.1 hx).2.symm.trans ((hmapped w).1 hw))
  · exact (hmapped w).1 (List.mem_of_mem_filter hw)
  · exact (Shell.mem_unmapped.1 (List.mem_of_mem_filter hw)).2

/-! ## Windows put in place -/

/-- What the host is told of a window that is put at `p`, and of its client that is told `size`. -/
def Window.orders (window : Window) (size : Option Size) (p : Point) : List Command :=
  (size.map (.setSize window.surface)).toList ++ [.setViewPosition window.view p]

/-- The host without what it is told of windows that are put in place. -/
def Host.unplaced (h : Host) : Host :=
  { h with log := [], viewPositions := .empty, sizes := .empty }

namespace Shell

/-- What the host is told of the windows of `ws`, each put where `place` says. -/
def ordersTo (s : Shell) (size : Option Size) (place : Window → Point) (ws : List WindowId) :
    List Command :=
  ws.flatMap fun w => (s.windows.get? w).elim [] fun window => window.orders size (place window)

/-- Some window of `ws` shows `surface`. -/
def Shows (s : Shell) (ws : List WindowId) (surface : SurfaceHandle) : Prop :=
  ∃ w ∈ ws, (s.windows.get? w).map Window.surface = some surface

end Shell

namespace Desktop

theorem moveView_of_live (hw : d.shell.windows.get? w = some window) (p : Point) :
    d.moveView w p = ⟨d.shell.modifyWindow w ({ · with position := p }),
      d.host.setViewPosition window.view p⟩ := by
  rw [moveView, hw]
  rfl

theorem ordersTo_cons (hw : d.shell.windows.get? w = some window) (ws : List WindowId) :
    d.shell.ordersTo size place (w :: ws) =
      window.orders size (place window) ++ d.shell.ordersTo size place ws := by
  rw [Shell.ordersTo, List.flatMap_cons, hw]
  rfl

/-- The view of a window is moved once if the window is listed, and else not at all. -/
theorem filter_view_ordersTo (hv : d.Viewed) (hw : d.shell.windows.get? w = some window) :
    ∀ {ws : List WindowId}, ws.Nodup → (∀ x ∈ ws, d.shell.isLive x) →
      (d.shell.ordersTo size place ws).filter (·.view? = some window.view) =
        if w ∈ ws then [.setViewPosition window.view (place window)] else []
  | [], _, _ => rfl
  | x :: ws, hnodup, hlive => by
    obtain ⟨hx, hnodup⟩ := List.nodup_cons.1 hnodup
    obtain ⟨hxlive, hlive⟩ := List.forall_mem_cons.1 hlive
    obtain ⟨r, hr⟩ := Option.isSome_iff_exists.1 hxlive
    have hsize : (size.map (Command.setSize r.surface)).toList.filter
        (·.view? = some window.view) = [] := by
      cases size <;> simp [Command.view?]
    rw [ordersTo_cons hr, List.filter_append, filter_view_ordersTo hv hw hnodup hlive,
      Window.orders, List.filter_append, hsize]
    by_cases hwx : w = x
    · subst hwx
      cases hw.symm.trans hr
      simp [hx, Command.view?]
    · have hview : r.view ≠ window.view := hv.view_ne hw hr (Ne.symm hwx)
      simp [hwx, hview, Command.view?]

/-- The clients that are told a size are told it once for each window that is listed. -/
theorem filter_surface_ordersTo (z : Size) (surface : SurfaceHandle) : ∀ {ws : List WindowId},
    (∀ x ∈ ws, d.shell.isLive x) →
      (d.shell.ordersTo (some z) place ws).filter (·.surface? = some surface) =
        List.replicate (ws.countP fun w => (d.shell.windows.get? w).map Window.surface =
          some surface) (.setSize surface z)
  | [], _ => rfl
  | x :: ws, hlive => by
    obtain ⟨hxlive, hlive⟩ := List.forall_mem_cons.1 hlive
    obtain ⟨r, hr⟩ := Option.isSome_iff_exists.1 hxlive
    rw [ordersTo_cons hr, List.filter_append, filter_surface_ordersTo z surface hlive,
      Window.orders, List.countP_cons, hr]
    by_cases hs : r.surface = surface
    · simp [hs, Command.surface?, List.replicate_succ]
    · simp [hs, Command.surface?]

/-- `d'` is `d` with the windows of `ws` put in place in turn. If there is a `size`, their clients
are told so. -/
structure Arranges (size : Option Size) (place : Window → Point) (ws : List WindowId)
    (d d' : Desktop) : Prop where
  windows : ∀ x, d'.shell.windows.get? x =
    if x ∈ ws then (d.shell.windows.get? x).map fun r => { r with position := place r }
    else d.shell.windows.get? x
  shell : d'.shell = { d.shell with windows := d'.shell.windows }
  log : d'.host.log = d.host.log ++ d.shell.ordersTo size place ws
  placed : ∀ w ∈ ws, ∀ r, d.shell.windows.get? w = some r →
    d'.host.viewPositions.get? r.view = some (place r)
  elsewhere : ∀ v, (∀ w ∈ ws, ∀ r, d.shell.windows.get? w = some r → r.view ≠ v) →
    d'.host.viewPositions.get? v = d.host.viewPositions.get? v
  sized : ∀ z surface, size = some z → d.shell.Shows ws surface →
    d'.host.sizes.get? surface = some z
  unsized : ∀ surface, size = none ∨ ¬ d.shell.Shows ws surface →
    d'.host.sizes.get? surface = d.host.sizes.get? surface
  host : d'.host.unplaced = d.host.unplaced

namespace Arranges

theorem nil (d : Desktop) : Arranges size place [] d d where
  windows x := (if_neg List.not_mem_nil).symm
  shell := rfl
  log := (List.append_nil _).symm
  placed _ hw := absurd hw List.not_mem_nil
  elsewhere _ _ := rfl
  sized := by
    rintro z surface - ⟨w, hw, -⟩
    exact absurd hw List.not_mem_nil
  unsized _ _ := rfl
  host := rfl

theorem isLive (h : Arranges size place ws d d') (x : WindowId) :
    d'.shell.isLive x = d.shell.isLive x := by
  rw [Shell.isLive, Arena.contains, h.windows]
  split
  · exact Option.isSome_map
  · rfl

/-- A window is put in place. -/
theorem single (hw : d.shell.windows.get? w = some window) :
    Arranges size place [w] d
      ((size.elim d fun z => d.tell (·.setSize window.surface z)).moveView w (place window)) := by
  have hshows (surface : SurfaceHandle) :
      d.shell.Shows [w] surface ↔ surface = window.surface := by
    simp [Shell.Shows, hw, eq_comm]
  have horders : d.shell.ordersTo size place [w] = window.orders size (place window) := by
    simp [Shell.ordersTo, hw]
  have hmoved : (size.elim d fun z => d.tell (·.setSize window.surface z)).moveView w
      (place window) = ⟨d.shell.modifyWindow w ({ · with position := place window }),
        (size.elim d.host (d.host.setSize window.surface)).setViewPosition window.view
          (place window)⟩ := by
    cases size with
    | none => exact moveView_of_live hw _
    | some z => exact moveView_of_live (d := d.tell (·.setSize window.surface z)) hw _
  rw [hmoved]
  refine ⟨fun x => ?_, rfl, ?_, fun x hx r hr => ?_, fun v hv => ?_, ?_, fun surface h => ?_, ?_⟩
  · refine (d.shell.get?_modifyWindow w x _).trans ?_
    by_cases hx : x = w
    · rw [if_pos hx, if_pos (List.mem_singleton.2 hx), hx, hw]
      rfl
    · rw [if_neg hx, if_neg fun h => hx (List.mem_singleton.1 h)]
  · rw [horders]
    cases size with
    | none => rfl
    | some z => exact List.append_assoc _ [_] [_]
  · rw [List.mem_singleton.1 hx, hw] at hr
    cases hr
    exact (Assoc.get?_insert ..).trans (if_pos rfl)
  · have hv : v ≠ window.view := (hv w (List.mem_singleton.2 rfl) window hw).symm
    refine (Assoc.get?_insert ..).trans ((if_neg hv).trans ?_)
    cases size <;> rfl
  · rintro z surface rfl h
    rw [(hshows surface).1 h]
    exact (Assoc.get?_insert ..).trans (if_pos rfl)
  · rw [hshows] at h
    cases size with
    | none => rfl
    | some z => exact (Assoc.get?_insert ..).trans (if_neg (h.resolve_left nofun))
  · cases size <;> rfl

/-- The windows that come after the first are not it, and have other views. -/
theorem cons (hv : d.Viewed) (hw : w ∉ ws) (h : Arranges size place [w] d d₁)
    (h' : Arranges size place ws d₁ d') : Arranges size place (w :: ws) d d' := by
  have hsame {x : WindowId} (hx : x ≠ w) : d₁.shell.windows.get? x = d.shell.windows.get? x :=
    (h.windows x).trans (if_neg fun hm => hx (List.mem_singleton.1 hm))
  have hmem {x : WindowId} (hx : x ∈ ws) : d₁.shell.windows.get? x = d.shell.windows.get? x :=
    hsame fun hxw => hw (hxw ▸ hx)
  have hshows (surface : SurfaceHandle) : d.shell.Shows (w :: ws) surface ↔
      d.shell.Shows [w] surface ∨ d₁.shell.Shows ws surface := by
    simp only [Shell.Shows, List.exists_mem_cons_iff, List.not_mem_nil, false_and, exists_false,
      or_false]
    exact or_congr_right (exists_congr fun x => and_congr_right fun hx => by rw [hmem hx])
  refine ⟨fun x => ?_, ?_, ?_, fun x hx r hr => ?_, fun v hn => ?_, fun z surface hz hs => ?_,
    fun surface hs => ?_, h'.host.trans h.host⟩
  · rw [h'.windows]
    by_cases hx : x ∈ ws
    · rw [if_pos hx, if_pos (List.mem_cons_of_mem w hx), hmem hx]
    · rw [if_neg hx, h.windows]
      exact if_congr (by simp [hx]) rfl rfl
  · rw [h'.shell, h.shell]
  · have horders : d₁.shell.ordersTo size place ws = d.shell.ordersTo size place ws :=
      List.flatMap_congr fun x hx => by rw [hmem hx]
    rw [h'.log, h.log, horders, List.append_assoc, Shell.ordersTo, Shell.ordersTo, Shell.ordersTo,
      ← List.flatMap_append, List.singleton_append]
  · rcases List.mem_cons.1 hx with rfl | hx
    · rw [h'.elsewhere r.view fun y hy q hq => ?_]
      · exact h.placed x (List.mem_singleton.2 rfl) r hr
      · rw [hmem hy] at hq
        exact hv.view_ne hr hq fun hyx => hw (hyx ▸ hy)
    · exact h'.placed x hx r ((hmem hx).trans hr)
  · rw [h'.elsewhere v fun y hy q hq =>
      hn y (List.mem_cons_of_mem w hy) q ((hmem hy).symm.trans hq)]
    exact h.elsewhere v fun y hy => hn y (List.mem_singleton.1 hy ▸ List.mem_cons_self)
  · by_cases hlater : d₁.shell.Shows ws surface
    · exact h'.sized z surface hz hlater
    · rw [h'.unsized surface (.inr hlater)]
      exact h.sized z surface hz (((hshows surface).1 hs).resolve_right hlater)
  · rw [hshows, not_or] at hs
    rw [h'.unsized surface (hs.imp_right And.right), h.unsized surface (hs.imp_right And.left)]

end Arranges

end Desktop

end Kiosk
