import Kiosk.Proofs.BelowItself
import Kiosk.Proofs.LogBlind

/-!
# What clients were told

As long as only events place windows, and no two of them are made for one
surface, what the client of each window was last told is what the window's record
says: fullscreen or maximized just when the window is, the zero size when it is
normal, and the size its output has now when it fills an output. Only a window
that was announced below itself and has been normal since may have been told no
size (`Desktop.clients_exact`).

Each step of the layout keeps that (`Layout.Step.informed`). A window that is
placed is told of its new placement by what differs from the old one, so its
client must have been right about that before (`Told.Shows.enter`).
-/

namespace Kiosk

open Function (update update_self update_of_ne)

variable {config : Config} {d d' : Desktop} {as : List Action} {L L' : Layout} {w x : WindowId}
  {r r' q : Stance}

/-- The client was told of just that placement. -/
structure Told.Shows (t : Told) (placement : Placement) : Prop where
  fullscreen : t.fullscreen = true ↔ placement = .fullscreen
  maximized : t.maximized = true ↔ placement = .maximized

theorem Told.Shows.enter {t : Told} {previous : Placement} (h : t.Shows previous)
    (placement : Placement) (extent : Option Size) :
    (t.enter previous placement extent).Shows placement := by
  cases placement with
  | normal => exact ⟨by simp [Told.enter], by simp [Told.enter]⟩
  | maximized =>
    refine ⟨?_, by simp [Told.enter]⟩
    simp [Told.enter, h.fullscreen]
  | fullscreen =>
    refine ⟨by simp [Told.enter], ?_⟩
    simp [Told.enter, h.maximized]

namespace Layout

/-- The client of a window that stands as `r` was told so. It may have been told no size if the
window is normal. -/
structure Fits (L : Layout) (r : Stance) : Prop where
  shows : (L.told r.surface).Shows r.placement
  normal : r.placement = .normal →
    (L.told r.surface).size = some .zero ∨ (L.told r.surface).size = none
  fills : r.placement.fillsOutput → ∀ o size, r.output = some o → L.extent o = some size →
    (L.told r.surface).size = some size

/-- All clients were told how their windows stand, of which each has a surface of its own. -/
structure Informed (L : Layout) : Prop where
  created : ∀ w r, L.stance w = some r → r.surface ∈ L.created
  apart : ∀ w x r q, L.stance w = some r → L.stance x = some q → r.surface = q.surface → w = x
  untold : ∀ s, s ∉ L.created → L.told s = ⟨false, false, none⟩
  fits : ∀ w r, L.stance w = some r → L.Fits r

/-- Nothing has changed that the client was told of. -/
theorem Fits.congr (h : L.Fits r) (ht : L'.told r.surface = L.told r.surface)
    (he : L'.extent = L.extent) : L'.Fits r :=
  ⟨ht ▸ h.shows, fun hn => ht ▸ h.normal hn, fun hf o size ho hs =>
    ht ▸ h.fills hf o size ho (he ▸ hs)⟩

theorem told_place (hs : r'.surface = r.surface) : (L.place w r r').told r'.surface =
    (L.told r.surface).enter r.placement r'.placement (r'.output.bind L.extent) := by
  rw [hs]
  exact update_self ..

/-- The client of a window that is placed as a normal one is told to choose its size. -/
theorem size_place (hs : r'.surface = r.surface) (hn : r'.placement = .normal) :
    ((L.place w r r').told r'.surface).size = some .zero := by
  rw [told_place hs, hn]
  rfl

/-- A client that was right about the old placement is right about the new one. -/
theorem fits_place (hs : r'.surface = r.surface) (h : (L.told r.surface).Shows r.placement) :
    (L.place w r r').Fits r' := by
  refine ⟨told_place hs ▸ h.enter _ _, fun hn => .inl (size_place hs hn), fun hf o size ho he => ?_⟩
  have hextent : r'.output.bind L.extent = some size := by
    rw [ho]
    exact he
  rw [told_place hs, hextent]
  cases hp : r'.placement with
  | normal =>
    rw [hp] at hf
    cases hf
  | maximized => rfl
  | fullscreen => rfl

namespace Informed

/-- Windows have the surfaces that they had, and nobody else is told anything. -/
theorem of_surfaces (h : L.Informed)
    (hs : ∀ x q, L'.stance x = some q → ∃ p, L.stance x = some p ∧ p.surface = q.surface)
    (hc : L'.created = L.created) (hu : ∀ s, s ∉ L.created → L'.told s = L.told s)
    (hf : ∀ x q, L'.stance x = some q → L'.Fits q) : L'.Informed := by
  refine ⟨fun x q hx => ?_, fun x y q p hx hy heq => ?_, fun s hn => ?_, hf⟩
  · obtain ⟨p, hp, heq⟩ := hs x q hx
    rw [hc, ← heq]
    exact h.created x p hp
  · obtain ⟨q', hq, hq'⟩ := hs x q hx
    obtain ⟨p', hp, hp'⟩ := hs y p hy
    exact h.apart x y q' p' hq hp (hq'.trans (heq.trans hp'.symm))
  · rw [hc] at hn
    exact (hu s hn).trans (h.untold s hn)

theorem place (h : L.Informed) (hw : L.stance w = some r) (hs : r'.surface = r.surface) :
    (L.place w r r').Informed := by
  refine h.of_surfaces (fun x q hx => ?_) rfl (fun s hn => ?_) fun x q hx => ?_
  · rcases eq_some_of_update hx with ⟨rfl, hq⟩ | ⟨-, hq⟩
    · cases hq
      exact ⟨r, hw, hs.symm⟩
    · exact ⟨q, hq, rfl⟩
  · have hne : s ≠ r.surface := fun heq => hn (heq ▸ h.created w r hw)
    exact update_of_ne hne _ _
  · rcases eq_some_of_update hx with ⟨-, hq⟩ | ⟨hne, hq⟩
    · cases hq
      exact fits_place hs (h.fits w r hw).shows
    · have hother : q.surface ≠ r.surface := fun heq => hne (h.apart x w q r hq hw heq)
      exact (h.fits x q hq).congr (update_of_ne hother _ _) rfl

/-- A surface that is new has no window and was told nothing, as is right for a window that is
made and not placed. -/
theorem create (h : L.Informed) (w : WindowId) {surface : SurfaceHandle}
    (hn : surface ∉ L.created) : (L.create w surface).Informed := by
  have hwindow {x : WindowId} {q : Stance} (hx : (L.create w surface).stance x = some q) :
      x = w ∧ q = .new surface ∨ x ≠ w ∧ L.stance x = some q := by
    rcases eq_some_of_update hx with ⟨rfl, hq⟩ | ⟨hne, hq⟩
    · exact .inl ⟨rfl, (Option.some.inj hq).symm⟩
    · exact .inr ⟨hne, hq⟩
  have hother {x : WindowId} {q : Stance} (hx : L.stance x = some q) : q.surface ≠ surface :=
    fun heq => hn (heq ▸ h.created x q hx)
  refine ⟨fun x q hx => ?_, fun x y q p hx hy heq => ?_, fun s hs => ?_, fun x q hx => ?_⟩
  · rcases hwindow hx with ⟨rfl, rfl⟩ | ⟨-, hx⟩
    · exact List.mem_append_right _ List.mem_cons_self
    · exact List.mem_append_left _ (h.created x q hx)
  · rcases hwindow hx with ⟨hxw, rfl⟩ | ⟨-, hx'⟩ <;> rcases hwindow hy with ⟨hyw, rfl⟩ | ⟨-, hy'⟩
    · exact hxw.trans hyw.symm
    · exact absurd heq.symm (hother hy')
    · exact absurd heq (hother hx')
    · exact h.apart x y q p hx' hy' heq
  · exact h.untold s fun hm => hs (List.mem_append_left _ hm)
  · rcases hwindow hx with ⟨rfl, rfl⟩ | ⟨-, hx⟩
    · have htold : (L.create x surface).told surface = ⟨false, false, none⟩ := h.untold surface hn
      refine ⟨?_, fun _ => .inr (congrArg Told.size htold), fun hf => nomatch hf⟩
      show ((L.create x surface).told surface).Shows .normal
      rw [htold]
      exact ⟨by simp, by simp⟩
    · exact (h.fits x q hx).congr rfl rfl

theorem appear (h : L.Informed) (hn : r.surface ∉ L.created) :
    ((L.create w r.surface).place w (.new r.surface) r).Informed :=
  (h.create w hn).place ((stance_create L w r.surface w).trans (if_pos rfl)) rfl

theorem vanish (h : L.Informed) (w : WindowId) : (L.vanish w).Informed := by
  have hkept (x : WindowId) (q : Stance) (hx : (L.vanish w).stance x = some q) :
      L.stance x = some q := by
    rcases eq_some_of_update hx with ⟨-, hq⟩ | ⟨-, hq⟩
    · cases hq
    · exact hq
  exact h.of_surfaces (fun x q hx => ⟨q, hkept x q hx, rfl⟩) rfl (fun _ _ => rfl) fun x q hx =>
    (h.fits x q (hkept x q hx)).congr rfl rfl

/-- Another output has another size. -/
theorem setExtent (h : L.Informed) {o : OutputId}
    (ho : ∀ w r, L.stance w = some r → r.output ≠ some o) (extent : Option Size) :
    (L.setExtent o extent).Informed := by
  refine h.of_surfaces (fun x q hx => ⟨q, hx, rfl⟩) rfl (fun _ _ => rfl) fun x q hx => ?_
  have hfits := h.fits x q hx
  refine ⟨hfits.shows, hfits.normal, fun hf j size hj he => hfits.fills hf j size hj ?_⟩
  have hne : j ≠ o := fun heq => ho x q hx (heq ▸ hj)
  exact (update_of_ne hne _ _).symm.trans he

theorem removeOutput (h : L.Informed) (o : OutputId) {stance : WindowId → Option Stance}
    (hs : ∀ w, stance w = L.stance w ∨ stance w = (L.stance w).map ({ · with output := none })) :
    Informed { L.setExtent o none with stance } := by
  refine h.of_surfaces (fun x q hx => ?_) rfl (fun _ _ => rfl) fun x q hx => ?_
  · rcases hs x with heq | heq
    · exact ⟨q, heq.symm.trans hx, rfl⟩
    · obtain ⟨r, hr, rfl⟩ := Option.map_eq_some_iff.1 (heq.symm.trans hx)
      exact ⟨r, hr, rfl⟩
  · rcases hs x with heq | heq
    · have hfits := h.fits x q (heq.symm.trans hx)
      refine ⟨hfits.shows, hfits.normal, fun hf j size hj he => hfits.fills hf j size hj ?_⟩
      rcases eq_some_of_update he with ⟨-, hsize⟩ | ⟨-, hsize⟩
      · cases hsize
      · exact hsize
    · obtain ⟨r, hr, rfl⟩ := Option.map_eq_some_iff.1 (heq.symm.trans hx)
      have hfits := h.fits x r hr
      exact ⟨hfits.shows, hfits.normal, fun _ j size hj => absurd hj.symm (Option.some_ne_none j)⟩

/-- Just the windows that fill the output are told its new size. -/
theorem resize (h : L.Informed) {o : OutputId} {surfaces : List SurfaceHandle} (size : Size)
    (hs : ∀ s, s ∈ surfaces ↔ ∃ w r, L.stance w = some r ∧ r.placement.fillsOutput ∧
      r.output = some o ∧ r.surface = s) :
    ((L.setExtent o (some size)).tell surfaces size).Informed := by
  refine h.of_surfaces (fun x q hx => ⟨q, hx, rfl⟩) rfl (fun s hn => ?_) fun x q hx => ?_
  · refine if_neg fun hm => hn ?_
    obtain ⟨w, r, hr, -, -, rfl⟩ := (hs s).1 hm
    exact h.created w r hr
  · have hx : L.stance x = some q := hx
    have hfits := h.fits x q hx
    by_cases hm : q.surface ∈ surfaces
    · obtain ⟨w, r, hr, hf, ho, hsame⟩ := (hs q.surface).1 hm
      obtain rfl := h.apart w x r q hr hx hsame
      cases hr.symm.trans hx
      have htold : ((L.setExtent o (some size)).tell surfaces size).told q.surface =
          { L.told q.surface with size := some size } := if_pos hm
      refine ⟨htold ▸ ⟨hfits.shows.fullscreen, hfits.shows.maximized⟩, fun hn => ?_,
        fun _ j new hj he => ?_⟩
      · rw [hn] at hf
        cases hf
      · rw [Option.some.inj (hj.symm.trans ho)] at he
        have hsize : update L.extent o (some size) o = some new := he
        rw [update_self] at hsize
        rw [htold, hsize]
    · have htold : ((L.setExtent o (some size)).tell surfaces size).told q.surface =
          L.told q.surface := if_neg hm
      refine ⟨htold ▸ hfits.shows, fun hn => htold ▸ hfits.normal hn, fun hf j new hj he => ?_⟩
      have hne : j ≠ o := by
        rintro rfl
        exact hm ((hs q.surface).2 ⟨x, q, hx, hf, hj, rfl⟩)
      rw [htold]
      refine hfits.fills hf j new hj ?_
      exact (update_of_ne hne _ _).symm.trans he

end Informed

theorem not_mem_of_nodup_concat {ss : List SurfaceHandle} {s : SurfaceHandle}
    (h : (ss ++ [s]).Nodup) : s ∉ ss :=
  ((List.nodup_concat ss s).1 (List.concat_eq_append ▸ h)).1

/-- What one step keeps, as long as no surface is given to two windows. -/
theorem Step.informed (h : L.Informed) (hs : Step False L L') (hn : L'.created.Nodup) :
    L'.Informed := by
  cases hs with
  | place hw hsurface _ => exact h.place hw hsurface
  | appear hw _ => exact h.appear (not_mem_of_nodup_concat hn)
  | vanish w => exact h.vanish w
  | addOutput ho size => exact h.setExtent ho (some size)
  | removeOutput o hstance => exact h.removeOutput o hstance
  | resize size hsurfaces => exact h.resize size hsurfaces
  | rebind hd => exact hd.elim
  | create hd => exact hd.elim

/-- Surfaces are only added. -/
theorem Step.created {direct : Prop} (hs : Step direct L L') :
    ∃ surfaces, L'.created = L.created ++ surfaces := by
  cases hs with
  | appear | create => exact ⟨_, rfl⟩
  | place | vanish | addOutput | removeOutput | resize | rebind =>
    exact ⟨[], (List.append_nil _).symm⟩

/-- The client of a normal window was told the zero size with the step, or had been told what it was
told last before. -/
theorem Step.size_of_normal (h : L.Informed) (hs : Step False L L') (hnodup : L'.created.Nodup)
    (hw : L'.stance w = some r') (hn : r'.placement = .normal) :
    (L'.told r'.surface).size = some .zero ∨ ∃ r, L.stance w = some r ∧ r.placement = .normal ∧
      (L'.told r'.surface).size = (L.told r.surface).size := by
  have hkept (hw : L.stance w = some r')
      (ht : L'.told r'.surface = L.told r'.surface) : (L'.told r'.surface).size = some .zero ∨
        ∃ r, L.stance w = some r ∧ r.placement = .normal ∧
          (L'.told r'.surface).size = (L.told r.surface).size :=
    .inr ⟨r', hw, hn, congrArg Told.size ht⟩
  cases hs with
  | @place x r q hx hsurface _ =>
    rcases eq_some_of_update hw with ⟨-, hq⟩ | ⟨hne, hq⟩
    · cases hq
      exact .inl (size_place hsurface hn)
    · have hother : r'.surface ≠ r.surface := fun heq => hne (h.apart w x r' r hq hx heq)
      exact hkept hq (update_of_ne hother _ _)
  | @appear x q hx _ =>
    rcases eq_some_of_update hw with ⟨-, hq⟩ | ⟨hne, hq⟩
    · cases hq
      exact .inl (size_place rfl hn)
    · rw [stance_create, if_neg hne] at hq
      have hother : r'.surface ≠ q.surface := fun heq =>
        not_mem_of_nodup_concat hnodup (heq ▸ h.created w r' hq)
      exact hkept hq (update_of_ne hother _ _)
  | vanish x =>
    rcases eq_some_of_update hw with ⟨-, hq⟩ | ⟨-, hq⟩
    · cases hq
    · exact hkept hq rfl
  | addOutput ho size => exact hkept hw rfl
  | removeOutput o hstance =>
    rcases hstance w with heq | heq
    · exact hkept (heq.symm.trans hw) rfl
    · obtain ⟨r, hr, rfl⟩ := Option.map_eq_some_iff.1 (heq.symm.trans hw)
      exact .inr ⟨r, hr, hn, rfl⟩
  | @resize o surfaces size hsurfaces =>
    refine hkept hw (if_neg fun hm => ?_)
    obtain ⟨x, r, hr, hf, -, hsame⟩ := (hsurfaces r'.surface).1 hm
    obtain rfl := h.apart x w r r' hr hw hsame
    cases hr.symm.trans hw
    rw [hn] at hf
    cases hf
  | rebind hd => exact hd.elim
  | create hd => exact hd.elim

/-- The client of `w` was told to choose its size, if `w` is normal. -/
def Sized (L : Layout) (w : WindowId) : Prop :=
  ∀ r, L.stance w = some r → r.placement = .normal → (L.told r.surface).size = some .zero

/-- As long as no surface is given to two windows, all clients were told how their windows stand,
and that of `w` also if it is normal. -/
def Served (w : WindowId) (L : Layout) : Prop :=
  L.created.Nodup → L.Informed ∧ L.Sized w

theorem Step.nodup {direct : Prop} (hs : Step direct L L') (hd : L'.created.Nodup) :
    L.created.Nodup := by
  obtain ⟨surfaces, hcreated⟩ := hs.created
  rw [hcreated] at hd
  exact (List.nodup_append.1 hd).1

theorem Step.served (h : Served w L) (hs : Step False L L') : Served w L' := by
  intro hd
  obtain ⟨hinformed, hsized⟩ := h (hs.nodup hd)
  refine ⟨hs.informed hinformed hd, fun r' hw hn => ?_⟩
  rcases hs.size_of_normal hinformed hd hw hn with hzero | ⟨r, hr, hr', hsize⟩
  · exact hzero
  · exact hsize.trans (hsized r hr hr')

theorem Served.create (h : Served w L) (hx : x ≠ w) (surface : SurfaceHandle) :
    Served w (L.create x surface) := by
  intro hd
  obtain ⟨hinformed, hsized⟩ := h (List.nodup_append.1 hd).1
  refine ⟨hinformed.create x (not_mem_of_nodup_concat hd), fun r hw => ?_⟩
  rw [stance_create, if_neg hx.symm] at hw
  exact hsized r hw

end Layout

theorem Desktop.fresh_informed (config : Config) : (fresh config).layout.Informed := by
  have hnone := stance_fresh config
  refine ⟨fun w r hw => ?_, fun w x r q hw => ?_, fun _ _ => rfl, fun w r hw => ?_⟩
  all_goals cases (hnone w).symm.trans hw

theorem Dispatched.informed (h : Dispatched config d) (hd : d.host.createdSurfaces.Nodup) :
    d.layout.Informed :=
  h.of_steps (P := fun L => L.created.Nodup → L.Informed)
    (fun _ => Desktop.fresh_informed config)
    (fun hL hs hd => hs.informed (hL (hs.nodup hd)) hd)
    (fun hL _ hd =>
      (hL (List.nodup_append.1 hd).1).create _ (Layout.not_mem_of_nodup_concat hd)) hd

namespace Desktop

/-- Surfaces that are different in the end have been so before. -/
theorem nodup_of_run : ∀ (as : List Action) {d : Desktop}, d.run as = some d' →
    d'.host.createdSurfaces.Nodup → d.host.createdSurfaces.Nodup
  | [], _, hr, hd => by
    cases hr
    exact hd
  | a :: as, d, hr, hd => by
    have hnext := nodup_of_run as (run_cons hr).2 hd
    rw [Host.createdSurfaces, log_act, List.filterMap_append] at hnext
    exact (List.nodup_append.1 hnext).1

/-! ## The result -/

/-- `w` is normal, and its client was told no size. -/
def Unsized (w : WindowId) (d : Desktop) : Prop :=
  ∃ r, d.shell.windows.get? w = some r ∧ r.placement = .normal ∧
    d.host.sizes.get? r.surface = none

theorem served_iff (h : Dispatched config d) (hd : d.host.createdSurfaces.Nodup) :
    d.layout.Served w ↔ ¬ d.Unsized w := by
  have hinformed := h.informed hd
  refine ⟨fun hserved ⟨r, hw, hn, hnone⟩ => ?_, fun hsized _ => ⟨hinformed, fun _ hw hn => ?_⟩⟩
  · have hzero := (hserved hd).2 r.stance (congrArg (Option.map Window.stance) hw) hn
    cases hnone.symm.trans hzero
  · obtain ⟨r, hr, rfl⟩ := Shell.stance_eq_some_iff.1 hw
    exact ((hinformed.fits w _ hw).normal hn).resolve_right fun hnone => hsized ⟨r, hr, hn, hnone⟩

/-- At the end of the run the client of each window was last told what the record says, unless the
window is normal, was announced below itself, and its client has been told no size since. -/
structure ClientsExact (config : Config) (as : List Action) (d : Desktop) : Prop where
  fullscreen : ∀ w r, d.shell.windows.get? w = some r →
    (d.host.isFullscreen r.surface = true ↔ r.placement = .fullscreen)
  maximized : ∀ w r, d.shell.windows.get? w = some r →
    (d.host.isMaximized r.surface = true ↔ r.placement = .maximized)
  exclusive : ∀ w r, d.shell.windows.get? w = some r →
    ¬ (d.host.isFullscreen r.surface = true ∧ d.host.isMaximized r.surface = true)
  normal : ∀ w r, d.shell.windows.get? w = some r → r.placement = .normal →
    (d.host.sizes.get? r.surface ≠ some .zero ↔
      ∃ d₁ a, (fresh config).HoldsSince (Unsized w) as d₁ a ∧ d₁.BelowItself a w)
  fills : ∀ w r o, d.shell.windows.get? w = some r → r.placement.fillsOutput →
    r.output = some o → ∃ output, d.shell.outputs.get? o = some output ∧
      d.host.sizes.get? r.surface = some output.area.size

/-- At the end of a run without calls the clients know how their windows stand, as long as no two
windows were made for one surface. -/
theorem clients_exact (hcalls : ∀ c, .call c ∉ as) (hr : (fresh config).run as = some d)
    (hd : d.host.createdSurfaces.Nodup) : ClientsExact config as d := by
  have h : Dispatched config d := .of_run hcalls hr
  have hfits {w : WindowId} {r : Window} (hw : d.shell.windows.get? w = some r) :
      d.layout.Fits r.stance :=
    (h.informed hd).fits w _ (congrArg (Option.map Window.stance) hw)
  refine ⟨fun w r hw => (hfits hw).shows.fullscreen, fun w r hw => (hfits hw).shows.maximized,
    fun w r hw hboth => ?_, fun w r hw hn => ?_, fun w r o hw hf ho => ?_⟩
  · have hfullscreen := (hfits hw).shows.fullscreen.1 hboth.1
    cases hfullscreen.symm.trans ((hfits hw).shows.maximized.1 hboth.2)
  · have hunsized : d.host.sizes.get? r.surface ≠ some .zero ↔ d.Unsized w := by
      constructor
      · exact fun hne => ⟨r, hw, hn, ((hfits hw).normal hn).resolve_left hne⟩
      · rintro ⟨q, hq, -, hnone⟩ hzero
        cases hw.symm.trans hq
        cases hnone.symm.trans hzero
    rw [hunsized]
    refine exists_below_itself_iff (Q := Layout.Served w) hcalls hr ?_
      (fun hd₁ hrest => served_iff hd₁ (nodup_of_run _ hrest hd)) (fun hL hs => hs.served hL)
      fun hx _ hL => hL.create hx _
    rintro ⟨r, hr, -⟩
    cases (Arena.get?_empty w).symm.trans hr
  · have hlive := h.reached.sound.contains_output (congrArg (Option.map Window.stance) hw) ho
    obtain ⟨output, houtput⟩ := Option.isSome_iff_exists.1 hlive
    exact ⟨output, houtput, (hfits hw).fills hf o output.area.size ho
      (congrArg (Option.map fun output : Output => output.area.size) houtput)⟩

end Desktop

/-- A window is maximized and its output gets a new size; then the output goes away, another one
comes, and the window, which becomes fullscreen there, gets a child. The last window is announced
below itself. -/
def movingRun : List Event :=
  [.outputAdded ⟨3⟩ "DP-1" ⟨.origin, outputSize⟩,
    .windowAdded ⟨10⟩ none none,
    .maximizeRequested ⟨0, 1⟩ true,
    .outputResized ⟨0, 1⟩ ⟨.origin, ⟨1600, 900, by decide, by decide⟩⟩,
    .outputRemoved ⟨0, 1⟩,
    .outputAdded ⟨4⟩ "DP-2" ⟨.origin, ⟨1024, 768, by decide, by decide⟩⟩,
    .fullscreenRequested ⟨0, 1⟩ true none,
    .windowAdded ⟨11⟩ none none,
    .parentChanged ⟨1, 1⟩ (some ⟨0, 1⟩),
    .windowAdded ⟨12⟩ none (some ⟨2, 1⟩)]

theorem isSome_movingRun :
    ((Desktop.fresh .default).run (movingRun.map .event)).isSome := by decide +kernel

/-- The root has the size of the second output, and the child one of its own. -/
theorem clients_exact_movingRun : ∃ d,
    (Desktop.fresh .default).run (movingRun.map .event) = some d ∧
    d.host.createdSurfaces = [⟨10⟩, ⟨11⟩, ⟨12⟩] ∧
    (d.shell.windows.toList.map fun (w, r) => (w, r.placement, d.host.sizes.get? r.surface)) =
      [(⟨0, 1⟩, .fullscreen, some ⟨1024, 768, by decide, by decide⟩),
        (⟨1, 1⟩, .normal, some .zero), (⟨2, 1⟩, .normal, none)] ∧
    d.ClientsExact .default (movingRun.map .event) := by
  have hrun := (Option.some_get isSome_movingRun).symm
  have hnodup : (((Desktop.fresh .default).run (movingRun.map .event)).get
      isSome_movingRun).host.createdSurfaces.Nodup := by decide +kernel
  exact ⟨_, hrun, by decide +kernel, by decide +kernel,
    Desktop.clients_exact (by simp) hrun hnodup⟩

theorem isSome_default_loopRun :
    ((Desktop.fresh .default).run (loopRun.map .event)).isSome := by decide +kernel

/-- The client of the window that is announced below itself was told no size. -/
theorem not_told : ¬ ∀ config d, Dispatched config d → d.host.createdSurfaces.Nodup →
    ∀ w r, d.shell.windows.get? w = some r → r.placement = .normal →
      d.host.sizes.get? r.surface = some .zero := by
  intro htold
  have hdispatched : Dispatched .default _ :=
    .run loopRun .fresh (Option.some_get isSome_default_loopRun).symm
  have hzero := htold .default _ hdispatched (by decide +kernel) ⟨0, 1⟩ _
    (Option.some_get (by decide +kernel)).symm (by decide +kernel)
  exact absurd hzero (by decide +kernel)

end Kiosk
