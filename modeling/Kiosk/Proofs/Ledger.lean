import Kiosk.Proofs.History
import Kiosk.Proofs.Mirror
import Kiosk.Proofs.Rosters

/-!
# The ledger of views

On every reachable desktop the commands the host was given are in order, and the
views it holds are those that records own: the views of the windows and the
backgrounds of the outputs, each once.

The roll of live views is right whatever surfaces windows are made for
(`Scene.Rolled`). What the log says of a window in use (`Scene.Enrolled`), and with
it that the next command is in order, takes that no surface is asked for twice.
-/

namespace Kiosk

open Function (update update_self update_of_ne update_apply update_eq_self_iff)
open Command

/-! ## Rolls -/

/-- The list holds the values of `f`, each once. -/
structure Rolls {κ α : Type} (f : κ → Option α) (l : List α) : Prop where
  nodup : l.Nodup
  mem : ∀ a, a ∈ l ↔ ∃ k, f k = some a

namespace Rolls

variable {κ α : Type} [DecidableEq κ] {f : κ → Option α} {l : List α} {k : κ} {a : α}

omit [DecidableEq κ] in
theorem of_eq {g : κ → Option α} (hg : g = f) (h : Rolls f l) : Rolls g l := hg ▸ h

theorem insert (h : Rolls f l) (hk : f k = none) (ha : ∀ j, f j ≠ some a) :
    Rolls (update f k (some a)) (l ++ [a]) := by
  have hnot : a ∉ l := fun hm => by
    obtain ⟨j, hj⟩ := (h.mem a).1 hm
    exact ha j hj
  refine ⟨List.nodup_append.2 ⟨h.nodup, List.nodup_singleton a, fun x hx y hy hxy => hnot ?_⟩,
    fun x => ?_⟩
  · rw [← List.mem_singleton.1 hy, ← hxy]
    exact hx
  · rw [List.mem_append, List.mem_singleton, h.mem]
    constructor
    · rintro (⟨j, hj⟩ | rfl)
      · refine ⟨j, (update_of_ne ?_ _ _).trans hj⟩
        rintro rfl
        cases hk.symm.trans hj
      · exact ⟨k, update_self _ _ _⟩
    · rintro ⟨j, hj⟩
      rcases eq_some_of_update hj with ⟨-, hx⟩ | ⟨-, hj⟩
      · exact .inr (Option.some.inj hx).symm
      · exact .inl ⟨j, hj⟩

theorem erase [DecidableEq α] (h : Rolls f l) (hinj : ∀ i j b, f i = some b → f j = some b → i = j)
    (hk : f k = some a) : Rolls (update f k none) (l.filter (· ≠ a)) := by
  refine ⟨h.nodup.filter _, fun x => ?_⟩
  rw [List.mem_filter, h.mem]
  constructor
  · rintro ⟨⟨j, hj⟩, hx⟩
    refine ⟨j, (update_of_ne ?_ _ _).trans hj⟩
    rintro rfl
    simp [Option.some.inj (hj.symm.trans hk)] at hx
  · rintro ⟨j, hj⟩
    rcases eq_some_of_update hj with ⟨-, hx⟩ | ⟨hne, hj⟩
    · cases hx
    · refine ⟨⟨j, hj⟩, ?_⟩
      have hx : x ≠ a := by
        rintro rfl
        exact hne (hinj j k x hj hk)
      simpa using hx

end Rolls

namespace Scene

variable {s s' : Scene} {w x : WindowId} {o : OutputId} {r q : Pane} {b : Backdrop}
  {cs : List Command}

/-- The live outputs, as a map. -/
def output? (s : Scene) (o : OutputId) : Option OutputId := (s.backdrop o).map fun _ => o

/-- The host's live views are those that records own, and the list of outputs is complete. -/
structure Rolled (s : Scene) : Prop where
  views : Rolls s.views s.liveViews
  outputs : Rolls s.output? s.outputs

theorem views_update_pane {p : Option Pane} (hp : s'.pane = update s.pane w p)
    (hb : s'.backdrop = s.backdrop) :
    s'.views = update s.views (.window w) (p.map Pane.view) := by
  funext t
  rw [update_apply]
  cases t with
  | window x =>
    refine (viewOf_update hp x).trans ?_
    by_cases hx : x = w
    · rw [if_pos hx, if_pos (congrArg Target.window hx)]
    · rw [if_neg hx, if_neg (by simpa using hx)]
      rfl
  | output o =>
    show (s'.backdrop o).map _ = _
    rw [hb]
    rfl

theorem views_update_backdrop {p : Option Backdrop} (hp : s'.pane = s.pane)
    (hb : s'.backdrop = update s.backdrop o p) :
    s'.views = update s.views (.output o) (p.map Backdrop.view) := by
  funext t
  rw [update_apply]
  cases t with
  | window x =>
    show (s'.pane x).map _ = _
    rw [hp]
    rfl
  | output j =>
    show (s'.backdrop j).map _ = _
    rw [hb, update_apply]
    by_cases hj : j = o
    · rw [if_pos hj, if_pos (congrArg Target.output hj)]
    · rw [if_neg hj, if_neg (by simpa using hj)]
      rfl

theorem output?_eq (ho : s.backdrop o = some b) : s.output? o = some o :=
  congrArg (Option.map fun _ => o) ho

theorem output?_injective (i j k : OutputId) (hi : s.output? i = some k)
    (hj : s.output? j = some k) : i = j := by
  obtain ⟨-, -, rfl⟩ := Option.map_eq_some_iff.1 hi
  obtain ⟨-, -, hk⟩ := Option.map_eq_some_iff.1 hj
  exact hk.symm

theorem output?_update {p : Option Backdrop} (hb : s'.backdrop = update s.backdrop o p) :
    s'.output? = update s.output? o (p.map fun _ => o) := by
  funext j
  rw [update_apply, output?, hb, update_apply]
  split
  · next hj => rw [hj]
  · rfl

/-- A window that keeps its view. -/
theorem views_of_pane (hw : s.pane w = some r) (hp : s'.pane = update s.pane w (some q))
    (hv : q.view = r.view) (hb : s'.backdrop = s.backdrop) : s'.views = s.views := by
  rw [views_update_pane hp hb, update_eq_self_iff, views_window hw]
  exact congrArg some hv

/-- An output that keeps its background. -/
theorem views_of_backdrop {c : Backdrop} (ho : s.backdrop o = some b) (hp : s'.pane = s.pane)
    (hb : s'.backdrop = update s.backdrop o (some c)) (hv : c.view = b.view) :
    s'.views = s.views := by
  rw [views_update_backdrop hp hb, update_eq_self_iff, views_output ho]
  exact congrArg some hv

theorem output?_of_backdrop {c : Backdrop} (ho : s.backdrop o = some b)
    (hb : s'.backdrop = update s.backdrop o (some c)) : s'.output? = s.output? := by
  rw [output?_update hb, update_eq_self_iff, output?_eq ho]
  rfl

theorem Step.rolled (hd : Distinct s) (h : Rolled s) (hs : Step s s') : Rolled s' := by
  cases hs with
  | advise hadvised =>
    obtain ⟨cs, rfl, -⟩ := hadvised
    exact ⟨h.views, h.outputs⟩
  | refuse surface => exact ⟨h.views, h.outputs⟩
  | @create w surface hw =>
    refine ⟨.of_eq (views_update_pane (s := s) rfl rfl) ?_, h.outputs⟩
    exact h.views.insert (congrArg (Option.map Pane.view) hw) fun t ht => hd.ne_next ht rfl
  | @destroy w r hw cs hcs =>
    refine ⟨.of_eq (views_update_pane (s := s) rfl rfl) ?_, h.outputs⟩
    exact h.views.erase hd.owned (views_window hw)
  | @move w r hw at_ =>
    refine ⟨.of_eq (views_of_pane (s := s) (q := { r with position := at_ }) hw rfl rfl rfl) ?_,
      h.outputs⟩
    exact h.views
  | @map w r hw hm hp =>
    refine ⟨.of_eq (views_of_pane (s := s) (q := { r with mapped := true }) hw rfl rfl rfl) ?_,
      h.outputs⟩
    exact h.views
  | raise hw hm => exact ⟨h.views, h.outputs⟩
  | @addOutput o ho handle area =>
    refine ⟨.of_eq (views_update_backdrop (s := s) rfl rfl) ?_, .of_eq (output?_update rfl) ?_⟩
    · exact h.views.insert (congrArg (Option.map Backdrop.view) ho) fun t ht => hd.ne_next ht rfl
    · refine h.outputs.insert (congrArg (Option.map _) ho) fun j hj => ?_
      obtain ⟨b, hb, rfl⟩ := Option.map_eq_some_iff.1 hj
      cases ho.symm.trans hb
  | @removeOutput o b ho =>
    refine ⟨.of_eq (views_update_backdrop (s := s) rfl rfl) ?_, .of_eq (output?_update rfl) ?_⟩
    · exact h.views.erase hd.owned (views_output ho)
    · exact h.outputs.erase output?_injective (output?_eq ho)
  | @renewOutput o b ho handle area =>
    refine ⟨.of_eq (views_update_backdrop (s := s) rfl rfl) ?_, .of_eq (output?_of_backdrop ho rfl)
      h.outputs⟩
    · have hne : s.nextView ≠ b.view := (hd.ne_next (views_output ho)).symm
      have hrenewed := (h.views.erase hd.owned (views_output ho)).insert (a := s.nextView)
        (update_self _ _ _) fun t ht => by
          rcases eq_some_of_update ht with ⟨-, hn⟩ | ⟨-, ht⟩
          · cases hn
          · exact hd.ne_next ht rfl
      rw [Function.update_idem] at hrenewed
      show Rolls _ ((s.liveViews ++ [s.nextView]).filter (· ≠ b.view))
      rw [List.filter_append]
      simpa [hne] using hrenewed
  | @shiftOutput o b ho at_ =>
    exact ⟨.of_eq (views_of_backdrop (c := { b with loc := at_ }) ho rfl rfl rfl) h.views,
      .of_eq (output?_of_backdrop ho rfl) h.outputs⟩

/-! ## What the log says -/

/-- A surface that is asked for once was not asked for before. -/
theorem not_mem_requested {log : List Command} {surface : SurfaceHandle}
    (hn : ((log ++ cs).filterMap requested?).Nodup) (hs : surface ∈ cs.filterMap requested?) :
    surface ∉ log.filterMap requested? := by
  rw [List.filterMap_append] at hn
  exact fun hm => (List.nodup_append.1 hn).2.2 surface hm surface hs rfl

/-- What the log and the host say of a window in use. -/
structure Enrolled (s : Scene) (w : WindowId) (r : Pane) : Prop where
  made : .createView r.surface r.view ∈ s.log
  kept : .destroyView r.view ∉ s.log
  mapped : r.mapped = true ↔ .mapView r.view ∈ s.log
  attached : .setUserData r.surface false ∉ s.log
  userData : s.userData r.surface = some w

/-- The log is in order, and right about what is in use. -/
structure Logged (s : Scene) : Prop where
  inOrder : InOrder s.log
  numbered : ∀ c ∈ s.log, ∀ v, c.view? = some v → v.number ≤ s.lastView
  requested : ∀ surface b, .setUserData surface b ∈ s.log → surface ∈ s.log.filterMap requested?
  pane : ∀ w r, s.pane w = some r → s.Enrolled w r
  backdrop : ∀ o b, s.backdrop o = some b →
    (∃ c ∈ s.log, c.makes b.view) ∧ .destroyView b.view ∉ s.log

namespace Enrolled

theorem exists_makes (h : s.Enrolled w r) : ∃ c ∈ s.log, c.makes r.view :=
  ⟨_, h.made, by simp [makes]⟩

/-- The log goes on, and says nothing of the window. -/
theorem grow (h : s.Enrolled w r) (hlog : s'.log = s.log ++ cs) (hsurface : q.surface = r.surface)
    (hview : q.view = r.view) (hmapped : q.mapped = r.mapped) (hd : .destroyView r.view ∉ cs)
    (hm : .mapView r.view ∉ cs) (hs : .setUserData r.surface false ∉ cs)
    (hu : s'.userData r.surface = some w) : s'.Enrolled w q := by
  refine ⟨?_, ?_, ?_, ?_, hsurface ▸ hu⟩
  · rw [hlog, hsurface, hview]
    exact List.mem_append_left _ h.made
  · rw [hlog, hview]
    exact fun hc => (List.mem_append.1 hc).elim h.kept hd
  · rw [hlog, hview, hmapped, List.mem_append]
    exact h.mapped.trans (or_iff_left hm).symm
  · rw [hlog, hsurface]
    exact fun hc => (List.mem_append.1 hc).elim h.attached hs

end Enrolled

namespace Logged

/-- The log goes on. -/
theorem grow (h : Logged s) (hlog : s'.log = s.log ++ cs) (hlast : s.lastView ≤ s'.lastView)
    (horder : InOrder (s.log ++ cs))
    (hnum : ∀ c ∈ cs, ∀ v, c.view? = some v → v.number ≤ s'.lastView)
    (hreq : ∀ surface b, .setUserData surface b ∈ cs →
      surface ∈ (s.log ++ cs).filterMap requested?)
    (hpane : ∀ w r, s'.pane w = some r → s'.Enrolled w r)
    (hback : ∀ o b, s'.backdrop o = some b →
      (∃ c ∈ s.log ++ cs, c.makes b.view) ∧ .destroyView b.view ∉ s.log ++ cs) : Logged s' := by
  refine ⟨hlog ▸ horder, fun c hc v hv => ?_, fun surface b hb => ?_, hpane, hlog ▸ hback⟩
  · rw [hlog] at hc
    rcases List.mem_append.1 hc with hc | hc
    · exact Nat.le_trans (h.numbered c hc v hv) hlast
    · exact hnum c hc v hv
  · rw [hlog] at hb ⊢
    rcases List.mem_append.1 hb with hb | hb
    · rw [List.filterMap_append]
      exact List.mem_append_left _ (h.requested surface b hb)
    · exact hreq surface b hb

/-- Backgrounds stay what they are as long as they are not released. -/
theorem backdrop_grow (h : Logged s) (ho : s.backdrop o = some b)
    (hd : .destroyView b.view ∉ cs) :
    (∃ c ∈ s.log ++ cs, c.makes b.view) ∧ .destroyView b.view ∉ s.log ++ cs := by
  obtain ⟨⟨c, hc, hm⟩, hkept⟩ := h.backdrop o b ho
  exact ⟨⟨c, List.mem_append_left _ hc, hm⟩, fun hb => (List.mem_append.1 hb).elim hkept hd⟩

/-- Other windows show other surfaces. -/
theorem surface_ne (h : Logged s) (hw : s.pane w = some r) (hx : s.pane x = some q)
    (hne : x ≠ w) : q.surface ≠ r.surface := by
  intro hsame
  have huser := (h.pane x q hx).userData
  rw [hsame, (h.pane w r hw).userData] at huser
  exact hne (Option.some.inj huser).symm

/-- Windows stay what they are as long as the log says nothing of them. -/
theorem pane_grow (h : Logged s) (hw : s.pane w = some r) (hlog : s'.log = s.log ++ cs)
    (hd : .destroyView r.view ∉ cs) (hm : .mapView r.view ∉ cs)
    (hs : .setUserData r.surface false ∉ cs)
    (hu : s'.userData r.surface = s.userData r.surface) : s'.Enrolled w r :=
  (h.pane w r hw).grow hlog rfl rfl rfl hd hm hs (hu.trans (h.pane w r hw).userData)

/-- Nothing was said of the next view. -/
theorem view?_ne_next (h : Logged s) (c : Command) (hc : c ∈ s.log) :
    c.view? ≠ some s.nextView :=
  fun hv => absurd (h.numbered c hc _ hv) (Nat.not_succ_le_self _)

/-- The surfaces of windows in use were asked for. -/
theorem mem_requested (h : Logged s) (hw : s.pane w = some r) :
    r.surface ∈ s.log.filterMap requested? :=
  List.mem_filterMap.2 ⟨_, (h.pane w r hw).made, rfl⟩

/-! ### One step -/

theorem advise (h : Logged s) (hcs : ∀ c ∈ cs, c.Advises s.Bears) :
    Logged { s with log := s.log ++ cs } := by
  have hnot {c : Command} (hc : c.isAdvice = false) : c ∉ cs := fun hm => by
    cases (hcs c hm).1.symm.trans hc
  have horder : InOrder (s.log ++ cs) := h.inOrder.append_advice hcs fun surface hs => by
    obtain ⟨w, hw⟩ := hs
    obtain ⟨r, hr, rfl⟩ := Option.map_eq_some_iff.1 hw
    exact (h.pane w r hr).attached
  refine h.grow rfl (Nat.le_refl _) horder (fun c hc v hv => ?_)
    (fun surface b hb => absurd hb (hnot rfl))
    (fun w r hw => h.pane_grow hw rfl (hnot rfl) (hnot rfl) (hnot rfl) rfl)
    fun o b ho => h.backdrop_grow ho (hnot rfl)
  have hadvice := (hcs c hc).1
  cases c <;> cases hadvice <;> cases hv

theorem refuse {surface : SurfaceHandle} (h : Logged s)
    (hn : ((s.refuse surface).log.filterMap requested?).Nodup) : Logged (s.refuse surface) := by
  have hnew : surface ∉ s.log.filterMap requested? := not_mem_requested hn (by simp [requested?])
  have hfree : .setUserData surface false ∉ s.log := fun hm => hnew (h.requested _ _ hm)
  exact h.grow rfl (Nat.le_refl _) (h.inOrder.concat (follows_postNoMemory hfree))
    (by simp [view?]) (by simp)
    (fun w r hw => h.pane_grow hw rfl (by simp) (by simp) (by simp) rfl)
    fun o b ho => h.backdrop_grow ho (by simp)

theorem create {surface : SurfaceHandle} (h : Logged s) (hw : s.pane w = none)
    (hn : ((s.create w surface).log.filterMap requested?).Nodup) :
    Logged (s.create w surface) := by
  have hnew : surface ∉ s.log.filterMap requested? := not_mem_requested hn (by simp [requested?])
  have hfree : .setUserData surface false ∉ s.log := fun hm => hnew (h.requested _ _ hm)
  have hnext {c : Command} (hc : c.view? = some s.nextView) : c ∉ s.log :=
    fun hm => h.view?_ne_next c hm hc
  have hmade := h.inOrder.concat (follows_createView h.view?_ne_next hfree)
  have horder := hmade.concat (follows_setUserData (by simpa using hfree) true)
  rw [List.append_assoc] at horder
  refine h.grow rfl (Nat.le_succ _) horder (by simp [view?, nextView, Scene.create])
    (by simp [requested?]) (fun x q hx => ?_) fun o b ho => h.backdrop_grow ho (by simp)
  rcases eq_some_of_update hx with ⟨rfl, hq⟩ | ⟨-, hq⟩
  · cases hq
    exact ⟨by simp [Scene.create], by simpa [Scene.create] using hnext rfl,
      by simpa [Scene.create] using hnext rfl, by simpa [Scene.create] using hfree,
      update_self _ _ _⟩
  · have hne : q.surface ≠ surface := fun hsame =>
      hnew (hsame ▸ h.mem_requested hq)
    exact h.pane_grow hq rfl (by simp) (by simp) (by simp) (update_of_ne hne _ _)

theorem destroy (h : Logged s) (hd : Distinct s) (hw : s.pane w = some r)
    (hcs : ∀ c ∈ cs, c.Advises ({ s with pane := update s.pane w none } : Scene).Bears) :
    Logged (s.destroy w r cs) := by
  have hr := h.pane w r hw
  have hnot {c : Command} (hc : c.isAdvice = false) : c ∉ cs := fun hm => by
    cases (hcs c hm).1.symm.trans hc
  have hcut := h.inOrder.concat (follows_setUserData hr.attached false)
  have hadvised := hcut.append_advice hcs fun surface hs => by
    obtain ⟨x, hx⟩ := hs
    obtain ⟨q, hq, rfl⟩ := Option.map_eq_some_iff.1 hx
    rcases eq_some_of_update hq with ⟨-, hn⟩ | ⟨hne, hq⟩
    · cases hn
    · simpa [h.surface_ne hw hq hne] using (h.pane x q hq).attached
  have horder := hadvised.concat (follows_destroyView (v := r.view)
    (exists_makes_append (exists_makes_append hr.exists_makes))
    (by simp [hr.kept, hnot (c := .destroyView r.view) rfl]))
  have hlog : s.log ++ (.setUserData r.surface false :: cs ++ [.destroyView r.view]) =
      s.log ++ [.setUserData r.surface false] ++ cs ++ [.destroyView r.view] := by simp
  have hnamed {c : Command} (hc : c ∈ .setUserData r.surface false :: cs ++ [.destroyView r.view]) :
      c = .setUserData r.surface false ∨ c.isAdvice ∨ c = .destroyView r.view := by
    rcases List.mem_append.1 hc with hc | hc
    · exact (List.mem_cons.1 hc).imp_right fun hc => .inl (hcs c hc).1
    · exact .inr (.inr (List.mem_singleton.1 hc))
  refine h.grow rfl (Nat.le_refl _) (hlog ▸ horder) (fun c hc v hv => ?_) (fun surface b hb => ?_)
    (fun x q hx => ?_) fun o b ho => h.backdrop_grow ho fun hb => ?_
  · rcases hnamed hc with rfl | hadvice | rfl
    · cases hv
    · cases c <;> cases hadvice <;> cases hv
    · cases hv
      exact hd.numbered _ _ (views_window hw)
  · rcases hnamed hb with hb | hadvice | hb
    · cases hb
      rw [List.filterMap_append]
      exact List.mem_append_left _ (h.mem_requested hw)
    · cases hadvice
    · cases hb
  · rcases eq_some_of_update hx with ⟨-, hn⟩ | ⟨hne, hq⟩
    · cases hn
    · have hsurface := h.surface_ne hw hq hne
      have hview := hd.view_ne hw hq hne
      refine h.pane_grow hq rfl (fun hm => ?_) (fun hm => ?_) (fun hm => ?_)
        (update_of_ne hsurface _ _)
      · rcases hnamed hm with hm | hadvice | hm
        · cases hm
        · cases hadvice
        · exact hview (Command.destroyView.inj hm)
      · rcases hnamed hm with hm | hadvice | hm
        · cases hm
        · cases hadvice
        · cases hm
      · rcases hnamed hm with hm | hadvice | hm
        · exact hsurface (Command.setUserData.inj hm).1
        · cases hadvice
        · cases hm
  · rcases hnamed hb with hb | hadvice | hb
    · cases hb
    · cases hadvice
    · exact hd.apart hw ho (Command.destroyView.inj hb)

theorem move (h : Logged s) (hd : Distinct s) (hw : s.pane w = some r) (at_ : Point) :
    Logged (s.move w r at_) := by
  have hr := h.pane w r hw
  refine h.grow rfl (Nat.le_refl _)
    (h.inOrder.concat (follows_setViewPosition hr.exists_makes hr.kept at_)) ?_ (by simp)
    (fun x q hx => ?_) fun o b ho => h.backdrop_grow ho (by simp)
  · simpa [view?, Scene.move] using hd.numbered _ _ (views_window hw)
  · rcases eq_some_of_update hx with ⟨rfl, hq⟩ | ⟨-, hq⟩
    · cases hq
      exact hr.grow rfl rfl rfl rfl (by simp) (by simp) (by simp) hr.userData
    · exact h.pane_grow hq rfl (by simp) (by simp) (by simp) rfl

theorem map (h : Logged s) (hd : Distinct s) (hw : s.pane w = some r) (hm : r.mapped = false) :
    Logged (s.map w r) := by
  have hr := h.pane w r hw
  have hnot : .mapView r.view ∉ s.log := fun hmem => by
    cases hm.symm.trans (hr.mapped.2 hmem)
  refine h.grow rfl (Nat.le_refl _) (h.inOrder.concat (follows_mapView hr.made hr.kept hnot))
    ?_ (by simp) (fun x q hx => ?_) fun o b ho => h.backdrop_grow ho (by simp)
  · simpa [view?, Scene.map] using hd.numbered _ _ (views_window hw)
  · rcases eq_some_of_update hx with ⟨rfl, hq⟩ | ⟨hne, hq⟩
    · cases hq
      exact ⟨List.mem_append_left _ hr.made, by simpa [Scene.map] using hr.kept,
        by simp [Scene.map], by simpa [Scene.map] using hr.attached, hr.userData⟩
    · exact h.pane_grow hq rfl (by simp) (by simpa using hd.view_ne hw hq hne) (by simp) rfl

theorem raise (h : Logged s) (hd : Distinct s) (hw : s.pane w = some r) (hm : r.mapped = true) :
    Logged (s.raise w r) := by
  have hr := h.pane w r hw
  refine h.grow rfl (Nat.le_refl _)
    (h.inOrder.concat (follows_raiseView hr.exists_makes hr.kept (hr.mapped.1 hm))) ?_ (by simp)
    (fun x q hx => h.pane_grow hx rfl (by simp) (by simp) (by simp) rfl)
    fun o b ho => h.backdrop_grow ho (by simp)
  simpa [view?, Scene.raise] using hd.numbered _ _ (views_window hw)

theorem addOutput (h : Logged s) (handle : OutputHandle) (area : Rect) :
    Logged (s.addOutput o handle area) := by
  have horder := h.inOrder.concat (follows_createBackground h.view?_ne_next handle area)
  refine h.grow rfl (Nat.le_succ _) horder (by simp [view?, nextView, Scene.addOutput]) (by simp)
    (fun w r hw => h.pane_grow hw rfl (by simp) (by simp) (by simp) rfl) fun j c hj => ?_
  rcases eq_some_of_update hj with ⟨-, hc⟩ | ⟨-, hj⟩
  · cases hc
    have hkept : .destroyView s.nextView ∉ s.log := fun hm => h.view?_ne_next _ hm rfl
    exact ⟨⟨_, List.mem_append_right _ List.mem_cons_self, by simp [makes]⟩, by simpa using hkept⟩
  · exact h.backdrop_grow hj (by simp)

theorem removeOutput (h : Logged s) (hd : Distinct s) (ho : s.backdrop o = some b) :
    Logged (s.removeOutput o b) := by
  obtain ⟨hmade, hkept⟩ := h.backdrop o b ho
  refine h.grow rfl (Nat.le_refl _) (h.inOrder.concat (follows_destroyView hmade hkept)) ?_
    (by simp) (fun w r hw => h.pane_grow hw rfl ?_ (by simp) (by simp) rfl) fun j c hj => ?_
  · simpa [view?, Scene.removeOutput] using hd.numbered _ _ (views_output ho)
  · simpa using (hd.apart hw ho).symm
  · rcases eq_some_of_update hj with ⟨-, hc⟩ | ⟨hne, hj⟩
    · cases hc
    · exact h.backdrop_grow hj (by simpa using hd.backdrop_ne ho hj hne)

theorem renewOutput (h : Logged s) (hd : Distinct s) (ho : s.backdrop o = some b)
    (handle : OutputHandle) (area : Rect) : Logged (s.renewOutput o b handle area) := by
  obtain ⟨hmade, hkept⟩ := h.backdrop o b ho
  have hnext : s.nextView ≠ b.view := (hd.ne_next (views_output ho)).symm
  have hnew := h.inOrder.concat (follows_createBackground h.view?_ne_next handle area)
  have horder := hnew.concat (follows_destroyView (v := b.view) (exists_makes_append hmade)
    (by simpa using hkept))
  rw [List.append_assoc] at horder
  refine h.grow rfl (Nat.le_succ _) horder ?_ (by simp)
    (fun w r hw => h.pane_grow hw rfl ?_ (by simp) (by simp) rfl) fun j c hj => ?_
  · have hle := hd.numbered _ _ (views_output ho)
    simpa [view?, nextView, Scene.renewOutput] using Nat.le_succ_of_le hle
  · simpa using (hd.apart hw ho).symm
  · rcases eq_some_of_update hj with ⟨-, hc⟩ | ⟨hne, hj⟩
    · cases hc
      have hkept : .destroyView s.nextView ∉ s.log := fun hm => h.view?_ne_next _ hm rfl
      exact ⟨⟨_, List.mem_append_right _ List.mem_cons_self, by simp [makes]⟩,
        by simpa [hnext] using hkept⟩
    · exact h.backdrop_grow hj (by simpa using hd.backdrop_ne ho hj hne)

theorem shiftOutput (h : Logged s) (hd : Distinct s) (ho : s.backdrop o = some b) (at_ : Point) :
    Logged (s.shiftOutput o b at_) := by
  obtain ⟨hmade, hkept⟩ := h.backdrop o b ho
  refine h.grow rfl (Nat.le_refl _)
    (h.inOrder.concat (follows_setViewPosition hmade hkept at_)) ?_ (by simp)
    (fun w r hw => h.pane_grow hw rfl (by simp) (by simp) (by simp) rfl) fun j c hj => ?_
  · simpa [view?, Scene.shiftOutput] using hd.numbered _ _ (views_output ho)
  · rcases eq_some_of_update hj with ⟨rfl, hc⟩ | ⟨-, hj⟩
    · cases hc
      have hkeeps : .destroyView b.view ∉ [Command.setViewPosition b.view at_] := by simp
      have hgrown := h.backdrop_grow ho hkeeps
      exact hgrown
    · exact h.backdrop_grow hj (by simp)

end Logged

/-- What one step keeps, as long as no surface is asked for twice. -/
theorem Step.logged (hd : Distinct s) (h : Logged s) (hs : Step s s')
    (hn : (s'.log.filterMap requested?).Nodup) : Logged s' := by
  cases hs with
  | advise hadvised =>
    obtain ⟨cs, rfl, hcs⟩ := hadvised
    exact h.advise hcs
  | refuse surface => exact h.refuse hn
  | create surface hw => exact h.create hw hn
  | destroy hw hcs => exact h.destroy hd hw hcs
  | move hw at_ => exact h.move hd hw at_
  | map hw hm _ => exact h.map hd hw hm
  | raise hw hm => exact h.raise hd hw hm
  | addOutput _ handle area => exact h.addOutput handle area
  | removeOutput ho => exact h.removeOutput hd ho
  | renewOutput ho handle area => exact h.renewOutput hd ho handle area
  | shiftOutput ho at_ => exact h.shiftOutput hd ho at_

/-- The log only grows. -/
theorem Step.log (hs : Step s s') : ∃ cs, s'.log = s.log ++ cs := by
  cases hs with
  | advise hadvised =>
    obtain ⟨cs, rfl, -⟩ := hadvised
    exact ⟨cs, rfl⟩
  | refuse | create | destroy | move | map | raise | addOutput | removeOutput | renewOutput
  | shiftOutput => exact ⟨_, rfl⟩

end Scene

/-! ## The result -/

/-- The surfaces that windows were asked for, oldest first. Whoever asks is logged to have got a
view or to have got none. -/
def Host.requestedSurfaces (h : Host) : List SurfaceHandle := h.log.filterMap Command.requested?

variable {config : Config} {d : Desktop}

theorem Desktop.pane_fresh (config : Config) (w : WindowId) :
    (Desktop.fresh config).scene.pane w = none :=
  congrArg (Option.map Window.pane) (Arena.get?_empty w)

theorem Desktop.backdrop_fresh (config : Config) (o : OutputId) :
    (Desktop.fresh config).scene.backdrop o = none :=
  congrArg (Option.map Output.backdrop) (Roster.get?_empty o)

theorem Desktop.fresh_rolled (config : Config) : (Desktop.fresh config).scene.Rolled := by
  have hviews (t : Target) : (Desktop.fresh config).scene.views t = none := by
    cases t with
    | window w => exact congrArg (Option.map Pane.view) (pane_fresh config w)
    | output o => exact congrArg (Option.map Backdrop.view) (backdrop_fresh config o)
  have houtputs (o : OutputId) : (Desktop.fresh config).scene.output? o = none :=
    congrArg (Option.map fun _ => o) (backdrop_fresh config o)
  refine ⟨⟨List.nodup_nil, fun v => ?_⟩, ⟨List.nodup_nil, fun o => ?_⟩⟩
  · show v ∈ [] ↔ ∃ t, (Desktop.fresh config).scene.views t = some v
    simp [hviews]
  · show o ∈ [] ↔ ∃ k, (Desktop.fresh config).scene.output? k = some o
    simp [houtputs]

theorem Desktop.fresh_logged (config : Config) : (Desktop.fresh config).scene.Logged := by
  have hlog : (Desktop.fresh config).scene.log = [] := rfl
  refine ⟨hlog ▸ .nil, fun c hc => ?_, fun surface b hb => ?_, fun w r hw => ?_, fun o b ho => ?_⟩
  · cases hc
  · cases hb
  · cases (pane_fresh config w).symm.trans hw
  · cases (backdrop_fresh config o).symm.trans ho

theorem Reached.rolled (h : Reached config d) : d.scene.Rolled :=
  (h.of_moves (P := fun d => d.Viewed ∧ d.scene.Rolled)
    ⟨Desktop.fresh_viewed config, Desktop.fresh_rolled config⟩
    fun hd hm => ⟨hm.viewed hd.1, hm.scene.rolled hd.1.distinct hd.2⟩).2

theorem Reached.logged (h : Reached config d) (hn : d.host.requestedSurfaces.Nodup) :
    d.scene.Logged := by
  refine (h.of_moves (P := fun d => d.Viewed ∧ (d.host.requestedSurfaces.Nodup → d.scene.Logged))
    ⟨Desktop.fresh_viewed config, fun _ => Desktop.fresh_logged config⟩
    fun {d d'} hd hm => ⟨hm.viewed hd.1, fun hn => ?_⟩).2 hn
  obtain ⟨cs, hlog⟩ := hm.scene.log
  have hbefore : d.host.requestedSurfaces.Nodup := by
    rw [Host.requestedSurfaces, show d'.host.log = d.host.log ++ cs from hlog,
      List.filterMap_append] at hn
    exact (List.nodup_append.1 hn).1
  exact hm.scene.logged hd.1.distinct (hd.2 hbefore) hn

/-- The order of outputs lists what is live. -/
theorem Reached.outputs_ordered (h : Reached config d) : d.shell.outputs.Ordered := by
  have hr := h.rolled.outputs
  refine ⟨hr.nodup, fun o => (hr.mem o).trans ?_⟩
  show (∃ k, ((d.shell.outputs.get? k).map Output.backdrop).map (fun _ => k) = some o) ↔
    (d.shell.outputs.get? o).isSome
  constructor
  · rintro ⟨k, hk⟩
    obtain ⟨b, hb, rfl⟩ := Option.map_eq_some_iff.1 hk
    obtain ⟨output, ho, -⟩ := Option.map_eq_some_iff.1 hb
    exact Option.isSome_iff_exists.2 ⟨output, ho⟩
  · intro ho
    obtain ⟨output, ho⟩ := Option.isSome_iff_exists.1 ho
    exact ⟨o, by rw [ho]; rfl⟩

/-- The views of the windows and the backgrounds of the outputs. -/
def Shell.ownedViews (s : Shell) : List ViewHandle :=
  s.windows.toList.map (·.2.view) ++ s.outputs.toList.map (·.2.background)

theorem Shell.length_ownedViews {s : Shell} (h : s.outputs.Ordered) :
    s.ownedViews.length = s.windows.size + s.outputs.size := by
  have houtputs := congrArg List.length h.map_fst_toList
  rw [List.length_map] at houtputs
  rw [ownedViews, List.length_append, List.length_map, List.length_map, houtputs]
  rfl

theorem Shell.mem_ownedViews {s : Shell} (h : s.outputs.Ordered) {v : ViewHandle} :
    v ∈ s.ownedViews ↔ ∃ t, s.viewOf t = some v := by
  rw [ownedViews, List.mem_append, List.mem_map, List.mem_map]
  constructor
  · rintro (⟨⟨w, r⟩, hw, rfl⟩ | ⟨⟨o, output⟩, ho, rfl⟩)
    · exact ⟨.window w, congrArg (Option.map Window.view) (Arena.mem_toList.1 hw)⟩
    · exact ⟨.output o, congrArg (Option.map Output.background) (h.mem_toList.1 ho)⟩
  · rintro ⟨t, ht⟩
    cases t with
    | window w =>
      obtain ⟨r, hw, rfl⟩ := Option.map_eq_some_iff.1 ht
      exact .inl ⟨(w, r), Arena.mem_toList.2 hw, rfl⟩
    | output o =>
      obtain ⟨output, ho, rfl⟩ := Option.map_eq_some_iff.1 ht
      exact .inr ⟨(o, output), h.mem_toList.2 ho, rfl⟩

theorem Desktop.Viewed.nodup_ownedViews (hv : d.Viewed) (h : d.shell.outputs.Ordered) :
    d.shell.ownedViews.Nodup := by
  have hwindow {w : WindowId} {r : Window} (hw : (w, r) ∈ d.shell.windows.toList) :
      d.shell.viewOf (.window w) = some r.view :=
    congrArg (Option.map Window.view) (Arena.mem_toList.1 hw)
  have houtput {o : OutputId} {output : Output} (ho : (o, output) ∈ d.shell.outputs.toList) :
      d.shell.viewOf (.output o) = some output.background :=
    congrArg (Option.map Output.background) (h.mem_toList.1 ho)
  refine List.nodup_append.2 ⟨.map_on ?_ (.of_map Prod.fst d.shell.windows.nodup_ids),
    .map_on ?_ (.of_map Prod.fst (h.map_fst_toList ▸ h.nodup)), ?_⟩
  · rintro ⟨w, r⟩ hw ⟨x, q⟩ hx hview
    obtain rfl := Target.window.inj (hv.owned _ _ _ (hwindow hw) (hview ▸ hwindow hx))
    exact congrArg (Prod.mk w) (Option.some.inj
      ((Arena.mem_toList.1 hw).symm.trans (Arena.mem_toList.1 hx)))
  · rintro ⟨o, output⟩ ho ⟨j, output'⟩ hj hview
    obtain rfl := Target.output.inj (hv.owned _ _ _ (houtput ho) (hview ▸ houtput hj))
    exact congrArg (Prod.mk o) (Option.some.inj
      ((h.mem_toList.1 ho).symm.trans (h.mem_toList.1 hj)))
  · rintro _ hmw _ hmo rfl
    obtain ⟨⟨w, r⟩, hw, rfl⟩ := List.mem_map.1 hmw
    obtain ⟨⟨o, output⟩, ho, hview⟩ := List.mem_map.1 hmo
    cases hv.owned _ _ _ (hwindow hw) (hview ▸ houtput ho)

/-- The host was told of each view and surface in order, and holds the views that records own. -/
structure Desktop.HistoryExact (d : Desktop) : Prop where
  inOrder : InOrder d.host.log
  made : ∀ c ∈ d.host.log, ∀ v, c.view? = some v → d.host.log.countP (makes v) = 1
  released : ∀ v, d.host.log.count (.destroyView v) ≤ 1
  mapped : ∀ v, d.host.log.count (.mapView v) ≤ 1
  nodup : d.host.liveViews.Nodup
  perm : d.host.liveViews.Perm d.shell.ownedViews
  length : d.host.liveViews.length = d.shell.windows.size + d.shell.outputs.size
  userData : ∀ w r, d.shell.windows.get? w = some r → d.host.userData.get? r.surface = some w

/-- As long as no two windows were asked for with one surface. -/
theorem Reached.history_exact (h : Reached config d) (hn : d.host.requestedSurfaces.Nodup) :
    d.HistoryExact := by
  have hlogged := h.logged hn
  have horder : InOrder d.host.log := hlogged.inOrder
  have hrolled := h.rolled.views
  have houtputs := h.outputs_ordered
  have hperm : d.host.liveViews.Perm d.shell.ownedViews := by
    refine (List.perm_ext_iff_of_nodup hrolled.nodup (h.viewed.nodup_ownedViews houtputs)).2
      fun v => ?_
    rw [Shell.mem_ownedViews houtputs, ← d.views_scene]
    exact hrolled.mem v
  exact ⟨horder, fun c hc v hv => horder.countP_makes hc hv, horder.count_destroyView_le_one,
    horder.count_mapView_le_one, hrolled.nodup, hperm,
    hperm.length_eq.trans (Shell.length_ownedViews houtputs),
    fun w r hw => (hlogged.pane w r.pane (Desktop.pane_eq_some hw)).userData⟩

/-- After the windows of a family were mapped, another window gets no view, the root of the family
goes away, and the output gets a new size and with it a new background. -/
def lossRun : List Action := stackRun ++
  [.switch (.failNextView true), .event (.windowAdded ⟨13⟩ none none),
    .event (.windowRemoved ⟨0, 1⟩),
    .event (.outputResized ⟨0, 1⟩ ⟨.origin, ⟨1280, 720, by decide, by decide⟩⟩)]

theorem isSome_lossRun : ((Desktop.fresh .default).run lossRun).isSome := by decide +kernel

/-- The views left are those of the two children and the new background. -/
theorem history_exact_lossRun : ∃ d, Reached .default d ∧
    d.host.requestedSurfaces = [⟨10⟩, ⟨11⟩, ⟨12⟩, ⟨13⟩] ∧
    d.host.liveViews = [⟨3⟩, ⟨4⟩, ⟨5⟩] ∧ d.HistoryExact := by
  have hreached : Reached .default _ := Reached.run _ .fresh (Option.some_get isSome_lossRun).symm
  have hnodup : (((Desktop.fresh .default).run lossRun).get
      isSome_lossRun).host.requestedSurfaces.Nodup := by decide +kernel
  exact ⟨_, hreached, by decide +kernel, by decide +kernel,
    Reached.history_exact hreached hnodup⟩

end Kiosk
