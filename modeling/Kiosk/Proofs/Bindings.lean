import Kiosk.Proofs.Registry
import Kiosk.Proofs.Removal

/-!
# Windows and their outputs

A window stays on its output until an event that is about it, or about its output,
takes it off (`Event.Unbinds`), and a window that is on no output gets one only when
it is placed (`Event.Binds`). `Reached.bindings_kept` says so of all events and all
windows.

The calls that place a window place no other, and leave a window on its output
where there is no reason to move it (`Shell.Placed`).
-/

namespace Kiosk

open Relation (ReflTransGen)
open Function (update update_self update_of_ne)

variable {config : Config} {d d' : Desktop} {s s' : Shell} {w p x : WindowId} {o : OutputId}
  {e : Event} {l : Listener} {r r' : Stance} {P : OutputId → Prop}

/-! ## Reasons -/

/-- The events that can take `w` off the output `o`. -/
inductive Event.Unbinds (s : Shell) (w : WindowId) (o : OutputId) : Event → Prop
  | outputRemoved : Unbinds s w o (.outputRemoved o)
  /-- The new parent is neither `w` nor below it. -/
  | parentChanged {p : WindowId} (hp : s.isLive p)
      (hup : ¬ ReflTransGen (Up (Windows.parentOf s.windows)) p w) :
      Unbinds s w o (.parentChanged w (some p))
  /-- A root asks for another output. -/
  | fullscreenRequested {fullscreen : Bool} {other : OutputId}
      (hroot : Windows.parentOf s.windows w = none) (ho : s.outputs.contains other)
      (hne : other ≠ o) (h : fullscreen ∨ s.config.enforceRootFullscreen) :
      Unbinds s w o (.fullscreenRequested w fullscreen (some other))
  /-- `w` moves up to the parent of its parent. -/
  | windowRemoved {p q : WindowId} (hp : Windows.parentOf s.windows w = some p)
      (hq : Windows.parentOf s.windows p = some q) : Unbinds s w o (.windowRemoved p)

/-- The events that can put `w` on an output when it is on none. -/
inductive Event.Binds (s : Shell) (w : WindowId) : Event → Prop
  | parentChanged (p : Option WindowId) : Binds s w (.parentChanged w p)
  | fullscreenRequested (fullscreen : Bool) (o : Option OutputId) :
      Binds s w (.fullscreenRequested w fullscreen o)
  | maximizeRequested (maximized : Bool) : Binds s w (.maximizeRequested w maximized)
  | windowRemoved {p : WindowId} (hp : Windows.parentOf s.windows w = some p) :
      Binds s w (.windowRemoved p)

/-- From `s` to `s'`, `e` is a reason for what became of the output of `w`. -/
structure Event.Explains (e : Event) (w : WindowId) (s s' : Shell) : Prop where
  bound : ∀ o, s.outputOf w = some o → s'.outputOf w = some o ∨ e.Unbinds s w o
  unbound : s.outputOf w = none → s'.outputOf w = none ∨ e.Binds s w
  removed : ∀ o, e = .outputRemoved o → s.outputOf w = some o → s'.outputOf w = none

theorem Event.Explains.of_eq (h : s'.outputOf w = s.outputOf w) (he : ∀ o, e ≠ .outputRemoved o) :
    e.Explains w s s' :=
  ⟨fun _ ho => .inl (h.trans ho), fun hn => .inl (h.trans hn), fun o hr => absurd hr (he o)⟩

theorem Shell.outputOf_congr (h : s'.stance w = s.stance w) : s'.outputOf w = s.outputOf w := by
  rw [outputOf_stance, h, outputOf_stance]

/-! ## Placing -/

/-- From `s` to `s'` no window but `w` was placed, and `w` went off its output only if that is
`P`. -/
structure Shell.Placed (P : OutputId → Prop) (w : WindowId) (s s' : Shell) : Prop where
  kept : ∀ o, s.outputOf w = some o → s'.outputOf w = some o ∨ P o
  others : ∀ x, x ≠ w → s'.stance x = s.stance x

namespace Shell.Placed

theorem refl (P : OutputId → Prop) (w : WindowId) (s : Shell) : Placed P w s s :=
  ⟨fun _ ho => .inl ho, fun _ _ => rfl⟩

theorem of_layout (hr : d.layout.stance w = some r) (h : d'.layout = d.layout.place w r r')
    (ho : ∀ o, r.output = some o → r'.output = some o ∨ P o) : Placed P w d.shell d'.shell := by
  have hstance : d'.shell.stance = update d.shell.stance w (some r') := congrArg Layout.stance h
  refine ⟨fun o hbound => ?_, fun x hx => by rw [hstance, update_of_ne hx]⟩
  have hbefore : d.shell.outputOf w = r.output :=
    (outputOf_stance _ w).trans (congrArg (·.bind Stance.output) hr)
  rw [outputOf_stance, hstance, update_self]
  exact ho o (hbefore.symm.trans hbound)

/-- The event that places `w` is the reason for it. -/
theorem explains (h : Placed (e.Unbinds s w) w s s') (hb : e.Binds s w) (x : WindowId) :
    e.Explains x s s' := by
  have he : ∀ o, e ≠ .outputRemoved o := by
    rintro o rfl
    cases hb
  rcases eq_or_ne x w with rfl | hx
  · exact ⟨h.kept, fun _ => .inr hb, fun o hr => absurd hr (he o)⟩
  · exact .of_eq (outputOf_congr (h.others x hx)) he

end Shell.Placed

/-- The best output of a window is the one it is on. -/
theorem Shell.bestOutput_of_bound (hr : s.stance w = some r) (ho : r.output = some o) :
    s.bestOutput w = some o := by
  obtain ⟨window, hwindow, rfl⟩ := stance_eq_some_iff.1 hr
  have hbound : window.output = some o := ho
  rw [bestOutput, hwindow]
  show OutputQuery.best _ _ = some o
  rw [OutputQuery.best, hbound, Option.some_or]

namespace Desktop

theorem setNormal_placed (P : OutputId → Prop) (d : Desktop) (w : WindowId) :
    Shell.Placed P w d.shell (d.setNormal w).shell := by
  cases hw : d.layout.stance w with
  | none =>
    rw [setNormal_of_not_live hw]
    exact .refl P w d.shell
  | some r => exact .of_layout hw (setNormal_layout hw) fun o ho => .inl (by simp [ho])

/-- A root goes to the output it is sent to, if that is there. -/
theorem setFullscreen_placed (h : d.shell.Sound) {output : Option OutputId}
    (hP : ∀ j, output = some j → d.shell.outputs.contains j →
      Windows.parentOf d.shell.windows w = none → ∀ o, j ≠ o → P o) :
    Shell.Placed P w d.shell (d.setFullscreen w output).shell := by
  cases hw : d.layout.stance w with
  | none =>
    rw [setFullscreen_of_not_live hw]
    exact .refl P w d.shell
  | some r =>
    by_cases hr : r.parent = none
    · refine .of_layout hw (setFullscreen_layout hw hr output) fun o ho => ?_
      have hthere := h.contains_output hw ho
      have hroot : Windows.parentOf d.shell.windows w = none :=
        ((d.shell.parentOf_stance w).trans (congrArg (·.bind Stance.parent) hw)).trans hr
      -- Without another output to go to, the best one is looked up, and that is its own.
      cases hj : output.filter d.shell.outputs.contains with
      | none => exact .inl (by simp [Shell.bestOutput_of_bound hw ho, hthere])
      | some j =>
        obtain ⟨hsent, hlive⟩ := Option.filter_eq_some_iff.1 hj
        rcases eq_or_ne j o with rfl | hne
        · exact .inl (by simp [hthere])
        · exact .inr (hP j hsent hlive hroot o hne)
    · rw [setFullscreen_of_child hw hr]
      exact setNormal_placed P d w

theorem setMaximized_placed (h : d.shell.Sound) (P : OutputId → Prop) (w : WindowId) :
    Shell.Placed P w d.shell (d.setMaximized w).shell := by
  cases hw : d.layout.stance w with
  | none =>
    rw [setMaximized_of_not_live hw]
    exact .refl P w d.shell
  | some r =>
    by_cases hr : r.parent = none
    · refine .of_layout hw (setMaximized_layout hw hr) fun o ho => .inl ?_
      simp [Shell.bestOutput_of_bound hw ho, h.contains_output hw ho]
    · rw [setMaximized_of_child hw hr]
      exact setNormal_placed P d w

/-- A window that becomes a child is placed anew. -/
theorem setParent_placed (h : d.shell.Sound) {parent : Option WindowId}
    (hP : ∀ p, parent = some p → d.shell.isLive p →
      ¬ ReflTransGen (Up (Windows.parentOf d.shell.windows)) p w → ∀ o, P o) :
    Shell.Placed P w d.shell (d.setParent w parent).shell := by
  refine setParent_cases (P := fun d' => Shell.Placed P w d.shell d'.shell) parent
    (.refl P w d.shell) (fun hlive => ?_) fun p hparent hlive hp hup => ?_
  · obtain ⟨r, hw⟩ := exists_stance hlive
    refine .of_layout hw (setParent_none_layout hw) fun o ho => .inl ?_
    simp [ho, h.contains_output hw ho]
  · obtain ⟨r, hw⟩ := exists_stance hlive
    obtain ⟨output, hplace⟩ := setParent_some_layout hw hp hup
    refine .of_layout hw hplace fun o _ => .inr (hP p hparent hp (fun hr => ?_) o)
    rw [Windows.isAncestorOrSelf_iff.2 hr] at hup
    cases hup

theorem fullscreenRequested_placed (h : d.shell.Sound) (w : WindowId) (fullscreen : Bool)
    (output : Option OutputId) :
    Shell.Placed ((Event.fullscreenRequested w fullscreen output).Unbinds d.shell w) w d.shell
      (d.fullscreenRequested w fullscreen output).shell := by
  unfold fullscreenRequested
  split
  · exact .refl _ w d.shell
  · split
    · exact setNormal_placed _ d w
    · split
      · next hfull =>
        refine setFullscreen_placed h fun j hj hlive hroot o hne => ?_
        subst hj
        exact .fullscreenRequested hroot hlive hne (by simpa using hfull)
      · split
        · exact setNormal_placed _ d w
        · exact .refl _ w d.shell

theorem maximizeRequested_placed (h : d.shell.Sound) (P : OutputId → Prop) (w : WindowId)
    (maximized : Bool) : Shell.Placed P w d.shell (d.maximizeRequested w maximized).shell := by
  unfold maximizeRequested
  split
  · exact .refl P w d.shell
  · split
    · exact setNormal_placed P d w
    · split
      · exact setFullscreen_placed h fun j hj => nomatch hj
      · split
        · exact setMaximized_placed h P w
        · split
          · exact setNormal_placed P d w
          · exact .refl P w d.shell

/-! ## Windows that come and go -/

/-- A window that appears is the only one that is placed. -/
theorem stance_windowAdded (h : d.shell.Sound) (surface : SurfaceHandle) (appId : Option String)
    (parent : Option WindowId) (hx : d.shell.isLive x) :
    (d.windowAdded surface appId parent).2.shell.stance x = d.shell.stance x := by
  rcases d.windowAdded_layout surface appId parent with
    ⟨-, hsame⟩ | ⟨w, d₁, hd₁, hw, he, -, hplaced⟩
  · exact congrFun (congrArg Layout.stance hsame) x
  have hsound : d₁.shell.Sound := hd₁ ▸ createWindow_sound h surface appId
  have hne : x ≠ w := by
    rintro rfl
    rw [not_live_of_stance hw] at hx
    cases hx
  have hmade : d₁.shell.stance x = d.shell.stance x := by
    have hstance := congrFun (congrArg Layout.stance he) x
    rwa [Layout.stance_create, if_neg hne] at hstance
  -- Only the new window is placed, wherever that is, so the reasons do not matter here.
  refine (congrFun (congrArg Layout.stance hplaced) x).trans (Eq.trans ?_ hmade)
  split
  · exact (setParent_placed (P := fun _ => True) hsound fun _ _ _ _ _ => trivial).others x hne
  · exact (setFullscreen_placed (P := fun _ => True) hsound fun _ _ _ _ _ _ => trivial).others x hne

/-- The children of a removed window move up, and all others stay. -/
theorem windowRemoved_explains (h : Reached config d) (w : WindowId)
    (hx : (d.windowRemoved w).shell.isLive x) :
    (Event.windowRemoved w).Explains x d.shell (d.windowRemoved w).shell := by
  cases hw : d.shell.isLive w with
  | false =>
    rw [windowRemoved, hw]
    exact .of_eq rfl (by simp)
  | true =>
    have hspliced := h.windowRemoved_spliced hw
    have hne : x ≠ w := by
      rintro rfl
      rw [hspliced.gone] at hx
      cases hx
    by_cases hp : Windows.parentOf d.shell.windows x = some w
    · obtain ⟨r, r', hr, hr', hpromoted⟩ := hspliced.promoted x hp
      refine ⟨fun o ho => ?_, fun _ => .inr (.windowRemoved hp), by simp⟩
      cases hq : Windows.parentOf d.shell.windows w with
      | none =>
        rw [Shell.outputOf_stance, hr] at ho
        rw [Shell.outputOf_stance, hr']
        exact .inl (hpromoted.output hq o ho)
      | some q => exact .inr (.windowRemoved hp hq)
    · exact .of_eq (Shell.outputOf_congr (hspliced.others x hne hp)) (by simp)

/-! ## Outputs -/

theorem stance_outputAdded (d : Desktop) (handle : OutputHandle) (name : String) (area : Rect) :
    (d.outputAdded handle name area).2.shell.stance = d.shell.stance := by
  unfold outputAdded
  split <;> rfl

theorem stance_reconfigure (d : Desktop) (w : WindowId) :
    (d.reconfigure w).2.shell.stance = d.shell.stance := by
  have hmove (d : Desktop) (p : Point) : (d.moveView w p).shell.stance = d.shell.stance :=
    congrArg Layout.stance (d.moveView_layout w p)
  unfold reconfigure
  split
  · rfl
  · split
    · rfl
    · dsimp only
      split
      · split <;> rfl
      · refine (hmove _ _).trans ?_
        split <;> rfl

/-- A fault stops the way through the windows, and leaves them standing, too. -/
theorem stance_reconfigureAll : ∀ (ws : List WindowId) (d : Desktop),
    (d.reconfigureAll ws).2.shell.stance = d.shell.stance
  | [], _ => rfl
  | w :: ws, d => by
    have hone := d.stance_reconfigure w
    rw [reconfigureAll]
    split
    · next he =>
      rw [he] at hone
      exact hone
    · next he =>
      rw [he] at hone
      exact (stance_reconfigureAll ws _).trans hone

theorem stance_outputResized (d : Desktop) (o : OutputId) (area : Rect) :
    (d.outputResized o area).2.shell.stance = d.shell.stance := by
  unfold outputResized
  split
  · rfl
  · next output ho =>
    refine (stance_reconfigureAll _ _).trans ?_
    exact congrArg Layout.stance ((renewBackground_layout _ o output area).trans
      (setArea_layout ho area))

/-- A window on another output does not notice. -/
theorem outputOf_outputGone (hx : s.outputOf x ≠ some o) (l : Listener) :
    (outputGone o s l).outputOf x = s.outputOf x := by
  cases l with
  | boundOutput w =>
    by_cases ho : s.outputOf w = some o
    · have hne : x ≠ w := by
        rintro rfl
        exact hx ho
      rw [outputGone, if_pos ho, Shell.outputOf, Shell.get?_modifyWindow, if_neg hne]
      rfl
    · rw [outputGone, if_neg ho]
  | parent | seatFocus | grab => rfl

theorem outputOf_foldl_outputGone : ∀ (ls : List Listener) {s : Shell}, s.outputOf x ≠ some o →
    (ls.foldl (outputGone o) s).outputOf x = s.outputOf x
  | [], _, _ => rfl
  | l :: ls, _, hx => by
    have hone := outputOf_outputGone hx l
    rw [List.foldl_cons, outputOf_foldl_outputGone ls (hone ▸ hx), hone]

theorem outputOf_outputRemoved (hx : d.shell.outputOf x ≠ some o) :
    (d.outputRemoved o).shell.outputOf x = d.shell.outputOf x := by
  unfold outputRemoved
  split
  · rfl
  · exact outputOf_foldl_outputGone _ hx

theorem outputOf_foldl_outputGone_or (o : OutputId) (ls : List Listener) (s : Shell)
    (x : WindowId) : (ls.foldl (outputGone o) s).outputOf x = s.outputOf x ∨
      (ls.foldl (outputGone o) s).outputOf x = none := by
  refine (stance_foldl_outputGone o ls s x).imp Shell.outputOf_congr fun hoff => ?_
  rw [Shell.outputOf_stance, hoff]
  cases s.stance x <;> rfl

theorem outputOf_outputRemoved_or (d : Desktop) (o : OutputId) (x : WindowId) :
    (d.outputRemoved o).shell.outputOf x = d.shell.outputOf x ∨
      (d.outputRemoved o).shell.outputOf x = none := by
  unfold outputRemoved
  split
  · exact .inl rfl
  · exact outputOf_foldl_outputGone_or o _ _ x

/-- A window on an output that is removed is on none then. -/
theorem outputOf_outputRemoved_self (h : d.shell.Sound) (hx : d.shell.outputOf x = some o) :
    (d.outputRemoved o).shell.outputOf x = none := by
  refine (d.outputOf_outputRemoved_or o x).resolve_left fun hsame => ?_
  rw [hx, Shell.outputOf_stance] at hsame
  obtain ⟨r, hr, hout⟩ := Option.bind_eq_some_iff.1 hsame
  have hthere := (outputRemoved_sound h o).contains_output hr hout
  exact ((d.contains_outputs_outputRemoved o o).1 hthere).2 rfl

theorem outputRemoved_explains (h : d.shell.Sound) (o : OutputId) (x : WindowId) :
    (Event.outputRemoved o).Explains x d.shell (d.outputRemoved o).shell := by
  refine ⟨fun j hj => ?_, fun hn => ?_, ?_⟩
  · rcases eq_or_ne j o with rfl | hne
    · exact .inr .outputRemoved
    · rw [outputOf_outputRemoved (by simpa [hj] using hne)]
      exact .inl hj
  · rw [outputOf_outputRemoved (by simp [hn])]
    exact .inl hn
  · rintro j ⟨⟩ hj
    exact outputOf_outputRemoved_self h hj

end Desktop

/-! ## Events -/

/-- Every change of the output a window is on has one of the reasons there are for it. -/
theorem Reached.bindings_kept (h : Reached config d) (e : Event) (hw : d.shell.isLive w)
    (hw' : (d.dispatch e).2.shell.isLive w) :
    e.Explains w d.shell (d.dispatch e).2.shell := by
  have of_layout {d' : Desktop} (he : ∀ o, e ≠ .outputRemoved o) (hl : d'.layout = d.layout) :
      e.Explains w d.shell d'.shell :=
    .of_eq (Shell.outputOf_congr (congrFun (congrArg Layout.stance hl) w)) he
  cases e with
  | windowAdded surface appId parent =>
    exact .of_eq (Shell.outputOf_congr (Desktop.stance_windowAdded h.sound surface appId parent hw))
      (by simp)
  | windowRemoved x => exact Desktop.windowRemoved_explains h x hw'
  | windowCommitted x commit => exact of_layout (by simp) (d.windowCommitted_layout x commit)
  | parentChanged x parent =>
    refine Shell.Placed.explains (Desktop.setParent_placed h.sound ?_) (.parentChanged parent) w
    rintro p rfl hp hup o
    exact .parentChanged hp hup
  | fullscreenRequested x fullscreen o =>
    exact Shell.Placed.explains (d.fullscreenRequested_placed h.sound x fullscreen o)
      (.fullscreenRequested fullscreen o) w
  | maximizeRequested x maximized =>
    exact Shell.Placed.explains (d.maximizeRequested_placed h.sound _ x maximized)
      (.maximizeRequested maximized) w
  | minimizeRequested x => exact of_layout (by simp) rfl
  | resizeRequested x => exact of_layout (by simp) rfl
  | moveRequested x seat request =>
    exact of_layout (by simp) (d.moveRequested_aside x seat request).layout
  | xwaylandPositionSet x at_ =>
    exact of_layout (by simp) (Desktop.modifyWindow_layout (fun _ => by rfl) d x)
  | appIdChanged x appId =>
    exact of_layout (by simp) (Desktop.modifyWindow_layout (fun _ => by rfl) d x)
  | outputAdded handle name area =>
    exact .of_eq (Shell.outputOf_congr (congrFun (d.stance_outputAdded handle name area) w))
      (by simp)
  | outputRemoved o => exact Desktop.outputRemoved_explains h.sound o w
  | outputResized o area =>
    exact .of_eq (Shell.outputOf_congr (congrFun (d.stance_outputResized o area) w)) (by simp)
  | outputMoved o delta => exact of_layout (by simp) (d.outputMoved_layout o delta)
  | seatAdded handle name hasKeyboard => exact of_layout (by simp) rfl
  | seatCapabilitiesChanged seat hasKeyboard => exact of_layout (by simp) rfl
  | seatRemoved seat => exact of_layout (by simp) (d.seatRemoved_aside seat).layout
  | keyboardFocusChanged seat focus =>
    exact of_layout (by simp) (d.keyboardFocusChanged_aside seat focus).layout
  | pointerButton seat button focus defaultGrab =>
    exact of_layout (by simp) (d.pointerButton_layout seat button focus defaultGrab)
  | touchDown seat focus defaultGrab =>
    exact of_layout (by simp) (d.touchDown_layout seat focus defaultGrab)
  | grabMotion seat location => exact of_layout (by simp) (d.grabMotion_layout seat location)
  | grabReleased seat => exact of_layout (by simp) (d.endGrab_aside seat).layout

/-- The root of a family of three goes to a second output and leaves the others behind. -/
def partedRun : List Action := familyRun ++
  [.event (.outputAdded ⟨4⟩ "DP-2" ⟨⟨1920, 0⟩, outputSize⟩),
    .event (.fullscreenRequested ⟨0, 1⟩ true (some ⟨1, 1⟩))]

theorem isSome_partedRun : ((Desktop.fresh .default).run partedRun).isSome := by decide +kernel

/-- When the child goes, the grandchild moves up to the root, and to its output. -/
theorem bindings_kept_partedRun : ∃ d, Reached .default d ∧
    d.shell.isLive ⟨2, 1⟩ ∧ (d.dispatch (.windowRemoved ⟨1, 1⟩)).2.shell.isLive ⟨2, 1⟩ ∧
    d.shell.outputOf ⟨2, 1⟩ = some ⟨0, 1⟩ ∧
    (d.dispatch (.windowRemoved ⟨1, 1⟩)).2.shell.outputOf ⟨2, 1⟩ = some ⟨1, 1⟩ ∧
    (Event.windowRemoved ⟨1, 1⟩).Explains ⟨2, 1⟩ d.shell
      (d.dispatch (.windowRemoved ⟨1, 1⟩)).2.shell := by
  have hreached : Reached .default _ := Reached.run _ .fresh (Option.some_get isSome_partedRun).symm
  have hbefore : (((Desktop.fresh .default).run partedRun).get
      isSome_partedRun).shell.isLive ⟨2, 1⟩ := by decide +kernel
  have hafter : ((((Desktop.fresh .default).run partedRun).get
      isSome_partedRun).dispatch (.windowRemoved ⟨1, 1⟩)).2.shell.isLive ⟨2, 1⟩ := by decide +kernel
  exact ⟨_, hreached, hbefore, hafter, by decide +kernel, by decide +kernel,
    Reached.bindings_kept hreached _ hbefore hafter⟩

end Kiosk
