import Kiosk.Proofs.Arrival
import Kiosk.Proofs.Carrying

/-!
# Windows that are placed twice

To place a window twice is to place it once (`Reached.placing_idempotent`). The first time, the
window may be put on an output that was looked up; the second time it is on that output, so it is
put there again, and where no output was found none is found now (`Reached.target_again`). Its
client is told again what it knows (`Desktop.Filled`).

A window that fills its output subscribes to it anew each time, so its token and its place among
the listeners change (`Shell.Relinked`).
-/

namespace Kiosk

variable {config : Config} {d d' : Desktop} {s s' : Shell} {w : WindowId} {o : OutputId}
  {window : Window} {output : Output} {link : Link .output} {σ : Signal} {l : Listener} {k : Token}
  {r : Stance}

/-! ## Nothing new -/

/-- A record that is changed into itself. -/
theorem Arena.modify_eq_self {kind : Kind} {α : Type} {a : Arena kind α} {id : Id kind} {r : α}
    (hr : a.get? id = some r) {f : α → α} (hf : f r = r) : a.modify id f = a := by
  unfold modify
  split
  · next r' hr' =>
    cases hr.symm.trans hr'
    obtain ⟨hlt, hslot⟩ := List.getElem?_eq_some_iff.1 (getElem?_of_get? hr)
    refine ext_slots ?_ rfl
    show a.slots.set id.slot ⟨id.generation, some (f r)⟩ = a.slots
    rw [hf, ← hslot, List.set_getElem_self]
  · rfl

theorem Assoc.insert_insert {κ α : Type} [DecidableEq κ] (m : Assoc κ α) (k : κ) (a b : α) :
    (m.insert k a).insert k b = m.insert k b := by
  have herase : ((m.insert k a).erase k).entries = (m.erase k).entries := by
    show ((k, a) :: (m.erase k).entries).filter (·.1 ≠ k) = (m.erase k).entries
    rw [List.filter_cons_of_neg (by simp)]
    exact List.filter_eq_self.2 fun e he => (List.mem_filter.1 he).2
  show Assoc.mk ((k, b) :: ((m.insert k a).erase k).entries) _ = Assoc.mk _ _
  congr 2

/-- Whether the command tells a client that it is not fullscreen, or not maximized. -/
def Command.clears : Command → Bool
  | setFullscreen _ false => true
  | setMaximized _ false => true
  | _ => false

namespace Host

variable {h : Host} {surface : SurfaceHandle}

/-- The host is told `cs`, all of which it knows. -/
def hear (h : Host) (cs : List Command) : Host := { h with log := h.log ++ cs }

theorem hear_hear (h : Host) (cs cs' : List Command) :
    (h.hear cs).hear cs' = h.hear (cs ++ cs') := by
  rw [hear, hear, hear, List.append_assoc]

theorem setFullscreen_again {b : Bool} (hb : h.fullscreen.insert surface b = h.fullscreen) :
    h.setFullscreen surface b = h.hear [.setFullscreen surface b] := by
  rw [setFullscreen, hb]
  rfl

theorem setMaximized_again {b : Bool} (hb : h.maximized.insert surface b = h.maximized) :
    h.setMaximized surface b = h.hear [.setMaximized surface b] := by
  rw [setMaximized, hb]
  rfl

theorem setSize_again {size : Size} (hs : h.sizes.insert surface size = h.sizes) :
    h.setSize surface size = h.hear [.setSize surface size] := by
  rw [setSize, hs]
  rfl

/-- The client of `surface` is told that it may choose its size. -/
def release (h : Host) (surface : SurfaceHandle) : Host :=
  ((h.setFullscreen surface false).setMaximized surface false).setSize surface .zero

/-- What the client of `surface` is told then. -/
def releases (surface : SurfaceHandle) : List Command :=
  [.setFullscreen surface false, .setMaximized surface false, .setSize surface .zero]

theorem log_release (h : Host) (surface : SurfaceHandle) :
    (h.release surface).log = h.log ++ releases surface := by
  show ((h.log ++ [_]) ++ [_]) ++ [_] = _
  rw [List.append_assoc, List.append_assoc]
  rfl

theorem release_again (h : Host) (surface : SurfaceHandle) :
    (h.release surface).release surface = (h.release surface).hear (releases surface) := by
  have hfullscreen : (h.release surface).setFullscreen surface false =
      (h.release surface).hear [.setFullscreen surface false] :=
    setFullscreen_again (h.fullscreen.insert_insert surface false false)
  have hmaximized (cs : List Command) : ((h.release surface).hear cs).setMaximized surface false =
      ((h.release surface).hear cs).hear [.setMaximized surface false] :=
    setMaximized_again (h.maximized.insert_insert surface false false)
  have hsize (cs : List Command) : ((h.release surface).hear cs).setSize surface .zero =
      ((h.release surface).hear cs).hear [.setSize surface .zero] :=
    setSize_again (h.sizes.insert_insert surface .zero .zero)
  conv_lhs => rw [release, hfullscreen, hmaximized, hear_hear, hsize, hear_hear]
  rfl

end Host

/-! ## Up to tokens -/

/-- Whoever subscribes anew still listens, after the others. -/
theorem Signal.Tidy.resubscribe_perm (h : σ.Tidy) (hl : (k, l) ∈ σ.listeners) :
    ((σ.unsubscribe k).subscribe l).2.drain.1.Perm σ.drain.1 := by
  obtain ⟨before, after, hsplit⟩ := List.append_of_mem hl
  have hn := h.nodup
  rw [hsplit, List.map_append, List.map_cons, List.nodup_middle, List.nodup_cons,
    List.mem_append] at hn
  have hothers (es : List (Token × Listener)) (he : k ∉ es.map Prod.fst) :
      es.filter (·.1 ≠ k) = es :=
    List.filter_eq_self.2 fun e hm => decide_eq_true fun hk => he (List.mem_map.2 ⟨e, hm, hk⟩)
  have hkept : (σ.unsubscribe k).listeners = before ++ after := by
    rw [Signal.unsubscribe, hsplit, List.filter_append, List.filter_cons_of_neg (by simp),
      hothers before fun hm => hn.1 (.inl hm), hothers after fun hm => hn.1 (.inr hm)]
  show (((σ.unsubscribe k).listeners ++ [(_, l)]).map Prod.snd).Perm (σ.listeners.map Prod.snd)
  rw [hkept, hsplit]
  have hmoved : (before ++ after ++ [((σ.unsubscribe k).nextToken, l)]).map Prod.snd =
      before.map Prod.snd ++ (after.map Prod.snd ++ [l]) := by simp
  rw [hmoved, List.map_append, List.map_cons]
  exact List.Perm.append_left _ (List.perm_append_singleton ..)

/-- A window's record without the token of its subscription to its output. -/
def Window.tokenless (window : Window) : Window :=
  { window with boundOutput := window.boundOutput.map ({ · with token := 0 }) }

theorem Window.output_tokenless (window : Window) : window.tokenless.output = window.output :=
  Option.map_map ..

namespace Shell

/-- `s'` is `s` up to the tokens and the order of those who listen to outputs. -/
structure Relinked (s s' : Shell) : Prop extends Steady s s' where
  children : s'.children = s.children
  records : ∀ w, (s'.windows.get? w).map Window.tokenless = (s.windows.get? w).map Window.tokenless
  listeners : ∀ o output output', s.outputs.get? o = some output →
    s'.outputs.get? o = some output' → output'.signal.drain.1.Perm output.signal.drain.1

theorem Relinked.refl (s : Shell) : Relinked s s where
  toSteady := .refl s
  children := rfl
  records _ := rfl
  listeners o output output' ho ho' := by
    cases ho.symm.trans ho'
    rfl

theorem Relinked.areaOf {window' : Window} (h : Relinked s s')
    (ho : window'.output = window.output) : s'.areaOf window' = s.areaOf window := by
  rw [Shell.areaOf, Shell.areaOf, ho, Option.map_bind, Option.map_bind]
  refine congrArg window.output.bind (funext fun o => ?_)
  have harea := congrArg (Option.map Output.area) (h.outputs o)
  rwa [Option.map_map, Option.map_map] at harea

/-- A window that is put on the output it is on subscribes to it anew. -/
theorem get?_setOutput_bound (hw : s.windows.get? w = some window)
    (hl : window.boundOutput = some link) (ho : s.outputs.get? link.source = some output) :
    (∀ x, (s.setOutput w (some link.source)).windows.get? x =
      if x = w then some { window with
        boundOutput := some { link with token := output.signal.nextToken } }
      else s.windows.get? x) ∧
    ∀ j, (s.setOutput w (some link.source)).outputs.get? j =
      if j = link.source then some { output with
        signal := ((output.signal.unsubscribe link.token).subscribe (.boundOutput w)).2 }
      else s.outputs.get? j := by
  have hlive : s.isLive w := Option.isSome_iff_exists.2 ⟨window, hw⟩
  have hbound : (s.windows.get? w).bind Window.boundOutput = some link := by
    rw [hw]
    exact hl
  have hleft : s.leaveOutput w =
      (s.modifyWindow w ({ · with boundOutput := none })).unwatchOutput link := by
    rw [leaveOutput, hbound]
  have hmuted : (s.leaveOutput w).outputs.get? link.source =
      some { output with signal := output.signal.unsubscribe link.token } := by
    rw [hleft, unwatchOutput, get?_modifyOutput, if_pos rfl]
    exact congrArg (Option.map _) ho
  obtain ⟨s', he, rfl, -⟩ := watchOutput_of_live hmuted (.boundOutput w)
  rw [setOutput_some hlive, enterOutput, he]
  dsimp only
  constructor
  · intro x
    rw [get?_modifyWindow]
    split
    · show ((s.leaveOutput w).windows.get? w).map _ = _
      rw [hleft]
      show ((s.modifyWindow w _).windows.get? w).map _ = _
      rw [get?_modifyWindow, if_pos rfl, hw]
      rfl
    · next hx =>
      show (s.leaveOutput w).windows.get? x = _
      rw [hleft]
      exact (get?_modifyWindow ..).trans (if_neg hx)
  · intro j
    refine (get?_modifyOutput ..).trans ?_
    split
    · rw [hmuted]
      rfl
    · next hj =>
      rw [hleft]
      exact (get?_modifyOutput ..).trans (if_neg hj)

/-- That changes the token, and the place among the listeners. -/
theorem Sound.setOutput_relinked (h : s.Sound) (w : WindowId) :
    s.Relinked (s.setOutput w (s.outputOf w)) := by
  cases hw : s.windows.get? w with
  | none =>
    have hgone : s.isLive w = false := by rw [isLive, Arena.contains, hw]; rfl
    rw [setOutput_of_not_live hgone]
    exact .refl s
  | some window =>
    have hlive : s.isLive w := Option.isSome_iff_exists.2 ⟨window, hw⟩
    have houtput : s.outputOf w = window.output := by rw [outputOf, hw]; rfl
    cases hl : window.boundOutput with
    | none =>
      have hunbound : s.outputOf w = none := houtput.trans (congrArg (Option.map Link.source) hl)
      rw [hunbound, setOutput_none hlive, leaveOutput_of_unbound hunbound]
      exact .refl s
    | some link =>
      have hbound : s.outputOf w = some link.source :=
        houtput.trans (congrArg (Option.map Link.source) hl)
      obtain ⟨output, ho⟩ := Option.isSome_iff_exists.1 (h.contains_of_outputOf hbound)
      obtain ⟨hwindows, houtputs⟩ := get?_setOutput_bound hw hl ho
      rw [hbound]
      refine { s.setOutput_steady w _ with
        children := s.children_setOutput w _, records := fun x => ?_,
        listeners := fun j before after hbefore hafter => ?_ }
      · rw [hwindows]
        split
        · next hx =>
          rw [hx, hw]
          simp only [Option.map_some, Window.tokenless, hl]
        · rfl
      · rw [houtputs] at hafter
        split at hafter
        · next hj =>
          rw [hj] at hbefore
          cases ho.symm.trans hbefore
          cases hafter
          have hsignal : s.web.signal (.output link.source) = some output.signal :=
            congrArg (Option.map Output.signal) ho
          have hlink : s.web.link (.boundOutput w) = some link.toOutput := by
            show ((s.windows.get? w).bind Window.boundOutput).map Link.toOutput = _
            rw [hw]
            exact congrArg (Option.map Link.toOutput) hl
          exact (h.exact.tidy _ _ hsignal).resubscribe_perm
            ((h.exact.heard _ _ hsignal link.token (.boundOutput w)).2 hlink)
        · cases hbefore.symm.trans hafter
          rfl

theorem modifyWindow_eq_self (hw : s.windows.get? w = some window) {f : Window → Window}
    (hf : f window = window) : s.modifyWindow w f = s := by
  rw [modifyWindow, Arena.modify_eq_self hw hf]

end Shell

/-! ## Windows that fill their output -/

/-- The client of `surface` was last told so of `placement`. -/
def Host.Knows (h : Host) (surface : SurfaceHandle) : Placement → Prop
  | .fullscreen => h.fullscreen.insert surface true = h.fullscreen
  | .maximized => h.maximized.insert surface true = h.maximized
  | .normal => False

namespace Desktop

/-- `w`, with the record `window`, fills its output, and its client was last told so. -/
structure Filled (d : Desktop) (w : WindowId) (window : Window) : Prop where
  record : d.shell.windows.get? w = some window
  placement : d.host.Knows window.surface window.placement
  size : ∀ area, d.shell.areaOf window = some area →
    d.host.sizes.insert window.surface area.size = d.host.sizes

theorem host_fillOutput (hw : d.shell.windows.get? w = some window) (placement : Placement) :
    (d.fillOutput w placement).host =
      ((d.shell.areaOf window).map Rect.size).elim id (fun size h => h.setSize window.surface size)
        (announce d.host window.surface window.placement placement) := by
  unfold fillOutput
  rw [hw]
  dsimp only
  split
  · next area harea =>
    rw [show d.shell.areaOf window = some area from harea]
    rfl
  · next harea =>
    rw [show d.shell.areaOf window = none from harea]
    rfl

theorem fillOutput_filled (hw : d.shell.windows.get? w = some window) {placement : Placement}
    (hp : placement.fillsOutput) :
    (d.fillOutput w placement).Filled w { window with placement } := by
  have hknows : (announce d.host window.surface window.placement placement).Knows
      window.surface placement := by
    cases placement with
    | normal => cases hp
    | maximized => exact Assoc.insert_insert ..
    | fullscreen => exact Assoc.insert_insert ..
  refine ⟨?_, ?_, fun area harea => ?_⟩
  · rw [shell_fillOutput, Shell.get?_modifyWindow, if_pos rfl, hw]
    rfl
  · rw [host_fillOutput hw]
    cases d.shell.areaOf window with
    | none => exact hknows
    | some area => cases placement <;> exact hknows
  · rw [shell_fillOutput] at harea
    rw [host_fillOutput hw, show d.shell.areaOf window = some area from harea]
    exact Assoc.insert_insert ..

/-- Filling the output again changes nothing. -/
theorem Filled.fillOutput (h : d.Filled w window) :
    (d.fillOutput w window.placement).shell = d.shell ∧
      ∃ cs, (d.fillOutput w window.placement).host = d.host.hear cs ∧
        ∀ c ∈ cs, c.clears = false := by
  have hannounce : ∃ c, announce d.host window.surface window.placement window.placement =
      d.host.hear [c] ∧ c.clears = false := by
    have hknows := h.placement
    cases hp : window.placement with
    | normal =>
      rw [hp] at hknows
      cases hknows
    | maximized =>
      rw [hp] at hknows
      exact ⟨_, Host.setMaximized_again hknows, rfl⟩
    | fullscreen =>
      rw [hp] at hknows
      exact ⟨_, Host.setFullscreen_again hknows, rfl⟩
  refine ⟨?_, ?_⟩
  · rw [shell_fillOutput]
    exact Shell.modifyWindow_eq_self h.record rfl
  · obtain ⟨c, hannounced, hc⟩ := hannounce
    rw [host_fillOutput h.record, hannounced]
    cases harea : d.shell.areaOf window with
    | none => exact ⟨[c], rfl, List.forall_mem_singleton.2 hc⟩
    | some area =>
      have hsize := Host.setSize_again (h := d.host.hear [c]) (h.size area harea)
      refine ⟨[c, .setSize window.surface area.size], hsize.trans (d.host.hear_hear _ _), ?_⟩
      exact List.forall_mem_cons.2 ⟨hc, List.forall_mem_singleton.2 rfl⟩

/-- Whoever listens, the window fills its output. -/
theorem Filled.relinked (h : d.Filled w window) (hs : d.shell.Relinked s') :
    ∃ window', window'.placement = window.placement ∧ Filled ⟨s', d.host⟩ w window' := by
  obtain ⟨window', hw', hsame⟩ := exists_of_map_eq (hs.records w).symm h.record
  have hsurface : window'.surface = window.surface := (congrArg Window.surface hsame :)
  have hplacement : window'.placement = window.placement := (congrArg Window.placement hsame :)
  have houtput : window'.output = window.output := by
    rw [← window'.output_tokenless, hsame, window.output_tokenless]
  refine ⟨window', hplacement, hw', ?_, fun area harea => ?_⟩
  · rw [hsurface, hplacement]
    exact h.placement
  · rw [hsurface]
    exact h.size area ((hs.areaOf houtput).symm.trans harea)

/-! ## Windows that are placed -/

/-- From `d` to `d'` nothing has changed but tokens and the order of listeners, and the host was
told nothing that it does not know. If `w` is a root, no client was told that it is not fullscreen,
or not maximized. -/
structure Repeats (w : WindowId) (d d' : Desktop) : Prop where
  shell : d.shell.Relinked d'.shell
  host : ∃ cs, d'.host = d.host.hear cs ∧
    (Windows.parentOf d.shell.windows w = none → ∀ c ∈ cs, c.clears = false)

/-- A window that fills its output is put there again. -/
theorem Filled.repeats (h : d.Filled w window) (hs : d.shell.Sound) :
    Repeats w d
      ((d.setOutput w (d.shell.outputOf w)).fillOutput w window.placement) := by
  have hrelinked := hs.setOutput_relinked w
  obtain ⟨window', hplacement, hfilled⟩ := h.relinked hrelinked
  have hagain := hfilled.fillOutput
  rw [hplacement] at hagain
  obtain ⟨hshell, cs, hhost, hclears⟩ := hagain
  exact ⟨hshell ▸ hrelinked, cs, hhost, fun _ => hclears⟩

end Desktop

/-! ### The output they are put on -/

/-- The output on which `w` is put when it is sent to `o`. -/
def Shell.target (s : Shell) (w : WindowId) (o : Option OutputId) : Option OutputId :=
  (o.filter s.outputs.contains).or (s.bestOutput w)

theorem Shell.bestOutput_of_outputOf (ho : s.outputOf w = some o) : s.bestOutput w = some o := by
  rw [outputOf_stance] at ho
  obtain ⟨r, hr, ho⟩ := Option.bind_eq_some_iff.1 ho
  exact bestOutput_of_bound hr ho

namespace Reached

theorem contains_bestOutput (h : Reached config d) (hw : d.shell.isLive w) (o : OutputId)
    (hbest : d.shell.bestOutput w = some o) : d.shell.outputs.contains o := by
  obtain ⟨as, hrun⟩ := h.exists_run
  obtain ⟨houtputs, hseats⟩ := Desktop.run_chronicle hrun
  obtain ⟨g, -, hoffers⟩ := (Shell.bestOutput_iff h.sound hw houtputs hseats o).1 hbest
  exact h.sound.contains_of_offers hoffers

theorem filter_target (h : Reached config d) (hw : d.shell.isLive w) (o : Option OutputId) :
    (d.shell.target w o).filter d.shell.outputs.contains = d.shell.target w o := by
  rw [Shell.target]
  cases ho : o.filter d.shell.outputs.contains with
  | none => exact Desktop.filter_bestOutput (h.contains_bestOutput hw)
  | some j => exact Option.filter_some_pos (Option.filter_eq_some_iff.1 ho).2

/-- A window that is on the output it was sent to would be put there again. -/
theorem target_again (h : Reached config d) (h' : Reached config d')
    (hs : d.shell.Steady d'.shell) (hw : d.shell.isLive w) {o : Option OutputId}
    (hbound : d'.shell.outputOf w = d.shell.target w o) :
    d'.shell.target w o = d'.shell.outputOf w := by
  have hcontains : d'.shell.outputs.contains = d.shell.outputs.contains := funext fun j => by
    have hsome := congrArg Option.isSome (hs.outputs j)
    rwa [Option.isSome_map, Option.isSome_map] at hsome
  rw [Shell.target, hcontains]
  cases hsent : o.filter d.shell.outputs.contains with
  | some j => rw [hbound, Shell.target, hsent, Option.some_or, Option.some_or]
  | none =>
    rw [Shell.target, hsent, Option.none_or] at hbound
    rw [Option.none_or]
    cases hbest : d.shell.bestOutput w with
    | some j => rw [Shell.bestOutput_of_outputOf (hbound.trans hbest), hbound, hbest]
    | none =>
      -- There is no output at all then.
      obtain ⟨as, hrun⟩ := h.exists_run
      have hgone := Shell.bestOutput_eq_none hw (Desktop.run_chronicle hrun).1 hbest
      rw [hbound, hbest, Option.eq_none_iff_forall_ne_some]
      intro j hj
      have hlive := h'.contains_bestOutput ((hs.isLive w).trans hw) j hj
      rw [hcontains] at hlive
      exact hgone j hlive

end Reached

/-! ### Placing twice -/

namespace Desktop

theorem Repeats.refl (w : WindowId) (d : Desktop) : Repeats w d d :=
  ⟨.refl _, [], by rw [Host.hear, List.append_nil], fun _ _ hc => by cases hc⟩

/-- Sends `w` to `o`, and lets it fill the output on which it is put. -/
def occupy (d : Desktop) (w : WindowId) (o : Option OutputId) (placement : Placement) : Desktop :=
  (d.setOutput w (d.shell.target w o)).fillOutput w placement

theorem occupy_layout {placement : Placement} (hw : d.layout.stance w = some r)
    (hp : placement.fillsOutput) (o : Option OutputId) :
    (d.occupy w o placement).layout = d.layout.place w r { r with
      placement
      output := (d.shell.target w o).filter d.shell.outputs.contains } :=
  fillOutput_setOutput_layout hw _ hp

theorem setFullscreen_of_root (hw : d.layout.stance w = some r) (hr : r.parent = none)
    (o : Option OutputId) : d.setFullscreen w o = d.occupy w o .fullscreen := by
  obtain ⟨window, hwindow, -⟩ := Shell.stance_eq_some_iff.1 hw
  rw [setFullscreen, hwindow]
  exact if_pos ((isRoot_iff hwindow hw).2 hr)

theorem setMaximized_of_root (hw : d.layout.stance w = some r) (hr : r.parent = none) :
    d.setMaximized w = d.occupy w none .maximized := by
  obtain ⟨window, hwindow, -⟩ := Shell.stance_eq_some_iff.1 hw
  rw [setMaximized, hwindow]
  exact if_pos ((isRoot_iff hwindow hw).2 hr)

theorem setNormal_of_live (hw : (d.ensureOutput w).shell.windows.get? w = some window) :
    d.setNormal w =
      ⟨(d.ensureOutput w).shell.modifyWindow w ({ · with placement := .normal }),
        d.host.release window.surface⟩ := by
  have hhost : (d.ensureOutput w).host = d.host := by
    unfold ensureOutput
    split <;> rfl
  rw [← hhost, setNormal, hw]
  rfl

/-- A window that is on an output, or that there is no output for, stays there. -/
theorem ensureOutput_eq_self (hw : d.shell.isLive w)
    (hbest : d.shell.bestOutput w = d.shell.outputOf w) : d.ensureOutput w = d := by
  unfold ensureOutput
  split
  · rfl
  · next hnone =>
    rw [hbest, hnone, setOutput, update, Shell.setOutput_none hw,
      Shell.leaveOutput_of_unbound hnone]

end Desktop

namespace Reached

theorem setNormal_repeats (h : Reached config d) (w : WindowId) :
    ((d.setNormal w).setNormal w).shell = (d.setNormal w).shell ∧
      ∃ cs, (d.setNormal w).host.log = d.host.log ++ cs ∧
        ((d.setNormal w).setNormal w).host = (d.setNormal w).host.hear cs := by
  have h' : Reached config (d.setNormal w) := h.act (.call (.setNormal w)) fun _ hf => nomatch hf
  cases hw : d.layout.stance w with
  | none =>
    rw [Desktop.setNormal_of_not_live hw, Desktop.setNormal_of_not_live hw]
    exact ⟨rfl, [], (List.append_nil _).symm, by rw [Host.hear, List.append_nil]⟩
  | some r =>
    have hlive := Shell.isLive_of_stance hw
    have hsteady := (d.setNormal_settles w).steady
    -- Both calls come to the same output, so the second has none to look for.
    have hbest := h.target_again h' hsteady.shell hlive (o := none)
      (Desktop.outputOf_setNormal hlive (h.contains_bestOutput hlive))
    have hensure : (d.setNormal w).ensureOutput w = d.setNormal w :=
      Desktop.ensureOutput_eq_self ((hsteady.shell.isLive w).trans hlive) hbest
    obtain ⟨window, hwindow⟩ := Option.isSome_iff_exists.1 <|
      ((d.ensureOutput_settles w).steady.shell.isLive w).trans hlive
    have hone := Desktop.setNormal_of_live hwindow
    have hrecord : (d.setNormal w).shell.windows.get? w =
        some { window with placement := .normal } := by
      rw [hone, Shell.get?_modifyWindow, if_pos rfl, hwindow]
      rfl
    have htwo := Desktop.setNormal_of_live (hensure.symm ▸ hrecord)
    rw [hensure] at htwo
    refine ⟨?_, Host.releases window.surface, ?_, ?_⟩
    · rw [htwo]
      exact Shell.modifyWindow_eq_self hrecord rfl
    · rw [hone]
      exact d.host.log_release window.surface
    · rw [htwo, hone]
      exact d.host.release_again window.surface

/-- A root that fills its output is put there again. -/
theorem occupy_repeats {placement : Placement} (h : Reached config d)
    (hw : d.layout.stance w = some r) (hp : placement.fillsOutput) (o : Option OutputId)
    (h' : Reached config (d.occupy w o placement)) :
    Desktop.Repeats w (d.occupy w o placement)
      ((d.occupy w o placement).occupy w o placement) := by
  have hlive := Shell.isLive_of_stance hw
  have hput := (Settling.output d w (d.shell.target w o)).steady
  have hbound : (d.occupy w o placement).shell.outputOf w = d.shell.target w o :=
    (Desktop.outputOf_of_place (Desktop.occupy_layout hw hp o)).trans (h.filter_target hlive o)
  have hagain := h.target_again h' (hput.trans (Desktop.fillOutput_steady _ w placement)).shell
    hlive hbound
  obtain ⟨window, hwindow⟩ :=
    Option.isSome_iff_exists.1 ((hput.shell.isLive w).trans hlive)
  have hfilled : (d.occupy w o placement).Filled w { window with placement } :=
    Desktop.fillOutput_filled hwindow hp
  have hrepeats := hfilled.repeats h'.sound
  rwa [← hagain] at hrepeats

/-- A child that is to fill its output is made normal again. -/
theorem child_repeats (h : Reached config d) (hw : d.layout.stance w = some r)
    (hr : r.parent ≠ none) : Desktop.Repeats w (d.setNormal w) ((d.setNormal w).setNormal w) := by
  obtain ⟨hshell, cs, -, hhost⟩ := h.setNormal_repeats w
  refine ⟨hshell ▸ .refl _, cs, hhost, fun hroot => absurd ?_ hr⟩
  have hw' := Desktop.stance_of_place (Desktop.setNormal_layout hw)
  rw [Shell.parentOf_stance, hw'] at hroot
  exact hroot

/-- A call that lets roots fill an output and makes children normal. -/
theorem repeats_of_cases {f : Desktop → Desktop} {sent : Option OutputId} {placement : Placement}
    (h : Reached config d) (h' : Reached config (f d)) (hp : placement.fillsOutput)
    (hgone : ∀ {d : Desktop}, d.layout.stance w = none → f d = d)
    (hchild : ∀ {d : Desktop} {r : Stance}, d.layout.stance w = some r → r.parent ≠ none →
      f d = d.setNormal w)
    (hroot : ∀ {d : Desktop} {r : Stance}, d.layout.stance w = some r → r.parent = none →
      f d = d.occupy w sent placement) : Desktop.Repeats w (f d) (f (f d)) := by
  cases hw : d.layout.stance w with
  | none =>
    rw [hgone hw, hgone hw]
    exact .refl w d
  | some r =>
    by_cases hr : r.parent = none
    · rw [hroot hw hr] at h' ⊢
      have hw' := Desktop.stance_of_place (Desktop.occupy_layout hw hp sent)
      rw [hroot hw' hr]
      exact h.occupy_repeats hw hp sent h'
    · have hw' := Desktop.stance_of_place (Desktop.setNormal_layout hw)
      rw [hchild hw hr, hchild hw' hr]
      exact h.child_repeats hw hr

theorem setFullscreen_repeats (h : Reached config d) (w : WindowId) (o : Option OutputId) :
    Desktop.Repeats w (d.setFullscreen w o) ((d.setFullscreen w o).setFullscreen w o) :=
  h.repeats_of_cases (f := (·.setFullscreen w o))
    (h.act (.call (.setFullscreen w o)) fun _ hf => nomatch hf) rfl
    (fun hw => Desktop.setFullscreen_of_not_live hw o)
    (fun hw hr => Desktop.setFullscreen_of_child hw hr o)
    fun hw hr => Desktop.setFullscreen_of_root hw hr o

theorem setMaximized_repeats (h : Reached config d) (w : WindowId) :
    Desktop.Repeats w (d.setMaximized w) ((d.setMaximized w).setMaximized w) :=
  h.repeats_of_cases (f := (·.setMaximized w))
    (h.act (.call (.setMaximized w)) fun _ hf => nomatch hf) rfl
    Desktop.setMaximized_of_not_live Desktop.setMaximized_of_child Desktop.setMaximized_of_root

/-- To place a window twice is to place it once. The second time, a window that is made normal
leaves the very same records and tells its client the very same; one that is made fullscreen or
maximized is merely the youngest listener of its output afterwards. -/
theorem placing_idempotent (h : Reached config d) (w : WindowId) :
    (((d.setNormal w).setNormal w).shell = (d.setNormal w).shell ∧
      ∃ cs, (d.setNormal w).host.log = d.host.log ++ cs ∧
        ((d.setNormal w).setNormal w).host = (d.setNormal w).host.hear cs) ∧
      (∀ o, Desktop.Repeats w (d.setFullscreen w o) ((d.setFullscreen w o).setFullscreen w o)) ∧
      Desktop.Repeats w (d.setMaximized w) ((d.setMaximized w).setMaximized w) :=
  ⟨h.setNormal_repeats w, h.setFullscreen_repeats w, h.setMaximized_repeats w⟩

end Reached

/-- The first window of the crowd is sent from one output to the other. -/
theorem placing_idempotent_crowdRun : ∃ d, Reached .default d ∧
    d.shell.outputOf ⟨0, 1⟩ = some ⟨0, 1⟩ ∧
    (d.setFullscreen ⟨0, 1⟩ (some ⟨1, 1⟩)).shell.outputOf ⟨0, 1⟩ = some ⟨1, 1⟩ ∧
    Desktop.Repeats ⟨0, 1⟩ (d.setFullscreen ⟨0, 1⟩ (some ⟨1, 1⟩))
      ((d.setFullscreen ⟨0, 1⟩ (some ⟨1, 1⟩)).setFullscreen ⟨0, 1⟩ (some ⟨1, 1⟩)) ∧
    Desktop.Repeats ⟨0, 1⟩ (d.setMaximized ⟨0, 1⟩) ((d.setMaximized ⟨0, 1⟩).setMaximized ⟨0, 1⟩) ∧
    ((d.setNormal ⟨0, 1⟩).setNormal ⟨0, 1⟩).shell = (d.setNormal ⟨0, 1⟩).shell := by
  have hreached : Reached .default _ := Reached.run _ .fresh (Option.some_get isSome_crowdRun).symm
  obtain ⟨⟨hnormal, -⟩, hfullscreen, hmaximized⟩ := Reached.placing_idempotent hreached ⟨0, 1⟩
  exact ⟨_, hreached, by decide +kernel, by decide +kernel, hfullscreen _, hmaximized, hnormal⟩

end Kiosk
