import Kiosk.Proofs.Bindings
import Kiosk.Proofs.Seniority

/-!
# The choice of an output

A window is placed on the first output that there are grounds for (`Ground`): the one it
is on, the first one reserved for its application, that of its root, that of the focus, and
failing all these the oldest one (`Desktop.choice_exact`). There is an answer as soon as
an output is registered, and it is a registered output, so a window that is placed without
an output of its own is on one from then on.
-/

namespace Kiosk

open Relation (ReflTransGen)

variable {config : Config} {d d' : Desktop} {s : Shell} {as : List Action} {w x : WindowId}
  {o : OutputId} {outputs : List OutputId} {seats : List SeatId} {r : Stance}

/-- Why an output is chosen for a window. -/
inductive Ground where
  | bound
  | reserved
  | root
  | focused
  | oldest
  deriving DecidableEq

/-- All grounds, the strongest first. -/
def Ground.all : List Ground := [.bound, .reserved, .root, .focused, .oldest]

namespace Shell

/-- The window that `seat` focuses is on `o`. -/
def FocusesOn (s : Shell) (seat : SeatId) (o : OutputId) : Prop :=
  ∃ x, s.focusedWindow seat = some x ∧ s.outputOf x = some o

/-- There are these grounds for choosing `o` for `w`. Outputs and seats are given in the order in
which they were registered. -/
def Offers (s : Shell) (outputs : List OutputId) (seats : List SeatId) (w : WindowId) :
    Ground → OutputId → Prop
  | .bound, o => s.outputOf w = some o
  | .reserved, o => ∃ appId, (s.windows.get? w).bind Window.appId = some appId ∧
      Earliest outputs
        (fun o => ∃ output, s.outputs.get? o = some output ∧ appId ∈ output.appIds.tokens) o
  | .root, o => ∃ root, ReflTransGen (Up (Windows.parentOf s.windows)) w root ∧
      Windows.parentOf s.windows root = none ∧ s.outputOf root = some o
  | .focused, o => ∃ seat, Earliest seats (fun seat => ∃ o, s.FocusesOn seat o) seat ∧
      s.FocusesOn seat o
  | .oldest, o => Earliest outputs (s.outputs.contains ·) o

/-- The output that is chosen on these grounds. -/
def candidate (s : Shell) (w : WindowId) : Ground → Option OutputId
  | .bound => s.outputOf w
  | .reserved => ((s.windows.get? w).bind Window.appId).bind (Outputs.findByAppId s.outputs)
  | .root => (s.rootOf w).bind s.outputOf
  | .focused => s.focusedOutput
  | .oldest => Outputs.default s.outputs

theorem bestOutput_eq_findSome? (hw : s.isLive w) :
    s.bestOutput w = Ground.all.findSome? (s.candidate w) := by
  obtain ⟨window, hw⟩ := Option.isSome_iff_exists.1 hw
  have hw : s.windows.get? w = some window := hw
  have hor {a : Ground} {l : List Ground} : (a :: l).findSome? (s.candidate w) =
      (s.candidate w a).or (l.findSome? (s.candidate w)) := by
    rw [List.findSome?_cons]
    cases s.candidate w a <;> rfl
  have hbound : s.candidate w .bound = window.output := by rw [candidate, outputOf, hw]; rfl
  have hreserved : s.candidate w .reserved = window.appId.bind (Outputs.findByAppId s.outputs) := by
    rw [candidate, hw]
    rfl
  rw [bestOutput, hw, Ground.all, hor, hor, hor, hor, hor, hbound, hreserved, List.findSome?_nil,
    Option.or_none]
  rfl

/-- The window is on an output that is there. -/
theorem Sound.contains_of_outputOf (h : s.Sound) (ho : s.outputOf w = some o) :
    s.outputs.contains o := by
  rw [outputOf_stance] at ho
  obtain ⟨r, hr, ho⟩ := Option.bind_eq_some_iff.1 ho
  exact h.contains_output hr ho

theorem candidate_root_iff (h : s.Sound) (hw : s.isLive w) :
    s.candidate w .root = some o ↔ s.Offers outputs seats w .root o := by
  obtain ⟨root, hroot, hup, -, htop⟩ := h.isForest.root w hw
  rw [candidate, hroot, Option.bind_some]
  constructor
  · exact fun ho => ⟨root, hup, htop, ho⟩
  · rintro ⟨root', hup', htop', ho⟩
    rwa [eq_of_reflTransGen_up hup hup' htop htop']

theorem candidate_reserved_iff (h : s.outputs.Chronicle outputs) :
    s.candidate w .reserved = some o ↔ s.Offers outputs seats w .reserved o := by
  rw [candidate, Option.bind_eq_some_iff]
  refine exists_congr fun appId => and_congr_right fun _ => ?_
  rw [Outputs.findByAppId, h.find?_toList (·.appIds.contains appId)]
  refine find?_eq_some_iff_earliest fun o => ?_
  rw [Option.any_eq_true]
  exact exists_congr fun output => and_congr_right fun _ => List.contains_iff_mem

theorem candidate_focused_iff (h : s.seats.Chronicle seats) :
    s.candidate w .focused = some o ↔ s.Offers outputs seats w .focused o := by
  have hfocused : s.focusedOutput = seats.findSome? fun seat =>
      (s.focusedWindow seat).bind s.outputOf := by
    rw [focusedOutput, h.findSome?_toList (·.focusedWindow.bind s.outputOf)]
    exact congrArg (seats.findSome? ·) (funext fun seat => (Option.bind_assoc ..).symm)
  rw [candidate, hfocused]
  exact findSome?_eq_some_iff_earliest fun _ _ => Option.bind_eq_some_iff

theorem candidate_oldest_iff (h : s.outputs.Chronicle outputs) :
    s.candidate w .oldest = some o ↔ s.Offers outputs seats w .oldest o :=
  h.oldest_iff o

theorem candidate_iff (h : s.Sound) (hw : s.isLive w) (houtputs : s.outputs.Chronicle outputs)
    (hseats : s.seats.Chronicle seats) (g : Ground) (o : OutputId) :
    s.candidate w g = some o ↔ s.Offers outputs seats w g o := by
  cases g with
  | bound => exact Iff.rfl
  | reserved => exact candidate_reserved_iff houtputs
  | root => exact candidate_root_iff h hw
  | focused => exact candidate_focused_iff hseats
  | oldest => exact candidate_oldest_iff houtputs

/-- The best output is what the strongest grounds offer. -/
theorem bestOutput_iff (h : s.Sound) (hw : s.isLive w) (houtputs : s.outputs.Chronicle outputs)
    (hseats : s.seats.Chronicle seats) (o : OutputId) : s.bestOutput w = some o ↔
      ∃ g, Earliest Ground.all (fun g => ∃ o, s.Offers outputs seats w g o) g ∧
        s.Offers outputs seats w g o := by
  rw [bestOutput_eq_findSome? hw]
  exact findSome?_eq_some_iff_earliest (candidate_iff h hw houtputs hseats)

/-- There is none only if there is no output. -/
theorem bestOutput_eq_none (hw : s.isLive w) (houtputs : s.outputs.Chronicle outputs)
    (hnone : s.bestOutput w = none) (o : OutputId) : ¬ s.outputs.contains o := by
  intro ho
  rw [bestOutput_eq_findSome? hw, List.findSome?_eq_none_iff] at hnone
  exact houtputs.oldest_eq_none_iff.1 (hnone .oldest (by simp [Ground.all])) o ho

/-- Whatever the grounds, the output is there. -/
theorem Sound.contains_of_offers (h : s.Sound) {g : Ground} (ho : s.Offers outputs seats w g o) :
    s.outputs.contains o := by
  cases g with
  | bound => exact h.contains_of_outputOf ho
  | reserved =>
    obtain ⟨_, -, hfirst⟩ := ho
    obtain ⟨output, houtput, -⟩ := hfirst.holds
    exact Option.isSome_iff_exists.2 ⟨output, houtput⟩
  | root =>
    obtain ⟨root, -, -, ho⟩ := ho
    exact h.contains_of_outputOf ho
  | focused =>
    obtain ⟨seat, -, x, -, ho⟩ := ho
    exact h.contains_of_outputOf ho
  | oldest =>
    have hfirst : Earliest outputs (s.outputs.contains ·) o := ho
    exact hfirst.holds

end Shell

/-! ## Windows that are placed -/

namespace Desktop

theorem outputOf_of_place {r' : Stance} (h : d'.layout = d.layout.place w r r') :
    d'.shell.outputOf w = r'.output := by
  have hstance : d'.shell.stance = Function.update d.shell.stance w (some r') :=
    congrArg Layout.stance h
  rw [Shell.outputOf_stance, hstance, Function.update_self]
  rfl

variable (hw : d.shell.isLive w)
  (hbest : ∀ o, d.shell.bestOutput w = some o → d.shell.outputs.contains o)

include hbest in
theorem filter_bestOutput :
    (d.shell.bestOutput w).filter d.shell.outputs.contains = d.shell.bestOutput w := by
  cases h : d.shell.bestOutput w with
  | none => rfl
  | some o => exact Option.filter_some_pos (hbest o h)

include hw hbest

theorem outputOf_setNormal : (d.setNormal w).shell.outputOf w = d.shell.bestOutput w := by
  obtain ⟨r, hr⟩ := exists_stance hw
  refine (outputOf_of_place (setNormal_layout hr)).trans ?_
  show r.output.or _ = _
  rw [filter_bestOutput hbest]
  cases ho : r.output with
  | none => exact Option.none_or
  | some o => rw [Option.some_or, Shell.bestOutput_of_bound hr ho]

theorem outputOf_setFullscreen :
    (d.setFullscreen w none).shell.outputOf w = d.shell.bestOutput w := by
  obtain ⟨r, hr⟩ := exists_stance hw
  by_cases hp : r.parent = none
  · refine (outputOf_of_place (setFullscreen_layout hr hp none)).trans ?_
    show ((none : Option OutputId).or _).filter _ = _
    rw [Option.none_or, filter_bestOutput hbest]
  · rw [setFullscreen_of_child hr hp]
    exact outputOf_setNormal hw hbest

theorem outputOf_setMaximized : (d.setMaximized w).shell.outputOf w = d.shell.bestOutput w := by
  obtain ⟨r, hr⟩ := exists_stance hw
  by_cases hp : r.parent = none
  · exact (outputOf_of_place (setMaximized_layout hr hp)).trans (filter_bestOutput hbest)
  · rw [setMaximized_of_child hr hp]
    exact outputOf_setNormal hw hbest

end Desktop

/-! ## The result -/

/-- The output chosen for `w` is the one that the strongest grounds offer, and there is none only
if there is nothing to choose. Outputs and seats are given in the order of their registration. -/
structure Desktop.Chooses (d : Desktop) (outputs : List OutputId) (seats : List SeatId)
    (w : WindowId) : Prop where
  first : ∀ o, d.shell.bestOutput w = some o ↔
    ∃ g, Earliest Ground.all (fun g => ∃ o, d.shell.Offers outputs seats w g o) g ∧
      d.shell.Offers outputs seats w g o
  registered : ∀ o, d.shell.bestOutput w = some o → d.shell.outputs.contains o
  none_iff : d.shell.bestOutput w = none ↔ ∀ o, ¬ d.shell.outputs.contains o
  /-- Placing the window binds it to the output that was chosen for it. -/
  placed : ∀ c ∈ [Call.setFullscreen w none, .setMaximized w, .setNormal w],
    (d.call c).2.shell.outputOf w = d.shell.bestOutput w ∧
    (((d.call c).2.shell.outputOf w).isSome ↔ ∃ o, d.shell.outputs.contains o)

/-- After every run, windows are placed by the grounds there are, the strongest first. -/
theorem Desktop.choice_exact (h : (Desktop.fresh config).run as = some d) (hw : d.shell.isLive w) :
    d.Chooses ((Desktop.fresh config).registered as) ((Desktop.fresh config).seated as) w := by
  have hsound := (Reached.run as .fresh h).sound
  obtain ⟨houtputs, hseats⟩ := Desktop.run_chronicle h
  have hfirst := Shell.bestOutput_iff hsound hw houtputs hseats
  have hregistered (o : OutputId) (ho : d.shell.bestOutput w = some o) :
      d.shell.outputs.contains o := by
    obtain ⟨g, -, hoffers⟩ := (hfirst o).1 ho
    exact hsound.contains_of_offers hoffers
  have hnone : d.shell.bestOutput w = none ↔ ∀ o, ¬ d.shell.outputs.contains o :=
    ⟨Shell.bestOutput_eq_none hw houtputs,
      fun hgone => Option.eq_none_iff_forall_ne_some.2 fun o ho => hgone o (hregistered o ho)⟩
  refine ⟨hfirst, hregistered, hnone, fun c hc => ?_⟩
  have hplaced : (d.call c).2.shell.outputOf w = d.shell.bestOutput w := by
    simp only [List.mem_cons, List.not_mem_nil, or_false] at hc
    obtain rfl | rfl | rfl := hc
    · exact outputOf_setFullscreen hw hregistered
    · exact outputOf_setMaximized hw hregistered
    · exact outputOf_setNormal hw hregistered
  refine ⟨hplaced, ?_⟩
  rw [hplaced, ← not_iff_not, Option.not_isSome_iff_eq_none, hnone, not_exists]

/-- The focused window moves from the older of two outputs to the younger, and a second window is
made. -/
def secondRun : List Action :=
  [.event (.seatAdded ⟨7⟩ "seat0" true),
    .event (.outputAdded ⟨1⟩ "DP-1" ⟨.origin, outputSize⟩),
    .event (.outputAdded ⟨2⟩ "DP-2" ⟨⟨1920, 0⟩, outputSize⟩),
    .event (.windowAdded ⟨10⟩ none none),
    .call (.setOutput ⟨0, 1⟩ (some ⟨1, 1⟩)),
    .call (.createWindow ⟨11⟩ (some "vlc"))]

theorem isSome_secondRun : ((Desktop.fresh .default).run secondRun).isSome := by decide +kernel

/-- The second window goes where the focus is, though there is an older output. -/
theorem choice_exact_secondRun : ∃ d, (Desktop.fresh .default).run secondRun = some d ∧
    d.Chooses [⟨0, 1⟩, ⟨1, 1⟩] [⟨0, 1⟩] ⟨1, 1⟩ ∧ d.shell.outputOf ⟨1, 1⟩ = none ∧
    d.shell.bestOutput ⟨1, 1⟩ = some ⟨1, 1⟩ ∧
    (d.setMaximized ⟨1, 1⟩).shell.outputOf ⟨1, 1⟩ = some ⟨1, 1⟩ := by
  have hrun := (Option.some_get isSome_secondRun).symm
  have hbest : (((Desktop.fresh .default).run secondRun).get
      isSome_secondRun).shell.bestOutput ⟨1, 1⟩ = some ⟨1, 1⟩ := by decide +kernel
  have hchooses := Desktop.choice_exact (w := ⟨1, 1⟩) hrun (by decide +kernel)
  have hplaced := (hchooses.placed (.setMaximized ⟨1, 1⟩) (by simp)).1
  have houtputs : (Desktop.fresh .default).registered secondRun = [⟨0, 1⟩, ⟨1, 1⟩] := by
    decide +kernel
  have hseats : (Desktop.fresh .default).seated secondRun = [⟨0, 1⟩] := by decide +kernel
  rw [houtputs, hseats] at hchooses
  exact ⟨_, hrun, hchooses, by decide +kernel, hbest, hplaced.trans hbest⟩

end Kiosk
