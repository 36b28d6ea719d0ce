import Kiosk.Cli.Invocation
import Mathlib.Logic.Basic

/-!
# Playbacks and sequential replays

A playback shows the outcomes of a prefix of its script (`Playback.play_exact`). It goes on
to the end of the batch in which the first step stops, prints what the steps there tell
the host, and reports the last of them that failed. So it shows the same as a replay that
ends with the first step that stops just when the rest of that batch is silent.

One step adds its outcome to what the playback tells (`Playback.Tells.step`), and a batch
the outcomes of its steps (`Playback.Tells.foldl`). The turns of the loop are one pass over
the steps up to the end of a batch (`Playback.turns_eq_foldl`).
-/

namespace Kiosk

variable {p : Playback} {r : Replay} {s : Step} {steps : List Step} {o : StepOutcome}
  {os os' : List StepOutcome} {n : Nat}

/-! ## What is shown of outcomes -/

namespace StepOutcome

/-- The fault a step met, in its own data or in its event. -/
def fault? (o : StepOutcome) : Option Fault :=
  match o.result with
  | .error (.fault f) => some f
  | .error _ => none
  | .ok (.fault f) => some f
  | .ok _ => none

/-- Why a step could not be resolved, a fault apart. -/
def refusal? (o : StepOutcome) : Option StepError :=
  match o.result with
  | .error (.fault _) => none
  | .error e => some e
  | .ok _ => none

/-- What is printed of a step. What one that stops told the host is not. -/
def printed (o : StepOutcome) : List Command :=
  if o.stops then [] else o.commands

/-- Neither printed nor reported. -/
structure Silent (o : StepOutcome) : Prop where
  printed : o.printed = []
  refusal? : o.refusal? = none
  fault? : o.fault? = none

theorem stops_eq (o : StepOutcome) : o.stops = (o.refusal?.isSome || o.fault?.isSome) := by
  obtain ⟨result, _⟩ := o
  rcases result with (_ | _ | _) | (_ | _ | _ | _ | _) <;> rfl

theorem stops_eq_false_iff : o.stops = false ↔ o.refusal? = none ∧ o.fault? = none := by
  rw [stops_eq, Bool.or_eq_false_iff, Option.isSome_eq_false_iff, Option.isSome_eq_false_iff,
    Option.isNone_iff_eq_none, Option.isNone_iff_eq_none]

/-- The last step that could not be resolved, and why, the steps numbered from `n`. -/
def lastRefusal : Nat → List StepOutcome → Option (Nat × StepError)
  | _, [] => none
  | n, o :: os => (lastRefusal (n + 1) os).or (o.refusal?.map (n, ·))

theorem lastRefusal_append : ∀ (n : Nat) (os os' : List StepOutcome),
    lastRefusal n (os ++ os') = (lastRefusal (n + os.length) os').or (lastRefusal n os)
  | _, [], _ => (Option.or_none).symm
  | n, o :: os, os' => by
    rw [List.cons_append, lastRefusal, lastRefusal_append, lastRefusal, Option.or_assoc,
      List.length_cons, Nat.add_right_comm n 1, Nat.add_assoc]

theorem lastRefusal_eq_none_iff :
    ∀ {n : Nat} {os : List StepOutcome}, lastRefusal n os = none ↔ ∀ o ∈ os, o.refusal? = none
  | _, [] => by simp [lastRefusal]
  | n, o :: os => by
    rw [lastRefusal, Option.or_eq_none_iff, lastRefusal_eq_none_iff, Option.map_eq_none_iff,
      List.forall_mem_cons, and_comm]

theorem le_of_lastRefusal : ∀ {n i : Nat} {os : List StepOutcome} {e : StepError},
    lastRefusal n os = some (i, e) → n ≤ i ∧ i < n + os.length
  | _, _, [], _, h => by cases h
  | n, i, o :: os, e, h => by
    rw [List.length_cons]
    rcases Option.or_eq_some_iff.1 h with h | ⟨-, h⟩
    · have := le_of_lastRefusal h
      omega
    · obtain ⟨_, -, he⟩ := Option.map_eq_some_iff.1 h
      obtain ⟨rfl, -⟩ := Prod.mk.inj he
      omega

end StepOutcome

open StepOutcome (lastRefusal lastRefusal_append lastRefusal_eq_none_iff)

/-- The lines of consecutive steps, which are numbered from `n`. -/
def Format.lines (format : Format) : Nat → List StepOutcome → List String
  | _, [] => []
  | n, o :: os => o.printed.map (format.line n) ++ format.lines (n + 1) os

theorem Format.lines_append (format : Format) : ∀ (n : Nat) (os os' : List StepOutcome),
    format.lines n (os ++ os') = format.lines n os ++ format.lines (n + os.length) os'
  | _, [], _ => rfl
  | n, o :: os, os' => by
    rw [List.cons_append, lines, lines_append, lines, List.append_assoc, List.length_cons,
      Nat.add_right_comm n 1, Nat.add_assoc]

theorem Format.lines_eq_nil_iff {format : Format} : ∀ {n : Nat} {os : List StepOutcome},
    format.lines n os = [] ↔ ∀ o ∈ os, o.printed = []
  | _, [] => by simp [lines]
  | n, o :: os => by
    rw [lines, List.append_eq_nil_iff, lines_eq_nil_iff, List.map_eq_nil_iff,
      List.forall_mem_cons]

/-- What an invocation comes to whose steps had the given outcomes: a fault first, then
the last failure. -/
def Cli.Ending.ofOutcomes (os : List StepOutcome) : Ending :=
  match os.findSome? StepOutcome.fault?, lastRefusal 1 os with
  | some f, _ => .faulted f
  | none, some (n, e) => .failed (.ofStep n e)
  | none, none => .finished

/-- What is printed and reported is as for steps with the given outcomes, and the steps are
numbered from one. -/
structure Playback.Shows (p : Playback) (os : List StepOutcome) : Prop where
  lines : p.lines = p.format.lines 1 os
  ending : Cli.Ending.ofPlayback p = .ofOutcomes os

/-! ## One step after the other -/

namespace Replay

/-- The outcomes of steps that are carried out one after the other, also after one that
could not be resolved. A fault is the last. -/
def outcomes (r : Replay) : List Step → List StepOutcome
  | [] => []
  | s :: steps =>
    let (o, r) := r.step s
    if o.fault?.isSome then [o] else o :: r.outcomes steps

theorem outcomes_cons (r : Replay) (s : Step) (steps : List Step) :
    r.outcomes (s :: steps) = if (r.step s).1.fault?.isSome then [(r.step s).1]
      else (r.step s).1 :: (r.step s).2.outcomes steps :=
  rfl

theorem outcomes_of_fault (h : (r.step s).1.fault?.isSome) :
    r.outcomes (s :: steps) = [(r.step s).1] :=
  if_pos h

theorem outcomes_of_no_fault (h : (r.step s).1.fault? = none) :
    r.outcomes (s :: steps) = (r.step s).1 :: (r.step s).2.outcomes steps := by
  rw [outcomes_cons, h]
  exact if_neg Bool.false_ne_true

theorem outcomes_take : ∀ (r : Replay) (n : Nat) (steps : List Step),
    r.outcomes (steps.take n) = (r.outcomes steps).take n
  | _, 0, _ => by rw [List.take_zero, List.take_zero]; rfl
  | _, n + 1, [] => rfl
  | r, n + 1, s :: steps => by
    rw [List.take_succ_cons]
    cases hf : (r.step s).1.fault? with
    | none =>
      rw [outcomes_of_no_fault hf, outcomes_of_no_fault hf, List.take_succ_cons, outcomes_take]
    | some f =>
      have hsome := Option.isSome_of_eq_some hf
      rw [outcomes_of_fault hsome, outcomes_of_fault hsome, List.take_succ_cons, List.take_nil]

/-- A fault is the last outcome. -/
theorem fault?_of_outcomes_append : ∀ {r : Replay} {steps : List Step} {os : List StepOutcome}
    {o : StepOutcome} {os' : List StepOutcome}, r.outcomes steps = os ++ o :: os' →
    os.findSome? StepOutcome.fault? = none
  | _, _, [], _, _, _ => rfl
  | _, [], _ :: _, _, _, h => by cases h
  | r, s :: steps, o' :: os, o, os', h => by
    cases hf : (r.step s).1.fault? with
    | none =>
      rw [outcomes_of_no_fault hf] at h
      obtain ⟨rfl, htail⟩ := List.cons_eq_cons.1 h
      rw [List.findSome?_cons, hf]
      exact fault?_of_outcomes_append htail
    | some f =>
      rw [outcomes_of_fault (Option.isSome_of_eq_some hf)] at h
      exact absurd (List.cons_eq_cons.1 h).2 (by simp)

theorem run_cons (n : Nat) (r : Replay) (s : Step) (steps : List Step) :
    (run [] n r (s :: steps)).1 = if (r.step s).1.stops then [(r.step s).1]
      else (r.step s).1 :: (run [] (n + 1) (r.step s).2 steps).1 :=
  apply_ite Prod.fst _ _ _

theorem run_of_stops (h : (r.step s).1.stops) : (run [] n r (s :: steps)).1 = [(r.step s).1] := by
  rw [run_cons, if_pos h]

theorem run_of_goesOn (h : (r.step s).1.stops = false) :
    (run [] n r (s :: steps)).1 = (r.step s).1 :: (run [] (n + 1) (r.step s).2 steps).1 := by
  rw [run_cons, h]
  exact if_neg Bool.false_ne_true

theorem run_isPrefix : ∀ (n : Nat) (r : Replay) (steps : List Step),
    (run [] n r steps).1 <+: r.outcomes steps
  | _, _, [] => List.prefix_rfl
  | n, r, s :: steps => by
    cases hs : (r.step s).1.stops with
    | false =>
      rw [run_of_goesOn hs, outcomes_of_no_fault (StepOutcome.stops_eq_false_iff.1 hs).2]
      exact (List.prefix_cons_inj _).2 (run_isPrefix _ _ steps)
    | true =>
      rw [run_of_stops hs, outcomes_cons]
      split
      · exact List.prefix_rfl
      · exact List.prefix_append [_] _

end Replay

/-! ## Batches -/

namespace Playback

/-- What the playback printed and noted is as for steps with the given outcomes. -/
structure Tells (p : Playback) (os : List StepOutcome) : Prop where
  stepsRun : p.stepsRun = os.length
  lines : p.lines = p.format.lines 1 os
  failure : p.failure = lastRefusal 1 os
  fault : p.fault = os.findSome? StepOutcome.fault?

theorem Tells.fresh (config : Config) (format : Format) : (fresh config format).Tells [] :=
  ⟨rfl, rfl, rfl, rfl⟩

theorem Tells.shows (h : p.Tells os) : p.Shows os :=
  ⟨h.lines, by rw [Cli.Ending.ofPlayback, h.failure, h.fault]; rfl⟩

theorem step_of_fault (h : p.fault.isSome) (s : Step) : p.step s = p :=
  if_pos h

/-- What a step does to a playback that has met no fault. -/
theorem step_of_no_fault (h : p.fault = none) (s : Step) : p.step s =
    { p with
      replay := (p.replay.step s).2
      stepsRun := p.stepsRun + 1
      lines := p.lines ++ (p.replay.step s).1.printed.map (p.format.line (p.stepsRun + 1))
      failure := ((p.replay.step s).1.refusal?.map (p.stepsRun + 1, ·)).or p.failure
      fault := (p.replay.step s).1.fault? } := by
  obtain ⟨replay, format, stepsRun, lines, failure, fault⟩ := p
  obtain rfl : fault = none := h
  rw [step]
  obtain ⟨⟨result, commands⟩, r⟩ := replay.step s
  rcases result with (_ | _ | _) | (_ | _ | _ | _ | _) <;>
    simp [StepOutcome.printed, StepOutcome.stops, StepOutcome.refusal?, StepOutcome.fault?]

theorem Tells.step (h : p.Tells os) (hf : p.fault = none) (s : Step) :
    (p.step s).Tells (os ++ [(p.replay.step s).1]) := by
  rw [step_of_no_fault hf]
  have hn : 1 + os.length = p.stepsRun + 1 := by rw [h.stepsRun, Nat.add_comm]
  constructor
  · rw [List.length_append, ← h.stepsRun]
    rfl
  · rw [Format.lines_append, ← h.lines, hn]
    exact congrArg (p.lines ++ ·) (List.append_nil _).symm
  · rw [lastRefusal_append, ← h.failure, hn]
    rfl
  · rw [List.findSome?_append, ← h.fault, hf, Option.none_or, List.findSome?_singleton]

theorem foldl_step_of_fault (h : p.fault.isSome) : ∀ steps : List Step,
    steps.foldl Playback.step p = p
  | [] => rfl
  | s :: steps => by rw [List.foldl_cons, step_of_fault h, foldl_step_of_fault h steps]

/-- Carrying out steps adds their outcomes to what is told. -/
theorem Tells.foldl : ∀ {p : Playback} {os : List StepOutcome}, p.Tells os → p.fault = none →
    ∀ steps : List Step, (steps.foldl Playback.step p).Tells (os ++ p.replay.outcomes steps)
  | _, os, h, _, [] => (List.append_nil os).symm ▸ h
  | p, os, h, hf, s :: steps => by
    have hstep := h.step hf s
    have hfault : (p.step s).fault = (p.replay.step s).1.fault? := by rw [step_of_no_fault hf]
    rw [List.foldl_cons]
    cases hs : (p.replay.step s).1.fault? with
    | some f =>
      have hsome := Option.isSome_of_eq_some hs
      rw [Replay.outcomes_of_fault hsome, foldl_step_of_fault (hfault ▸ hsome)]
      exact hstep
    | none =>
      have hreplay : (p.step s).replay = (p.replay.step s).2 := by rw [step_of_no_fault hf]
      rw [Replay.outcomes_of_no_fault hs, ← hreplay, List.append_cons]
      exact hstep.foldl (hfault.trans hs) steps

/-! ## Turns of the loop -/

theorem stopped_eq_false_iff : p.stopped = false ↔ p.failure = none ∧ p.fault = none := by
  rw [stopped, Bool.or_eq_false_iff, Option.isSome_eq_false_iff, Option.isSome_eq_false_iff,
    Option.isNone_iff_eq_none, Option.isNone_iff_eq_none]

theorem stopped_step (h : p.stopped = false) (s : Step) :
    (p.step s).stopped = (p.replay.step s).1.stops := by
  obtain ⟨hfailure, hf⟩ := stopped_eq_false_iff.1 h
  rw [step_of_no_fault hf, stopped, hfailure, StepOutcome.stops_eq, Option.or_none,
    Option.isSome_map]

/-- A playback that is to stop stays so until the end of its batch. -/
theorem stopped_foldl : ∀ {p : Playback}, p.stopped → ∀ steps : List Step,
    (steps.foldl step p).stopped
  | _, h, [] => h
  | p, h, s :: steps => by
    refine stopped_foldl ?_ steps
    cases hf : p.fault with
    | some f => rwa [step_of_fault (Option.isSome_of_eq_some hf)]
    | none =>
      rw [stopped, hf, Option.isSome_none, Bool.or_false] at h
      rw [step_of_no_fault hf, stopped, Option.isSome_or, h, Bool.or_true, Bool.true_or]

/-- A playback that is to stop has carried out the step that a sequential replay ends with. -/
theorem length_run_le_of_stopped : ∀ {xs : List Step} {p : Playback} {n : Nat},
    p.stopped = false → (xs.foldl step p).stopped → ∀ ys : List Step,
    (Replay.run [] n p.replay (xs ++ ys)).1.length ≤ xs.length
  | [], p, n, h, hxs, _ => absurd hxs (by rw [List.foldl_nil, h]; exact Bool.false_ne_true)
  | s :: xs, p, n, h, hxs, ys => by
    rw [List.cons_append, List.length_cons]
    have hstep := stopped_step h s
    cases hs : (p.replay.step s).1.stops with
    | true =>
      rw [Replay.run_of_stops hs]
      exact Nat.le_add_left 1 _
    | false =>
      have hreplay : (p.step s).replay = (p.replay.step s).2 := by
        rw [step_of_no_fault (stopped_eq_false_iff.1 h).2]
      rw [Replay.run_of_goesOn hs, List.length_cons, ← hreplay]
      exact Nat.succ_le_succ (length_run_le_of_stopped (hstep.trans hs) hxs ys)

/-- Where a playback is not to stop, a sequential replay goes on. -/
theorem length_run_append : ∀ {xs : List Step} {p : Playback} {n : Nat},
    (xs.foldl step p).stopped = false → ∀ ys : List Step,
    (Replay.run [] n p.replay (xs ++ ys)).1.length =
      xs.length + (Replay.run [] (n + xs.length) (xs.foldl step p).replay ys).1.length
  | [], _, _, _, _ => (Nat.zero_add _).symm
  | s :: xs, p, n, hxs, ys => by
    have h : p.stopped = false := Bool.eq_false_iff.2 fun h =>
      Bool.false_ne_true (hxs.symm.trans (stopped_foldl h (s :: xs)))
    have hs : (p.replay.step s).1.stops = false := by
      rw [← stopped_step h]
      exact Bool.eq_false_iff.2 fun h =>
        Bool.false_ne_true (hxs.symm.trans (stopped_foldl h xs))
    have hreplay : (p.step s).replay = (p.replay.step s).2 := by
      rw [step_of_no_fault (stopped_eq_false_iff.1 h).2]
    rw [List.cons_append, Replay.run_of_goesOn hs, List.length_cons, ← hreplay,
      length_run_append (p := p.step s) hxs ys, List.length_cons, List.foldl_cons,
      Nat.add_right_comm n 1, Nat.add_right_comm, Nat.add_assoc n]

/-- The number of the last step in the batch that step `n` is in, if the batch is full. -/
def batchEnd (n : Nat) : Nat :=
  (n + (batchSize - 1)) / batchSize * batchSize

theorem batchEnd_of_pos (h : 0 < n) : batchEnd n = batchSize + batchEnd (n - batchSize) := by
  simp only [batchEnd, batchSize]
  omega

theorem le_batchEnd (n : Nat) : n ≤ batchEnd n := by
  simp only [batchEnd, batchSize]
  omega

theorem turns_of_stopped (h : p.stopped) (n : Nat) (queue : List Step) : p.turns n queue = p := by
  cases n with
  | zero => rfl
  | succ n => rw [turns, h, Bool.true_or, if_pos rfl]

/-- The turns of the loop are one pass over the steps up to the end of a batch, namely of the
one with the first step that stops. -/
theorem turns_eq_foldl : ∀ {turns : Nat} {p : Playback} {queue : List Step} (n : Nat),
    p.stopped = false → queue.length ≤ turns → p.turns turns queue =
      (queue.take (batchEnd (Replay.run [] n p.replay queue).1.length)).foldl step p
  | 0, p, queue, n, _, hlen => by
    obtain rfl := List.length_eq_zero_iff.1 (Nat.le_zero.1 hlen)
    rw [List.take_nil]
    rfl
  | turns + 1, p, [], n, h, _ => by
    rw [List.take_nil, Playback.turns, List.isEmpty_nil, Bool.or_true, if_pos rfl]
    rfl
  | turns + 1, p, s :: steps, n, h, hlen => by
    have hpos : 0 < (Replay.run [] n p.replay (s :: steps)).1.length := by
      rw [Replay.run_cons]
      split <;> exact Nat.succ_pos _
    rw [Playback.turns, h, List.isEmpty_cons, Bool.or_false, if_neg Bool.false_ne_true,
      batchEnd_of_pos hpos, List.take_add, List.foldl_append]
    -- What this turn takes from the queue, and what it leaves.
    have hqueue := List.take_append_drop batchSize (s :: steps)
    have htaken := List.length_take (i := batchSize) (l := s :: steps)
    have hleft := List.length_drop (i := batchSize) (l := s :: steps)
    generalize (s :: steps).take batchSize = batch at *
    generalize (s :: steps).drop batchSize = queue at *
    rw [← hqueue]
    cases hs : (batch.foldl step p).stopped with
    | true =>
      have hle := length_run_le_of_stopped (n := n) h hs queue
      have hzero : (Replay.run [] n p.replay (batch ++ queue)).1.length - batchSize = 0 := by
        omega
      rw [turns_of_stopped hs, hzero]
      rfl
    | false =>
      have hlength := length_run_append (n := n) hs queue
      have hbatch : 0 < batchSize := by decide
      rw [turns_eq_foldl (n + batch.length) hs (by rw [List.length_cons] at *; omega)]
      cases queue with
      | nil => rw [List.take_nil, List.take_nil]
      | cons s' queue =>
        rw [List.length_cons] at hleft
        rw [hlength, show batch.length = batchSize by omega, Nat.add_sub_cancel_left]

end Playback

/-! ## The result -/

theorem Cli.Report.number_of_ofStep_eq {i j : Nat} {e e' : StepError}
    (h : ofStep i e = ofStep j e') : i = j := by
  have hrepr : i.repr = j.repr := (String.append_right_inj _).1 (congrArg Report.message h)
  rw [Nat.repr_eq_ofList_toDigits, Nat.repr_eq_ofList_toDigits, String.ofList_inj] at hrepr
  have hread := congrArg (Nat.ofDigitChars 10 · 0) hrepr
  rwa [Nat.ofDigitChars_toDigits (by decide) (by decide),
    Nat.ofDigitChars_toDigits (by decide) (by decide)] at hread

/-- More outcomes after ones without a fault change the ending if one of them stops. -/
theorem Cli.Ending.ofOutcomes_append (hfault : os.findSome? StepOutcome.fault? = none)
    (os' : List StepOutcome) :
    ofOutcomes (os ++ os') = ofOutcomes os ↔ ∀ o ∈ os', o.refusal? = none ∧ o.fault? = none := by
  rw [ofOutcomes, ofOutcomes, List.findSome?_append, lastRefusal_append, hfault, Option.none_or,
    forall₂_and, ← lastRefusal_eq_none_iff (n := 1 + os.length), ← List.findSome?_eq_none_iff]
  cases hf : os'.findSome? StepOutcome.fault? with
  | some f =>
    refine iff_of_false (fun he => ?_) (by simp)
    cases hr : lastRefusal 1 os <;> rw [hr] at he <;> cases he
  | none =>
    cases hr : lastRefusal (1 + os.length) os' with
    | none => simp
    | some reported =>
      obtain ⟨i, e⟩ := reported
      rw [Option.some_or]
      refine iff_of_false (fun he => ?_) (by simp)
      cases hr' : lastRefusal 1 os with
      | none =>
        rw [hr'] at he
        cases he
      | some reported' =>
        obtain ⟨j, e'⟩ := reported'
        rw [hr'] at he
        have hi := StepOutcome.le_of_lastRefusal hr
        have hj := StepOutcome.le_of_lastRefusal hr'
        have := Cli.Report.number_of_ofStep_eq (Ending.failed.inj he)
        omega

/-- A playback that shows some outcomes and more shows the former alone just when the latter are
silent. -/
theorem Playback.Shows.left_iff (h : p.Shows (os ++ os'))
    (hfault : os.findSome? StepOutcome.fault? = none) : p.Shows os ↔ ∀ o ∈ os', o.Silent := by
  have hlines : p.lines = p.format.lines 1 os ↔ ∀ o ∈ os', o.printed = [] := by
    rw [h.lines, Format.lines_append, List.append_right_eq_self, Format.lines_eq_nil_iff]
  have hending := Cli.Ending.ofOutcomes_append hfault os'
  rw [← h.ending] at hending
  constructor
  · intro hshows o hm
    obtain ⟨hrefusal, hno⟩ := hending.1 hshows.ending o hm
    exact ⟨hlines.1 hshows.lines o hm, hrefusal, hno⟩
  · intro hsilent
    exact ⟨hlines.2 fun o hm => (hsilent o hm).printed,
      hending.2 fun o hm => ⟨(hsilent o hm).refusal?, (hsilent o hm).fault?⟩⟩

/-- What a playback shows is as for the steps up to the end of the batch in which the first
step stops. A replay that ends with that step begins in the same way, and it shows the same just
when the rest of the batch is silent. -/
theorem Playback.play_exact (config : Config) (format : Format) (script : List Step) :
    let p := (fresh config format).play script
    let sequential := (Replay.run [] 1 (.fresh config) script).1
    let carried := ((Replay.fresh config).outcomes script).take (batchEnd sequential.length)
    p.Shows carried ∧ sequential <+: carried ∧
      (p.Shows sequential ↔ ∀ o ∈ carried.drop sequential.length, o.Silent) := by
  intro p sequential carried
  have hshows : p.Shows carried := by
    have hp : p = _ := turns_eq_foldl (p := fresh config format) 1 rfl (Nat.le_refl _)
    have htells := (Tells.fresh config format).foldl rfl
      (script.take (batchEnd sequential.length))
    rw [List.nil_append, Replay.outcomes_take] at htells
    rw [hp]
    exact htells.shows
  have hprefix : sequential <+: carried :=
    List.prefix_take_iff.2 ⟨Replay.run_isPrefix 1 _ script, le_batchEnd _⟩
  refine ⟨hshows, hprefix, ?_⟩
  obtain ⟨rest, hrest⟩ := hprefix
  rw [← hrest] at hshows ⊢
  rw [List.drop_left]
  cases rest with
  | nil =>
    rw [List.append_nil] at hshows
    exact iff_of_true hshows fun o hm => nomatch hm
  | cons o rest =>
    exact hshows.left_iff
      (Replay.fault?_of_outcomes_append (hrest.trans (Replay.outcomes_take ..).symm).symm)

/-- A label that nothing goes by, and after it an output that is told its background. -/
def strayScript : List Step :=
  [.windowRemoved "nope", .outputAdded "o" "DP-1" ⟨0, 0⟩ ⟨800, 600⟩]

/-- What follows a step that stops can be printed. -/
theorem Playback.not_sequential : ¬ ∀ config format script,
    ((fresh config format).play script).fault = none →
      ((fresh config format).play script).Shows (Replay.run [] 1 (.fresh config) script).1 := by
  intro hsequential
  have hlines := (hsequential .default .text strayScript (by decide +kernel)).lines
  exact absurd (congrArg List.length hlines) (by decide +kernel)

end Kiosk
