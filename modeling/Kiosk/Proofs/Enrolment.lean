import Kiosk.Proofs.Handover
import Kiosk.Proofs.Since

/-!
# Enrolment

A run enrols outputs and seats and lets some of them go. Their records lie in slots that
are used again, so where a record lies says nothing about its age. The lists beside the
arenas are right about both (`Desktop.enrolment_exact`):

* they hold the ids that are live in the arena, each once, in the order in which the run
  made them, so that going through a list goes through all records (`Roster.Lists`);
* the default output is the oldest one that is left, and a choice of seats is a choice among
  all that were ever made, in that order (`Shell.Enrols`).

What is live is read off the run as well: it is what an action made, and no later event let
go (`Desktop.Outlasts`). This goes from one action (`Desktop.act_enrols`) to a run by adding
actions at its end (`Desktop.run_outlasts_iff`).
-/

namespace Kiosk

/-! ## Rosters that list what they hold -/

namespace Roster

variable {kind : Kind} {α : Type} {r : Roster kind α} {born : List (Id kind)}

/-- The roster lists what its arena holds, in the order of `born`, in which the records were
made. -/
structure Lists (born : List (Id kind)) (r : Roster kind α) : Prop where
  /-- No id is used for two records, also when slots are used again. -/
  unique : born.Nodup
  nodup : r.order.Nodup
  live : r.order.Perm r.arena.ids
  order : r.order = born.filter r.contains
  ids : r.toList.map Prod.fst = r.order
  records : r.toList.Perm r.arena.toList
  size : r.size = r.arena.size
  isEmpty : r.isEmpty ↔ ∀ id, ¬ r.contains id

namespace Chronicle

theorem records_perm (h : Chronicle born r) : r.toList.Perm r.arena.toList := by
  have hlisted : r.toList.Nodup := .of_map Prod.fst (h.ordered.map_fst_toList ▸ h.ordered.nodup)
  have hheld : r.arena.toList.Nodup := .of_map Prod.fst r.arena.nodup_ids
  refine (List.perm_ext_iff_of_nodup hlisted hheld).2 fun ⟨id, record⟩ => ?_
  rw [h.ordered.mem_toList, Arena.mem_toList]
  rfl

theorem lists (h : Chronicle born r) : r.Lists born := by
  have hids := h.ordered.map_fst_toList
  have hlive : r.order.Perm r.arena.ids := hids ▸ h.records_perm.map Prod.fst
  have hempty : r.isEmpty ↔ ∀ id, ¬ r.contains id := by
    rw [isEmpty, List.isEmpty_iff, List.eq_nil_iff_forall_not_mem]
    exact forall_congr' fun id => not_congr (h.mem_order id)
  refine ⟨h.nodup, h.ordered.nodup, hlive, h.order, hids, h.records_perm, ?_, hempty⟩
  exact hlive.length_eq.trans (List.length_map _)

end Chronicle

end Roster

/-! ## What a run leaves -/

namespace Desktop

variable {P : Desktop → Prop} {d d' d₁ : Desktop} {as : List Action} {a : Action} {made : Reply}
  {gone : Event}

/-- In the run from `d`, an action was answered with `made`, and no later one was `gone`. -/
def Outlasts (d : Desktop) (as : List Action) (made : Reply) (gone : Event) : Prop :=
  ∃ before a after d₁, as = before ++ a :: after ∧ d.run before = some d₁ ∧
    (d₁.act a).1 = made ∧ .event gone ∉ after

theorem outlasts_concat (hr : d.run as = some d₁) : d.Outlasts (as ++ [a]) made gone ↔
    (d₁.act a).1 = made ∨ d.Outlasts as made gone ∧ a ≠ .event gone := by
  constructor
  · rintro ⟨before, b, after, d₂, he, hbefore, hmade, hafter⟩
    obtain rfl | ⟨after, c, rfl⟩ := after.eq_nil_or_concat'
    · -- The last action is the one that was answered with `made`.
      obtain ⟨rfl, hb⟩ := List.append_inj' he rfl
      cases hb
      cases hr.symm.trans hbefore
      exact .inl hmade
    · rw [← List.cons_append, ← List.append_assoc] at he
      obtain ⟨rfl, hc⟩ := List.append_inj' he rfl
      cases hc
      rw [List.mem_append, List.mem_singleton, not_or] at hafter
      exact .inr ⟨⟨before, b, after, d₂, rfl, hbefore, hmade, hafter.1⟩, Ne.symm hafter.2⟩
  · rintro (hmade | ⟨⟨before, b, after, d₂, rfl, hbefore, hmade, hafter⟩, hne⟩)
    · exact ⟨as, a, [], d₁, rfl, hr, hmade, List.not_mem_nil⟩
    · refine ⟨before, b, after ++ [a], d₂, by simp, hbefore, hmade, ?_⟩
      rw [List.mem_append, List.mem_singleton, not_or]
      exact ⟨hafter, Ne.symm hne⟩

/-- What sets in when `made` is answered, and ends with `gone`, holds in the end exactly if no
`gone` came after a `made`. -/
theorem run_outlasts_iff (hr : d.run as = some d') (hfirst : ¬ P d)
    (hstep : ∀ d a, P (d.act a).2 ↔ (d.act a).1 = made ∨ P d ∧ a ≠ .event gone) :
    P d' ↔ d.Outlasts as made gone := by
  induction as using List.reverseRecOn generalizing d' with
  | nil =>
    cases hr
    refine iff_of_false hfirst ?_
    rintro ⟨before, a, after, _, he, -⟩
    cases before <;> cases he
  | append_singleton as a ih =>
    obtain ⟨d₁, hbefore, -, rfl⟩ := run_concat hr
    rw [hstep, ih hbefore, outlasts_concat hbefore]

end Desktop

/-! ## What an action leaves -/

theorem Reply.ofOutput_ne_seat (added : Except Shortage OutputId) (seat : SeatId) :
    ofOutput added ≠ .seat seat := by
  cases added <;> simp [ofOutput]

namespace Shell

variable (s : Shell)

theorem contains_addSeat (handle : SeatHandle) (name : String) (hasKeyboard : Bool)
    (seat : SeatId) : (s.addSeat handle name hasKeyboard).2.seats.contains seat ↔
      Reply.seat (s.addSeat handle name hasKeyboard).1 = .seat seat ∨ s.seats.contains seat := by
  rw [Reply.seat.injEq, eq_comm (b := seat)]
  exact s.seats.contains_insert _ seat

end Shell

namespace Desktop

variable (d : Desktop)

theorem contains_outputAdded (handle : OutputHandle) (name : String) (area : Rect) (o : OutputId) :
    (d.outputAdded handle name area).2.shell.outputs.contains o ↔
      .ofOutput (d.outputAdded handle name area).1 = Reply.output o ∨
        d.shell.outputs.contains o := by
  unfold outputAdded
  split
  · exact (or_iff_right nofun).symm
  · rw [Roster.contains_insert, Reply.ofOutput, Reply.output.injEq, eq_comm (b := o)]

theorem seats_outputAdded (handle : OutputHandle) (name : String) (area : Rect) :
    (d.outputAdded handle name area).2.shell.seats = d.shell.seats := by
  unfold outputAdded
  split <;> rfl

/-- What is there after an action that neither makes it nor lets it go was there before. -/
theorem kept_iff {live live' : Bool} {reply made : Reply} {a gone : Action} (h : live' = live)
    (hmade : reply ≠ made) (hgone : a ≠ gone) : live' ↔ reply = made ∨ live ∧ a ≠ gone := by
  rw [h, or_iff_right hmade, and_iff_left hgone]

/-- What is live after an action is what it made, and what was live before and was not let go
by it. -/
theorem act_enrols (a : Action) :
    (∀ o, (d.act a).2.shell.outputs.contains o ↔ (d.act a).1 = .output o ∨
      d.shell.outputs.contains o ∧ a ≠ .event (.outputRemoved o)) ∧
    ∀ seat, (d.act a).2.shell.seats.contains seat ↔ (d.act a).1 = .seat seat ∨
      d.shell.seats.contains seat ∧ a ≠ .event (.seatRemoved seat) := by
  -- Only the four events that concern the registry are of interest one by one.
  cases ha : a.registers with
  | false =>
    obtain ⟨hkept, houtput, hseat⟩ := d.act_unregistered ha
    refine ⟨fun o => kept_iff ?_ ?_ ?_, fun seat => kept_iff ?_ ?_ ?_⟩
    · rw [← Shell.contains_registry_outputs, hkept, Shell.contains_registry_outputs]
    · exact fun h => nomatch (congrArg Reply.output? h).symm.trans houtput
    · rintro rfl
      cases ha
    · rw [← Shell.contains_registry_seats, hkept, Shell.contains_registry_seats]
    · exact fun h => nomatch (congrArg Reply.seat? h).symm.trans hseat
    · rintro rfl
      cases ha
  | true =>
    cases a with
    | event e =>
      cases e with
      | outputAdded handle name area =>
        refine ⟨fun o => ?_, fun seat => kept_iff ?_ ?_ nofun⟩
        · rw [and_iff_left nofun]
          exact d.contains_outputAdded handle name area o
        · exact congrArg (·.contains seat) (d.seats_outputAdded handle name area)
        · exact Reply.ofOutput_ne_seat (d.outputAdded handle name area).1 seat
      | outputRemoved x =>
        refine ⟨fun o => ?_, fun seat => kept_iff ?_ nofun nofun⟩
        · rw [or_iff_right nofun, ne_eq, Action.event.injEq, Event.outputRemoved.injEq]
          exact d.contains_outputs_outputRemoved x o
        · exact d.contains_seats_outputRemoved x seat
      | seatAdded handle name hasKeyboard =>
        refine ⟨fun o => kept_iff rfl nofun nofun, fun seat => ?_⟩
        rw [and_iff_left nofun]
        exact d.shell.contains_addSeat handle name hasKeyboard seat
      | seatRemoved x =>
        refine ⟨fun o => kept_iff ?_ nofun nofun, fun seat => ?_⟩
        · exact d.contains_outputs_seatRemoved x o
        · rw [or_iff_right nofun, ne_eq, Action.event.injEq, Event.seatRemoved.injEq]
          exact d.contains_seats_seatRemoved x seat
      | _ => cases ha
    | call c => cases ha
    | switch s => cases ha

end Desktop

/-! ## The result -/

/-- Outputs and seats are listed, and searched, in the order of `outputs` and `seats`, in which they
were made. -/
structure Shell.Enrols (s : Shell) (outputs : List OutputId) (seats : List SeatId) : Prop where
  outputs_listed : s.outputs.Lists outputs
  seats_listed : s.seats.Lists seats
  /-- The default output is the oldest one that is left. -/
  default_iff : ∀ o, Outputs.default s.outputs = some o ↔ Earliest outputs (s.outputs.contains ·) o
  default_none : Outputs.default s.outputs = none ↔ ∀ o, ¬ s.outputs.contains o
  withKeyboard : s.seats.withKeyboard = seats.filter s.hasKeyboard
  focusedOn : ∀ w, s.seats.focusedOn w = seats.filter fun seat => s.focusedWindow seat = some w

theorem Shell.enrols {s : Shell} {outputs : List OutputId} {seats : List SeatId}
    (houtputs : s.outputs.Chronicle outputs) (hseats : s.seats.Chronicle seats) :
    s.Enrols outputs seats := by
  refine ⟨houtputs.lists, hseats.lists, houtputs.oldest_iff, houtputs.oldest_eq_none_iff,
    s.withKeyboard_eq.trans (hseats.filter_order fun _ => contains_of_hasKeyboard),
    fun w => (s.focusedOn_eq w).trans (hseats.filter_order fun seat hf => ?_)⟩
  exact contains_of_focusedWindow (of_decide_eq_true hf)

/-- After every run, outputs and seats are listed as the run made them, and those that are live are
the ones it has made and not let go. -/
theorem Desktop.enrolment_exact {config : Config} {d : Desktop} {as : List Action}
    (h : (fresh config).run as = some d) :
    d.shell.Enrols ((fresh config).registered as) ((fresh config).seated as) ∧
    (∀ o, d.shell.outputs.contains o ↔
      (fresh config).Outlasts as (.output o) (.outputRemoved o)) ∧
    ∀ seat, d.shell.seats.contains seat ↔
      (fresh config).Outlasts as (.seat seat) (.seatRemoved seat) := by
  obtain ⟨houtputs, hseats⟩ := run_chronicle h
  refine ⟨Shell.enrols houtputs hseats, fun o => ?_, fun seat => ?_⟩
  · refine run_outlasts_iff (P := (·.shell.outputs.contains o)) h ?_ fun d a => (d.act_enrols a).1 o
    exact fun hnone => by cases hnone
  · refine run_outlasts_iff (P := (·.shell.seats.contains seat)) h ?_
      fun d a => (d.act_enrols a).2 seat
    exact fun hnone => by cases hnone

/-- Two of three outputs and one of two seats go away, and others come into their slots. -/
def turnoverRun : List Action :=
  [.event (.outputAdded ⟨1⟩ "DP-1" ⟨.origin, outputSize⟩),
    .event (.outputAdded ⟨2⟩ "DP-2" ⟨⟨1920, 0⟩, outputSize⟩),
    .event (.outputAdded ⟨3⟩ "DP-3" ⟨⟨3840, 0⟩, outputSize⟩),
    .event (.seatAdded ⟨7⟩ "seat0" true),
    .event (.seatAdded ⟨8⟩ "seat1" true),
    .event (.outputRemoved ⟨0, 1⟩),
    .event (.outputRemoved ⟨1, 1⟩),
    .event (.seatRemoved ⟨0, 1⟩),
    .event (.outputAdded ⟨4⟩ "DP-4" ⟨.origin, outputSize⟩),
    .event (.outputAdded ⟨5⟩ "DP-5" ⟨⟨1920, 0⟩, outputSize⟩),
    .event (.seatAdded ⟨9⟩ "seat2" true),
    .event (.windowAdded ⟨10⟩ none none)]

theorem isSome_turnoverRun : ((Desktop.fresh .default).run turnoverRun).isSome := by
  decide +kernel

/-- The arena has the outputs by slot, youngest first; they are listed oldest first. -/
theorem enrolment_exact_turnoverRun : ∃ d, (Desktop.fresh .default).run turnoverRun = some d ∧
    d.shell.Enrols [⟨0, 1⟩, ⟨1, 1⟩, ⟨2, 1⟩, ⟨1, 2⟩, ⟨0, 2⟩] [⟨0, 1⟩, ⟨1, 1⟩, ⟨0, 2⟩] ∧
    d.shell.outputs.arena.ids = [⟨0, 2⟩, ⟨1, 2⟩, ⟨2, 1⟩] ∧
    d.shell.outputs.order = [⟨2, 1⟩, ⟨1, 2⟩, ⟨0, 2⟩] ∧
    d.shell.seats.focusedOn ⟨0, 1⟩ = [⟨1, 1⟩, ⟨0, 2⟩] ∧
    (Desktop.fresh .default).Outlasts turnoverRun (.seat ⟨0, 2⟩) (.seatRemoved ⟨0, 2⟩) := by
  have hrun := (Option.some_get isSome_turnoverRun).symm
  obtain ⟨henrols, -, hseats⟩ := Desktop.enrolment_exact hrun
  have houtputs : (Desktop.fresh .default).registered turnoverRun =
      [⟨0, 1⟩, ⟨1, 1⟩, ⟨2, 1⟩, ⟨1, 2⟩, ⟨0, 2⟩] := by decide +kernel
  have hseated : (Desktop.fresh .default).seated turnoverRun = [⟨0, 1⟩, ⟨1, 1⟩, ⟨0, 2⟩] := by
    decide +kernel
  rw [houtputs, hseated] at henrols
  exact ⟨_, hrun, henrols, by decide +kernel, by decide +kernel, by decide +kernel,
    (hseats ⟨0, 2⟩).1 (by decide +kernel)⟩

end Kiosk
