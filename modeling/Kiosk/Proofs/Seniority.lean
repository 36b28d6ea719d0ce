import Kiosk.Proofs.Registry
import Kiosk.Proofs.Rosters

/-!
# Who came first

A run registers outputs and seats, and the replies to its actions name them in the order
of their registration (`Desktop.registered`, `Desktop.seated`). That order is the one in
which the records that are left are listed (`Roster.Chronicle`, `Desktop.run_chronicle`),
whatever slots they are in: an id that is gone is spent, and no later record gets it
(`Arena.Spent`).

So a search through outputs or seats finds the one that came first (`Earliest`).
-/

namespace Kiosk

/-! ## The first in a list -/

section Earliest

variable {α β : Type} {xs : List α} {P : α → Prop} {p : α → Bool} {x : α}

/-- `x` is the first of `xs` that has the property. -/
def Earliest (xs : List α) (P : α → Prop) (x : α) : Prop :=
  ∃ before after, xs = before ++ x :: after ∧ P x ∧ ∀ y ∈ before, ¬ P y

theorem Earliest.holds (h : Earliest xs P x) : P x := by
  obtain ⟨_, _, _, hx, _⟩ := h
  exact hx

theorem find?_eq_some_iff_earliest (hp : ∀ x, p x ↔ P x) :
    xs.find? p = some x ↔ Earliest xs P x := by
  rw [List.find?_eq_some_iff_append, hp]
  constructor
  · rintro ⟨hx, before, after, rfl, hbefore⟩
    exact ⟨before, after, rfl, hx, fun y hy hP => by simpa [(hp y).2 hP] using hbefore y hy⟩
  · rintro ⟨before, after, rfl, hx, hbefore⟩
    refine ⟨hx, before, after, rfl, fun y hy => ?_⟩
    rw [Bool.eq_false_iff.2 fun hpy => hbefore y hy ((hp y).1 hpy)]
    rfl

/-- A search for a value finds that of the first which has one. -/
theorem findSome?_eq_some_iff_earliest {f : α → Option β} {Q : α → β → Prop}
    (hf : ∀ x b, f x = some b ↔ Q x b) {b : β} :
    xs.findSome? f = some b ↔ ∃ x, Earliest xs (fun x => ∃ b, Q x b) x ∧ Q x b := by
  have hnone (y : α) : f y = none ↔ ¬ ∃ b, Q y b := by
    rw [Option.eq_none_iff_forall_ne_some, not_exists]
    exact forall_congr' fun b => not_congr (hf y b)
  rw [List.findSome?_eq_some_iff]
  constructor
  · rintro ⟨before, x, after, rfl, hx, hbefore⟩
    have hx := (hf x b).1 hx
    exact ⟨x, ⟨before, after, rfl, ⟨b, hx⟩, fun y hy => (hnone y).1 (hbefore y hy)⟩, hx⟩
  · rintro ⟨x, ⟨before, after, rfl, -, hbefore⟩, hx⟩
    exact ⟨before, x, after, rfl, (hf x b).2 hx, fun y hy => (hnone y).2 (hbefore y hy)⟩

theorem find?_eq_none_iff_forall (hp : ∀ x, p x ↔ P x) :
    xs.find? p = none ↔ ∀ x ∈ xs, ¬ P x := by
  rw [List.find?_eq_none]
  exact forall₂_congr fun x _ => not_congr (hp x)

end Earliest

/-! ## Ids that are spent -/

namespace Arena

variable {kind : Kind} {α : Type} {a : Arena kind α} {id : Id kind}

/-- `id` names a record, or named one that is gone. -/
def Spent (a : Arena kind α) (id : Id kind) : Prop :=
  ∃ s, a.slots[id.slot]? = some s ∧
    (id.generation < s.generation ∨ id.generation = s.generation ∧ s.record.isSome)

theorem spent_of_contains (h : a.contains id) : a.Spent id := by
  obtain ⟨record, hr⟩ := Option.isSome_iff_exists.1 h
  exact ⟨_, getElem?_of_get? hr, .inr ⟨rfl, rfl⟩⟩

/-- A new record gets an id that was never used. -/
theorem not_spent_insert (a : Arena kind α) (record : α) : ¬ a.Spent (a.insert record).1 := by
  rintro ⟨s, hs, hspent⟩
  unfold insert at hs hspent
  split at hs
  · next i free hf =>
    obtain ⟨t, ht, hv⟩ := a.free_vacant i (by simp [hf])
    grind
  · grind

theorem Spent.insert (h : a.Spent id) (record : α) : (a.insert record).2.Spent id := by
  obtain ⟨s, hs, hspent⟩ := h
  unfold Arena.insert
  split
  · next i free hf =>
    obtain ⟨t, ht, hv⟩ := a.free_vacant i (by simp [hf])
    unfold Spent
    grind
  · unfold Spent
    grind

theorem Spent.erase (h : a.Spent id) (j : Id kind) : (a.erase j).Spent id := by
  obtain ⟨s, hs, hspent⟩ := h
  unfold Arena.erase
  split
  · next record hr =>
    have hslot := getElem?_of_get? hr
    unfold Spent
    grind
  · exact ⟨s, hs, hspent⟩

end Arena

/-! ## Rosters with their history -/

namespace Roster

variable {kind : Kind} {α β : Type} {r : Roster kind α} {born : List (Id kind)} {id : Id kind}

/-- `born` lists all records that `r` ever got, oldest first. -/
structure Chronicle (born : List (Id kind)) (r : Roster kind α) : Prop where
  nodup : born.Nodup
  spent : ∀ id ∈ born, r.arena.Spent id
  mem : ∀ id, r.contains id → id ∈ born
  /-- Those that are left are listed as they came. -/
  order : r.order = born.filter r.contains

namespace Chronicle

theorem empty : Chronicle [] (Roster.empty : Roster kind α) := by
  refine ⟨List.nodup_nil, fun _ hm => (nomatch hm), fun id hc => ?_, rfl⟩
  have hnone : ((Roster.empty : Roster kind α).get? id).isSome := hc
  rw [get?_empty] at hnone
  cases hnone

theorem insert (h : Chronicle born r) (record : α) :
    Chronicle (born ++ [(r.insert record).1]) (r.insert record).2 := by
  have hnew : (r.insert record).1 ∉ born := fun hm =>
    r.arena.not_spent_insert record (h.spent _ hm)
  have hcontains := r.contains_insert record
  have horder : (r.insert record).2.order = r.order ++ [(r.insert record).1] := rfl
  refine ⟨?_, fun id hm => ?_, fun id hc => ?_, ?_⟩
  · exact List.nodup_append.2 ⟨h.nodup, List.nodup_singleton _,
      fun a ha b hb hab => hnew (List.mem_singleton.1 hb ▸ hab ▸ ha)⟩
  · rcases List.mem_append.1 hm with hm | hm
    · exact (h.spent id hm).insert record
    · rw [List.mem_singleton.1 hm]
      exact Arena.spent_of_contains ((hcontains _).2 (.inl rfl))
  · rcases (hcontains id).1 hc with hid | hold
    · exact List.mem_append_right born (List.mem_singleton.2 hid)
    · exact List.mem_append_left _ (h.mem id hold)
  · rw [horder, List.filter_append, List.filter_cons_of_pos ((hcontains _).2 (.inl rfl)),
      List.filter_nil, h.order]
    refine congrArg (· ++ _) (List.filter_congr fun id hm => ?_)
    rw [Bool.eq_iff_iff, hcontains]
    have hne : id ≠ (r.insert record).1 := fun hid => hnew (hid ▸ hm)
    simp [hne]

theorem erase (h : Chronicle born r) (j : Id kind) : Chronicle born (r.erase j) := by
  have hcontains := r.contains_erase j
  refine ⟨h.nodup, fun id hm => ?_, fun id hc => h.mem id ((hcontains id).1 hc).2, ?_⟩
  · unfold Roster.erase
    split
    · exact (h.spent id hm).erase j
    · exact h.spent id hm
  · have horder : (r.erase j).order = r.order.filter (· ≠ j) := by
      cases hlive : r.contains j with
      | true =>
        rw [Roster.erase, hlive]
        rfl
      | false =>
        rw [Roster.erase, hlive]
        refine (List.filter_eq_self.2 fun id hm => decide_eq_true ?_).symm
        rintro rfl
        have hm : id ∈ r.order := hm
        rw [h.order, List.mem_filter, hlive] at hm
        cases hm.2
    rw [horder, h.order, List.filter_filter]
    refine List.filter_congr fun id _ => ?_
    rw [Bool.eq_iff_iff, hcontains]
    simp

theorem mem_order (h : Chronicle born r) (id : Id kind) : id ∈ r.order ↔ r.contains id := by
  rw [h.order, List.mem_filter]
  exact and_iff_right_of_imp (h.mem id)

theorem ordered (h : Chronicle born r) : r.Ordered :=
  ⟨h.order ▸ h.nodup.filter _, h.mem_order⟩

/-- A choice among the live ids is one among all that were ever there. -/
theorem filter_order (h : Chronicle born r) {p : Id kind → Bool}
    (hp : ∀ id, p id → r.contains id) : r.order.filter p = born.filter p := by
  rw [h.order, List.filter_filter]
  refine List.filter_congr fun id _ => ?_
  cases hid : p id with
  | false => rfl
  | true => rw [hp id hid, Bool.and_self]

/-- The oldest record is the first that is left. -/
theorem oldest_iff (h : Chronicle born r) (id : Id kind) :
    r.oldest = some id ↔ Earliest born (r.contains ·) id := by
  rw [oldest, h.order, List.head?_filter]
  exact find?_eq_some_iff_earliest fun _ => Iff.rfl

theorem oldest_eq_none_iff (h : Chronicle born r) :
    r.oldest = none ↔ ∀ id, ¬ r.contains id := by
  rw [oldest, List.head?_eq_none_iff, List.eq_nil_iff_forall_not_mem]
  exact forall_congr' fun id => not_congr (h.mem_order id)

end Chronicle

/-- The live records, as they came. -/
theorem Chronicle.toList (h : Chronicle born r) :
    r.toList = born.filterMap fun id => (r.get? id).map (id, ·) := by
  rw [Roster.toList, h.order, List.filterMap_filter]
  refine List.filterMap_congr fun id _ => ?_
  split
  · rfl
  · next hgone =>
    have hnone : r.get? id = none := Option.not_isSome_iff_eq_none.1 hgone
    rw [hnone]
    rfl

/-- A search through the records is one through all that were ever there. -/
theorem Chronicle.find?_toList (h : Chronicle born r) (p : α → Bool) :
    (r.toList.find? (p ·.2)).map Prod.fst = born.find? fun id => (r.get? id).any p := by
  have hany (id : Id kind) : ((r.get? id).map (id, ·)).any (p ·.2) = (r.get? id).any p :=
    Option.any_map
  rw [h.toList, List.find?_filterMap]
  simp only [hany]
  cases hf : born.find? fun id => (r.get? id).any p with
  | none => rfl
  | some id =>
    have hid := List.find?_some hf
    obtain ⟨record, hr, -⟩ := (Option.any_eq_true ..).1 hid
    rw [Option.bind_some, hr]
    rfl

theorem Chronicle.findSome?_toList (h : Chronicle born r) (f : α → Option β) :
    (r.toList.findSome? fun e => f e.2) = born.findSome? fun id => (r.get? id).bind f := by
  rw [h.toList, ← List.head?_filterMap, List.filterMap_filterMap, List.head?_filterMap]
  exact congrArg (born.findSome? ·) (funext fun id => Option.bind_map)

theorem Chronicle.of_map {f : α → β} (h : Chronicle born (r.map f)) : Chronicle born r where
  nodup := h.nodup
  spent id hm := by
    obtain ⟨s', hs', hspent⟩ := h.spent id hm
    obtain ⟨s, hs, rfl⟩ := Option.map_eq_some_iff.1 (List.getElem?_map.symm.trans hs')
    refine ⟨s, hs, ?_⟩
    rwa [Slot.map, Option.isSome_map] at hspent
  mem id hc := h.mem id ((r.contains_map f id).trans hc)
  order := by
    have hsame : (r.map f).contains = r.contains := funext (r.contains_map f)
    exact h.order.trans (by rw [hsame])

end Roster

/-! ## Runs -/

namespace Registry

variable {g g' : Registry} {outputs : List OutputId} {seats : List SeatId} {reply : Reply}

/-- The outputs and seats that were ever registered, oldest first. -/
structure Chronicle (outputs : List OutputId) (seats : List SeatId) (g : Registry) : Prop where
  outputs : g.outputs.Chronicle outputs
  seats : g.seats.Chronicle seats

theorem Chronicle.step (h : Chronicle outputs seats g) (hs : g.Step reply g') :
    Chronicle (outputs ++ reply.output?.toList) (seats ++ reply.seat?.toList) g' := by
  have houtputs : g.outputs.Chronicle (outputs ++ []) := (List.append_nil outputs).symm ▸ h.outputs
  have hseats : g.seats.Chronicle (seats ++ []) := (List.append_nil seats).symm ▸ h.seats
  cases hs with
  | keep ho hs =>
    rw [ho, hs]
    exact ⟨houtputs, hseats⟩
  | addOutput name => exact ⟨h.outputs.insert _, hseats⟩
  | removeOutput o => exact ⟨houtputs.erase o, hseats⟩
  | addSeat => exact ⟨houtputs, h.seats.insert _⟩
  | removeSeat seat => exact ⟨houtputs, hseats.erase seat⟩

end Registry

namespace Desktop

variable {config : Config} {d d' : Desktop} {as : List Action} {outputs : List OutputId}
  {seats : List SeatId}

/-- The replies to actions one after the other. -/
def replies (d : Desktop) : List Action → List Reply
  | [] => []
  | a :: as => (d.act a).1 :: (d.act a).2.replies as

/-- The outputs that actions register, in that order. -/
def registered (d : Desktop) (as : List Action) : List OutputId :=
  (d.replies as).filterMap Reply.output?

/-- The seats that actions add, in that order. -/
def seated (d : Desktop) (as : List Action) : List SeatId :=
  (d.replies as).filterMap Reply.seat?

theorem registered_cons (d : Desktop) (a : Action) (as : List Action) :
    d.registered (a :: as) = (d.act a).1.output?.toList ++ (d.act a).2.registered as := by
  rw [registered, replies, List.filterMap_cons]
  cases (d.act a).1.output? <;> rfl

theorem seated_cons (d : Desktop) (a : Action) (as : List Action) :
    d.seated (a :: as) = (d.act a).1.seat?.toList ++ (d.act a).2.seated as := by
  rw [seated, replies, List.filterMap_cons]
  cases (d.act a).1.seat? <;> rfl

theorem chronicle_run : ∀ (as : List Action) {d : Desktop} {outputs : List OutputId}
    {seats : List SeatId}, d.shell.registry.Chronicle outputs seats → d.run as = some d' →
    d'.shell.registry.Chronicle (outputs ++ d.registered as) (seats ++ d.seated as)
  | [], _, outputs, seats, h, hr => by
    cases hr
    rw [registered, seated, replies, List.filterMap_nil, List.append_nil]
    exact ⟨h.outputs, (List.append_nil seats).symm ▸ h.seats⟩
  | a :: as, d, outputs, seats, h, hr => by
    have hrun := chronicle_run as (h.step (d.act_registers a)) (run_cons hr).2
    rwa [List.append_assoc, List.append_assoc, ← registered_cons, ← seated_cons] at hrun

/-- Outputs and seats are listed as a run registered them. -/
theorem run_chronicle (h : (fresh config).run as = some d) :
    d.shell.outputs.Chronicle ((fresh config).registered as) ∧
    d.shell.seats.Chronicle ((fresh config).seated as) := by
  have hfresh : (fresh config).shell.registry.Chronicle [] [] := ⟨.empty, .empty⟩
  have hrun := chronicle_run as hfresh h
  exact ⟨hrun.outputs.of_map, hrun.seats.of_map⟩

theorem run_append (as bs : List Action) (d : Desktop) :
    d.run (as ++ bs) = (d.run as).bind (·.run bs) := by
  induction as generalizing d with
  | nil => rfl
  | cons a as ih =>
    rw [List.cons_append, run, run]
    split
    · rfl
    · exact ih _

end Desktop

/-- Runs lead to all that is reached. -/
theorem Reached.exists_run {config : Config} {d : Desktop} (h : Reached config d) :
    ∃ as, (Desktop.fresh config).run as = some d := by
  induction h with
  | fresh => exact ⟨[], rfl⟩
  | @act d a _ ok ih =>
    obtain ⟨as, has⟩ := ih
    refine ⟨as ++ [a], ?_⟩
    rw [Desktop.run_append, has, Option.bind_some, Desktop.run]
    split
    · next fault d' he => exact absurd (congrArg Prod.fst he) (ok fault)
    · next d' _ he => rw [he, Desktop.run]

end Kiosk
