import Kiosk.Proofs.Lookups
import Kiosk.Proofs.Playback

/-!
# Labels are written once

A replay goes in rounds: a step is looked up, its event is dispatched, and the label it claimed is
bound to the record that was made or is free again (`Labels.Passes`). No round takes from a label
what it stands for, and none gives it a second record (`Labels.Grows`). So over a whole replay,
whatever allocations are refused, labels are written once, looked up to the same records ever after,
and handles given out once (`Replay.labels_write_once`).

The rounds go on after a step that could not be looked up, as a playback does within a batch, and
end with a fault only. A sequential replay is the beginning of them (`Replay.run_isPrefix_rounds`).
-/

namespace Kiosk

variable {config : Config} {l l' : Labels} {s : Step} {label x : String} {kind : Kind}
  {reply : Reply} {result : Except StepError Reply} {handle : Option (Kind × Nat)} {r : Replay}
  {steps : List Step} {failAt : List Nat} {n : Nat}

/-- The record that a reply says was made. -/
def Reply.made? : Reply → Option Referent
  | .window w => some ⟨.window, w⟩
  | .output o => some ⟨.output, o⟩
  | .seat j => some ⟨.seat, j⟩
  | _ => none

theorem Reply.made?_ofFault (fault : Option Fault) : (ofFault fault).made? = none := by
  cases fault <;> rfl

/-- An event that has no handle makes no record, and one that has makes one of its kind. -/
theorem Desktop.made?_dispatch (d : Desktop) (e : Event) {ref : Referent}
    (h : (d.dispatch e).1.made? = some ref) : ∃ n, e.handle? = some (ref.1, n) := by
  cases e with
  | windowAdded surface appId parent =>
    change (Reply.ofWindow (d.windowAdded surface appId parent).1).made? = some ref at h
    cases hmade : (d.windowAdded surface appId parent).1 <;> rw [hmade] at h <;> cases h
    exact ⟨_, rfl⟩
  | outputAdded handle name area =>
    change (Reply.ofOutput (d.outputAdded handle name area).1).made? = some ref at h
    cases hmade : (d.outputAdded handle name area).1 <;> rw [hmade] at h <;> cases h
    exact ⟨_, rfl⟩
  | seatAdded handle name hasKeyboard =>
    cases h
    exact ⟨_, rfl⟩
  | windowCommitted => exact absurd h (by simp [dispatch, Reply.made?_ofFault])
  | outputResized => exact absurd h (by simp [dispatch, Reply.made?_ofFault])
  | _ => cases h

/-! ## What labels stand for -/

namespace Labels

theorem referents_eq_nil_iff : l.referents label = [] ↔ l.isBound label = false := by
  simp [referents, isBound, Assoc.contains, and_assoc]

theorem referents_claimed (l : Labels) (label : String) (kind : Kind) :
    (l.claimed label kind).referents = l.referents := by
  cases kind <;> rfl

theorem pending_claimed (l : Labels) (label : String) (kind : Kind) :
    (l.claimed label kind).pending = some label := by
  cases kind <;> rfl

theorem last_claimed (l : Labels) (label : String) (kind k : Kind) :
    (l.claimed label kind).last k = if k = kind then l.last k + 1 else l.last k := by
  cases kind <;> cases k <;> rfl

/-! ## Binding -/

theorem bind_of_settled (h : l.pending = none) (reply : Reply) : l.bind reply = l := by
  rw [bind, h]

theorem pending_bind (l : Labels) (reply : Reply) : (l.bind reply).pending = none := by
  unfold bind
  split
  · assumption
  · cases reply <;> rfl

theorem last_bind (l : Labels) (reply : Reply) : (l.bind reply).last = l.last := by
  unfold bind
  split
  · rfl
  · cases reply <;> funext kind <;> cases kind <;> rfl

/-- A free label that waits comes to stand for what is made, and no other label changes. -/
theorem referents_bind (hp : l.pending = some label) (hfree : l.referents label = [])
    (reply : Reply) (x : String) : (l.bind reply).referents x =
      if x = label then reply.made?.toList else l.referents x := by
  rw [bind, hp]
  by_cases hx : x = label
  · subst hx
    simp [referents] at hfree
    cases reply <;> simp [referents, Assoc.get?_insert, Reply.made?, hfree]
  · cases reply <;> simp [referents, Assoc.get?_insert, hx]

/-! ## One round -/

/-- What a round does to settled labels, with the handle it gives out. -/
inductive Passes (l : Labels) (s : Step) :
    Option (Kind × Nat) → Except StepError Reply → Labels → Prop
  | refused (e : StepError) : Passes l s none (.error e) l
  | faulted {kind : Kind} {label : String} (hs : s.claim? = some (kind, label)) (f : Fault) :
      Passes l s none (.error (.fault f)) (l.claimed label kind)
  | read {reply : Reply} (hs : s.claim? = none) (hr : reply.made? = none) :
      Passes l s none (.ok reply) l
  | claimed {kind : Kind} {label : String} {reply : Reply} (hs : s.claim? = some (kind, label))
      (hl : l.isBound label = false) (hr : ∀ ref, reply.made? = some ref → ref.1 = kind) :
      Passes l s (some (kind, l.last kind + 1)) (.ok reply) ((l.claimed label kind).bind reply)

/-- No label stands for more than one record. -/
def Single (l : Labels) : Prop := ∀ label, (l.referents label).length ≤ 1

theorem Single.eq_singleton {ref : Referent} (h : l.Single) (hm : ref ∈ l.referents label) :
    l.referents label = [ref] := by
  have hlength := h label
  generalize l.referents label = refs at hm hlength
  match refs with
  | [] => cases hm
  | [_] => rw [List.mem_singleton.1 hm]
  | _ :: _ :: _ => simp at hlength

theorem fresh_single : fresh.Single := fun _ => Nat.zero_le _

/-- In `l'` labels stand for what they stood for in `l`, and no handle is taken back. -/
structure Grows (l l' : Labels) : Prop where
  kept : ∀ label ref, ref ∈ l.referents label → l'.referents label = [ref]
  last : ∀ kind, l.last kind ≤ l'.last kind

theorem Grows.refl (h : l.Single) : Grows l l :=
  ⟨fun _ _ hm => h.eq_singleton hm, fun _ => Nat.le_refl _⟩

theorem Grows.trans {l'' : Labels} (h : Grows l l') (h' : Grows l' l'') : Grows l l'' where
  kept label ref hm := h'.kept label ref (h.kept label ref hm ▸ List.mem_cons_self)
  last kind := Nat.le_trans (h.last kind) (h'.last kind)

/-- What a label is looked up to in `l`, it is in `l'`. -/
theorem Grows.on_lookup {id : Id kind} (h : Grows l l')
    (hid : (lookup kind label).on l = (.ok id, l)) : (lookup kind label).on l' = (.ok id, l') := by
  have hm : (⟨kind, id⟩ : Referent) ∈ l.referents label :=
    mem_referents_iff.2 (on_lookup_eq_ok_iff.1 hid)
  refine on_lookup_eq_ok_iff.2 (mem_referents_iff.1 ?_)
  rw [h.kept label _ hm]
  exact List.mem_cons_self

namespace Passes

/-- A label that is claimed comes to stand for what is made, and no other label changes. -/
theorem referents_claimed_bind (hl : l.isBound label = false) (reply : Reply) (x : String) :
    ((l.claimed label kind).bind reply).referents x =
      if x = label then reply.made?.toList else l.referents x := by
  rw [referents_bind (pending_claimed l label kind), referents_claimed]
  rw [referents_claimed]
  exact referents_eq_nil_iff.2 hl

theorem last_claimed_bind (l : Labels) (label : String) (kind : Kind) (reply : Reply) (k : Kind) :
    ((l.claimed label kind).bind reply).last k =
      if k = kind then l.last k + 1 else l.last k := by
  rw [last_bind, last_claimed]

theorem single (h : l.Passes s handle result l') (hl : l.Single) : l'.Single := by
  intro x
  cases h with
  | refused | read => exact hl x
  | faulted =>
    rw [referents_claimed]
    exact hl x
  | claimed hs hfree hr =>
    rw [referents_claimed_bind hfree]
    split
    · exact Option.length_toList_le
    · exact hl x

theorem grows (h : l.Passes s handle result l') (hl : l.Single) : Grows l l' := by
  cases h with
  | refused | read => exact .refl hl
  | faulted =>
    refine ⟨fun x ref hm => ?_, fun k => ?_⟩
    · rw [referents_claimed]
      exact hl.eq_singleton hm
    · rw [last_claimed]
      split <;> omega
  | @claimed kind label reply hs hfree hr =>
    refine ⟨fun x ref hm => ?_, fun k => ?_⟩
    · rw [referents_claimed_bind hfree, if_neg]
      · exact hl.eq_singleton hm
      · rintro rfl
        rw [referents_eq_nil_iff.2 hfree] at hm
        cases hm
    · rw [last_claimed_bind]
      split <;> omega

/-- What a step does that makes a record and could be looked up. -/
theorem of_claim {reply : Reply} (h : l.Passes s handle (.ok reply) l')
    (hs : s.claim? = some (kind, label)) : l.isBound label = false ∧
      handle = some (kind, l.last kind + 1) ∧ l' = (l.claimed label kind).bind reply ∧
      ∀ ref, reply.made? = some ref → ref.1 = kind := by
  cases h with
  | read hnone => cases hnone.symm.trans hs
  | claimed hs' hl hr =>
    obtain ⟨rfl, rfl⟩ := Prod.mk.inj (Option.some.inj (hs.symm.trans hs'))
    exact ⟨hl, rfl, rfl, hr⟩

/-- A handle that is given out was not given out before, and counts as given out from now on. -/
theorem last_lt {n : Nat} (h : l.Passes s (some (kind, n)) result l') :
    l.last kind < n ∧ n ≤ l'.last kind := by
  cases h with
  | claimed hs hfree hr =>
    rw [last_claimed_bind, if_pos rfl]
    exact ⟨Nat.lt_succ_self _, Nat.le_refl _⟩

theorem settled (h : l.Passes s handle result l') (hp : l.pending = none)
    (hf : ∀ f, result ≠ .error (.fault f)) : l'.pending = none := by
  cases h with
  | refused | read => exact hp
  | faulted hs f => exact absurd rfl (hf f)
  | claimed => exact pending_bind _ _

/-- Unless a size makes it fault, a step that cannot be looked up leaves the labels as they are. -/
theorem atomic {e : StepError} (h : l.Passes s handle (.error e) l') (hf : ∀ f, e ≠ .fault f) :
    l' = l := by
  cases h with
  | refused => rfl
  | faulted hs f => exact absurd rfl (hf f)

end Passes

end Labels

/-- What becomes of a step is what becomes of its event, if it has one. -/
theorem Replay.result_step (r : Replay) (s : Step) :
    (r.step s).1.result = (r.labels.resolve s).1.map fun e => (r.desktop.dispatch e).1 := by
  unfold step
  rcases r.labels.resolve s with ⟨_ | _, _⟩ <;> rfl

/-- A round of a replay whose labels are settled. -/
theorem Replay.step_passes (hp : r.labels.pending = none) (s : Step) :
    r.labels.Passes s ((r.labels.resolve s).1.toOption.bind Event.handle?) (r.step s).1.result
      (r.step s).2.labels := by
  have hresolves := r.labels.resolve_resolves s
  unfold step
  generalize r.labels.resolve s = resolved at hresolves
  obtain ⟨e | e, l⟩ := resolved
  · cases hresolves with
    | refused => exact .refused e
    | faulted hs f => exact .faulted hs f
  · have hmade (ref : Referent) := @Desktop.made?_dispatch r.desktop e ref
    cases hresolves with
    | read hs he =>
      show Labels.Passes _ _ e.handle? (.ok (r.desktop.dispatch e).1) (r.labels.bind _)
      rw [he, Labels.bind_of_settled hp]
      refine .read hs (Option.eq_none_iff_forall_ne_some.2 fun ref href => ?_)
      obtain ⟨n, hn⟩ := hmade ref href
      exact nomatch he.symm.trans hn
    | claimed hs hl he =>
      show Labels.Passes _ _ e.handle? (.ok (r.desktop.dispatch e).1) ((r.labels.claimed ..).bind _)
      rw [he]
      refine .claimed hs hl fun ref href => ?_
      obtain ⟨n, hn⟩ := hmade ref href
      exact (congrArg Prod.fst (Option.some.inj (he.symm.trans hn))).symm

/-! ## All rounds -/

theorem StepOutcome.ne_fault {o : StepOutcome} (h : o.fault? = none) (f : Fault) :
    o.result ≠ .error (.fault f) := by
  intro hr
  rw [StepOutcome.fault?, hr] at h
  cases h

namespace Replay

/-- One step as it was carried out, with the labels before and after. -/
structure Round where
  before : Labels
  step : Step
  outcome : StepOutcome
  after : Labels

/-- The handle that the event of the round was for. -/
def Round.handle? (round : Round) : Option (Kind × Nat) :=
  (round.before.resolve round.step).1.toOption.bind Event.handle?

/-- The replay with its host set to refuse the next view, if step `n` is to be refused one. -/
def prepared (failAt : List Nat) (n : Nat) (r : Replay) : Replay :=
  { r with desktop :=
      if n ∈ failAt then r.desktop.tell ({ · with failNextView := true }) else r.desktop }

theorem run_step (failAt : List Nat) (n : Nat) (r : Replay) (s : Step) (steps : List Step) :
    run failAt n r (s :: steps) =
      let (o, r') := (r.prepared failAt n).step s
      if o.stops then ([o], r')
      else (o :: (run failAt (n + 1) r' steps).1, (run failAt (n + 1) r' steps).2) :=
  rfl

/-- The steps one after the other, numbered from `n`, also after one that could not be looked up. A
fault is in the last round. -/
def rounds (failAt : List Nat) (n : Nat) (r : Replay) : List Step → List Round
  | [] => []
  | s :: steps =>
    let (o, r') := (r.prepared failAt n).step s
    ⟨r.labels, s, o, r'.labels⟩ :: if o.fault?.isSome then [] else rounds failAt (n + 1) r' steps

/-- A sequential replay is the beginning of the rounds. -/
theorem run_isPrefix_rounds : ∀ (steps : List Step) (n : Nat) (r : Replay),
    (run failAt n r steps).1 <+: (r.rounds failAt n steps).map Round.outcome
  | [], _, _ => List.prefix_rfl
  | s :: steps, n, r => by
    have hrest := run_isPrefix_rounds steps (n + 1) ((r.prepared failAt n).step s).2
    rw [run_step, rounds]
    generalize (r.prepared failAt n).step s = stepped at hrest
    obtain ⟨o, r'⟩ := stepped
    dsimp only at hrest ⊢
    rw [List.map_cons]
    cases hs : o.stops with
    | true =>
      rw [if_pos rfl]
      exact List.prefix_append [o] _
    | false =>
      rw [if_neg Bool.false_ne_true, (StepOutcome.stops_eq_false_iff.1 hs).2,
        Option.isSome_none, if_neg Bool.false_ne_true]
      exact (List.prefix_cons_inj o).2 hrest

/-- The rounds follow one another, on labels that are settled in between. -/
inductive Follow : Labels → List Round → Prop
  | nil (l : Labels) : Follow l []
  | cons {round : Round} {rest : List Round} (hp : round.before.pending = none)
      (hpasses : round.before.Passes round.step round.handle? round.outcome.result round.after)
      (hresult : ∃ d : Desktop, round.outcome.result =
        (round.before.resolve round.step).1.map fun e => (d.dispatch e).1)
      (hrest : Follow round.after rest) : Follow round.before (round :: rest)

theorem follow_rounds : ∀ (steps : List Step) (n : Nat) {r : Replay}, r.labels.pending = none →
    Follow r.labels (r.rounds failAt n steps)
  | [], _, r, _ => .nil r.labels
  | s :: steps, n, r, hp => by
    have hpasses := step_passes (r := r.prepared failAt n) hp s
    have hresult := result_step (r.prepared failAt n) s
    have hrest := follow_rounds steps (n + 1) (r := ((r.prepared failAt n).step s).2)
    rw [rounds]
    generalize (r.prepared failAt n).step s = stepped at hpasses hresult hrest
    obtain ⟨o, r'⟩ := stepped
    dsimp only at hpasses hresult hrest ⊢
    refine @Follow.cons ⟨r.labels, s, o, r'.labels⟩ _ hp hpasses ⟨_, hresult⟩ ?_
    cases hf : o.fault? with
    | some f => exact .nil _
    | none => exact hrest (hpasses.settled hp (StepOutcome.ne_fault hf))

namespace Follow

variable {rs : List Round} {round : Round}

theorem passes (h : Follow l rs) (hm : round ∈ rs) : round.before.pending = none ∧
    round.before.Passes round.step round.handle? round.outcome.result round.after := by
  induction h with
  | nil => cases hm
  | cons hp hpasses _ _ ih =>
    rcases List.mem_cons.1 hm with rfl | hm
    · exact ⟨hp, hpasses⟩
    · exact ih hm

theorem dispatched (h : Follow l rs) (hm : round ∈ rs) : ∃ d : Desktop, round.outcome.result =
    (round.before.resolve round.step).1.map fun e => (d.dispatch e).1 := by
  induction h with
  | nil => cases hm
  | cons _ _ hresult _ ih =>
    rcases List.mem_cons.1 hm with rfl | hm
    · exact hresult
    · exact ih hm

theorem grows (h : Follow l rs) (hl : l.Single) (hm : round ∈ rs) :
    round.before.Single ∧ l.Grows round.before := by
  induction h with
  | nil => cases hm
  | cons hp hpasses _ _ ih =>
    rcases List.mem_cons.1 hm with rfl | hm
    · exact ⟨hl, .refl hl⟩
    · obtain ⟨hsingle, hgrows⟩ := ih (hpasses.single hl) hm
      exact ⟨hsingle, (hpasses.grows hl).trans hgrows⟩

theorem pairwise (h : Follow l rs) (hl : l.Single) :
    rs.Pairwise fun a b => a.after.Grows b.before := by
  induction h with
  | nil => exact .nil
  | cons hp hpasses _ hrest ih =>
    have hafter := hpasses.single hl
    exact .cons (fun b hb => (hrest.grows hafter hb).2) (ih hafter)

/-- A later handle has a greater number. -/
theorem nodup_handles (h : Follow l rs) (hl : l.Single) : (rs.filterMap Round.handle?).Nodup := by
  refine List.pairwise_filterMap.2 ((h.pairwise hl).imp_of_mem ?_)
  rintro a b ha hb hgrows ⟨kind, i⟩ hi ⟨_, j⟩ hj he
  obtain ⟨rfl, rfl⟩ := Prod.mk.inj he
  have hfirst := (h.passes ha).2
  have hsecond := (h.passes hb).2
  rw [hi] at hfirst
  rw [hj] at hsecond
  have := hfirst.last_lt.2
  have := hsecond.last_lt.1
  have := hgrows.last kind
  omega

end Follow

/-! ## The result -/

/-- In these rounds labels are written once, and looking a step up is all or nothing. -/
structure WriteOnce (rs : List Round) : Prop where
  /-- A label stands for one record at most. -/
  single : ∀ round ∈ rs, ∀ label, (round.before.referents label).length ≤ 1 ∧
    (round.after.referents label).length ≤ 1
  /-- What a label stands for after one round, it stands for in all later ones. -/
  kept : ∀ round ∈ rs, ∀ label ref, ref ∈ round.before.referents label →
    round.after.referents label = [ref]
  keeps : rs.Pairwise fun a b => ∀ label ref, ref ∈ a.after.referents label →
    b.before.referents label = [ref] ∧ b.after.referents label = [ref]
  /-- A label is looked up to the record of the kind that it stands for. -/
  found : ∀ round ∈ rs, ∀ l ∈ [round.before, round.after], ∀ kind label id,
    (⟨kind, id⟩ : Referent) ∈ l.referents label → (Labels.lookup kind label).on l = (.ok id, l)
  /-- A label that stands for no record of the kind is unknown. -/
  unknown : ∀ round ∈ rs, ∀ l ∈ [round.before, round.after], ∀ kind label,
    (∀ id, (⟨kind, id⟩ : Referent) ∉ l.referents label) →
      (Labels.lookup kind label).on l = (.error (.unknownLabel kind label), l)
  /-- What a label is looked up to once, it is for the rest of the replay, whether or not that
  record is still there. -/
  same : ∀ round ∈ rs, ∀ kind label id,
    (Labels.lookup kind label).on round.before = (.ok id, round.before) →
      (Labels.lookup kind label).on round.after = (.ok id, round.after)
  sames : rs.Pairwise fun a b => ∀ kind label id,
    (Labels.lookup kind label).on a.after = (.ok id, a.after) →
      (Labels.lookup kind label).on b.before = (.ok id, b.before) ∧
      (Labels.lookup kind label).on b.after = (.ok id, b.after)
  /-- The event of a step is about what the labels in the step stand for, and the first of them that
  stands for nothing is reported. -/
  finds : ∀ round ∈ rs, round.before.Finds (fun refs e => e.names = refs) round.step.names
    (round.before.resolve round.step).1
  dispatched : ∀ round ∈ rs, ∃ d : Desktop, round.outcome.result =
    (round.before.resolve round.step).1.map fun e => (d.dispatch e).1
  /-- A label that is claimed stood for nothing, and then stands for what was made. -/
  claimed : ∀ round ∈ rs, ∀ kind label reply, round.step.claim? = some (kind, label) →
    round.outcome.result = .ok reply → round.before.referents label = [] ∧
      round.after.referents label = reply.made?.toList ∧
      ∀ ref, reply.made? = some ref → ref.1 = kind
  /-- Where nothing was made, the label can be claimed again. -/
  refused : ∀ round ∈ rs, ∀ kind label shortage, round.step.claim? = some (kind, label) →
    round.outcome.result = .ok (.refused shortage) → round.after.referents label = [] ∧
      (Labels.claim label).on round.after = (.ok (), { round.after with pending := some label })
  /-- No handle is given out twice for records of one kind, made or not. -/
  handles : (rs.filterMap Round.handle?).Nodup
  handle : ∀ round ∈ rs, ∀ kind label reply, round.step.claim? = some (kind, label) →
    round.outcome.result = .ok reply → ∃ n, round.handle? = some (kind, n)
  /-- No label waits between rounds. -/
  settled : ∀ round ∈ rs, round.before.pending = none ∧
    (round.outcome.fault? = none → round.after.pending = none)
  atomic : ∀ round ∈ rs, ∀ e, round.outcome.result = .error e → (∀ f, e ≠ .fault f) →
    round.after = round.before

theorem Follow.writeOnce {rs : List Round} (h : Follow l rs) (hl : l.Single) : WriteOnce rs where
  single round hm label := by
    have hbefore := (h.grows hl hm).1
    exact ⟨hbefore label, (h.passes hm).2.single hbefore label⟩
  kept round hm := ((h.passes hm).2.grows (h.grows hl hm).1).kept
  keeps := by
    refine (h.pairwise hl).imp_of_mem fun {a b} _ hb hgrows label ref href => ?_
    exact ⟨hgrows.kept label ref href,
      (hgrows.trans ((h.passes hb).2.grows (h.grows hl hb).1)).kept label ref href⟩
  found _ _ l _ kind label id hid :=
    Labels.on_lookup_eq_ok_iff.2 (Labels.mem_referents_iff.1 hid)
  unknown _ _ l _ kind label hnone :=
    Labels.on_lookup_eq_error fun id hid => hnone id (Labels.mem_referents_iff.2 hid)
  same round hm _ _ _ hid := ((h.passes hm).2.grows (h.grows hl hm).1).on_lookup hid
  sames := by
    refine (h.pairwise hl).imp_of_mem fun {a b} _ hb hgrows kind label id hid => ?_
    have hbefore := hgrows.on_lookup hid
    exact ⟨hbefore, ((h.passes hb).2.grows (h.grows hl hb).1).on_lookup hbefore⟩
  finds round _ := round.before.resolve_finds round.step
  dispatched _ hm := h.dispatched hm
  claimed round hm kind label reply hs hr := by
    obtain ⟨hfree, -, hafter, hkind⟩ := (hr ▸ (h.passes hm).2).of_claim hs
    rw [hafter, Labels.Passes.referents_claimed_bind hfree, if_pos rfl]
    exact ⟨Labels.referents_eq_nil_iff.2 hfree, rfl, hkind⟩
  refused round hm kind label shortage hs hr := by
    obtain ⟨hfree, -, hafter, -⟩ := (hr ▸ (h.passes hm).2).of_claim hs
    have hnone : round.after.referents label = [] := by
      rw [hafter, Labels.Passes.referents_claimed_bind hfree, if_pos rfl]
      rfl
    rw [Labels.on_claim, Labels.referents_eq_nil_iff.1 hnone]
    exact ⟨hnone, rfl⟩
  handles := h.nodup_handles hl
  handle round hm kind label reply hs hr :=
    ⟨_, ((hr ▸ (h.passes hm).2).of_claim hs).2.1⟩
  settled round hm := by
    obtain ⟨hp, hpasses⟩ := h.passes hm
    exact ⟨hp, fun hf => hpasses.settled hp (StepOutcome.ne_fault hf)⟩
  atomic round hm e hr := (hr ▸ (h.passes hm).2).atomic

/-- Over a whole replay, whatever allocations are refused, labels are written once. -/
theorem labels_write_once (config : Config) (failAt : List Nat) (script : List Step) :
    (run failAt 1 (.fresh config) script).1 <+:
      ((fresh config).rounds failAt 1 script).map Round.outcome ∧
    WriteOnce ((fresh config).rounds failAt 1 script) :=
  ⟨run_isPrefix_rounds script 1 _,
    (follow_rounds script 1 (r := fresh config) rfl).writeOnce Labels.fresh_single⟩

/-- A label still stands for a window that was removed. -/
example : ((fresh default).rounds [] 1 [.windowAdded "w" none none, .windowRemoved "w",
    .windowRemoved "w"]).map (fun round => (round.before.resolve round.step).1.toOption) =
    [some (.windowAdded ⟨1⟩ none none), some (.windowRemoved ⟨0, 1⟩),
      some (.windowRemoved ⟨0, 1⟩)] := by
  decide +kernel

end Replay

end Kiosk
