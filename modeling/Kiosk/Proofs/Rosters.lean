import Kiosk.Store.Roster
import Mathlib.Data.List.Basic

/-!
# Rosters in order

The order list of a roster holds the ids that are live, each once. Every
operation keeps that: a new record's id is not in the list yet, and the id of a
record that goes is taken out of it.

So each live record is listed once, and so it is in an arena, which lists one
record a slot.
-/

namespace Kiosk

theorem Arena.nodup_ids {kind : Kind} {α : Type} (a : Arena kind α) : a.ids.Nodup := by
  have hslots : (a.slots.zipIdx.map Prod.snd).Nodup := by
    rw [List.zipIdx_map_snd]
    exact List.nodup_range' 1
  rw [ids, toList, List.map_filterMap]
  refine List.Pairwise.filterMap _ ?_ (List.pairwise_map.1 hslots)
  rintro ⟨s, i⟩ ⟨t, j⟩ hij id hs id' ht rfl
  obtain ⟨e, he, hid⟩ := Option.map_eq_some_iff.1 hs
  obtain ⟨e', he', hid'⟩ := Option.map_eq_some_iff.1 ht
  obtain ⟨record, -, rfl⟩ := Option.map_eq_some_iff.1 he
  obtain ⟨record', -, rfl⟩ := Option.map_eq_some_iff.1 he'
  exact hij (congrArg Id.slot (hid.trans hid'.symm))

namespace Roster

variable {kind : Kind} {α : Type} {r r' : Roster kind α} {id : Id kind}

/-- The order lists what is live, each id once. -/
structure Ordered (r : Roster kind α) : Prop where
  nodup : r.order.Nodup
  mem : ∀ id, id ∈ r.order ↔ r.contains id

/-- A choice among the records is one among the ids in order. -/
theorem filter_toList (r : Roster kind α) (p : α → Bool) :
    (r.toList.filter (p ·.2)).map Prod.fst = r.order.filter fun id => (r.get? id).any p := by
  rw [toList, List.filter_filterMap, List.map_filterMap, ← List.filterMap_eq_filter]
  refine List.filterMap_congr fun id _ => ?_
  cases hr : r.get? id with
  | none => simp [Option.guard, hr]
  | some record => cases hp : p record <;> simp [Option.guard, hr, hp]

theorem ordered_empty : (empty : Roster kind α).Ordered := by
  refine ⟨List.nodup_nil, fun id => ?_⟩
  show id ∈ [] ↔ ((empty : Roster kind α).get? id).isSome
  rw [get?_empty]
  simp

namespace Ordered

theorem congr (h : r.Ordered) (ho : r'.order = r.order)
    (hc : ∀ id, r'.contains id = r.contains id) : r'.Ordered := by
  refine ⟨ho ▸ h.nodup, fun id => ?_⟩
  rw [ho, hc]
  exact h.mem id

theorem not_mem (h : r.Ordered) (hn : r.get? id = none) : id ∉ r.order := by
  intro hm
  have hlive : (r.get? id).isSome := (h.mem id).1 hm
  rw [hn] at hlive
  cases hlive

theorem insert (h : r.Ordered) (record : α) : (r.insert record).2.Ordered := by
  have hnew : (r.insert record).1 ∉ r.order := h.not_mem (Arena.get?_insert_self r.arena record)
  have horder : (r.insert record).2.order = r.order ++ [(r.insert record).1] := rfl
  refine ⟨?_, fun id => ?_⟩
  · rw [horder, List.nodup_append]
    refine ⟨h.nodup, List.pairwise_singleton _ _, fun a ha b hb hab => hnew ?_⟩
    rw [← List.mem_singleton.1 hb, ← hab]
    exact ha
  · rw [horder, List.mem_append, List.mem_singleton, h.mem, contains_insert, or_comm]

theorem erase (h : r.Ordered) (id : Id kind) : (r.erase id).Ordered := by
  cases hlive : r.contains id with
  | false =>
    rw [Roster.erase, hlive]
    exact h
  | true =>
    have horder : (r.erase id).order = r.order.filter (· ≠ id) := by
      rw [Roster.erase, hlive]
      rfl
    refine ⟨horder ▸ h.nodup.filter _, fun j => ?_⟩
    rw [horder, List.mem_filter, h.mem, contains_erase, and_comm, decide_eq_true_iff]

/-- The list of records has the ids of the order. -/
theorem map_fst_toList (h : r.Ordered) : r.toList.map Prod.fst = r.order := by
  rw [toList, List.map_filterMap]
  refine (List.filterMap_congr (g := some) fun id hid => ?_).trans List.filterMap_some
  obtain ⟨record, hrecord⟩ := Option.isSome_iff_exists.1 ((h.mem id).1 hid)
  rw [show r.get? id = some record from hrecord]
  rfl

theorem mem_toList {record : α} (h : r.Ordered) :
    (id, record) ∈ r.toList ↔ r.get? id = some record := by
  rw [toList, List.mem_filterMap]
  constructor
  · rintro ⟨j, -, hj⟩
    obtain ⟨record', hrecord, he⟩ := Option.map_eq_some_iff.1 hj
    cases he
    exact hrecord
  · intro hid
    exact ⟨id, (h.mem id).2 (Option.isSome_iff_exists.2 ⟨record, hid⟩), by rw [hid]; rfl⟩

end Ordered

end Roster

end Kiosk
