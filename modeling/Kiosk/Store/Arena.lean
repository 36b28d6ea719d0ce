/-!
# Slot arenas

Records live in numbered slots. An erased record's slot goes on top of a stack
of free slots, and the next record takes the top of that stack, or a new slot at
the end when the stack is empty. Iteration goes by slot.

An `Id` names a slot together with the generation of the record put there.
Erasing a record moves its slot on to the next generation, so an id resolves to
nothing once its record is gone. Generations start at one: an id of generation
zero never names a record (`Id.stale`).
-/

namespace Kiosk

/-- What an id names. -/
inductive Kind where
  | window
  | output
  | seat
  deriving DecidableEq, Repr

/-- The name of a record in an arena of the given kind. -/
structure Id (kind : Kind) where
  slot : Nat
  generation : Nat
  deriving DecidableEq, Repr

/-- An id that never names a record. -/
def Id.stale {kind : Kind} : Id kind := ⟨0, 0⟩

instance {kind : Kind} : Inhabited (Id kind) := ⟨.stale⟩

abbrev WindowId := Id .window
abbrev OutputId := Id .output
abbrev SeatId := Id .seat

/-- One slot: the generation of its current or next record, and that record. -/
structure Slot (α : Type) where
  generation : Nat
  record : Option α
  deriving DecidableEq, Repr

/-- Records of type `α` under ids of the given kind. -/
structure Arena (kind : Kind) (α : Type) where
  slots : List (Slot α)
  /-- The free slots, most recently freed first. -/
  free : List Nat
  free_vacant : ∀ i ∈ free, ∃ s, slots[i]? = some s ∧ s.record = none
  free_nodup : free.Nodup

namespace Arena

variable {kind : Kind} {α : Type}

/-- The arena without records. -/
def empty : Arena kind α := ⟨[], [], by simp, List.nodup_nil⟩

instance : Inhabited (Arena kind α) := ⟨empty⟩

/-- The record named by `id`, if it is live. -/
def get? (a : Arena kind α) (id : Id kind) : Option α :=
  match a.slots[id.slot]? with
  | some s => if s.generation = id.generation then s.record else none
  | none => none

/-- Whether `id` names a record. -/
def contains (a : Arena kind α) (id : Id kind) : Bool :=
  (a.get? id).isSome

/-- The live records with their ids, by slot. -/
def toList (a : Arena kind α) : List (Id kind × α) :=
  a.slots.zipIdx.filterMap fun (s, i) => s.record.map (⟨i, s.generation⟩, ·)

/-- The live ids, by slot. -/
def ids (a : Arena kind α) : List (Id kind) :=
  a.toList.map Prod.fst

/-- The number of live records. -/
def size (a : Arena kind α) : Nat :=
  a.toList.length

private theorem vacant_set {slots : List (Slot α)} {i j : Nat} {s : Slot α} (hij : i ≠ j)
    (h : ∃ t, slots[i]? = some t ∧ t.record = none) :
    ∃ t, (slots.set j s)[i]? = some t ∧ t.record = none := by
  rw [List.getElem?_set_ne (Ne.symm hij)]
  exact h

/-- Puts a record into the most recently freed slot, or into a new one. -/
def insert (a : Arena kind α) (record : α) : Id kind × Arena kind α :=
  match hf : a.free with
  | i :: free =>
    let generation := (a.slots[i]?.map Slot.generation).getD 1
    (⟨i, generation⟩,
      { slots := a.slots.set i ⟨generation, some record⟩
        free
        free_vacant := fun j hj => by
          have hn := a.free_nodup
          rw [hf] at hn
          refine vacant_set ?_ (a.free_vacant j (by simp [hf, hj]))
          rintro rfl
          exact (List.nodup_cons.1 hn).1 hj
        free_nodup := by
          have hn := a.free_nodup
          rw [hf] at hn
          exact (List.nodup_cons.1 hn).2 })
  | [] =>
    (⟨a.slots.length, 1⟩,
      { slots := a.slots ++ [⟨1, some record⟩]
        free := []
        free_vacant := by simp
        free_nodup := List.nodup_nil })

/-- Changes the record named by `id`, if it is live. -/
def modify (a : Arena kind α) (id : Id kind) (f : α → α) : Arena kind α :=
  match hr : a.get? id with
  | some record =>
    { slots := a.slots.set id.slot ⟨id.generation, some (f record)⟩
      free := a.free
      free_vacant := fun j hj => by
        refine vacant_set ?_ (a.free_vacant j hj)
        rintro rfl
        obtain ⟨s, hs, hv⟩ := a.free_vacant _ hj
        simp [get?, hs, hv] at hr
      free_nodup := a.free_nodup }
  | none => a

/-- Removes the record named by `id`, if it is live, and frees its slot. -/
def erase (a : Arena kind α) (id : Id kind) : Arena kind α :=
  match hr : a.get? id with
  | some _ =>
    { slots := a.slots.set id.slot ⟨id.generation + 1, none⟩
      free := id.slot :: a.free
      free_vacant := fun j hj => by
        have hlt : id.slot < a.slots.length := by
          apply Decidable.byContradiction
          intro h
          simp [get?, List.getElem?_eq_none (Nat.le_of_not_lt h)] at hr
        by_cases hij : j = id.slot
        · subst hij
          exact ⟨_, List.getElem?_set_self hlt, rfl⟩
        · exact vacant_set hij (a.free_vacant j (by simpa [hij] using hj))
      free_nodup := by
        refine List.nodup_cons.2 ⟨fun hj => ?_, a.free_nodup⟩
        obtain ⟨s, hs, hv⟩ := a.free_vacant _ hj
        simp [get?, hs, hv] at hr }
  | none => a

/-! ## What the operations do to look-ups -/

@[simp]
theorem get?_empty (id : Id kind) : (empty : Arena kind α).get? id = none := by
  simp [get?, empty]

private theorem lt_of_get? {a : Arena kind α} {id : Id kind} {r : α} (h : a.get? id = some r) :
    id.slot < a.slots.length := by
  apply Decidable.byContradiction
  intro hn
  simp [get?, List.getElem?_eq_none (Nat.le_of_not_lt hn)] at h

theorem getElem?_of_get? {a : Arena kind α} {id : Id kind} {r : α}
    (h : a.get? id = some r) : a.slots[id.slot]? = some ⟨id.generation, some r⟩ := by
  unfold get? at h
  split at h
  · next s hs =>
    split at h
    · next hg => rw [hs, ← hg, ← h]
    · simp at h
  · simp at h

/-- A change shows under its own id only. -/
theorem get?_modify (a : Arena kind α) (id j : Id kind) (f : α → α) :
    (a.modify id f).get? j = if j = id then (a.get? id).map f else a.get? j := by
  unfold modify
  split
  · next r hr =>
    have hlt := lt_of_get? hr
    have hs := getElem?_of_get? hr
    obtain ⟨i, g⟩ := j
    obtain ⟨k, h⟩ := id
    by_cases hi : i = k <;> grind [get?]
  · next hr => grind

/-- What is erased is gone, and nothing else is. -/
theorem get?_erase (a : Arena kind α) (id j : Id kind) :
    (a.erase id).get? j = if j = id then none else a.get? j := by
  unfold erase
  split
  · next r hr =>
    have hlt := lt_of_get? hr
    have hs := getElem?_of_get? hr
    obtain ⟨i, g⟩ := j
    obtain ⟨k, h⟩ := id
    by_cases hi : i = k <;> grind [get?]
  · next hr => grind

/-- A new record gets an id that named nothing before. -/
theorem get?_insert_self (a : Arena kind α) (r : α) : a.get? (a.insert r).1 = none := by
  unfold insert
  split
  · next i free hf =>
    obtain ⟨s, hs, hv⟩ := a.free_vacant i (by simp [hf])
    simp [get?, hs, hv]
  · simp [get?]

/-- A new record shows under its own id only. -/
theorem get?_insert (a : Arena kind α) (r : α) (j : Id kind) :
    (a.insert r).2.get? j = if j = (a.insert r).1 then some r else a.get? j := by
  unfold insert
  split
  · next i free hf =>
    obtain ⟨s, hs, hv⟩ := a.free_vacant i (by simp [hf])
    have hlt : i < a.slots.length := (List.getElem?_eq_some_iff.1 hs).1
    obtain ⟨k, g⟩ := j
    by_cases hk : k = i <;> grind [get?]
  · obtain ⟨k, g⟩ := j
    by_cases hk : k = a.slots.length <;> grind [get?]

/-- The list holds what ids look up. -/
theorem mem_toList {a : Arena kind α} {id : Id kind} {r : α} :
    (id, r) ∈ a.toList ↔ a.get? id = some r := by
  constructor
  · intro h
    simp only [toList, List.mem_filterMap, Option.map_eq_some_iff] at h
    obtain ⟨⟨s, i⟩, hm, r', hr, he⟩ := h
    cases he
    have := List.mem_zipIdx' hm
    grind [get?]
  · intro h
    have hs := getElem?_of_get? h
    simp only [toList, List.mem_filterMap, Option.map_eq_some_iff]
    have hm : (⟨id.generation, some r⟩, id.slot) ∈ a.slots.zipIdx :=
      List.mem_zipIdx_iff_getElem?.2 hs
    exact ⟨_, hm, r, rfl, rfl⟩

end Arena

end Kiosk
