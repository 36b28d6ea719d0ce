import Kiosk.Store.Arena

/-!
# Rosters

An arena together with the order in which its records were put there. Slots are
reused, so the order of slots says nothing about age; the order list does.
-/

namespace Kiosk

/-- Records of type `α` that are listed oldest first. -/
structure Roster (kind : Kind) (α : Type) where
  arena : Arena kind α
  /-- The live ids, oldest first. -/
  order : List (Id kind)

namespace Roster

variable {kind : Kind} {α : Type}

/-- The roster without records. -/
def empty : Roster kind α := ⟨.empty, []⟩

instance : Inhabited (Roster kind α) := ⟨empty⟩

/-- The record named by `id`, if it is live. -/
def get? (r : Roster kind α) (id : Id kind) : Option α :=
  r.arena.get? id

/-- Whether `id` names a record. -/
def contains (r : Roster kind α) (id : Id kind) : Bool :=
  r.arena.contains id

/-- Adds a record as the youngest. -/
def insert (r : Roster kind α) (record : α) : Id kind × Roster kind α :=
  let (id, arena) := r.arena.insert record
  (id, ⟨arena, r.order ++ [id]⟩)

/-- Changes the record named by `id`, if it is live. -/
def modify (r : Roster kind α) (id : Id kind) (f : α → α) : Roster kind α :=
  { r with arena := r.arena.modify id f }

/-- Removes the record named by `id`, if it is live. -/
def erase (r : Roster kind α) (id : Id kind) : Roster kind α :=
  if r.contains id then ⟨r.arena.erase id, r.order.filter (· ≠ id)⟩ else r

/-- The live records with their ids, oldest first. -/
def toList (r : Roster kind α) : List (Id kind × α) :=
  r.order.filterMap fun id => (r.get? id).map (id, ·)

/-- The oldest live record. -/
def oldest (r : Roster kind α) : Option (Id kind) :=
  r.order.head?

/-- The number of live records. -/
def size (r : Roster kind α) : Nat :=
  r.order.length

/-- Whether there is no live record. -/
def isEmpty (r : Roster kind α) : Bool :=
  r.order.isEmpty

/-! ## What the operations do to look-ups -/

@[simp]
theorem get?_empty (id : Id kind) : (empty : Roster kind α).get? id = none :=
  Arena.get?_empty id

theorem get?_insert (r : Roster kind α) (record : α) (j : Id kind) :
    (r.insert record).2.get? j = if j = (r.insert record).1 then some record else r.get? j :=
  Arena.get?_insert r.arena record j

theorem get?_modify (r : Roster kind α) (id j : Id kind) (f : α → α) :
    (r.modify id f).get? j = if j = id then (r.get? id).map f else r.get? j :=
  Arena.get?_modify r.arena id j f

theorem get?_erase (r : Roster kind α) (id j : Id kind) :
    (r.erase id).get? j = if j = id then none else r.get? j := by
  unfold erase
  split
  · exact Arena.get?_erase r.arena id j
  · next h =>
    split
    · next hj => simpa [hj, contains, Arena.contains, get?] using h
    · rfl

theorem contains_insert (r : Roster kind α) (record : α) (id : Id kind) :
    (r.insert record).2.contains id ↔ id = (r.insert record).1 ∨ r.contains id := by
  show ((r.insert record).2.get? id).isSome ↔ _ ∨ (r.get? id).isSome
  rw [get?_insert]
  split <;> simp_all

theorem contains_erase (r : Roster kind α) (j id : Id kind) :
    (r.erase j).contains id ↔ id ≠ j ∧ r.contains id := by
  show ((r.erase j).get? id).isSome ↔ _ ∧ (r.get? id).isSome
  rw [get?_erase]
  split <;> simp_all

end Roster

end Kiosk
