/-!
# Associations

A finite map kept as a list of pairs. Keys are distinct, by type, so an entry
found in the list is the entry its key looks up.
-/

namespace Kiosk

/-- A finite map from `κ` to `α`, latest assignment first. -/
structure Assoc (κ α : Type) where
  entries : List (κ × α)
  nodup : (entries.map Prod.fst).Nodup

namespace Assoc

variable {κ α : Type}

/-- The map without entries. -/
def empty : Assoc κ α := ⟨[], List.nodup_nil⟩

instance : Inhabited (Assoc κ α) := ⟨empty⟩

variable [DecidableEq κ]

/-- What `k` is mapped to. -/
def get? (m : Assoc κ α) (k : κ) : Option α :=
  m.entries.lookup k

/-- Whether `k` is mapped to anything. -/
def contains (m : Assoc κ α) (k : κ) : Bool :=
  (m.get? k).isSome

/-- `m` without an entry for `k`. -/
def erase (m : Assoc κ α) (k : κ) : Assoc κ α where
  entries := m.entries.filter (·.1 ≠ k)
  nodup := m.nodup.sublist (List.filter_sublist.map _)

/-- `m` with `k` mapped to `a`. -/
def insert (m : Assoc κ α) (k : κ) (a : α) : Assoc κ α where
  entries := (k, a) :: (m.erase k).entries
  nodup := by
    refine List.nodup_cons.2 ⟨?_, (m.erase k).nodup⟩
    simp [erase]

/-- `m` with `k` mapped to `a`, or without an entry for `k`. -/
def set (m : Assoc κ α) (k : κ) : Option α → Assoc κ α
  | some a => m.insert k a
  | none => m.erase k

private theorem lookup_filter_ne (l : List (κ × α)) (k : κ) :
    (l.filter (·.1 ≠ k)).lookup k = none := by
  induction l with
  | nil => rfl
  | cons e l ih => by_cases h : e.1 = k <;> grind

private theorem lookup_filter_of_ne (l : List (κ × α)) {k j : κ} (h : j ≠ k) :
    (l.filter (·.1 ≠ k)).lookup j = l.lookup j := by
  induction l with
  | nil => rfl
  | cons e l ih => by_cases hk : e.1 = k <;> grind

@[simp]
theorem get?_empty (k : κ) : (empty : Assoc κ α).get? k = none := rfl

theorem get?_erase (m : Assoc κ α) (k j : κ) :
    (m.erase k).get? j = if j = k then none else m.get? j := by
  split
  · next h => subst h; exact lookup_filter_ne _ _
  · next h => exact lookup_filter_of_ne _ h

theorem get?_insert (m : Assoc κ α) (k j : κ) (a : α) :
    (m.insert k a).get? j = if j = k then some a else m.get? j := by
  have h := get?_erase m k j
  by_cases hj : j = k <;> grind [get?, insert]

end Assoc

end Kiosk
