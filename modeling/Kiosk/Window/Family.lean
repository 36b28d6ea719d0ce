import Kiosk.Store.Assoc
import Kiosk.Window

/-!
# Families of windows

Windows point at their parents. From those links come a window's root, which is
where the walk up ends, and the test that keeps links free of cycles. Walks are
bounded by the number of live windows, so they end for any links at all.

The other direction is kept in a `Children` index, in order of attachment. The
heir of a window is who gets its keyboard focus when it goes away: the
front-most mapped window of the same family, else of any family.
-/

namespace Kiosk

namespace Windows

/-- The parent of `w`, when `w` is live and has one. -/
def parentOf (ws : Windows) (w : WindowId) : Option WindowId :=
  (ws.get? w).bind Window.parentId

/-- Goes up from `w` through live windows, at most `n` times. -/
def climb (ws : Windows) : Nat → WindowId → WindowId
  | 0, w => w
  | n + 1, w =>
    match parentOf ws w with
    | some p => if ws.contains p then climb ws n p else w
    | none => w

/-- The last live window on the way up from `w`; none when `w` is not live. -/
def rootOf (ws : Windows) (w : WindowId) : Option WindowId :=
  if ws.contains w then some (climb ws ws.size w) else none

/-- Whether `a` is among the first `n` windows on the way up from `w`. -/
def climbsTo (ws : Windows) (a : WindowId) : Nat → Option WindowId → Bool
  | 0, _ => false
  | _, none => false
  | n + 1, some w => w = a || climbsTo ws a n (parentOf ws w)

/-- Whether `a` is `w` itself or above it. -/
def isAncestorOrSelf (ws : Windows) (a w : WindowId) : Bool :=
  climbsTo ws a (ws.size + 1) (some w)

end Windows

/-- The children of each window that has any, in order of attachment. -/
structure Children where
  lists : Assoc WindowId (List WindowId)

namespace Children

/-- Nobody has children. -/
def empty : Children := ⟨.empty⟩

instance : Inhabited Children := ⟨empty⟩

/-- The children of `parent`. -/
def of (c : Children) (parent : WindowId) : List WindowId :=
  (c.lists.get? parent).getD []

/-- Makes `child` the last child of `parent`, unless it is one already. -/
def link (c : Children) (parent child : WindowId) : Children :=
  if child ∈ c.of parent then c else ⟨c.lists.insert parent (c.of parent ++ [child])⟩

/-- Makes `child` no child of `parent`. -/
def unlink (c : Children) (parent child : WindowId) : Children :=
  match (c.of parent).filter (· ≠ child) with
  | [] => ⟨c.lists.erase parent⟩
  | rest => ⟨c.lists.insert parent rest⟩

/-- Forgets all children of `parent`. -/
def forget (c : Children) (parent : WindowId) : Children :=
  ⟨c.lists.erase parent⟩

@[simp]
theorem of_empty (p : WindowId) : empty.of p = [] := rfl

theorem of_link (c : Children) (p q child : WindowId) :
    (c.link p child).of q =
      if q = p ∧ child ∉ c.of p then c.of p ++ [child] else c.of q := by
  unfold link
  split
  · next h => simp [h]
  · next h =>
    simp only [h, not_false_eq_true, and_true]
    by_cases hq : q = p <;> simp [of, hq, Assoc.get?_insert]

theorem of_unlink (c : Children) (p q child : WindowId) :
    (c.unlink p child).of q = if q = p then (c.of p).filter (· ≠ child) else c.of q := by
  unfold unlink
  split
  · next h =>
    rw [h]
    by_cases hq : q = p <;> simp [of, hq, Assoc.get?_erase]
  · by_cases hq : q = p <;> simp [of, hq, Assoc.get?_insert]

theorem of_forget (c : Children) (p q : WindowId) :
    (c.forget p).of q = if q = p then [] else c.of q := by
  by_cases hq : q = p <;> simp [of, forget, hq, Assoc.get?_erase]

end Children

/-- Who gets the focus of `removed`, given the mapped windows front to back. A window
without a root is no candidate. -/
def heir (stacking : List WindowId) (removed : WindowId) (rootOf : WindowId → Option WindowId) :
    Option WindowId :=
  let candidates := stacking.filter fun w => w ≠ removed && (rootOf w).isSome
  (candidates.find? fun w => rootOf w = rootOf removed).or candidates.head?

end Kiosk
