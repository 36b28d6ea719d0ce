import Kiosk.Geometry
import Mathlib.Algebra.Group.Int.Defs

/-!
# Where sizes can be centred

Centring adds half of a difference of lengths to a coordinate. Lengths are not negative, so the half
is less than `2 ^ 30` on either side, and the sum stays in the range if the coordinate is `Central`.
No wider interval will do: a coordinate outside it has lengths that take it out of the range
(`Coord.strain`).
-/

namespace Kiosk

namespace Coord

variable {c : Coord} {n : Int}

/-- No half of a difference of lengths takes the coordinate out of the range. -/
def Central (c : Coord) : Prop := -2 ^ 30 - 1 ≤ c.toInt ∧ c.toInt ≤ 2 ^ 30

instance : DecidablePred Central := fun c =>
  inferInstanceAs (Decidable (-2 ^ 30 - 1 ≤ c.toInt ∧ c.toInt ≤ 2 ^ 30))

theorem toInt_range (c : Coord) : -2 ^ 31 ≤ c.toInt ∧ c.toInt ≤ 2 ^ 31 - 1 :=
  ⟨Int32.toInt_minValue ▸ c.minValue_le_toInt, Int32.toInt_maxValue ▸ c.toInt_le⟩

theorem ofInt?_eq (n : Int) : ofInt? n =
    if -2 ^ 31 ≤ n ∧ n ≤ 2 ^ 31 - 1 then .ok (Int32.ofInt n) else .error .addOverflow := by
  rw [ofInt?, Int32.toInt_minValue, Int32.toInt_maxValue]

/-- Sums of coordinates fault in one way. -/
theorem eq_addOverflow {fault : Fault} (h : ofInt? n = .error fault) : fault = .addOverflow := by
  rw [ofInt?] at h
  split at h
  · cases h
  · exact (Except.error.inj h).symm

/-- Lengths of an area and of a window that take a coordinate as far from zero as any do. -/
def strain (c : Coord) : Coord × Coord :=
  if 0 ≤ c.toInt then (Int32.maxValue, 1) else (1, Int32.maxValue)

theorem strain_pos (c : Coord) : 0 < c.strain.1 ∧ 0 < c.strain.2 := by
  unfold strain
  split
  · exact ⟨by decide, by decide⟩
  · exact ⟨by decide, by decide⟩

end Coord

/-- Both coordinates are central. -/
def Point.Central (p : Point) : Prop := p.x.Central ∧ p.y.Central

instance : DecidablePred Point.Central := fun p =>
  inferInstanceAs (Decidable (p.x.Central ∧ p.y.Central))

namespace Rect

variable {start outer inner : Coord} {area : Rect} {size : Size} {fault : Fault}

/-- Half of a difference of lengths is less than a quarter of the range. -/
theorem tdiv_range (ho : 0 ≤ outer) (hi : 0 ≤ inner) :
    -2 ^ 30 + 1 ≤ (outer.toInt - inner.toInt).tdiv 2 ∧
      (outer.toInt - inner.toInt).tdiv 2 ≤ 2 ^ 30 - 1 := by
  have ho' : 0 ≤ outer.toInt := Int32.le_iff_toInt_le.1 ho
  have hi' : 0 ≤ inner.toInt := Int32.le_iff_toInt_le.1 hi
  have hout := outer.toInt_range
  have hin := inner.toInt_range
  have habs : ((outer.toInt - inner.toInt).tdiv 2).natAbs =
      (outer.toInt - inner.toInt).natAbs / 2 := Int.natAbs_tdiv _ 2
  omega

theorem centeredStart_of_central (hs : start.Central) (ho : 0 ≤ outer) (hi : 0 ≤ inner) :
    ∃ c, centeredStart start outer inner = .ok c := by
  obtain ⟨hlow, hhigh⟩ := hs
  have hhalf := tdiv_range ho hi
  rw [centeredStart, Coord.ofInt?_eq, if_pos (by omega)]
  exact ⟨_, rfl⟩

theorem centeredStart_strain (hs : ¬ start.Central) :
    centeredStart start start.strain.1 start.strain.2 = .error .addOverflow := by
  have hrange : ¬ (-2 ^ 30 - 1 ≤ start.toInt ∧ start.toInt ≤ 2 ^ 30) := hs
  rw [centeredStart, Coord.ofInt?_eq, if_neg]
  unfold Coord.strain
  split
  · dsimp only
    have hhalf : (Int32.maxValue.toInt - (1 : Int32).toInt).tdiv 2 = 2 ^ 30 - 1 := by decide
    omega
  · dsimp only
    have hhalf : ((1 : Int32).toInt - Int32.maxValue.toInt).tdiv 2 = -2 ^ 30 + 1 := by decide
    omega

/-- Centring faults in one way. -/
theorem centered_eq_addOverflow {area : Option Rect} (h : centered area size = .error fault) :
    fault = .addOverflow := by
  cases area with
  | none => cases h
  | some area =>
    cases hx : centeredStart area.loc.x area.size.w size.w with
    | error =>
      rw [centered, hx] at h
      cases h
      exact Coord.eq_addOverflow hx
    | ok x =>
      cases hy : centeredStart area.loc.y area.size.h size.h with
      | error =>
        rw [centered, hx, hy] at h
        cases h
        exact Coord.eq_addOverflow hy
      | ok y =>
        rw [centered, hx, hy] at h
        cases h

/-- Every size can be centred on an area that begins at a central point. -/
theorem centered_of_central (h : area.loc.Central) (size : Size) :
    ∃ p, centered (some area) size = .ok p := by
  obtain ⟨x, hx⟩ := centeredStart_of_central h.1 area.size.w_nonneg size.w_nonneg
  obtain ⟨y, hy⟩ := centeredStart_of_central h.2 area.size.h_nonneg size.h_nonneg
  refine ⟨⟨x, y⟩, ?_⟩
  rw [centered, hx, hy]
  rfl

end Rect

namespace Point

variable {p : Point}

/-- The size of an area at `p` on which some size cannot be centred, if there is one. -/
def outer (p : Point) : Size :=
  ⟨p.x.strain.1, p.y.strain.1, Int32.le_of_lt p.x.strain_pos.1, Int32.le_of_lt p.y.strain_pos.1⟩

/-- A size that cannot be centred there. -/
def inner (p : Point) : Size :=
  ⟨p.x.strain.2, p.y.strain.2, Int32.le_of_lt p.x.strain_pos.2, Int32.le_of_lt p.y.strain_pos.2⟩

/-- At a point that is not central there is an area with no room for some size in its middle. -/
theorem centered_inner (h : ¬ p.Central) :
    Rect.centered (some ⟨p, p.outer⟩) p.inner = .error .addOverflow := by
  by_cases hcentral : p.x.Central
  · obtain ⟨x, hx⟩ := Rect.centeredStart_of_central hcentral p.outer.w_nonneg p.inner.w_nonneg
    have hy := Rect.centeredStart_strain fun hy : p.y.Central => h ⟨hcentral, hy⟩
    rw [Rect.centered, hx, outer, inner, hy]
    rfl
  · rw [Rect.centered, outer, inner, Rect.centeredStart_strain hcentral]
    rfl

end Point

end Kiosk
