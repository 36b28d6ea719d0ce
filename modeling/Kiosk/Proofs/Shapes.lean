import Kiosk.Script.Grammar
import Kiosk.Proofs.Centring
import Mathlib.Data.List.Basic

/-!
# Values of a shape

Each key of a step has a shape, and a value of that shape (`FieldShape.Fits`) is one that
its reader takes. The readers of single values undo a way of writing (`Toml.Undoes`): they
take what is written so and nothing else. Devices are the exception, for a table can stand
for a device too; they are looked at as long as the value is no table.
-/

namespace Kiosk

open Toml

theorem map_eq_ok_iff {ε α β : Type} {x : Except ε α} {f : α → β} {b : β} :
    x.map f = .ok b ↔ ∃ a, x = .ok a ∧ f a = b := by
  cases x with
  | error e => exact ⟨nofun, fun ⟨_, h, _⟩ => nomatch h⟩
  | ok a => exact ⟨fun h => ⟨a, rfl, Except.ok.inj h⟩, fun ⟨_, h, hf⟩ => by cases h; cases hf; rfl⟩

theorem map_unit_eq_ok_iff {ε α : Type} {x : Except ε α} :
    (x.map fun _ => ()) = .ok () ↔ ∃ a, x = .ok a :=
  map_eq_ok_iff.trans (exists_congr fun _ => and_iff_left rfl)

/-- A computation that goes on has a first result. -/
theorem bind_eq_ok_iff {ε α β : Type} {x : Except ε α} {f : α → Except ε β} {b : β} :
    (x >>= f) = .ok b ↔ ∃ a, x = .ok a ∧ f a = .ok b := by
  cases x with
  | error e => exact ⟨nofun, fun ⟨_, h, _⟩ => nomatch h⟩
  | ok a => exact ⟨fun h => ⟨a, rfl, h⟩, fun ⟨_, h, hf⟩ => by cases h; exact hf⟩

namespace Toml

variable {α : Type} {read : Value → Except Mismatch α} {write : α → Value} {v : Value}

/-- `read` takes what `write` gives, and nothing else. -/
def Undoes (read : Value → Except Mismatch α) (write : α → Value) : Prop :=
  ∀ v a, read v = .ok a ↔ v = write a

/-- The values that can be read are those that are written. -/
theorem Undoes.exists_iff (h : Undoes read write) : (∃ a, read v = .ok a) ↔ ∃ a, v = write a :=
  exists_congr fun a => h v a

/-- What can be read back is written in one way only. -/
theorem Undoes.injective (h : Undoes read write) : Function.Injective write := fun a b hab => by
  have ha : read (write b) = .ok a := (h _ _).2 hab.symm
  exact Except.ok.inj (ha.symm.trans ((h _ _).2 rfl))

/-- A list is read back item by item. -/
theorem Undoes.mapM (h : Undoes read write) : ∀ (items : List Value) (as : List α),
    items.mapM read = .ok as ↔ items = as.map write
  | [], as => by
    rw [List.mapM_nil]
    cases as with
    | nil => exact ⟨fun _ => rfl, fun _ => rfl⟩
    | cons a as => exact ⟨nofun, nofun⟩
  | v :: items, as => by
    rw [List.mapM_cons, bind_eq_ok_iff]
    simp only [bind_eq_ok_iff, h.mapM items, h v]
    cases as with
    | nil => exact ⟨fun ⟨_, _, _, _, hnil⟩ => (nomatch hnil), nofun⟩
    | cons a as =>
      constructor
      · rintro ⟨_, rfl, _, rfl, hcons⟩
        cases hcons
        rfl
      · intro hcons
        obtain ⟨rfl, rfl⟩ := List.cons_eq_cons.1 hcons
        exact ⟨a, rfl, as, rfl, rfl⟩

namespace Value

/-! ## Writing -/

def ofCoord (c : Coord) : Value := .integer c.toInt

def ofUInt32 (n : UInt32) : Value := .integer n.toNat

def ofPoint (p : Point) : Value := .array [ofCoord p.x, ofCoord p.y]

/-- The corner and the size of an area in one array. -/
def ofArea (a : Point × Point) : Value :=
  .array [ofCoord a.1.x, ofCoord a.1.y, ofCoord a.2.x, ofCoord a.2.y]

def ofDevice : Device → Value
  | .pointer => .string "pointer"
  | .touch => .string "touch"

/-! ## Reading -/

theorem asString_undoes : Undoes asString .string := fun v s => by
  cases v with
  | string t => exact ⟨fun h => congrArg _ (Except.ok.inj h), fun h => by cases h; rfl⟩
  | _ => exact ⟨nofun, nofun⟩

theorem asBool_undoes : Undoes asBool .boolean := fun v b => by
  cases v with
  | boolean c => exact ⟨fun h => congrArg _ (Except.ok.inj h), fun h => by cases h; rfl⟩
  | _ => exact ⟨nofun, nofun⟩

theorem asCoord_undoes : Undoes asCoord ofCoord := fun v c => by
  cases v with
  | integer n =>
    rw [asCoord, Int32.toInt_minValue, Int32.toInt_maxValue]
    constructor
    · intro h
      split at h
      · next hn =>
        obtain rfl := Except.ok.inj h
        exact congrArg _ (Int32.toInt_ofInt_of_le (by omega) (by omega)).symm
      · cases h
    · intro h
      obtain rfl := Value.integer.inj h
      have := c.toInt_range
      rw [if_pos (by omega), Int32.ofInt_toInt]
  | _ => exact ⟨nofun, nofun⟩

theorem asUInt32_undoes : Undoes asUInt32 ofUInt32 := fun v m => by
  cases v with
  | integer n =>
    have hsize : ((UInt32.size : Nat) : Int) = 2 ^ 32 := rfl
    rw [asUInt32, hsize]
    constructor
    · intro h
      split at h
      · next hn =>
        obtain rfl := Except.ok.inj h
        refine congrArg _ ?_
        rw [UInt32.toNat_ofNat']
        omega
      · cases h
    · intro h
      obtain rfl := Value.integer.inj h
      have := m.toNat_lt
      rw [if_pos (by omega), Int.toNat_natCast, UInt32.ofNat_toNat]
  | _ => exact ⟨nofun, nofun⟩

/-- An array is read as coordinates when it has as many as are asked for. -/
theorem asCoords_eq_ok_iff {n : Nat} {cs : List Coord} :
    v.asCoords n = .ok cs ↔ v = .array (cs.map ofCoord) ∧ cs.length = n := by
  cases v with
  | array items =>
    rw [asCoords, bind_eq_ok_iff]
    simp only [asCoord_undoes.mapM]
    constructor
    · rintro ⟨coords, htake, hok⟩
      split at hok
      · cases hok
      · split at hok
        · cases hok
        · obtain rfl := Except.ok.inj hok
          have hlength : items.length = n := by omega
          rw [List.take_of_length_le (Nat.le_of_eq hlength)] at htake
          rw [htake, List.length_map] at hlength
          exact ⟨congrArg _ htake, hlength⟩
    · rintro ⟨harray, rfl⟩
      obtain rfl := Value.array.inj harray
      refine ⟨cs, List.take_of_length_le (Nat.le_of_eq (List.length_map _)), ?_⟩
      rw [List.length_map, if_neg (Nat.lt_irrefl _), if_neg (Nat.lt_irrefl _)]
      rfl
  | _ => exact ⟨nofun, nofun⟩

theorem asPoint_undoes : Undoes asPoint ofPoint := fun v p => by
  rw [asPoint, bind_eq_ok_iff]
  simp only [asCoords_eq_ok_iff]
  constructor
  · rintro ⟨coords, ⟨rfl, hlength⟩, hok⟩
    match coords, hlength with
    | [x, y], _ =>
      obtain rfl := Except.ok.inj hok
      rfl
  · rintro rfl
    exact ⟨[p.x, p.y], ⟨rfl, rfl⟩, rfl⟩

theorem areaOfValue_undoes : Undoes areaOfValue ofArea := fun v a => by
  rw [areaOfValue, bind_eq_ok_iff]
  simp only [asCoords_eq_ok_iff]
  constructor
  · rintro ⟨coords, ⟨rfl, hlength⟩, hok⟩
    match coords, hlength with
    | [x, y, w, h], _ =>
      obtain rfl := Except.ok.inj hok
      rfl
  · rintro rfl
    exact ⟨[a.1.x, a.1.y, a.2.x, a.2.y], ⟨rfl, rfl⟩, rfl⟩

/-- A device is named by the word that is written for it. -/
theorem deviceOfName_eq_ok_iff {name : String} {d : Device} :
    Device.ofName name = .ok d ↔ .string name = ofDevice d := by
  unfold Device.ofName
  split
  · cases d <;> simp [ofDevice]
  · cases d <;> simp [ofDevice]
  · next hpointer htouch =>
    refine ⟨nofun, fun h => ?_⟩
    cases d with
    | pointer => exact (hpointer (Value.string.inj h)).elim
    | touch => exact (htouch (Value.string.inj h)).elim

/-- A device is named, unless a table stands for it. -/
theorem device_eq_ok_iff (hv : ∀ entries, v ≠ .table entries) {d : Device} :
    Device.ofValue v = .ok d ↔ v = ofDevice d := by
  cases v with
  | string name => exact deviceOfName_eq_ok_iff
  | table entries => exact absurd rfl (hv entries)
  | datetime =>
    show Device.ofName "$__toml_private_datetime" = .ok d ↔ _
    rw [deviceOfName_eq_ok_iff]
    cases d <;> simp [ofDevice]
  | _ => cases d <;> exact ⟨nofun, nofun⟩

/-! ## What is written apart -/

theorem ofPoint_inj {p q : Point} : ofPoint p = ofPoint q ↔ p = q :=
  asPoint_undoes.injective.eq_iff

theorem ofArea_inj {a b : Point × Point} : ofArea a = ofArea b ↔ a = b :=
  areaOfValue_undoes.injective.eq_iff

theorem ofUInt32_inj {m n : UInt32} : ofUInt32 m = ofUInt32 n ↔ m = n :=
  asUInt32_undoes.injective.eq_iff

theorem ofDevice_inj {d e : Device} : ofDevice d = ofDevice e ↔ d = e := by
  cases d <;> cases e <;> simp [ofDevice]

theorem map_string_inj {a b : Option String} : a.map string = b.map string ↔ a = b :=
  (Option.map_injective fun _ _ => Value.string.inj).eq_iff

/-! ## Shapes -/

/-- A number in the range of coordinates. -/
def IsInt32 (v : Value) : Prop :=
  ∃ n : Int, v = .integer n ∧ -2 ^ 31 ≤ n ∧ n < 2 ^ 31

/-- An array of exactly so many such numbers. -/
def IsArrayOf (n : Nat) (v : Value) : Prop :=
  ∃ items, v = .array items ∧ items.length = n ∧ ∀ item ∈ items, item.IsInt32

/-- The integers in range are those that are written for coordinates. -/
theorem isInt32_iff : v.IsInt32 ↔ ∃ c, v = ofCoord c := by
  constructor
  · rintro ⟨n, rfl, hlow, hhigh⟩
    exact ⟨Int32.ofInt n, congrArg _ (Int32.toInt_ofInt_of_le hlow hhigh).symm⟩
  · rintro ⟨c, rfl⟩
    have := c.toInt_range
    exact ⟨c.toInt, rfl, this.1, by omega⟩

theorem forall_isInt32_iff : ∀ {items : List Value},
    (∀ item ∈ items, item.IsInt32) ↔ ∃ cs : List Coord, items = cs.map ofCoord
  | [] => ⟨fun _ => ⟨[], rfl⟩, fun _ => nofun⟩
  | v :: items => by
    rw [List.forall_mem_cons, isInt32_iff, forall_isInt32_iff]
    constructor
    · rintro ⟨⟨c, rfl⟩, cs, rfl⟩
      exact ⟨c :: cs, rfl⟩
    · rintro ⟨_ | ⟨c, cs⟩, h⟩
      · cases h
      · obtain ⟨rfl, rfl⟩ := List.cons_eq_cons.1 h
        exact ⟨⟨c, rfl⟩, cs, rfl⟩

/-- The arrays of the right length and range are those that are written for coordinates. -/
theorem isArrayOf_iff {n : Nat} :
    v.IsArrayOf n ↔ ∃ cs : List Coord, cs.length = n ∧ v = .array (cs.map ofCoord) := by
  constructor
  · rintro ⟨items, rfl, hlength, hitems⟩
    obtain ⟨cs, rfl⟩ := forall_isInt32_iff.1 hitems
    exact ⟨cs, by rwa [List.length_map] at hlength, rfl⟩
  · rintro ⟨cs, hlength, rfl⟩
    exact ⟨_, rfl, by rwa [List.length_map], forall_isInt32_iff.2 ⟨cs, rfl⟩⟩

end Value

end Toml

namespace FieldShape

variable {v : Value}

/-- The values of a shape. -/
def Fits : FieldShape → Value → Prop
  | .text, v => ∃ s, v = .string s
  | .flag, v => ∃ b, v = .boolean b
  | .number, v => ∃ n : Int, v = .integer n ∧ 0 ≤ n ∧ n < 2 ^ 32
  | .point, v => v.IsArrayOf 2
  | .area, v => v.IsArrayOf 4
  | .device, v => v = .string "pointer" ∨ v = .string "touch"

theorem number_fits_iff : number.Fits v ↔ ∃ n, v = Value.ofUInt32 n := by
  constructor
  · rintro ⟨n, rfl, hlow, hhigh⟩
    refine ⟨UInt32.ofNat n.toNat, congrArg _ ?_⟩
    rw [UInt32.toNat_ofNat']
    omega
  · rintro ⟨n, rfl⟩
    have := n.toNat_lt
    exact ⟨_, rfl, by omega, by omega⟩

theorem point_fits_iff : point.Fits v ↔ ∃ p, v = Value.ofPoint p := by
  refine Value.isArrayOf_iff.trans ⟨?_, ?_⟩
  · rintro ⟨cs, hlength, rfl⟩
    match cs, hlength with
    | [x, y], _ => exact ⟨⟨x, y⟩, rfl⟩
  · rintro ⟨p, rfl⟩
    exact ⟨[p.x, p.y], rfl, rfl⟩

theorem area_fits_iff : area.Fits v ↔ ∃ a, v = Value.ofArea a := by
  refine Value.isArrayOf_iff.trans ⟨?_, ?_⟩
  · rintro ⟨cs, hlength, rfl⟩
    match cs, hlength with
    | [x, y, w, h], _ => exact ⟨(⟨x, y⟩, ⟨w, h⟩), rfl⟩
  · rintro ⟨a, rfl⟩
    exact ⟨[a.1.x, a.1.y, a.2.x, a.2.y], rfl, rfl⟩

theorem device_fits_iff : device.Fits v ↔ ∃ d, v = Value.ofDevice d := by
  constructor
  · rintro (rfl | rfl)
    · exact ⟨.pointer, rfl⟩
    · exact ⟨.touch, rfl⟩
  · rintro ⟨_ | _, rfl⟩
    · exact .inl rfl
    · exact .inr rfl

/-- The check of a shape passes the values of the shape. Only a table could be taken for a device
without being one. -/
theorem check_eq_ok_iff (shape : FieldShape)
    (hv : shape = .device → ∀ entries, v ≠ .table entries) :
    shape.check v = .ok () ↔ shape.Fits v := by
  cases shape with
  | text => exact map_unit_eq_ok_iff.trans Value.asString_undoes.exists_iff
  | flag => exact map_unit_eq_ok_iff.trans Value.asBool_undoes.exists_iff
  | number =>
    exact map_unit_eq_ok_iff.trans (Value.asUInt32_undoes.exists_iff.trans number_fits_iff.symm)
  | point =>
    exact map_unit_eq_ok_iff.trans (Value.asPoint_undoes.exists_iff.trans point_fits_iff.symm)
  | area =>
    exact map_unit_eq_ok_iff.trans (Value.areaOfValue_undoes.exists_iff.trans area_fits_iff.symm)
  | device =>
    refine map_unit_eq_ok_iff.trans (Iff.trans ?_ device_fits_iff.symm)
    exact exists_congr fun d => Value.device_eq_ok_iff (hv rfl)

end FieldShape

end Kiosk
