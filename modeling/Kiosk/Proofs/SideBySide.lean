import Kiosk.Bench
import Kiosk.Proofs.Centring

/-!
# Outputs side by side

The bench keeps one number for placing outputs beside each other: no output it ever made
ends to the right of it. An output that is made moves it on (`Bench.Added`), and nothing
else does, neither a refused output nor one that goes away. So along any history of the
bench the outputs stand in a row (`Bench.InRow`): one that the bench places begins where
the furthest of those made before it ends, and overlaps none of them
(`Bench.side_by_side`).

What an operation comes to is followed through its steps by what holds when it does not
halt (`Trial.Yields`).
-/

namespace Kiosk

/-! ## Areas -/

namespace Rect

variable {r s : Rect}

/-- Where an area ends. -/
def right (r : Rect) : Int := r.loc.x.toInt + r.size.w.toInt

def bottom (r : Rect) : Int := r.loc.y.toInt + r.size.h.toInt

/-- Each area begins before the other ends, in both directions. -/
def Overlaps (r s : Rect) : Prop :=
  (r.loc.x.toInt < s.right ∧ s.loc.x.toInt < r.right) ∧
    r.loc.y.toInt < s.bottom ∧ s.loc.y.toInt < r.bottom

/-- An area that begins where another ends, or later, does not overlap it. -/
theorem not_overlaps_of_right_le (h : s.right ≤ r.loc.x.toInt) : ¬ r.Overlaps s :=
  fun hover => absurd hover.1.1 (Int.not_lt.2 h)

end Rect

/-! ## What trials come to -/

namespace Trial

variable {α β : Type} {t : Trial α} {b : Bench} {Q Q' : α → Bench → Prop} {R : β → Bench → Prop}

/-- If the trial does not halt the bench, what it gives and the bench it leaves are as `Q` says. -/
def Yields (t : Trial α) (b : Bench) (Q : α → Bench → Prop) : Prop :=
  ∀ a b', t.on b = (.ok a, b') → Q a b'

theorem on_bind (t : Trial α) (f : α → Trial β) (b : Bench) :
    (t >>= f).on b = match t.on b with
      | (.ok a, b) => (f a).on b
      | (.error e, b) => (.error e, b) := by
  unfold on
  rw [ExceptT.run_bind, StateT.run_bind]
  obtain ⟨_ | _, _⟩ := t.run.run b <;> rfl

theorem Yields.pure {a : α} (h : Q a b) : (pure a : Trial α).Yields b Q := by
  intro a' b' hon
  cases hon
  exact h

theorem Yields.throw (e : Halt) : (throw e : Trial α).Yields b Q :=
  fun _ _ hon => nomatch hon

/-- What the second trial relies on is what the first one yields. -/
theorem Yields.bind {f : α → Trial β} (h : t.Yields b Q)
    (hf : ∀ a b', Q a b' → (f a).Yields b' R) : (t >>= f).Yields b R := by
  intro c b'' hon
  rw [on_bind] at hon
  cases ht : t.on b with
  | mk result b' =>
    rw [ht] at hon
    cases result with
    | error e => cases hon
    | ok a => exact hf a b' (h a b' ht) c b'' hon

theorem Yields.mono (h : t.Yields b Q) (hQ : ∀ a b', Q a b' → Q' a b') : t.Yields b Q' :=
  fun a b' hon => hQ a b' (h a b' hon)

end Trial

open Trial (Yields)

namespace Bench

variable {α β : Type} {b b' : Bench} {area : Rect} {o : OutputId}

/-! ## What leaves the edge alone -/

/-- The next output that is placed beside the others begins where it did before. -/
def KeepsEdge (t : Trial α) : Prop :=
  ∀ b, t.Yields b fun _ b' => b'.nextX = b.nextX

theorem KeepsEdge.pure (a : α) : KeepsEdge (pure a) :=
  fun _ => .pure rfl

theorem KeepsEdge.throw (e : Halt) : KeepsEdge (throw e : Trial α) :=
  fun _ => .throw e

/-- The edge is kept when each part of a trial keeps it. -/
theorem KeepsEdge.bind {t : Trial α} {f : α → Trial β} (h : KeepsEdge t)
    (hf : ∀ a, KeepsEdge (f a)) : KeepsEdge (t >>= f) :=
  fun b => (h b).bind fun a b' hb => (hf a b').mono fun _ _ hb' => hb'.trans hb

theorem modifyGet_keepsEdge {f : Bench → α × Bench} (hf : ∀ b, (f b).2.nextX = b.nextX) :
    KeepsEdge (modifyGet f : Trial α) := by
  intro b a b' hon
  obtain rfl := (Prod.mk.inj hon).2
  exact hf b

theorem apply_keepsEdge (f : Desktop → Desktop) : KeepsEdge (apply f) :=
  modifyGet_keepsEdge fun _ => rfl

/-- What is done on the desktop alone does not move the edge of the bench. -/
theorem perform_keepsEdge (f : Desktop → α × Desktop) : KeepsEdge (perform f) :=
  modifyGet_keepsEdge fun _ => rfl

theorem orFault_keepsEdge : ∀ e : Except Fault α, KeepsEdge (orFault e)
  | .ok a => .pure a
  | .error _ => .throw _

theorem addSeat_keepsEdge (name : String) (hasKeyboard : Bool) :
    KeepsEdge (addSeat name hasKeyboard) :=
  (modifyGet_keepsEdge fun _ => rfl).bind fun _ => perform_keepsEdge _

theorem tryAddWindow_keepsEdge (appId : Option String) (parent : Option WindowId) :
    KeepsEdge (tryAddWindow appId parent) :=
  (modifyGet_keepsEdge fun _ => rfl).bind fun _ => perform_keepsEdge _

theorem addWindow_keepsEdge (appId : Option String) : KeepsEdge (addWindow appId) :=
  (tryAddWindow_keepsEdge appId none).bind fun
    | .ok w => .pure w
    | .error _ => .throw _

theorem addChild_keepsEdge (parent : WindowId) (appId : Option String) :
    KeepsEdge (addChild parent appId) :=
  (tryAddWindow_keepsEdge appId (some parent)).bind fun
    | .ok w => .pure w
    | .error _ => .throw _

theorem commit_keepsEdge (w : WindowId) (width height : Coord) (offset geometry : Point) :
    KeepsEdge (commit w width height offset geometry) :=
  (orFault_keepsEdge _).bind fun _ => (perform_keepsEdge _).bind fun
    | none => .pure ()
    | some _ => .throw _

theorem addMappedWindow_keepsEdge (appId : Option String) (width height : Coord) :
    KeepsEdge (addMappedWindow appId width height) :=
  (addWindow_keepsEdge appId).bind fun w =>
    (commit_keepsEdge w width height .origin .origin).bind fun _ => .pure w

theorem addMappedChild_keepsEdge (parent : WindowId) (width height : Coord) :
    KeepsEdge (addMappedChild parent width height) :=
  (addChild_keepsEdge parent none).bind fun w =>
    (commit_keepsEdge w width height .origin .origin).bind fun _ => .pure w

theorem startPointerMove_keepsEdge (seat : SeatId) (w : WindowId) (location : Point) :
    KeepsEdge (startPointerMove seat w location) := by
  unfold startPointerMove
  exact perform_keepsEdge _

/-! ## Outputs -/

/-- From `b` to `b'` the output `o` was made with the given area. -/
structure Added (b : Bench) (area : Rect) (o : OutputId) (b' : Bench) : Prop where
  kept : (b'.desktop.shell.outputs.get? o).map Output.area = some area
  edge : b'.nextX.toInt = max b.nextX.toInt area.right

end Bench

/-- The area of an output that has just been made. -/
theorem Desktop.area_outputAdded {d : Desktop} {handle : OutputHandle} {name : String} {area : Rect}
    {o : OutputId} (h : (d.outputAdded handle name area).1 = .ok o) :
    ((d.outputAdded handle name area).2.shell.outputs.get? o).map Output.area = some area := by
  unfold outputAdded at h ⊢
  split at h
  · cases h
  · obtain rfl := Except.ok.inj h
    dsimp only
    rw [Roster.get?_insert, if_pos rfl]
    rfl

theorem Coord.toInt_max (x y : Coord) : (max x y).toInt = max x.toInt y.toInt := by
  show (if x ≤ y then y else x).toInt = _
  split
  · next h => exact (Int.max_eq_right (Int32.le_iff_toInt_le.1 h)).symm
  · next h =>
    rw [Int32.le_iff_toInt_le] at h
    exact (Int.max_eq_left (by omega)).symm

theorem Coord.toInt_of_ofInt? {n : Int} {c : Coord} (h : ofInt? n = .ok c) : c.toInt = n := by
  rw [ofInt?_eq] at h
  split at h
  · next hn =>
    obtain rfl := Except.ok.inj h
    exact Int32.toInt_ofInt_of_le (by omega) (by omega)
  · cases h

namespace Bench

/-- An output that was made moves the edge on to its right side, and one that was not leaves it. -/
theorem tryAddOutput_yields (name : String) (area : Rect) (b : Bench) :
    (tryAddOutput name area).Yields b fun made b' =>
      match made with
      | .ok o => b.Added area o b'
      | .error _ => b'.nextX = b.nextX := by
  refine (modifyGet_keepsEdge (fun _ => rfl) b).bind fun handle b₁ h₁ => ?_
  have hperform : (perform (·.outputAdded handle name area)).Yields b₁ fun made b₂ =>
      b₂.nextX = b.nextX ∧ ∀ o, made = .ok o →
        (b₂.desktop.shell.outputs.get? o).map Output.area = some area := by
    intro made b₂ hon
    obtain ⟨hmade, rfl⟩ := Prod.mk.inj hon
    obtain rfl := Except.ok.inj hmade
    exact ⟨h₁, fun o => Desktop.area_outputAdded⟩
  refine hperform.bind fun made b₂ h₂ => ?_
  cases made with
  | error shortage => exact .pure h₂.1
  | ok o =>
    dsimp only
    -- The output is there by now, but where it ends may be out of range.
    cases hright : Coord.ofInt? (area.loc.x.toInt + area.size.w.toInt) with
    | error fault => exact (Yields.throw _).bind (Q := fun _ _ => False) fun _ _ h => h.elim
    | ok right =>
      intro made b' hon
      obtain ⟨hmade, rfl⟩ := Prod.mk.inj hon
      obtain rfl := Except.ok.inj hmade
      refine ⟨h₂.2 o rfl, ?_⟩
      show (max b₂.nextX right).toInt = _
      rw [Coord.toInt_max, h₂.1, Coord.toInt_of_ofInt? hright]
      rfl

theorem addOutputAt_yields (name : String) (area : Rect) (b : Bench) :
    (addOutputAt name area).Yields b fun o b' => b.Added area o b' := by
  refine (tryAddOutput_yields name area b).bind fun made b' h => ?_
  cases made with
  | error shortage => exact .throw _
  | ok o => exact .pure h

/-- An output placed beside the others begins at the edge. -/
theorem addOutput_yields (name : String) (w h : Coord) (b : Bench) :
    (addOutput name w h).Yields b fun o b' =>
      ∃ size : Size, size.w = w ∧ size.h = h ∧ b.Added ⟨⟨b.nextX, 0⟩, size⟩ o b' := by
  have hget : (get : Trial Bench).Yields b fun b₁ b' => b₁ = b ∧ b' = b := by
    intro b₁ b' hon
    cases hon
    exact ⟨rfl, rfl⟩
  refine hget.bind fun b₁ b' hb => ?_
  obtain ⟨rfl, rfl⟩ := hb
  unfold Rect.ofParts Size.ofParts
  split
  · next hs =>
    refine (addOutputAt_yields name ⟨⟨b'.nextX, 0⟩, ⟨w, h, hs.1, hs.2⟩⟩ b').mono ?_
    exact fun o _ hadded => ⟨_, rfl, rfl, hadded⟩
  · exact (Yields.throw _).bind (Q := fun _ _ => False) fun _ _ h => h.elim

/-! ## Histories -/

/-- One operation on the bench. -/
inductive Operation where
  | addOutput (name : String) (w h : Coord)
  | addOutputAt (name : String) (area : Rect)
  | tryAddOutput (name : String) (area : Rect)
  | removeOutput (o : OutputId)
  | addSeat (name : String) (hasKeyboard : Bool)
  | removeSeat (seat : SeatId)
  | tryAddWindow (appId : Option String) (parent : Option WindowId)
  | addWindow (appId : Option String)
  | addChild (parent : WindowId) (appId : Option String)
  | addMappedWindow (appId : Option String) (width height : Coord)
  | addMappedChild (parent : WindowId) (width height : Coord)
  | map (w : WindowId) (width height : Coord)
  | commit (w : WindowId) (width height : Coord) (offset geometry : Point)
  | remove (w : WindowId)
  | focus (seat : SeatId) (w : Option WindowId)
  | reportFocus (seat : SeatId) (w : Option WindowId)
  | click (seat : SeatId) (w : WindowId)
  | startPointerMove (seat : SeatId) (w : WindowId) (location : Point)
  | failNextView

namespace Operation

/-- Whether the bench chooses the place of the output. -/
def beside : Operation → Bool
  | .addOutput _ _ _ => true
  | _ => false

/-- Carries out an operation, which may make an output. -/
def perform : Operation → Trial (Option OutputId)
  | .addOutput name w h => do return some (← Bench.addOutput name w h)
  | .addOutputAt name area => do return some (← Bench.addOutputAt name area)
  | .tryAddOutput name area => do return (← Bench.tryAddOutput name area).toOption
  | .removeOutput o => do Bench.removeOutput o; return none
  | .addSeat name hasKeyboard => do let _ ← Bench.addSeat name hasKeyboard; return none
  | .removeSeat seat => do Bench.removeSeat seat; return none
  | .tryAddWindow appId parent => do let _ ← Bench.tryAddWindow appId parent; return none
  | .addWindow appId => do let _ ← Bench.addWindow appId; return none
  | .addChild parent appId => do let _ ← Bench.addChild parent appId; return none
  | .addMappedWindow appId width height => do
    let _ ← Bench.addMappedWindow appId width height; return none
  | .addMappedChild parent width height => do
    let _ ← Bench.addMappedChild parent width height; return none
  | .map w width height => do Bench.map w width height; return none
  | .commit w width height offset geometry => do
    Bench.commit w width height offset geometry; return none
  | .remove w => do Bench.remove w; return none
  | .focus seat w => do Bench.focus seat w; return none
  | .reportFocus seat w => do Bench.reportFocus seat w; return none
  | .click seat w => do Bench.click seat w; return none
  | .startPointerMove seat w location => do
    let _ ← Bench.startPointerMove seat w location; return none
  | .failNextView => do Bench.failNextView; return none

end Operation

/-- An output as it was made. -/
structure Creation where
  /-- Whether the bench chose its place. -/
  beside : Bool
  output : OutputId
  /-- The area the shell keeps for it. -/
  area : Option Rect
  deriving DecidableEq, Repr

/-- Carries out an operation, and gives the output it made. -/
def observe (op : Operation) : Trial (List Creation) := do
  match ← op.perform with
  | none => return []
  | some o =>
    let b ← get
    return [⟨op.beside, o, (b.desktop.shell.outputs.get? o).map Output.area⟩]

/-- Carries out operations one after the other, and gives all outputs they made. -/
def history : List Operation → Trial (List Creation)
  | [] => return []
  | op :: ops => do return (← observe op) ++ (← history ops)

/-- How far right the outputs of a history reach, and not less than `x`. -/
def reach (x : Int) (made : List Creation) : Int :=
  (made.filterMap Creation.area).foldl (fun x area => max x area.right) x

/-- An output that was made counts for the reach of those after it. -/
theorem reach_cons (x : Int) {c : Creation} {area : Rect} (h : c.area = some area)
    (made : List Creation) : reach x (c :: made) = reach (max x area.right) made := by
  rw [reach, List.filterMap_cons_some h, List.foldl_cons, reach]

/-- Outputs only ever move the reach to the right. -/
theorem le_reach (x : Int) (made : List Creation) : x ≤ reach x made := by
  unfold reach
  induction made.filterMap Creation.area generalizing x with
  | nil => exact Int.le_refl x
  | cons area areas ih => exact Int.le_trans (Int.le_max_left x area.right) (ih _)

/-- What an operation does to the edge: an output that is made moves it on, and nothing else
does. -/
def Advances (beside : Bool) (b : Bench) : Option OutputId → Bench → Prop
  | none, b' => b'.nextX = b.nextX
  | some o, b' => ∃ area, b.Added area o b' ∧ (beside → area.loc = ⟨b.nextX, 0⟩)

theorem KeepsEdge.advances {t : Trial α} (h : KeepsEdge t) (beside : Bool) (b : Bench) :
    (do let _ ← t; return none : Trial (Option OutputId)).Yields b (Advances beside b) :=
  (h b).bind fun _ _ hb => .pure hb

/-- Every operation moves the edge by the output it makes, if it makes one. -/
theorem perform_advances (op : Operation) (b : Bench) :
    op.perform.Yields b (Advances op.beside b) := by
  cases op with
  | addOutput name w h =>
    refine (addOutput_yields name w h b).bind fun o b' hadded => .pure ?_
    obtain ⟨size, -, -, hadded⟩ := hadded
    exact ⟨_, hadded, fun _ => rfl⟩
  | addOutputAt name area =>
    exact (addOutputAt_yields name area b).bind fun o b' hadded => .pure ⟨area, hadded, nofun⟩
  | tryAddOutput name area =>
    refine (tryAddOutput_yields name area b).bind fun made b' h => .pure ?_
    cases made with
    | error shortage => exact h
    | ok o => exact ⟨area, h, nofun⟩
  | addSeat name hasKeyboard => exact (addSeat_keepsEdge name hasKeyboard).advances _ b
  | tryAddWindow appId parent => exact (tryAddWindow_keepsEdge appId parent).advances _ b
  | addWindow appId => exact (addWindow_keepsEdge appId).advances _ b
  | addChild parent appId => exact (addChild_keepsEdge parent appId).advances _ b
  | addMappedWindow appId width height =>
    exact (addMappedWindow_keepsEdge appId width height).advances _ b
  | addMappedChild parent width height =>
    exact (addMappedChild_keepsEdge parent width height).advances _ b
  | map w width height => exact (commit_keepsEdge w width height .origin .origin).advances _ b
  | commit w width height offset geometry =>
    exact (commit_keepsEdge w width height offset geometry).advances _ b
  | startPointerMove seat w location =>
    exact (startPointerMove_keepsEdge seat w location).advances _ b
  | removeOutput | removeSeat | remove | focus | reportFocus | click | failNextView =>
    exact (apply_keepsEdge _).advances _ b

/-- Each output the bench placed begins where those before it end, but not left of `x`. -/
def InRow (x : Int) : List Creation → Prop
  | [] => True
  | c :: made => ∃ area, c.area = some area ∧
      (c.beside → area.loc.y = 0 ∧ area.loc.x.toInt = x) ∧ InRow (max x area.right) made

/-- What one operation makes stands in a row with what was made before. -/
theorem observe_inRow (op : Operation) (b : Bench) : (observe op).Yields b fun made b' =>
    InRow b.nextX.toInt made ∧ b'.nextX.toInt = reach b.nextX.toInt made := by
  refine (perform_advances op b).bind fun made b' h => ?_
  cases made with
  | none => exact .pure ⟨trivial, congrArg Int32.toInt h⟩
  | some o =>
    obtain ⟨area, hadded, hbeside⟩ := h
    intro made b'' hon
    obtain ⟨hmade, rfl⟩ := Prod.mk.inj hon
    obtain rfl := Except.ok.inj hmade
    refine ⟨⟨area, hadded.kept, fun hb => ?_, trivial⟩, ?_⟩
    · rw [hbeside hb]
      exact ⟨rfl, rfl⟩
    · rw [hadded.edge, reach_cons _ hadded.kept]
      rfl

theorem inRow_append : ∀ {x : Int} {made more : List Creation},
    InRow x (made ++ more) ↔ InRow x made ∧ InRow (reach x made) more
  | _, [], _ => (and_iff_right trivial).symm
  | x, c :: made, more => by
    rw [List.cons_append, InRow, InRow]
    constructor
    · rintro ⟨area, harea, hbeside, hrow⟩
      obtain ⟨hmade, hmore⟩ := inRow_append.1 hrow
      exact ⟨⟨area, harea, hbeside, hmade⟩, by rwa [reach_cons x harea]⟩
    · rintro ⟨⟨area, harea, hbeside, hmade⟩, hmore⟩
      rw [reach_cons x harea] at hmore
      exact ⟨area, harea, hbeside, inRow_append.2 ⟨hmade, hmore⟩⟩

/-- The outputs of a whole history stand in a row. -/
theorem history_inRow : ∀ (ops : List Operation) (b : Bench),
    (history ops).Yields b fun made _ => InRow b.nextX.toInt made
  | [], _ => .pure trivial
  | op :: ops, b => by
    refine (observe_inRow op b).bind fun made b' h => ?_
    refine (history_inRow ops b').bind fun more b'' hmore => .pure ?_
    rw [h.2] at hmore
    exact inRow_append.2 ⟨h.1, hmore⟩

/-- What stands in a row has areas, which end within its reach. -/
theorem InRow.right_le : ∀ {x : Int} {made : List Creation} {c : Creation}, InRow x made →
    c ∈ made → ∃ area, c.area = some area ∧ area.right ≤ reach x made
  | x, c' :: made, c, ⟨area, harea, _, hrow⟩, hc => by
    rw [reach_cons x harea]
    rcases List.mem_cons.1 hc with rfl | hc
    · exact ⟨area, harea, Int.le_trans (Int.le_max_right x area.right) (le_reach _ made)⟩
    · exact hrow.right_le hc

/-! ## The result -/

/-- An output that the bench places stands at the top edge, exactly where the furthest of the
outputs made before it ends, and not left of zero. It overlaps none of these, whatever areas they
were given, and whether or not they are still there. Outputs that were refused do not count. -/
theorem side_by_side (config : Config) (ops : List Operation) (made : List Creation) (b : Bench)
    (h : (history ops).on (.fresh config) = (.ok made, b)) (before after : List Creation)
    (c : Creation) (hmade : made = before ++ c :: after) (hbeside : c.beside) :
    ∃ area, c.area = some area ∧ area.loc.y = 0 ∧ 0 ≤ area.loc.x.toInt ∧
      area.loc.x.toInt = reach 0 before ∧
      ∀ c' ∈ before, ∃ area', c'.area = some area' ∧ area'.right ≤ area.loc.x.toInt ∧
        ¬ area.Overlaps area' := by
  have hrow : InRow 0 made := history_inRow ops (.fresh config) made b h
  rw [hmade] at hrow
  obtain ⟨hbefore, area, harea, hplace, -⟩ := inRow_append.1 hrow
  obtain ⟨hy, hx⟩ := hplace hbeside
  refine ⟨area, harea, hy, hx ▸ le_reach 0 before, hx, fun c' hc' => ?_⟩
  obtain ⟨area', harea', hright⟩ := hbefore.right_le hc'
  rw [← hx] at hright
  exact ⟨area', harea', hright, Rect.not_overlaps_of_right_le hright⟩

/-- An output left of zero, one beside it that goes away, one far to the right that is refused, a
window, and two more beside the others, the first of them without any width. -/
def rowRun : List Operation :=
  [.tryAddOutput "DP-1" ⟨⟨-500, 40⟩, ⟨310, 210, by decide, by decide⟩⟩,
    .addOutput "DP-2" 3840 2160,
    .removeOutput ⟨1, 1⟩,
    .failNextView,
    .tryAddOutput "DP-3" ⟨⟨5000, 0⟩, ⟨650, 490, by decide, by decide⟩⟩,
    .addMappedWindow (some "app") 300 200,
    .addOutput "DP-4" 0 730,
    .addOutput "DP-5" 650 490]

/-- The outputs made on the way. The slot of the one that went away is filled again. -/
def rowMade : List Creation :=
  [⟨false, ⟨0, 1⟩, some ⟨⟨-500, 40⟩, ⟨310, 210, by decide, by decide⟩⟩⟩,
    ⟨true, ⟨1, 1⟩, some ⟨⟨0, 0⟩, ⟨3840, 2160, by decide, by decide⟩⟩⟩,
    ⟨true, ⟨1, 2⟩, some ⟨⟨3840, 0⟩, ⟨0, 730, Int32.le_refl 0, by decide⟩⟩⟩]

/-- The output made last. -/
def rowLast : Creation :=
  ⟨true, ⟨2, 1⟩, some ⟨⟨3840, 0⟩, ⟨650, 490, by decide, by decide⟩⟩⟩

/-- The last output begins where the one that is gone ended. -/
theorem side_by_side_rowRun : ∃ b,
    (history rowRun).on (.fresh default) = (.ok (rowMade ++ [rowLast]), b) ∧ rowLast.beside ∧
      ∃ area, rowLast.area = some area ∧ area.loc.y = 0 ∧ 0 ≤ area.loc.x.toInt ∧
        area.loc.x.toInt = reach 0 rowMade ∧
        ∀ c' ∈ rowMade, ∃ area', c'.area = some area' ∧ area'.right ≤ area.loc.x.toInt ∧
          ¬ area.Overlaps area' := by
  have hmade : ((history rowRun).on (.fresh default)).1.toOption = some (rowMade ++ [rowLast]) := by
    decide +kernel
  generalize hrun : (history rowRun).on (.fresh default) = r at hmade
  obtain ⟨_ | made, b⟩ := r
  · cases hmade
  · obtain rfl := Option.some.inj hmade
    exact ⟨b, rfl, rfl, side_by_side default rowRun _ b hrun rowMade [] rowLast rfl rfl⟩

end Bench

end Kiosk
