import Kiosk.Replay
import Mathlib.Data.List.Forall2

/-!
# Steps that are looked up

Looking a step up reads the labels that it names, and for a step that makes a record it then claims
one.

What comes of the labels that are named is in `Labels.Finds`: all of them stand for records of the
right kinds, and the event is about these records in that order, or the first that does not is
reported (`Labels.resolve_finds`). What comes of the labels as a whole is in `Labels.Resolves`: the
step names a label that nothing goes by or claims one that is bound, and they stay what they are; it
only reads labels, and the same holds; or it claims its label and uses one handle up. Reading is
followed through a computation by what it returns (`Resolve.Reads`).
-/

namespace Kiosk

variable {l l' : Labels} {s : Step} {label : String} {kind : Kind}

/-! ## Computations that only read -/

namespace Resolve

variable {α β : Type} {P : α → Prop} {Q : β → Prop}

/-- Runs a computation on labels. -/
def on (m : Resolve α) (l : Labels) : Except StepError α × Labels := m.run.run l

/-- A computation that leaves the labels alone, and returns what has the property. -/
def Reads (P : α → Prop) (m : Resolve α) : Prop :=
  ∀ l, (m.on l).2 = l ∧ ∀ a, (m.on l).1 = .ok a → P a

/-- The second computation runs on the labels that the first leaves, unless the first fails. -/
theorem on_bind (m : Resolve α) (f : α → Resolve β) (l : Labels) :
    (m >>= f).on l = match m.on l with
      | (.ok a, l) => (f a).on l
      | (.error e, l) => (.error e, l) := by
  unfold on
  rw [ExceptT.run_bind, StateT.run_bind]
  obtain ⟨_ | _, _⟩ := m.run.run l <;> rfl

theorem on_get_bind (f : Labels → Resolve α) (l : Labels) :
    ((get : Resolve Labels) >>= f).on l = (f l).on l :=
  rfl

theorem Reads.pure {a : α} (h : P a) : Reads P (pure a) :=
  fun _ => ⟨rfl, fun _ hb => Except.ok.inj hb ▸ h⟩

theorem Reads.throw (e : StepError) : Reads P (throw e) :=
  fun _ => ⟨rfl, fun _ hb => nomatch hb⟩

/-- Two computations that only read, one after the other, only read. -/
theorem Reads.bind {m : Resolve α} {f : α → Resolve β} (h : Reads P m)
    (hf : ∀ a, P a → Reads Q (f a)) : Reads Q (m >>= f) := by
  intro l
  obtain ⟨hl, hP⟩ := h l
  rw [on_bind]
  generalize m.on l = r at hl hP
  obtain ⟨e | a, _⟩ := r
  · exact ⟨hl, fun _ hb => nomatch hb⟩
  · obtain rfl := hl
    exact hf a (hP a rfl) _

theorem Reads.map {m : Resolve α} {f : α → β} (h : Reads P m) (hf : ∀ a, P a → Q (f a)) :
    Reads Q (f <$> m) := by
  rw [map_eq_pure_bind]
  exact h.bind fun a ha => .pure (hf a ha)

end Resolve

open Resolve (Reads)

/-! ## What steps and events say -/

/-- The kind and the label of the record that a step makes. -/
def Step.claim? : Step → Option (Kind × String)
  | .windowAdded label _ _ => some (.window, label)
  | .outputAdded label _ _ _ => some (.output, label)
  | .seatAdded label _ => some (.seat, label)
  | _ => none

/-- The number of the handle that an event is to make a record for. -/
def Event.handle? : Event → Option (Kind × Nat)
  | .windowAdded surface _ _ => some (.window, surface.number)
  | .outputAdded handle _ _ => some (.output, handle.number)
  | .seatAdded handle _ _ => some (.seat, handle.number)
  | _ => none

/-- The labels that a step names, with the kinds of records they should stand for, in the order in
which they are looked up. The label that it claims is not among them. A request to be dragged names
the window twice: it is also what the device is on. -/
def Step.names : Step → List (Kind × String)
  | .windowAdded _ _ parent => parent.toList.map (.window, ·)
  | .windowRemoved w => [(.window, w)]
  | .windowCommitted w _ _ _ => [(.window, w)]
  | .parentChanged w parent => (.window, w) :: parent.toList.map (.window, ·)
  | .fullscreenRequested w _ o => (.window, w) :: o.toList.map (.output, ·)
  | .maximizeRequested w _ => [(.window, w)]
  | .minimizeRequested w => [(.window, w)]
  | .resizeRequested w => [(.window, w)]
  | .moveRequested w seat _ _ => [(.window, w), (.seat, seat), (.window, w)]
  | .xwaylandPositionSet w _ => [(.window, w)]
  | .appIdChanged w _ => [(.window, w)]
  | .outputAdded _ _ _ _ => []
  | .outputRemoved o => [(.output, o)]
  | .outputResized o _ _ => [(.output, o)]
  | .outputMoved o _ => [(.output, o)]
  | .seatAdded _ _ => []
  | .seatCapabilitiesChanged seat _ => [(.seat, seat)]
  | .seatRemoved seat => [(.seat, seat)]
  | .keyboardFocusChanged seat w => (.seat, seat) :: w.toList.map (.window, ·)
  | .pointerButton seat _ w _ => (.seat, seat) :: w.toList.map (.window, ·)
  | .touchDown seat w _ => (.seat, seat) :: w.toList.map (.window, ·)
  | .grabMotion seat _ => [(.seat, seat)]
  | .grabReleased seat => [(.seat, seat)]

/-- What a label can stand for. -/
abbrev Referent : Type := Σ kind : Kind, Id kind

/-- The windows that the devices of a request to be dragged are on. -/
def MoveRequest.held (request : MoveRequest) : List WindowId :=
  (request.pointer.bind PointerHold.focus).toList ++ (request.touch.bind TouchHold.focus).toList

/-- The records that an event names. -/
def Event.names : Event → List Referent
  | .windowAdded _ _ parent => parent.toList.map (⟨.window, ·⟩)
  | .windowRemoved w => [⟨.window, w⟩]
  | .windowCommitted w _ => [⟨.window, w⟩]
  | .parentChanged w parent => ⟨.window, w⟩ :: parent.toList.map (⟨.window, ·⟩)
  | .fullscreenRequested w _ o => ⟨.window, w⟩ :: o.toList.map (⟨.output, ·⟩)
  | .maximizeRequested w _ => [⟨.window, w⟩]
  | .minimizeRequested w => [⟨.window, w⟩]
  | .resizeRequested w => [⟨.window, w⟩]
  | .moveRequested w seat request =>
    ⟨.window, w⟩ :: ⟨.seat, seat⟩ :: request.held.map (⟨.window, ·⟩)
  | .xwaylandPositionSet w _ => [⟨.window, w⟩]
  | .appIdChanged w _ => [⟨.window, w⟩]
  | .outputAdded _ _ _ => []
  | .outputRemoved o => [⟨.output, o⟩]
  | .outputResized o _ => [⟨.output, o⟩]
  | .outputMoved o _ => [⟨.output, o⟩]
  | .seatAdded _ _ _ => []
  | .seatCapabilitiesChanged seat _ => [⟨.seat, seat⟩]
  | .seatRemoved seat => [⟨.seat, seat⟩]
  | .keyboardFocusChanged seat w => ⟨.seat, seat⟩ :: w.toList.map (⟨.window, ·⟩)
  | .pointerButton seat _ w _ => ⟨.seat, seat⟩ :: w.toList.map (⟨.window, ·⟩)
  | .touchDown seat w _ => ⟨.seat, seat⟩ :: w.toList.map (⟨.window, ·⟩)
  | .grabMotion seat _ => [⟨.seat, seat⟩]
  | .grabReleased seat => [⟨.seat, seat⟩]

namespace Labels

/-- The number of the last handle given out for a record of the kind. -/
def last (l : Labels) : Kind → Nat
  | .window => l.lastSurface
  | .output => l.lastOutput
  | .seat => l.lastSeat

/-- The label waits for a record of the kind, and the next handle is given out. -/
def claimed (l : Labels) (label : String) : Kind → Labels
  | .window => { l with pending := some label, lastSurface := l.lastSurface + 1 }
  | .output => { l with pending := some label, lastOutput := l.lastOutput + 1 }
  | .seat => { l with pending := some label, lastSeat := l.lastSeat + 1 }

/-! ## Reading labels -/

/-- The record of the kind that the label stands for. -/
def find? (l : Labels) : (kind : Kind) → String → Option (Id kind)
  | .window, label => l.windows.get? label
  | .output, label => l.outputs.get? label
  | .seat, label => l.seats.get? label

/-- The computation returns the record of the kind that the label stands for, or reports that there
is none. -/
def LooksUp (kind : Kind) (label : String) (m : Resolve (Id kind)) : Prop :=
  ∀ l : Labels, m.on l = ((l.find? kind label).elim (.error (.unknownLabel kind label)) .ok, l)

/-- A window's label is looked up among the windows alone. -/
theorem looksUp_window (label : String) : LooksUp .window label (window label) := by
  intro l
  rw [window, Resolve.on_get_bind, find?]
  cases l.windows.get? label <;> rfl

theorem looksUp_output (label : String) : LooksUp .output label (output label) := by
  intro l
  rw [output, Resolve.on_get_bind, find?]
  cases l.outputs.get? label <;> rfl

theorem looksUp_seat (label : String) : LooksUp .seat label (seat label) := by
  intro l
  rw [seat, Resolve.on_get_bind, find?]
  cases l.seats.get? label <;> rfl

/-- Looks up the record of the kind that the label stands for. -/
def lookup : (kind : Kind) → String → Resolve (Id kind)
  | .window => window
  | .output => output
  | .seat => seat

theorem looksUp_lookup (kind : Kind) (label : String) : LooksUp kind label (lookup kind label) := by
  cases kind with
  | window => exact looksUp_window label
  | output => exact looksUp_output label
  | seat => exact looksUp_seat label

/-- A label that is looked up is resolved to the record that it stands for, and to no other. -/
theorem on_lookup_eq_ok_iff {id : Id kind} :
    (lookup kind label).on l = (.ok id, l) ↔ l.find? kind label = some id := by
  rw [looksUp_lookup kind label l]
  cases l.find? kind label <;> simp

/-- A label that stands for no record of the kind is reported with the kind asked for. -/
theorem on_lookup_eq_error (h : ∀ id, l.find? kind label ≠ some id) :
    (lookup kind label).on l = (.error (.unknownLabel kind label), l) := by
  rw [looksUp_lookup kind label l, Option.eq_none_iff_forall_ne_some.2 h]
  rfl

/-- Looking a label up leaves the labels alone. -/
theorem LooksUp.reads {m : Resolve (Id kind)} (h : LooksUp kind label m) :
    Reads (fun _ => True) m :=
  fun l => ⟨congrArg Prod.snd (h l), fun _ _ => trivial⟩

theorem reads_window (label : String) : Reads (fun _ => True) (window label) :=
  (looksUp_window label).reads

theorem reads_output (label : String) : Reads (fun _ => True) (output label) :=
  (looksUp_output label).reads

theorem reads_seat (label : String) : Reads (fun _ => True) (seat label) :=
  (looksUp_seat label).reads

theorem reads_window? : ∀ label : Option String, Reads (fun _ => True) (window? label)
  | none => .pure trivial
  | some label => (reads_window label).map fun _ _ => trivial

theorem reads_output? : ∀ label : Option String, Reads (fun _ => True) (output? label)
  | none => .pure trivial
  | some label => (reads_output label).map fun _ _ => trivial

/-- The check of a size has nothing to do with labels. -/
theorem reads_checkedSize (size : Point) : Reads (fun _ => True) (checkedSize size) := by
  unfold checkedSize
  split
  · exact .pure trivial
  · exact .throw _

/-- A step that makes no record reads labels, and so does not touch them. -/
theorem reads_eventOf (hs : s.claim? = none) :
    Reads (fun e => e.handle? = none) (eventOf s) := by
  cases s with
  | windowAdded | outputAdded | seatAdded => cases hs
  | windowRemoved | maximizeRequested | minimizeRequested | resizeRequested | xwaylandPositionSet
  | appIdChanged => exact (reads_window _).bind fun _ _ => .pure rfl
  | windowCommitted =>
    exact (reads_window _).bind fun _ _ => (reads_checkedSize _).bind fun _ _ => .pure rfl
  | parentChanged =>
    exact (reads_window _).bind fun _ _ => (reads_window? _).bind fun _ _ => .pure rfl
  | fullscreenRequested =>
    exact (reads_window _).bind fun _ _ => (reads_output? _).bind fun _ _ => .pure rfl
  | moveRequested =>
    exact (reads_window _).bind fun _ _ => (reads_seat _).bind fun _ _ => .pure rfl
  | outputRemoved | outputMoved => exact (reads_output _).bind fun _ _ => .pure rfl
  | outputResized =>
    exact (reads_output _).bind fun _ _ => (reads_checkedSize _).bind fun _ _ => .pure rfl
  | seatCapabilitiesChanged | seatRemoved | grabMotion | grabReleased =>
    exact (reads_seat _).bind fun _ _ => .pure rfl
  | keyboardFocusChanged | pointerButton | touchDown =>
    exact (reads_seat _).bind fun _ _ => (reads_window? _).bind fun _ _ => .pure rfl

/-! ## Claiming labels -/

/-- A label is claimed unless it is bound, whatever kind of record it is bound to. -/
theorem on_claim (label : String) (l : Labels) : (claim label).on l =
    if l.isBound label then (.error (.labelBound label), l)
    else (.ok (), { l with pending := some label }) := by
  rw [claim, Resolve.on_get_bind]
  split <;> rfl

theorem on_claim_bind {α : Type} (label : String) (f : Unit → Resolve α) (l : Labels) :
    (claim label >>= f).on l = if l.isBound label then (.error (.labelBound label), l)
      else (f ()).on { l with pending := some label } := by
  rw [Resolve.on_bind, on_claim]
  cases l.isBound label <;> rfl

/-- What can come of looking a step up. -/
inductive Resolves (l : Labels) (s : Step) : Except StepError Event → Labels → Prop
  | refused (e : StepError) : Resolves l s (.error e) l
  /-- The step reads labels. -/
  | read {e : Event} (hs : s.claim? = none) (he : e.handle? = none) : Resolves l s (.ok e) l
  /-- The step claims a label, and its event uses up the next handle. -/
  | claimed {e : Event} {kind : Kind} {label : String} (hs : s.claim? = some (kind, label))
      (hl : l.isBound label = false) (he : e.handle? = some (kind, l.last kind + 1)) :
      Resolves l s (.ok e) (l.claimed label kind)
  /-- The size of an output that claims a label is no size. -/
  | faulted {kind : Kind} {label : String} (hs : s.claim? = some (kind, label)) (f : Fault) :
      Resolves l s (.error (.fault f)) (l.claimed label kind)

theorem Resolves.of_reads {m : Resolve Event} (h : Reads (fun e => e.handle? = none) m)
    (hs : s.claim? = none) (l : Labels) : Resolves l s (m.on l).1 (m.on l).2 := by
  obtain ⟨hl, he⟩ := h l
  rw [hl]
  cases hr : (m.on l).1 with
  | error e => exact .refused e
  | ok e => exact .read hs (he e hr)

/-- Every step is turned down, reads labels, or claims the one label that it is to bind. -/
theorem resolve_resolves (l : Labels) (s : Step) :
    Resolves l s (l.resolve s).1 (l.resolve s).2 := by
  cases s with
  | windowAdded label appId parent =>
    have hclaim : (Step.windowAdded label appId parent).claim? = some (.window, label) := rfl
    show Resolves l _ ((window? parent >>= _).on l).1 ((window? parent >>= _).on l).2
    obtain ⟨hread, -⟩ := reads_window? parent l
    rw [Resolve.on_bind]
    generalize (window? parent).on l = r at hread
    obtain ⟨e | parent, _⟩ := r
    · obtain rfl := hread
      exact .refused e
    · obtain rfl := hread
      dsimp only
      rw [on_claim_bind]
      cases hl : Labels.isBound _ label with
      | true => exact .refused _
      | false => exact .claimed hclaim hl rfl
  | outputAdded label name loc size =>
    have hclaim : (Step.outputAdded label name loc size).claim? = some (.output, label) := rfl
    show Resolves l _ ((claim label >>= _).on l).1 ((claim label >>= _).on l).2
    rw [on_claim_bind]
    cases hl : l.isBound label with
    | true => exact .refused _
    | false =>
      show Resolves l _ ((checkedSize size >>= _).on (l.claimed label .output)).1
        ((checkedSize size >>= _).on (l.claimed label .output)).2
      rw [Resolve.on_bind, checkedSize]
      cases Size.ofParts size.x size.y with
      | ok size => exact .claimed hclaim hl rfl
      | error f => exact .faulted hclaim f
  | seatAdded label hasKeyboard =>
    have hclaim : (Step.seatAdded label hasKeyboard).claim? = some (.seat, label) := rfl
    show Resolves l _ ((claim label >>= _).on l).1 ((claim label >>= _).on l).2
    rw [on_claim_bind]
    cases hl : l.isBound label with
    | true => exact .refused _
    | false => exact .claimed hclaim hl rfl
  | _ => exact .of_reads (reads_eventOf rfl) rfl l

/-! ## What is found -/

/-- All that a label stands for. -/
def referents (l : Labels) (label : String) : List Referent :=
  ((l.windows.get? label).map fun w => (⟨.window, w⟩ : Referent)).toList ++
  ((l.outputs.get? label).map fun o => (⟨.output, o⟩ : Referent)).toList ++
  ((l.seats.get? label).map fun seat => (⟨.seat, seat⟩ : Referent)).toList

/-- The label stands for the record, which is of the given kind. -/
def Names (l : Labels) (name : Kind × String) (ref : Referent) : Prop :=
  ref ∈ l.referents name.2 ∧ ref.1 = name.1

/-- What a label stands for, in all, is what it stands for among each kind. -/
theorem mem_referents_iff {id : Id kind} :
    (⟨kind, id⟩ : Referent) ∈ l.referents label ↔ l.find? kind label = some id := by
  cases kind <;> simp [referents, find?]

/-- A label names a record of the kind just when it is found among that kind. -/
theorem names_iff {ref : Referent} :
    l.Names (kind, label) ref ↔ ∃ id, l.find? kind label = some id ∧ ref = ⟨kind, id⟩ := by
  obtain ⟨_ | _ | _, id⟩ := ref <;> cases kind <;> simp [Names, referents, find?]

/-- What can come of a computation that looks labels up, each of which should stand for a record of
its kind. It returns what has to do with these records, reports the first label that stands for
none, or fails for another reason when it has looked them all up. -/
inductive Finds {α : Type} (l : Labels) (P : List Referent → α → Prop) :
    List (Kind × String) → Except StepError α → Prop
  | found {names : List (Kind × String)} {refs : List Referent} {a : α}
      (hrefs : List.Forall₂ l.Names names refs) (ha : P refs a) : Finds l P names (.ok a)
  | unknown {known rest : List (Kind × String)} {refs : List Referent} {kind : Kind}
      {label : String} (hrefs : List.Forall₂ l.Names known refs)
      (hnone : ∀ ref, ¬ l.Names (kind, label) ref) :
      Finds l P (known ++ (kind, label) :: rest) (.error (.unknownLabel kind label))
  | failed {names : List (Kind × String)} {refs : List Referent} {e : StepError}
      (hrefs : List.Forall₂ l.Names names refs) (he : ∀ kind label, e ≠ .unknownLabel kind label) :
      Finds l P names (.error e)

section

variable {β : Type} {names : List (Kind × String)} {Q : List Referent → β → Prop}

/-- What follows a label that is looked up finds what else it looks up on the same labels. -/
theorem LooksUp.finds_bind {m : Resolve (Id kind)} (h : LooksUp kind label m)
    {f : Id kind → Resolve β} (hf : ∀ id, l.Names (kind, label) ⟨kind, id⟩ →
      l.Finds (fun refs => Q (⟨kind, id⟩ :: refs)) names ((f id).on l).1) :
    l.Finds Q ((kind, label) :: names) ((m >>= f).on l).1 := by
  rw [Resolve.on_bind, h l]
  cases hid : l.find? kind label with
  | none =>
    have hnone (ref : Referent) : ¬ l.Names (kind, label) ref := by simp [names_iff, hid]
    show l.Finds Q ([] ++ (kind, label) :: names) _
    exact .unknown .nil hnone
  | some id =>
    have hname : l.Names (kind, label) ⟨kind, id⟩ := names_iff.2 ⟨id, hid, rfl⟩
    have hrest := hf id hname
    dsimp only [Option.elim]
    generalize ((f id).on l).1 = r at hrest ⊢
    cases hrest with
    | found hrefs hb => exact .found (.cons hname hrefs) hb
    | unknown hrefs hnone => exact .unknown (.cons hname hrefs) hnone
    | failed hrefs he => exact .failed (.cons hname hrefs) he

/-- A window that may be left out is looked up if it is not. -/
theorem finds_window? {f : Option WindowId → Resolve β} : ∀ label : Option String,
    (∀ w : Option WindowId,
      l.Finds (fun refs => Q (w.toList.map (⟨.window, ·⟩) ++ refs)) [] ((f w).on l).1) →
    l.Finds Q (label.toList.map (.window, ·)) ((window? label >>= f).on l).1
  | none, hf => hf none
  | some label, hf => by
    rw [window?, bind_map_left]
    exact (looksUp_window label).finds_bind fun w _ => hf (some w)

theorem finds_output? {f : Option OutputId → Resolve β} : ∀ label : Option String,
    (∀ o : Option OutputId,
      l.Finds (fun refs => Q (o.toList.map (⟨.output, ·⟩) ++ refs)) [] ((f o).on l).1) →
    l.Finds Q (label.toList.map (.output, ·)) ((output? label >>= f).on l).1
  | none, hf => hf none
  | some label, hf => by
    rw [output?, bind_map_left]
    exact (looksUp_output label).finds_bind fun o _ => hf (some o)

/-- When a size is refused, the labels before it have all been found. -/
theorem finds_checkedSize {f : Size → Resolve β} (size : Point) (l' : Labels)
    (hf : ∀ size, l.Finds Q [] ((f size).on l').1) :
    l.Finds Q [] ((checkedSize size >>= f).on l').1 := by
  rw [Resolve.on_bind, checkedSize]
  cases Size.ofParts size.x size.y with
  | ok size => exact hf size
  | error f => exact .failed .nil fun _ _ he => nomatch he

/-- A claim comes after what is looked up, and is refused for another reason. -/
theorem finds_claim {f : Unit → Resolve β} (label : String)
    (hf : ∀ l', l.Finds Q [] ((f ()).on l').1) :
    l.Finds Q [] ((claim label >>= f).on l).1 := by
  rw [on_claim_bind]
  split
  · exact .failed .nil fun _ _ he => nomatch he
  · exact hf _

end

/-- The event of a step is about the records that the labels in the step stand for. -/
theorem resolve_finds (l : Labels) (s : Step) :
    l.Finds (fun refs e => e.names = refs) s.names (l.resolve s).1 := by
  show l.Finds _ _ ((eventOf s).on l).1
  cases s with
  | windowAdded label appId parent =>
    exact finds_window? parent fun p => finds_claim label fun l' =>
      .found .nil (by simp [Event.names])
  | windowRemoved w | maximizeRequested w | minimizeRequested w | resizeRequested w
  | xwaylandPositionSet w | appIdChanged w =>
    exact (looksUp_window w).finds_bind fun w _ => .found .nil rfl
  | windowCommitted w size =>
    exact (looksUp_window w).finds_bind fun w _ => finds_checkedSize size l fun _ => .found .nil rfl
  | parentChanged w parent =>
    exact (looksUp_window w).finds_bind fun w _ => finds_window? parent fun p =>
      .found .nil (by simp [Event.names])
  | fullscreenRequested w fullscreen o =>
    exact (looksUp_window w).finds_bind fun w _ => finds_output? o fun o =>
      .found .nil (by simp [Event.names])
  | moveRequested w seat device =>
    exact (looksUp_window w).finds_bind fun w hw => (looksUp_seat seat).finds_bind fun seat _ =>
      .found (.cons hw .nil) (by cases device <;> rfl)
  | outputAdded label name loc size =>
    exact finds_claim label fun l' => finds_checkedSize size _ fun _ => .found .nil rfl
  | outputRemoved o | outputMoved o =>
    exact (looksUp_output o).finds_bind fun o _ => .found .nil rfl
  | outputResized o loc size =>
    exact (looksUp_output o).finds_bind fun o _ => finds_checkedSize size l fun _ => .found .nil rfl
  | seatAdded label => exact finds_claim label fun l' => .found .nil rfl
  | seatCapabilitiesChanged seat | seatRemoved seat | grabMotion seat | grabReleased seat =>
    exact (looksUp_seat seat).finds_bind fun seat _ => .found .nil rfl
  | keyboardFocusChanged seat w | pointerButton seat _ w | touchDown seat w =>
    exact (looksUp_seat seat).finds_bind fun seat _ => finds_window? w fun w =>
      .found .nil (by simp [Event.names])

end Labels

end Kiosk
