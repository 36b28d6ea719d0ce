import Kiosk.Proofs.Naming
import Kiosk.Proofs.SeatNames
import Mathlib.Logic.Embedding.Basic

/-!
# Labels by other names

Labels are compared with one another and handed on, and nothing else is done with them. So when
every label of a script is replaced, different ones by different ones, the script is looked up to
the same events but for the names of new seats (`Labels.resolve_rename`), and those nobody reads.
Each step then does what it did (`Replay.step_rename`), and so does the replay
(`Replay.run_rename`). What a user can see of it is the same (`Replay.renaming_invisible`).
-/

namespace Kiosk

/-! ## Associations -/

namespace Assoc

variable {κ α : Type} (f : κ ↪ κ) (m : Assoc κ α)

/-- The map with other keys. -/
def mapKeys : Assoc κ α where
  entries := m.entries.map (Prod.map f id)
  nodup := by
    have hkeys := m.nodup.map f.injective
    rw [List.map_map] at hkeys ⊢
    exact hkeys

variable [DecidableEq κ] (k : κ)

/-- A label under its new name stands for what the label stood for. -/
@[simp]
theorem get?_mapKeys : (m.mapKeys f).get? (f k) = m.get? k := by
  show (m.entries.map (Prod.map f id)).lookup (f k) = m.entries.lookup k
  induction m.entries with
  | nil => rfl
  | cons e es ih =>
    obtain ⟨j, a⟩ := e
    have hkey : (f k == f j) = (k == j) := by
      rw [Bool.eq_iff_iff, beq_iff_eq, beq_iff_eq, f.apply_eq_iff_eq]
    simp only [List.map_cons, Prod.map_apply, List.lookup_cons, hkey, ih, id]

theorem mapKeys_insert (a : α) : (m.insert k a).mapKeys f = (m.mapKeys f).insert (f k) a := by
  have hrest : (m.entries.filter (·.1 ≠ k)).map (Prod.map f id) =
      (m.entries.map (Prod.map f id)).filter (·.1 ≠ f k) := by
    rw [List.filter_map]
    refine congrArg (List.map _) (List.filter_congr fun e _ => ?_)
    simp
  simp only [insert, erase, mapKeys, List.map_cons, hrest]
  rfl

end Assoc

variable {f : String ↪ String}

/-! ## Steps and labels -/

/-- The step, with other labels for the records it is about and for the one it makes. -/
def Step.rename (f : String → String) : Step → Step
  | .windowAdded label appId parent => .windowAdded (f label) appId (parent.map f)
  | .windowRemoved w => .windowRemoved (f w)
  | .windowCommitted w size offset geometry => .windowCommitted (f w) size offset geometry
  | .parentChanged w parent => .parentChanged (f w) (parent.map f)
  | .fullscreenRequested w fullscreen o => .fullscreenRequested (f w) fullscreen (o.map f)
  | .maximizeRequested w maximized => .maximizeRequested (f w) maximized
  | .minimizeRequested w => .minimizeRequested (f w)
  | .resizeRequested w => .resizeRequested (f w)
  | .moveRequested w seat device location => .moveRequested (f w) (f seat) device location
  | .xwaylandPositionSet w position => .xwaylandPositionSet (f w) position
  | .appIdChanged w appId => .appIdChanged (f w) appId
  | .outputAdded label name loc size => .outputAdded (f label) name loc size
  | .outputRemoved o => .outputRemoved (f o)
  | .outputResized o loc size => .outputResized (f o) loc size
  | .outputMoved o delta => .outputMoved (f o) delta
  | .seatAdded label hasKeyboard => .seatAdded (f label) hasKeyboard
  | .seatCapabilitiesChanged seat hasKeyboard => .seatCapabilitiesChanged (f seat) hasKeyboard
  | .seatRemoved seat => .seatRemoved (f seat)
  | .keyboardFocusChanged seat w => .keyboardFocusChanged (f seat) (w.map f)
  | .pointerButton seat button w defaultGrab =>
    .pointerButton (f seat) button (w.map f) defaultGrab
  | .touchDown seat w defaultGrab => .touchDown (f seat) (w.map f) defaultGrab
  | .grabMotion seat location => .grabMotion (f seat) location
  | .grabReleased seat => .grabReleased (f seat)

/-- The error, naming another label. -/
def StepError.rename (f : String → String) : StepError → StepError
  | .unknownLabel kind label => .unknownLabel kind (f label)
  | .labelBound label => .labelBound (f label)
  | .fault e => .fault e

/-- The same records and handles, with other labels. -/
def Labels.rename (f : String ↪ String) (l : Labels) : Labels :=
  { l with
    windows := l.windows.mapKeys f
    outputs := l.outputs.mapKeys f
    seats := l.seats.mapKeys f
    pending := l.pending.map f }

/-! ## Looking steps up -/

namespace Resolve

variable {α β : Type} {g : α → α} {m m' : Resolve α}

/-- On renamed labels `m'` comes to what `m` comes to on the labels, with `g` of what `m`
returns. -/
def Renames (f : String ↪ String) (g : α → α) (m m' : Resolve α) : Prop :=
  ∀ l, m'.on (l.rename f) =
    (((m.on l).1.map g).mapError (StepError.rename f), (m.on l).2.rename f)

theorem Renames.pure (a : α) : Renames f g (pure a) (pure (g a)) := fun _ => rfl

theorem Renames.throw (e : StepError) :
    Renames f g (throw e : Resolve α) (throw (e.rename f)) := fun _ => rfl

/-- Computations that commute with a renaming do so one after the other. -/
theorem Renames.bind {g : β → β} {k k' : α → Resolve β} (h : Renames f id m m')
    (hk : ∀ a, Renames f g (k a) (k' a)) : Renames f g (m >>= k) (m' >>= k') := by
  intro l
  rw [on_bind, on_bind, h l]
  rcases m.on l with ⟨e | a, l⟩
  · rfl
  · exact hk a l

theorem Renames.map (h : Renames f id m m') (k : α → β) : Renames f id (k <$> m) (k <$> m') := by
  rw [map_eq_pure_bind, map_eq_pure_bind]
  exact h.bind fun a => .pure (k a)

end Resolve

namespace Labels

open Resolve (Renames)

/-- A window's label is found under its new name, or the new name is reported. -/
theorem renames_window (label : String) : Renames f id (window label) (window (f label)) := by
  intro l
  have hget : (l.rename f).windows.get? (f label) = l.windows.get? label :=
    l.windows.get?_mapKeys f label
  rw [window, window, Resolve.on_get_bind, Resolve.on_get_bind, hget]
  cases l.windows.get? label <;> rfl

theorem renames_output (label : String) : Renames f id (output label) (output (f label)) := by
  intro l
  have hget : (l.rename f).outputs.get? (f label) = l.outputs.get? label :=
    l.outputs.get?_mapKeys f label
  rw [output, output, Resolve.on_get_bind, Resolve.on_get_bind, hget]
  cases l.outputs.get? label <;> rfl

theorem renames_seat (label : String) : Renames f id (seat label) (seat (f label)) := by
  intro l
  have hget : (l.rename f).seats.get? (f label) = l.seats.get? label :=
    l.seats.get?_mapKeys f label
  rw [seat, seat, Resolve.on_get_bind, Resolve.on_get_bind, hget]
  cases l.seats.get? label <;> rfl

theorem renames_window? : ∀ label : Option String,
    Renames f id (window? label) (window? (label.map f))
  | none => .pure none
  | some label => (renames_window label).map some

theorem renames_output? : ∀ label : Option String,
    Renames f id (output? label) (output? (label.map f))
  | none => .pure none
  | some label => (renames_output label).map some

theorem renames_checkedSize (size : Point) :
    Renames f id (checkedSize size) (checkedSize size) := by
  unfold checkedSize
  cases Size.ofParts size.x size.y with
  | ok size => exact .pure size
  | error fault => exact .throw (.fault fault)

/-- As no two labels become one, a label is bound just when its new name is. -/
theorem isBound_rename (l : Labels) (label : String) :
    (l.rename f).isBound (f label) = l.isBound label := by
  simp [isBound, rename, Assoc.contains]

theorem renames_claim (label : String) : Renames f id (claim label) (claim (f label)) := by
  intro l
  rw [on_claim, on_claim, isBound_rename]
  cases l.isBound label <;> rfl

theorem renames_nextSurface : Renames f id nextSurface nextSurface := fun _ => rfl

theorem renames_nextOutput : Renames f id nextOutput nextOutput := fun _ => rfl

theorem renames_nextSeat : Renames f id nextSeat nextSeat := fun _ => rfl

/-- A renamed step stands for the event of the step; only a new seat has another name. -/
theorem renames_eventOf (s : Step) :
    Renames f (Event.rename f) (eventOf s) (eventOf (s.rename f)) := by
  cases s with
  | windowAdded =>
    exact (renames_window? _).bind fun _ => (renames_claim _).bind fun _ =>
      renames_nextSurface.bind fun _ => .pure _
  | outputAdded =>
    exact (renames_claim _).bind fun _ => renames_nextOutput.bind fun _ =>
      (renames_checkedSize _).bind fun _ => .pure _
  | seatAdded =>
    exact (renames_claim _).bind fun _ => renames_nextSeat.bind fun _ => .pure _
  | windowRemoved | maximizeRequested | minimizeRequested | resizeRequested | xwaylandPositionSet
  | appIdChanged => exact (renames_window _).bind fun _ => .pure _
  | windowCommitted =>
    exact (renames_window _).bind fun _ => (renames_checkedSize _).bind fun _ => .pure _
  | parentChanged =>
    exact (renames_window _).bind fun _ => (renames_window? _).bind fun _ => .pure _
  | fullscreenRequested =>
    exact (renames_window _).bind fun _ => (renames_output? _).bind fun _ => .pure _
  | moveRequested =>
    exact (renames_window _).bind fun _ => (renames_seat _).bind fun _ => .pure _
  | outputRemoved | outputMoved => exact (renames_output _).bind fun _ => .pure _
  | outputResized =>
    exact (renames_output _).bind fun _ => (renames_checkedSize _).bind fun _ => .pure _
  | seatCapabilitiesChanged | seatRemoved | grabMotion | grabReleased =>
    exact (renames_seat _).bind fun _ => .pure _
  | keyboardFocusChanged | pointerButton | touchDown =>
    exact (renames_seat _).bind fun _ => (renames_window? _).bind fun _ => .pure _

/-- A step that is renamed is looked up on the renamed labels to the renamed event, or to the
renamed error. -/
theorem resolve_rename (l : Labels) (s : Step) : (l.rename f).resolve (s.rename f) =
    (((l.resolve s).1.map (Event.rename f)).mapError (StepError.rename f),
      (l.resolve s).2.rename f) :=
  renames_eventOf s l

/-- The record that a step made is bound to the new name of the label that waits for it. -/
theorem bind_rename (l : Labels) (reply : Reply) :
    (l.rename f).bind reply = (l.bind reply).rename f := by
  unfold bind
  rw [show (l.rename f).pending = l.pending.map f from rfl]
  cases l.pending with
  | none => rfl
  | some label => cases reply <;> simp [rename, Assoc.mapKeys_insert]

end Labels

/-! ## Replays -/

/-- The outcome, its error naming another label. -/
def StepOutcome.rename (f : String → String) (o : StepOutcome) : StepOutcome :=
  { o with result := o.result.mapError (StepError.rename f) }

/-- A renamed error stops the replay too. -/
theorem StepOutcome.stops_rename (f : String → String) (o : StepOutcome) :
    (o.rename f).stops = o.stops := by
  obtain ⟨_ | _, _⟩ := o <;> rfl

theorem StepOutcome.refusal?_rename (f : String → String) (o : StepOutcome) :
    (o.rename f).refusal? = o.refusal?.map (StepError.rename f) := by
  obtain ⟨(_ | _ | _) | _, _⟩ := o <;> rfl

theorem StepOutcome.lastRefusal_rename (f : String → String) : ∀ (n : Nat) (os : List StepOutcome),
    lastRefusal n (os.map (StepOutcome.rename f)) =
      (lastRefusal n os).map (Prod.map id (StepError.rename f))
  | _, [] => rfl
  | n, o :: os => by
    rw [List.map_cons, lastRefusal, lastRefusal, lastRefusal_rename, refusal?_rename,
      Option.map_or, Option.map_map, Option.map_map]
    rfl

namespace Replay

/-- The replay, with other labels. -/
def rename (f : String ↪ String) (r : Replay) : Replay :=
  ⟨r.desktop.rename f, r.labels.rename f⟩

/-- A step under other labels does what it did. -/
theorem step_rename (r : Replay) (s : Step) :
    (r.rename f).step (s.rename f) = ((r.step s).1.rename f, (r.step s).2.rename f) := by
  unfold step
  rw [show (r.rename f).labels = r.labels.rename f from rfl, Labels.resolve_rename]
  rcases r.labels.resolve s with ⟨e | e, l⟩
  · rfl
  · have hdispatch : (r.rename f).desktop.dispatch (e.rename f) = _ := r.desktop.dispatch_rename e
    dsimp only [Except.map, Except.mapError]
    rw [hdispatch, Labels.bind_rename]
    rfl

/-- So does a run, and it ends as it ended. -/
theorem run_rename (failAt : List Nat) : ∀ (steps : List Step) (n : Nat) (r : Replay),
    run failAt n (r.rename f) (steps.map (Step.rename f)) =
      ((run failAt n r steps).1.map (StepOutcome.rename f), (run failAt n r steps).2.rename f)
  | [], _, _ => rfl
  | s :: steps, n, r => by
    have hprepared : (r.rename f).prepared failAt n = (r.prepared failAt n).rename f := by
      unfold prepared
      split <;> rfl
    rw [List.map_cons, run_step, run_step, hprepared, step_rename]
    generalize (r.prepared failAt n).step s = stepped
    obtain ⟨o, r⟩ := stepped
    dsimp only
    rw [StepOutcome.stops_rename, run_rename failAt steps]
    cases o.stops <;> rfl

/-- What a user can see of a replay is the same under other labels: the commands of each step, how
many windows, outputs and seats there are in the end, and the step it stops at. Only the label in
the error is another. -/
theorem renaming_invisible (config : Config) (failAt : List Nat) (script : List Step)
    (f : String ↪ String) :
    let (outcomes, r) := run failAt 1 (.fresh config) script
    let (outcomes', r') := run failAt 1 (.fresh config) (script.map (Step.rename f))
    outcomes'.map StepOutcome.commands = outcomes.map StepOutcome.commands ∧
    r'.desktop.shell.windows.size = r.desktop.shell.windows.size ∧
    r'.desktop.shell.outputs.size = r.desktop.shell.outputs.size ∧
    r'.desktop.shell.seats.size = r.desktop.shell.seats.size ∧
    outcomes'.map StepOutcome.result =
      outcomes.map (fun o => o.result.mapError (StepError.rename f)) ∧
    StepOutcome.lastRefusal 1 outcomes' =
      (StepOutcome.lastRefusal 1 outcomes).map (Prod.map id (StepError.rename f)) := by
  have hrun := run_rename (f := f) failAt script 1 (.fresh config)
  dsimp only
  rw [show run failAt 1 (fresh config) (script.map (Step.rename f)) = _ from hrun,
    List.map_map, List.map_map]
  exact ⟨rfl, rfl, rfl, rfl, rfl, StepOutcome.lastRefusal_rename f 1 _⟩

/-- Labels that were two must not become one. -/
example : StepOutcome.lastRefusal 1 (run [] 1 (.fresh default)
    ([.seatAdded "a" true, .seatAdded "b" true].map (Step.rename fun _ => "a"))).1 =
    some (2, .labelBound "a") := by
  decide +kernel

end Replay

end Kiosk
