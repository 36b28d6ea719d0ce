import Kiosk.Proofs.LogBlind

/-!
# Allocations that are refused

A refused view or background makes the announcement of a window or an output fail. The
records stay what they were, and so does the host but for its log and the refusal it was
asked for (`Desktop.dispatch_of_refusing`), so that whatever comes next goes the way it would
have gone had there been neither the announcement nor the refusal (`Desktop.refusal_drops`).
-/

namespace Kiosk

/-- What is missing when the event is refused, for the events that can be refused. -/
def Event.shortage? : Event → Option Shortage
  | windowAdded .. => some .shellSurface
  | outputAdded .. => some .outputBackground
  | _ => none

/-- What the host is told when the event is refused. -/
def Event.complaints : Event → List Command
  | windowAdded surface _ _ => [.postNoMemory surface]
  | _ => []

namespace Desktop

variable {d : Desktop} {e : Event} {shortage : Shortage}

/-- `d`, its host not asked to refuse. -/
def obliging (d : Desktop) : Desktop :=
  d.tell (·.switch (.failNextView false))

theorem dispatch_of_refusing (hf : d.host.failNextView = true)
    (he : e.shortage? = some shortage) : d.dispatch e =
      (.refused shortage, d.obliging.tell fun h => { h with log := h.log ++ e.complaints }) := by
  cases e with
  | windowAdded surface appId parent =>
    cases he
    rw [dispatch, windowAdded, createWindow, Host.createView, Host.allocateView, if_pos hf]
    rfl
  | outputAdded handle name area =>
    cases he
    rw [dispatch, outputAdded, createBackground_refused hf]
    simp [Reply.ofOutput, obliging, tell, Host.switch, Event.complaints]
  | _ => cases he

theorem dispatch_refused_iff : (d.dispatch e).1 = .refused shortage ↔
    d.host.failNextView = true ∧ e.shortage? = some shortage := by
  have hfault (f : Option Fault) : Reply.ofFault f ≠ .refused shortage := by
    cases f <;> simp [Reply.ofFault]
  constructor
  · intro h
    cases e with
    | windowAdded surface appId parent =>
      cases hf : d.host.failNextView with
      | true =>
        rw [dispatch_of_refusing hf rfl] at h
        cases h
        exact ⟨rfl, rfl⟩
      | false =>
        rw [dispatch, windowAdded, createWindow, Host.createView, Host.allocateView,
          if_neg (by simp [hf])] at h
        cases h
    | outputAdded handle name area =>
      cases hf : d.host.failNextView with
      | true =>
        rw [dispatch_of_refusing hf rfl] at h
        cases h
        exact ⟨rfl, rfl⟩
      | false =>
        rw [dispatch, outputAdded, createBackground_made hf] at h
        cases h
    | windowCommitted w commit => exact absurd h (hfault _)
    | outputResized o area => exact absurd h (hfault _)
    | _ => cases h
  · rintro ⟨hf, he⟩
    rw [dispatch_of_refusing hf he]

/-- An announcement fails exactly when the host refuses its view or background, and then only
the host's log and its refusal differ: the records are those before it, the host is told of
missing memory if a surface was announced and nothing else, and all that comes next goes as if
the announcement had never been made and the host had not been asked to refuse. -/
theorem refusal_drops (d : Desktop) (e : Event) :
    (∀ shortage, (d.dispatch e).1 = .refused shortage ↔
      d.host.failNextView = true ∧ e.shortage? = some shortage) ∧
    ∀ shortage, (d.dispatch e).1 = .refused shortage →
      (d.dispatch e).2.shell = d.shell ∧
      (d.dispatch e).2.host.log = d.host.log ++ e.complaints ∧
      ∀ as, (d.dispatch e).2.transcript as = d.obliging.transcript as := by
  refine ⟨fun shortage => dispatch_refused_iff, fun shortage hrefused => ?_⟩
  obtain ⟨hf, he⟩ := dispatch_refused_iff.1 hrefused
  rw [dispatch_of_refusing hf he]
  exact ⟨rfl, rfl, transcript_eq_of_takeLog rfl⟩

end Desktop

/-- A family on one output, one of whom is dragged, and a host that is to refuse the next view. -/
def scarceRun : List Action := familyRun ++ [.switch (.failNextView true)]

theorem isSome_scarceRun : ((Desktop.fresh .default).run scarceRun).isSome := by decide +kernel

/-- A surface that is announced then is not heard of again. -/
theorem refusal_drops_scarceRun : ∃ d, Reached .default d ∧
    (d.dispatch (.windowAdded ⟨13⟩ none (some ⟨2, 1⟩))).1 = .refused .shellSurface ∧
    (d.dispatch (.windowAdded ⟨13⟩ none (some ⟨2, 1⟩))).2.shell = d.shell ∧
    (d.dispatch (.windowAdded ⟨13⟩ none (some ⟨2, 1⟩))).2.host.log =
      d.host.log ++ [.postNoMemory ⟨13⟩] ∧
    ∀ as, (d.dispatch (.windowAdded ⟨13⟩ none (some ⟨2, 1⟩))).2.transcript as =
      d.obliging.transcript as := by
  have hreached : Reached .default _ := Reached.run _ .fresh (Option.some_get isSome_scarceRun).symm
  have hdrops := Desktop.refusal_drops (((Desktop.fresh .default).run scarceRun).get
    isSome_scarceRun) (.windowAdded ⟨13⟩ none (some ⟨2, 1⟩))
  have hrefused := (hdrops.1 .shellSurface).2 ⟨by decide +kernel, rfl⟩
  exact ⟨_, hreached, hrefused, hdrops.2 .shellSurface hrefused⟩

end Kiosk
