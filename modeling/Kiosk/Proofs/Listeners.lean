import Kiosk.Proofs.Sound

/-!
# Links and listeners

On every reachable desktop the links are exactly accounted for by listeners: no
link dangles, and no listener is left behind or there twice.
-/

namespace Kiosk

variable {config : Config} {d : Desktop} {s : Shell}

/-- Links and listeners correspond one to one. -/
structure Shell.LinksExact (s : Shell) : Prop where
  /-- A link leads to a live record. Its listener is in the signal of that record under its
  token, and neither the token nor the listener is there a second time. -/
  listened : ∀ l t k, s.linkOf l = some (t, k) → ∃ σ, s.signalOf t = some σ ∧
    σ.listeners.filter (fun e => e.1 = k ∨ e.2 = l) = [(k, l)]
  /-- A listener is that of the one link which leads here under its token. -/
  linked : ∀ t σ k l, s.signalOf t = some σ → (k, l) ∈ σ.listeners →
    ∀ m, s.linkOf m = some (t, k) ↔ m = l
  /-- Seats that drag are live. -/
  seated : ∀ seat, s.grabs.contains seat → s.seats.contains seat
  /-- No window is dragged by two seats. -/
  dragged : ∀ a b g h, s.grabs.get? a = some g → s.grabs.get? b = some h →
    g.window.source = h.window.source → a = b

theorem Web.Exact.filter_eq {v : Web} (h : v.Exact) {l : Listener} {t : Target} {k : Token}
    {σ : Signal} (hl : v.link l = some (t, k)) (hσ : v.signal t = some σ) :
    σ.listeners.filter (fun e => e.1 = k ∨ e.2 = l) = [(k, l)] := by
  have hmem : (k, l) ∈ σ.listeners := (h.heard t σ hσ k l).2 hl
  have hsame : ∀ e ∈ σ.listeners, decide (e.1 = k ∨ e.2 = l) = (e == (k, l)) := by
    rintro ⟨j, m⟩ he
    rw [Bool.eq_iff_iff, decide_eq_true_iff, beq_iff_eq, Prod.mk.injEq]
    refine ⟨?_, fun hboth => .inl hboth.1⟩
    rintro (rfl | rfl)
    · exact ⟨rfl, (h.tidy t σ hσ).eq_of_mem he hmem⟩
    · cases hl.symm.trans ((h.heard t σ hσ j m).1 he)
      exact ⟨rfl, rfl⟩
  rw [List.filter_congr hsame, List.filter_beq,
    List.count_eq_one_of_mem (h.tidy t σ hσ).nodup.of_map hmem]
  rfl

theorem Shell.Sound.linksExact (h : s.Sound) : s.LinksExact := by
  refine ⟨fun l t k hl => ?_, fun t σ k l hσ hmem m => ?_, fun seat hs => h.seated seat ?_,
    fun a b g g' ha hb hsame => ?_⟩
  · obtain ⟨σ, hσ⟩ := Option.isSome_iff_exists.1 (h.exact.live l t k hl)
    exact ⟨σ, hσ, h.exact.filter_eq hl hσ⟩
  · have hlisten := h.exact.heard t σ hσ k
    refine ⟨fun hm => ?_, ?_⟩
    · exact (h.exact.tidy t σ hσ).eq_of_mem ((hlisten m).2 hm) hmem
    · rintro rfl
      exact (hlisten m).1 hmem
  · show ((s.grabs.get? seat).map _).isSome
    rw [Option.isSome_map]
    exact hs
  · refine h.once a b (.window g.window.source) g.window.token g'.window.token ?_ ?_
    · exact congrArg (Option.map fun grab => grab.window.toWindow) ha
    · rw [hsame]
      exact congrArg (Option.map fun grab => grab.window.toWindow) hb

theorem Reached.links_exact (h : Reached config d) : d.shell.LinksExact :=
  h.sound.linksExact

/-- The child is destroyed while the grandchild is focused and dragged. -/
def orphanRun : List Action := familyRun ++ [.call (.destroyWindow ⟨1, 1⟩)]

theorem isSome_orphanRun : ((Desktop.fresh .default).run orphanRun).isSome := by decide +kernel

/-- All kinds of links are there, and the grandchild has moved up. -/
theorem linksExact_orphanRun : ∃ d, Reached .default d ∧
    d.shell.linkOf (.parent ⟨2, 1⟩) = some (.window ⟨0, 1⟩, 2) ∧
    d.shell.linkOf (.boundOutput ⟨2, 1⟩) = some (.output ⟨0, 1⟩, 3) ∧
    d.shell.linkOf (.seatFocus ⟨0, 1⟩) = some (.window ⟨2, 1⟩, 0) ∧
    d.shell.linkOf (.grab ⟨0, 1⟩) = some (.window ⟨2, 1⟩, 1) ∧ d.shell.LinksExact := by
  have hreached : Reached .default _ := Reached.run _ .fresh (Option.some_get isSome_orphanRun).symm
  exact ⟨_, hreached, by decide +kernel, by decide +kernel, by decide +kernel, by decide +kernel,
    Reached.links_exact hreached⟩

end Kiosk
