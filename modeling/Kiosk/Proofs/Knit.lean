import Kiosk.Proofs.Links
import Kiosk.Proofs.Steady

/-!
# Shells that are knit together

The invariant of all reachable shells: links and listeners say the same, parents
form a forest, and the lists of children are the parent links read backwards
(`Children.Matches`). It is stated of a shell and a web beside it. Between
actions that web is the shell's own (`Shell.Sound`). While a window or an output
is torn down its record is gone and its listeners are still to run; then the web
is what the links would be if the record were there, and agrees with the shell
elsewhere.

Every change of links is one of four: `Knit.cut`, `Knit.tie`, `Knit.detach` and
`Knit.attach`.
-/

namespace Kiosk

open Relation (ReflTransGen TransGen)
open Function (update update_self update_of_ne)

/-! ## Lists of children -/

namespace Children

variable {c : Children} {f : WindowId → Option WindowId} {p q x y : WindowId}

/-- The lists hold each child of each window once, and nothing else. -/
def Matches (c : Children) (f : WindowId → Option WindowId) : Prop :=
  ∀ p, (c.of p).Nodup ∧ ∀ x, x ∈ c.of p ↔ f x = some p

theorem matches_empty : empty.Matches fun _ => none :=
  fun _ => ⟨List.nodup_nil, fun _ => by simp⟩

/-- A window is on no list but that of its parent. -/
theorem Matches.filter_ne (h : c.Matches f) (hx : f x ≠ some p) :
    (c.of p).filter (· ≠ x) = c.of p := by
  refine List.filter_eq_self.2 fun y hy => ?_
  have hne : y ≠ x := by
    rintro rfl
    exact hx (((h p).2 y).1 hy)
  simpa using hne

/-- Unlinking takes a window off the list it is on. -/
theorem Matches.unlink_eq_filter (h : c.Matches f) (hx : f x = some q) (p : WindowId) :
    (c.unlink q x).of p = (c.of p).filter (· ≠ x) := by
  rw [Children.of_unlink]
  split
  · next hp => rw [hp]
  · next hp =>
    refine (h.filter_ne fun hxp => hp ?_).symm
    exact Option.some.inj (hxp.symm.trans hx)

theorem Matches.unlink (h : c.Matches f) (hx : f x = some p) :
    (c.unlink p x).Matches (update f x none) := by
  intro q
  rw [of_unlink]
  split
  · next hq =>
    subst hq
    refine ⟨(h q).1.filter _, fun y => ?_⟩
    rw [List.mem_filter, (h q).2 y, decide_eq_true_iff]
    by_cases hy : y = x
    · subst hy
      simp [update_self]
    · rw [update_of_ne hy]
      exact and_iff_left hy
  · next hq =>
    refine ⟨(h q).1, fun y => ?_⟩
    rw [(h q).2 y]
    by_cases hy : y = x
    · subst hy
      rw [update_self, hx]
      exact ⟨fun he => absurd (Option.some.inj he).symm hq, fun he => nomatch he⟩
    · rw [update_of_ne hy]

theorem Matches.link (h : c.Matches f) (hx : f x = none) (p : WindowId) :
    (c.link p x).Matches (update f x (some p)) := by
  have hnot : ∀ q, x ∉ c.of q := fun q hm => nomatch hx.symm.trans (((h q).2 x).1 hm)
  intro q
  rw [of_link]
  by_cases hq : q = p
  · subst hq
    rw [if_pos ⟨rfl, hnot q⟩]
    refine ⟨?_, fun y => ?_⟩
    · rw [List.nodup_append]
      refine ⟨(h q).1, List.nodup_singleton x, fun a ha b hb => ?_⟩
      rintro rfl
      exact hnot q (List.mem_singleton.1 hb ▸ ha)
    · rw [List.mem_append, List.mem_singleton, (h q).2 y]
      by_cases hy : y = x
      · subst hy
        simp [update_self]
      · rw [update_of_ne hy]
        exact or_iff_left hy
  · rw [if_neg fun hn => hq hn.1]
    refine ⟨(h q).1, fun y => ?_⟩
    rw [(h q).2 y]
    by_cases hy : y = x
    · subst hy
      rw [update_self, hx]
      exact ⟨fun he => (nomatch he), fun he => absurd (Option.some.inj he).symm hq⟩
    · rw [update_of_ne hy]

theorem Matches.forget (h : c.Matches f) (hp : ∀ x, f x ≠ some p) : (c.forget p).Matches f := by
  intro q
  rw [of_forget]
  split
  · next hq =>
    subst hq
    exact ⟨List.nodup_nil, fun x => ⟨fun hm => (nomatch hm), fun he => absurd he (hp x)⟩⟩
  · exact h q

end Children

/-! ## The invariant -/

/-- Links, listeners, families and drags of `s` fit together, where `v` is the web of `s` but for
the record `dead`, which is gone from `s`. -/
structure Knit (dead : Option Target) (v : Web) (s : Shell) : Prop where
  exact : v.Exact
  ranked : Ranked v.parent
  agree : Web.Agree dead v s.web
  children : s.children.Matches v.parent
  gone : ∀ t ∈ dead, s.web.signal t = none
  /-- Seats that drag are live. -/
  seated : ∀ seat, (v.link (.grab seat)).isSome → s.seats.contains seat
  /-- No window is dragged by two seats. -/
  once : ∀ a b t j k, v.link (.grab a) = some (t, j) → v.link (.grab b) = some (t, k) → a = b

/-- All records of the shell fit together. -/
def Shell.Sound (s : Shell) : Prop := Knit none s.web s

namespace Knit

variable {dead : Option Target} {v : Web} {s s' : Shell} {w p x : WindowId} {l : Listener}
  {t : Target}

theorem sound (h : Knit none v s) : s.Sound := by
  have hv := Web.agree_none.1 h.agree
  subst hv
  exact h

theorem not_mem_of_signal (h : Knit dead v s) (ht : (s.web.signal t).isSome) : t ∉ dead := by
  intro hm
  rw [h.gone t hm] at ht
  cases ht

theorem not_mem_of_isLive (h : Knit dead v s) (hw : s.isLive w) : .window w ∉ dead :=
  h.not_mem_of_signal (by rw [Shell.isSome_signal_window]; exact hw)

/-- The dead record holds no link of others. -/
theorem holder_ne (ht : t ∉ dead) (hl : l.holder = some t) : ∀ x ∈ dead, l.holder ≠ some x := by
  rintro x hx he
  rw [hl] at he
  cases he
  exact ht hx

/-- Changes that have nothing to do with links. -/
theorem of_web_eq (h : Knit dead v s) (hweb : s'.web = s.web) (hc : s'.children = s.children)
    (hs : ∀ seat, s.seats.contains seat → s'.seats.contains seat) : Knit dead v s' where
  exact := h.exact
  ranked := h.ranked
  agree := hweb ▸ h.agree
  children := hc ▸ h.children
  gone t ht := by
    rw [hweb]
    exact h.gone t ht
  seated seat hg := hs seat (h.seated seat hg)
  once := h.once

/-- Ending a link other than to a parent. -/
theorem cut (h : Knit dead v s) (hl : ∀ t ∈ dead, l.holder ≠ some t) (hp : ∀ x, l ≠ .parent x)
    (hweb : s'.web = s.web.cut l) (hc : s'.children = s.children)
    (hs : ∀ seat, s.seats.contains seat → s'.seats.contains seat) : Knit dead (v.cut l) s' where
  exact := h.exact.cut l
  ranked := by
    rw [Web.parent_cut_of_ne hp]
    exact h.ranked
  agree := hweb ▸ h.agree.cut hl
  children := by
    rw [Web.parent_cut_of_ne hp, hc]
    exact h.children
  gone t ht := by
    rw [hweb, Web.signal_cut_eq_none]
    exact h.gone t ht
  seated seat hg := by
    refine hs seat (h.seated seat ?_)
    obtain ⟨e, he⟩ := Option.isSome_iff_exists.1 hg
    rw [(Web.link_of_link_cut he).2]
    rfl
  once a b t j k ha hb := h.once a b t j k (Web.link_of_link_cut ha).2 (Web.link_of_link_cut hb).2

/-- Making a link other than to a parent. A drag is one of a live seat, and of a window that no
seat drags. -/
theorem tie (h : Knit dead v s) (hl : v.link l = none) (ht : t ∉ dead) (hsuits : l.Suits t)
    (hp : ∀ x, l ≠ .parent x) (hg : ∀ seat, l = .grab seat → s'.seats.contains seat)
    (ho : ∀ seat a k, l = .grab seat → v.link (.grab a) ≠ some (t, k))
    (hweb : s'.web = s.web.tie l t) (hc : s'.children = s.children)
    (hs : ∀ seat, s.seats.contains seat → s'.seats.contains seat) : Knit dead (v.tie l t) s' where
  exact := h.exact.tie hl hsuits
  ranked := by
    rw [Web.parent_tie_of_ne hp]
    exact h.ranked
  agree := hweb ▸ h.agree.tie ht l
  children := by
    rw [Web.parent_tie_of_ne hp, hc]
    exact h.children
  gone u hu := by
    rw [hweb, Web.signal_tie_eq_none]
    exact h.gone u hu
  seated seat hgrab := by
    obtain ⟨⟨u, k⟩, he⟩ := Option.isSome_iff_exists.1 hgrab
    rcases Web.link_of_link_tie hl he with ⟨hsame, -⟩ | hold
    · exact hg seat hsame.symm
    · exact hs seat (h.seated seat (Option.isSome_iff_exists.2 ⟨_, hold⟩))
  once a b u j k ha hb := by
    rcases Web.link_of_link_tie hl ha with ⟨rfl, rfl⟩ | hold
    · rcases Web.link_of_link_tie hl hb with ⟨hsame, -⟩ | hb
      · cases hsame
        rfl
      · exact absurd hb (ho a b k rfl)
    · rcases Web.link_of_link_tie hl hb with ⟨rfl, rfl⟩ | hb
      · exact absurd hold (ho b a j rfl)
      · exact h.once a b u j k hold hb

/-- Parent links of the shell are parent links of the web. -/
theorem parent_of_parentOf (h : Knit dead v s) (hx : Windows.parentOf s.windows x = some p) :
    v.parent x = some p := by
  have hlive : s.isLive x := Windows.contains_of_parentOf hx
  rw [Web.parent_congr (h.agree.link _ (holder_ne (h.not_mem_of_isLive hlive) rfl)),
    Shell.parent_web, hx]

theorem detach (h : Knit dead v s) (hw : .window w ∉ dead) :
    Knit dead (v.cut (.parent w)) (s.detach w) where
  exact := h.exact.cut _
  ranked := by
    rw [Web.parent_cut]
    exact h.ranked.update_none w
  agree := by
    rw [Shell.web_detach]
    exact h.agree.cut (holder_ne hw rfl)
  children := by
    rw [Web.parent_cut, Shell.children_detach,
      ← Web.parent_congr (h.agree.link _ (holder_ne hw rfl))]
    cases hp : v.parent w with
    | none =>
      have hsame := Function.update_eq_self w v.parent
      rw [hp] at hsame
      rw [hsame]
      exact h.children
    | some p => exact h.children.unlink hp
  gone t ht := by
    rw [Shell.web_detach, Web.signal_cut_eq_none]
    exact h.gone t ht
  seated seat hg := by
    rw [(s.detach_steady w).seats]
    exact h.seated seat (by rwa [Web.link_cut_of_ne (by simp)] at hg)
  once a b t j k ha hb := h.once a b t j k (Web.link_of_link_cut ha).2 (Web.link_of_link_cut hb).2

theorem attach (h : Knit dead v s) (hl : v.link (.parent w) = none) (hw : s.isLive w)
    (hp : s.isLive p) (hup : ¬ ReflTransGen (Up v.parent) p w) :
    Knit dead (v.tie (.parent w) (.window p)) (s.attach w p) := by
  have hparent := Web.parent_tie (v := v) (p := p) (by
    rw [h.agree.signal _ (h.not_mem_of_isLive hp), Shell.isSome_signal_window]
    exact hp) w
  refine ⟨h.exact.tie hl trivial, ?_, ?_, ?_, fun t ht => ?_, fun seat hg => ?_,
    fun a b t j k ha hb => ?_⟩
  · rw [hparent]
    exact h.ranked.update_some hup
  · rw [Shell.web_attach hw]
    exact h.agree.tie (h.not_mem_of_isLive hp) _
  · rw [hparent, Shell.children_attach hp]
    refine h.children.link ?_ p
    rw [Web.parent, hl]
  · rw [Shell.web_attach hw, Web.signal_tie_eq_none]
    exact h.gone t ht
  · rw [(s.attach_steady w p).seats]
    exact h.seated seat (by rwa [Web.link_tie_of_ne (by simp)] at hg)
  · rw [Web.link_tie_of_ne (by simp)] at ha hb
    exact h.once a b t j k ha hb

/-- A window gets another parent, which is not below it. -/
theorem adopt (h : Knit dead v s) (hw : s.isLive w) (hp : s.isLive p)
    (hup : ¬ ReflTransGen (Up v.parent) p w) :
    Knit dead ((v.cut (.parent w)).tie (.parent w) (.window p)) ((s.detach w).attach w p) := by
  have hlive := (s.detach_steady w).isLive
  refine (h.detach (h.not_mem_of_isLive hw)).attach (Web.link_cut_self v _) (by rwa [hlive])
    (by rwa [hlive]) fun hr => hup (hr.lift id fun x y hxy => ?_)
  rw [Up, Web.parent_cut] at hxy
  by_cases hx : x = w
  · rw [hx, update_self] at hxy
    cases hxy
  · rwa [update_of_ne hx] at hxy

/-! ### Settling -/

theorem setOutput (h : Knit dead v s) (w : WindowId) (o : Option OutputId) :
    ∃ u, Knit dead u (s.setOutput w o) ∧ Web.Rebound dead v u := by
  cases hw : s.isLive w with
  | false =>
    rw [Shell.setOutput_of_not_live hw]
    exact ⟨v, h, .refl dead v⟩
  | true =>
    have hdead := h.not_mem_of_isLive hw
    have hleave : Knit dead (v.cut (.boundOutput w)) (s.leaveOutput w) :=
      h.cut (holder_ne hdead rfl) (by simp) (s.web_leaveOutput w) (s.children_leaveOutput w)
        fun seat hs => (s.leaveOutput_steady w).seats ▸ hs
    have hcut := h.exact.rebound_cut hdead
    cases o with
    | none =>
      rw [Shell.setOutput_none hw]
      exact ⟨_, hleave, hcut⟩
    | some o =>
      rw [Shell.setOutput_some hw]
      cases ho : s.outputs.contains o with
      | false =>
        refine ⟨_, ?_, hcut⟩
        rwa [Shell.enterOutput_of_not_live]
        rwa [← Shell.isSome_signal_output, Shell.web_leaveOutput, Web.isSome_signal_cut,
          Shell.isSome_signal_output]
      | true =>
        have hout : .output o ∉ dead :=
          h.not_mem_of_signal (by rw [Shell.isSome_signal_output]; exact ho)
        have hsuits : (Listener.boundOutput w).Suits (.output o) := trivial
        refine ⟨_, hleave.tie (Web.link_cut_self v _) hout hsuits (by simp) (by simp) (by simp)
          (Shell.web_enterOutput ?_) (Shell.children_enterOutput _ w o) fun seat hs => ?_,
          hcut.trans (Web.rebound_tie hdead _ o)⟩
        · rw [Shell.isLive_leaveOutput]
          exact hw
        · rw [(Shell.enterOutput_steady _ w o).seats]
          exact hs

theorem settling {d d' : Desktop} (h : Knit dead v d.shell) (hs : Settling d d') :
    ∃ u, Knit dead u d'.shell ∧ Web.Rebound dead v u := by
  have hseats : ∀ seat, d.shell.seats.contains seat → d'.shell.seats.contains seat :=
    fun seat hm => hs.steady.shell.seats ▸ hm
  have hchildren := hs.children
  cases hs with
  | output w o => exact h.setOutput w o
  | @normal w window hw =>
    refine ⟨v, h.of_web_eq ?_ hchildren hseats, .refl dead v⟩
    exact Shell.web_setPlacement d.shell w .normal
  | fill w placement =>
    refine ⟨v, h.of_web_eq ?_ hchildren hseats, .refl dead v⟩
    rw [Desktop.shell_fillOutput]
    exact Shell.web_setPlacement d.shell w placement

theorem settles {d d' : Desktop} (h : Knit dead v d.shell) (hs : Settles d d') :
    ∃ u, Knit dead u d'.shell ∧ Web.Rebound dead v u := by
  induction hs with
  | refl => exact ⟨v, h, .refl dead v⟩
  | tail _ hs ih =>
    obtain ⟨u, hu, hr⟩ := ih
    obtain ⟨u', hu', hr'⟩ := hu.settling hs
    exact ⟨u', hu', hr.trans hr'⟩

end Knit

end Kiosk
