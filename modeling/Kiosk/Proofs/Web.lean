import Kiosk.Proofs.Ancestry
import Kiosk.Link
import Mathlib.Logic.Function.Basic

/-!
# Webs of links

All links of a shell and all signals of its records, as two maps: `Web.link` says
where the link that a listener stands for leads, and under which token, and
`Web.signal` gives the signal of each record that can be led to. A web is
`Exact` when the two say the same: links lead to records that are there, and a
record's listeners are those of the links that lead to it, each under its link's
token and never twice.

Links change in two ways only. `Web.cut` ends a link together with its
subscription and `Web.tie` makes one (`Exact.cut`, `Exact.tie`); records come
and go by `Exact.spawn` and `Exact.retire`. `Web.Agree` compares two webs
everywhere but at one window: while a window is torn down, the web that still
has it agrees so with the shell that no longer does.
-/

namespace Kiosk

open Function (update update_self update_of_ne)

/-- What a link can lead to. -/
inductive Target where
  | window (w : WindowId)
  | output (o : OutputId)
  deriving DecidableEq

/-- Whether a listener of this kind may be subscribed to the signal of `t`. -/
def Listener.Suits : Listener → Target → Prop
  | .boundOutput _, .output _ => True
  | .boundOutput _, .window _ => False
  | _, .window _ => True
  | _, .output _ => False

/-- The window whose record holds the link, if a window's does. -/
def Listener.holder : Listener → Option Target
  | .parent w => some (.window w)
  | .boundOutput w => some (.window w)
  | .seatFocus _ => none
  | .grab _ => none

/-! ## Signals -/

namespace Signal

variable {σ : Signal} {k : Token} {l : Listener} {e : Token × Listener}

/-- Every subscription has a token of its own, handed out by this signal. -/
structure Tidy (σ : Signal) : Prop where
  nodup : (σ.listeners.map Prod.fst).Nodup
  lt : ∀ e ∈ σ.listeners, e.1 < σ.nextToken

theorem mem_unsubscribe : e ∈ (σ.unsubscribe k).listeners ↔ e ∈ σ.listeners ∧ e.1 ≠ k := by
  simp [unsubscribe]

theorem mem_subscribe :
    e ∈ (σ.subscribe l).2.listeners ↔ e ∈ σ.listeners ∨ e = (σ.nextToken, l) := by
  simp [subscribe]

theorem tidy_empty : empty.Tidy := ⟨List.nodup_nil, fun _ he => nomatch he⟩

theorem Tidy.unsubscribe (h : σ.Tidy) (k : Token) : (σ.unsubscribe k).Tidy :=
  ⟨h.nodup.sublist (List.filter_sublist.map _), fun e he => h.lt e (mem_unsubscribe.1 he).1⟩

theorem Tidy.subscribe (h : σ.Tidy) (l : Listener) : (σ.subscribe l).2.Tidy := by
  refine ⟨?_, fun e he => ?_⟩
  · simp only [Signal.subscribe, List.map_append, List.map_cons, List.map_nil]
    refine List.nodup_append.2 ⟨h.nodup, List.nodup_singleton _, fun a ha b hb => ?_⟩
    obtain ⟨e, he, rfl⟩ := List.mem_map.1 ha
    rw [List.mem_singleton.1 hb]
    exact Nat.ne_of_lt (h.lt e he)
  · show e.1 < σ.nextToken + 1
    rcases mem_subscribe.1 he with he | rfl
    · exact Nat.lt_succ_of_lt (h.lt e he)
    · exact Nat.lt_succ_self _

/-- One token, one listener. -/
theorem Tidy.eq_of_mem (h : σ.Tidy) {m : Listener} (hl : (k, l) ∈ σ.listeners)
    (hm : (k, m) ∈ σ.listeners) : l = m :=
  congrArg Prod.snd (List.inj_on_of_nodup_map h.nodup hl hm rfl)

/-- Unsubscribing the first listener leaves the others. -/
theorem Tidy.unsubscribe_head (h : σ.Tidy) {es : List (Token × Listener)}
    (he : σ.listeners = (k, l) :: es) : (σ.unsubscribe k).listeners = es := by
  have hn := h.nodup
  rw [he, List.map_cons, List.nodup_cons] at hn
  rw [Signal.unsubscribe, he, List.filter_cons_of_neg (by simp)]
  refine List.filter_eq_self.2 fun e hm => ?_
  have : e.1 ≠ k := fun hk => hn.1 (List.mem_map.2 ⟨e, hm, hk⟩)
  simpa using this

end Signal

/-! ## Webs -/

/-- Where links lead, and the signals of what they may lead to. -/
@[ext]
structure Web where
  link : Listener → Option (Target × Token)
  signal : Target → Option Signal

namespace Web

variable {v u : Web} {l m : Listener} {t : Target} {k : Token} {σ : Signal} {w x p : WindowId}
  {dead : Option Target}

/-- Lets the link of `l` lead to `e`, or to nothing. -/
def point (v : Web) (l : Listener) (e : Option (Target × Token)) : Web :=
  { v with link := update v.link l e }

/-- Makes `σ` the signal of `t`, or takes `t` away. -/
def place (v : Web) (t : Target) (σ : Option Signal) : Web :=
  { v with signal := update v.signal t σ }

/-- Ends a subscription to `t`. -/
def mute (v : Web) (t : Target) (k : Token) : Web :=
  v.place t ((v.signal t).map (·.unsubscribe k))

/-- Ends a link and its subscription. -/
def cut (v : Web) (l : Listener) : Web :=
  match v.link l with
  | none => v
  | some (t, k) => (v.point l none).mute t k

/-- Links to `t`, if it is there, and subscribes. -/
def tie (v : Web) (l : Listener) (t : Target) : Web :=
  match v.signal t with
  | none => v
  | some σ => (v.place t (some (σ.subscribe l).2)).point l (some (t, σ.nextToken))

theorem link_point_self (v : Web) (l : Listener) (e : Option (Target × Token)) :
    (v.point l e).link l = e :=
  update_self ..

theorem link_point_of_ne (h : m ≠ l) (v : Web) (e : Option (Target × Token)) :
    (v.point l e).link m = v.link m :=
  update_of_ne h ..

theorem signal_place_self (v : Web) (t : Target) (τ : Option Signal) : (v.place t τ).signal t = τ :=
  update_self ..

theorem signal_place_of_ne {u : Target} (h : u ≠ t) (v : Web) (τ : Option Signal) :
    (v.place t τ).signal u = v.signal u :=
  update_of_ne h ..

/-- A web that differs from `v` in the link of `l` at most. -/
theorem eq_point {e : Option (Target × Token)} (hl : u.link l = e)
    (hm : ∀ m, m ≠ l → u.link m = v.link m) (hs : ∀ t, u.signal t = v.signal t) :
    u = v.point l e := by
  refine Web.ext (funext fun m => ?_) (funext hs)
  by_cases hml : m = l
  · rw [hml, link_point_self, hl]
  · rw [link_point_of_ne hml, hm m hml]

/-- A web that differs from `v` in the signal of `t` at most. -/
theorem eq_place {τ : Option Signal} (hl : ∀ l, u.link l = v.link l) (ht : u.signal t = τ)
    (hs : ∀ s, s ≠ t → u.signal s = v.signal s) : u = v.place t τ := by
  refine Web.ext (funext hl) (funext fun s => ?_)
  by_cases hst : s = t
  · rw [hst, signal_place_self, ht]
  · rw [signal_place_of_ne hst, hs s hst]

theorem signal_mute_self (v : Web) (t : Target) (k : Token) :
    (v.mute t k).signal t = (v.signal t).map (·.unsubscribe k) :=
  update_self ..

theorem signal_mute_of_ne {u : Target} (h : u ≠ t) (v : Web) (k : Token) :
    (v.mute t k).signal u = v.signal u :=
  update_of_ne h ..

/-- Links and listeners say the same. -/
structure Exact (v : Web) : Prop where
  suits : ∀ l t k, v.link l = some (t, k) → l.Suits t
  live : ∀ l t k, v.link l = some (t, k) → (v.signal t).isSome
  heard : ∀ t σ, v.signal t = some σ → ∀ k l, (k, l) ∈ σ.listeners ↔ v.link l = some (t, k)
  tidy : ∀ t σ, v.signal t = some σ → σ.Tidy

theorem cut_of_none (h : v.link l = none) : v.cut l = v := by
  simp only [cut, h]

theorem cut_of_some (h : v.link l = some (t, k)) : v.cut l = (v.point l none).mute t k := by
  simp only [cut, h]

/-- A link to a record that is gone has no subscription to be ended. -/
theorem cut_of_gone (h : v.link l = some (t, k)) (ht : v.signal t = none) :
    v.cut l = v.point l none := by
  rw [cut_of_some h]
  refine Web.ext rfl (funext fun u => ?_)
  by_cases hu : u = t
  · rw [hu, signal_mute_self]
    show (v.signal t).map _ = v.signal t
    rw [ht]
    rfl
  · exact signal_mute_of_ne hu _ _

theorem tie_of_some (h : v.signal t = some σ) (l : Listener) :
    v.tie l t = (v.place t (some (σ.subscribe l).2)).point l (some (t, σ.nextToken)) := by
  simp only [tie, h]

theorem link_cut_self (v : Web) (l : Listener) : (v.cut l).link l = none := by
  unfold cut
  split
  · next h => exact h
  · exact link_point_self ..

theorem link_cut_of_ne (h : m ≠ l) (v : Web) : (v.cut l).link m = v.link m := by
  unfold cut
  split
  · rfl
  · exact link_point_of_ne h ..

/-- What is still a link after a cut was one before. -/
theorem link_of_link_cut {e : Target × Token} (h : (v.cut l).link m = some e) :
    m ≠ l ∧ v.link m = some e := by
  by_cases hm : m = l
  · rw [hm, link_cut_self] at h
    cases h
  · rw [link_cut_of_ne hm] at h
    exact ⟨hm, h⟩

theorem link_tie_of_ne (h : m ≠ l) (v : Web) (t : Target) : (v.tie l t).link m = v.link m := by
  unfold tie
  split
  · rfl
  · exact link_point_of_ne h ..

/-- A link after a tie is the new one, or was there before. -/
theorem link_of_link_tie {u : Target} (hl : v.link l = none)
    (h : (v.tie l t).link m = some (u, k)) : m = l ∧ u = t ∨ v.link m = some (u, k) := by
  by_cases hm : m = l
  · subst hm
    cases ht : v.signal t with
    | none =>
      rw [tie, ht] at h
      cases hl.symm.trans h
    | some σ =>
      rw [tie_of_some ht, link_point_self] at h
      cases h
      exact .inl ⟨rfl, rfl⟩
  · rw [link_tie_of_ne hm] at h
    exact .inr h

theorem isSome_signal_mute (v : Web) (t u : Target) (k : Token) :
    ((v.mute t k).signal u).isSome = (v.signal u).isSome := by
  by_cases hu : u = t
  · rw [hu, signal_mute_self, Option.isSome_map]
  · rw [signal_mute_of_ne hu]

theorem isSome_signal_cut (v : Web) (l : Listener) (u : Target) :
    ((v.cut l).signal u).isSome = (v.signal u).isSome := by
  unfold cut
  split
  · rfl
  · exact isSome_signal_mute _ _ _ _

theorem isSome_signal_tie (v : Web) (l : Listener) (t u : Target) :
    ((v.tie l t).signal u).isSome = (v.signal u).isSome := by
  unfold tie
  split
  · rfl
  · next σ hσ =>
    show ((v.place t _).signal u).isSome = _
    by_cases hu : u = t
    · rw [hu, signal_place_self, hσ]
      rfl
    · rw [signal_place_of_ne hu]

theorem signal_cut_eq_none (v : Web) (l : Listener) (u : Target) :
    (v.cut l).signal u = none ↔ v.signal u = none := by
  rw [← Option.isNone_iff_eq_none, ← Option.not_isSome, isSome_signal_cut, Option.not_isSome,
    Option.isNone_iff_eq_none]

theorem signal_tie_eq_none (v : Web) (l : Listener) (t u : Target) :
    (v.tie l t).signal u = none ↔ v.signal u = none := by
  rw [← Option.isNone_iff_eq_none, ← Option.not_isSome, isSome_signal_tie, Option.not_isSome,
    Option.isNone_iff_eq_none]

/-- A signal that `l` does not lead to is left alone when its link ends. -/
theorem signal_cut_of_ne (h : ∀ k, v.link l ≠ some (t, k)) : (v.cut l).signal t = v.signal t := by
  unfold cut
  split
  · rfl
  · next u k hl =>
    refine signal_mute_of_ne (fun hu => h k ?_) _ _
    rw [hu]
    exact hl

theorem signal_tie_of_ne {u : Target} (h : u ≠ t) (v : Web) (l : Listener) :
    (v.tie l t).signal u = v.signal u := by
  unfold tie
  split
  · rfl
  · exact signal_place_of_ne h _ _

/-! ## Exact webs -/

theorem exact_empty : Exact ⟨fun _ => none, fun _ => none⟩ :=
  ⟨fun _ _ _ h => (nomatch h), fun _ _ _ h => (nomatch h), fun _ _ h => (nomatch h),
    fun _ _ h => (nomatch h)⟩

/-- A link that still leads somewhere when `l` was dropped is another one. -/
theorem link_point_none {u : Target} (h : (v.point l none).link m = some (u, k)) :
    m ≠ l ∧ v.link m = some (u, k) := by
  by_cases hm : m = l
  · rw [hm, link_point_self] at h
    cases h
  · rw [link_point_of_ne hm] at h
    exact ⟨hm, h⟩

theorem Exact.cut (h : v.Exact) (l : Listener) : (v.cut l).Exact := by
  unfold Web.cut
  split
  · exact h
  next t k hl =>
  -- A link to anything else than what `l` led to, or under another token, is not `l`.
  have hne : ∀ {m u j}, v.link m = some (u, j) → ¬ (u = t ∧ j = k) → m ≠ l := by
    rintro m u j hm hn rfl
    cases hl.symm.trans hm
    exact hn ⟨rfl, rfl⟩
  refine ⟨fun m u j hm => h.suits m u j (link_point_none hm).2, fun m u j hm => ?_,
    fun u τ hu j m => ?_, fun u τ hu => ?_⟩
  · rw [isSome_signal_mute]
    exact h.live m u j (link_point_none hm).2
  · show _ ↔ (v.point l none).link m = some (u, j)
    by_cases hut : u = t
    · subst hut
      rw [signal_mute_self] at hu
      obtain ⟨σ, hσ, rfl⟩ := Option.map_eq_some_iff.1 hu
      rw [Signal.mem_unsubscribe, h.heard u σ hσ]
      constructor
      · rintro ⟨hm, hj⟩
        rw [link_point_of_ne (hne hm fun hn => hj hn.2)]
        exact hm
      · intro hm
        obtain ⟨hml, hm⟩ := link_point_none hm
        refine ⟨hm, fun hj => hml ?_⟩
        have hk : j = k := hj
        subst hk
        exact (h.tidy u σ hσ).eq_of_mem ((h.heard u σ hσ j m).2 hm) ((h.heard u σ hσ j l).2 hl)
    · rw [signal_mute_of_ne hut] at hu
      rw [h.heard u τ hu]
      constructor
      · intro hm
        rw [link_point_of_ne (hne hm fun hn => hut hn.1)]
        exact hm
      · exact fun hm => (link_point_none hm).2
  · by_cases hut : u = t
    · rw [hut, signal_mute_self] at hu
      obtain ⟨σ, hσ, rfl⟩ := Option.map_eq_some_iff.1 hu
      exact (h.tidy t σ hσ).unsubscribe k
    · rw [signal_mute_of_ne hut] at hu
      exact h.tidy u τ hu

theorem Exact.tie (h : v.Exact) (hl : v.link l = none) (hs : l.Suits t) : (v.tie l t).Exact := by
  unfold Web.tie
  split
  · exact h
  next σ hσ =>
  have hout : ∀ {u j}, v.link l ≠ some (u, j) := fun {u j} he => by cases hl.symm.trans he
  refine ⟨fun m u j hm => ?_, fun m u j hm => ?_, fun u τ hu j m => ?_, fun u τ hu => ?_⟩
  · by_cases hml : m = l
    · rw [hml, link_point_self] at hm
      cases hm
      exact hml ▸ hs
    · rw [link_point_of_ne hml] at hm
      exact h.suits m u j hm
  · show ((v.place t _).signal u).isSome
    by_cases hut : u = t
    · rw [hut, signal_place_self]
      rfl
    · rw [signal_place_of_ne hut]
      by_cases hml : m = l
      · rw [hml, link_point_self] at hm
        cases hm
        exact absurd rfl hut
      · rw [link_point_of_ne hml] at hm
        exact h.live m u j hm
  · by_cases hut : u = t
    · subst hut
      cases (signal_place_self v u _).symm.trans hu
      rw [Signal.mem_subscribe, h.heard u σ hσ]
      by_cases hml : m = l
      · subst hml
        rw [link_point_self]
        constructor
        · rintro (he | he)
          · exact absurd he hout
          · cases he
            rfl
        · intro he
          cases he
          exact .inr rfl
      · rw [link_point_of_ne hml]
        constructor
        · rintro (he | he)
          · exact he
          · exact absurd (congrArg Prod.snd he) hml
        · exact .inl
    · rw [h.heard u τ ((signal_place_of_ne hut v _).symm.trans hu)]
      by_cases hml : m = l
      · subst hml
        rw [link_point_self]
        constructor
        · exact fun he => absurd he hout
        · intro he
          cases he
          exact absurd rfl hut
      · rw [link_point_of_ne hml]
        rfl
  · by_cases hut : u = t
    · subst hut
      cases (signal_place_self v u _).symm.trans hu
      exact (h.tidy u σ hσ).subscribe l
    · exact h.tidy u τ ((signal_place_of_ne hut v _).symm.trans hu)

/-- Cutting the first listener of a record leaves the others. -/
theorem Exact.cut_head (h : v.Exact) (hσ : v.signal t = some σ) {es : List (Token × Listener)}
    (he : σ.listeners = (k, l) :: es) :
    ∃ τ, (v.cut l).signal t = some τ ∧ τ.listeners = es := by
  have hl : v.link l = some (t, k) := (h.heard t σ hσ k l).1 (by rw [he]; exact List.mem_cons_self)
  refine ⟨σ.unsubscribe k, ?_, (h.tidy t σ hσ).unsubscribe_head he⟩
  rw [cut_of_some hl, signal_mute_self]
  show (v.signal t).map _ = _
  rw [hσ]
  rfl

/-- A new record: nothing leads to it yet. -/
theorem Exact.spawn (h : v.Exact) (ht : v.signal t = none) : (v.place t (some .empty)).Exact := by
  refine ⟨h.suits, fun m u j hm => ?_, fun u τ hu j m => ?_, fun u τ hu => ?_⟩
  · by_cases hut : u = t
    · rw [hut, signal_place_self]
      rfl
    · rw [signal_place_of_ne hut]
      exact h.live m u j hm
  · by_cases hut : u = t
    · subst hut
      cases (signal_place_self v u _).symm.trans hu
      refine ⟨fun he => (nomatch he), fun hm => ?_⟩
      have := h.live m u j hm
      rw [ht] at this
      cases this
    · exact h.heard u τ ((signal_place_of_ne hut v _).symm.trans hu) j m
  · by_cases hut : u = t
    · subst hut
      cases (signal_place_self v u _).symm.trans hu
      exact Signal.tidy_empty
    · exact h.tidy u τ ((signal_place_of_ne hut v _).symm.trans hu)

/-- A record goes that nobody listens to: nothing leads to it any more. -/
theorem Exact.retire (h : v.Exact) (ht : v.signal t = some σ) (hσ : σ.listeners = []) :
    (v.place t none).Exact := by
  have old : ∀ {u τ}, (v.place t none).signal u = some τ → v.signal u = some τ := by
    intro u τ hu
    by_cases hut : u = t
    · rw [hut, signal_place_self] at hu
      cases hu
    · rwa [signal_place_of_ne hut] at hu
  refine ⟨h.suits, fun m u j hm => ?_, fun u τ hu j m => h.heard u τ (old hu) j m,
    fun u τ hu => h.tidy u τ (old hu)⟩
  have hut : u ≠ t := by
    rintro rfl
    have := (h.heard u σ ht j m).2 hm
    rw [hσ] at this
    cases this
  rw [signal_place_of_ne hut]
  exact h.live m u j hm

/-! ## Parents -/

/-- The window the link for a parent leads to. -/
def parent (v : Web) (w : WindowId) : Option WindowId :=
  match v.link (.parent w) with
  | some (.window p, _) => some p
  | _ => none

theorem parent_eq_some_iff :
    v.parent w = some p ↔ ∃ k, v.link (.parent w) = some (.window p, k) := by
  unfold parent
  split
  · next q k hl => simp [hl]
  · next hl =>
    refine ⟨fun h => (nomatch h), fun ⟨k, hk⟩ => absurd hk (hl p k)⟩

theorem parent_congr (h : v.link (.parent w) = u.link (.parent w)) : v.parent w = u.parent w := by
  simp only [parent, h]

theorem parent_cut (v : Web) (x : WindowId) :
    (v.cut (.parent x)).parent = update v.parent x none := by
  funext y
  by_cases hy : y = x
  · subst hy
    rw [update_self, parent, link_cut_self]
  · rw [update_of_ne hy]
    exact parent_congr (link_cut_of_ne (by simpa using hy) v)

theorem parent_cut_of_ne (h : ∀ x, l ≠ .parent x) (v : Web) : (v.cut l).parent = v.parent :=
  funext fun y => parent_congr (link_cut_of_ne (h y).symm v)

theorem parent_tie (h : (v.signal (.window p)).isSome) (x : WindowId) :
    (v.tie (.parent x) (.window p)).parent = update v.parent x (some p) := by
  obtain ⟨σ, hσ⟩ := Option.isSome_iff_exists.1 h
  funext y
  by_cases hy : y = x
  · subst hy
    rw [update_self, parent, tie_of_some hσ, link_point_self]
  · rw [update_of_ne hy]
    exact parent_congr (link_tie_of_ne (by simpa using hy) v _)

theorem parent_tie_of_ne (h : ∀ x, l ≠ .parent x) (v : Web) (t : Target) :
    (v.tie l t).parent = v.parent :=
  funext fun y => parent_congr (link_tie_of_ne (h y).symm v t)

/-! ## Webs in which windows changed outputs -/

/-- Of what concerns windows, only the outputs changed that windows other than `dead` are on. -/
structure Rebound (dead : Option Target) (v u : Web) : Prop where
  signal : ∀ w, u.signal (.window w) = v.signal (.window w)
  parent : ∀ w, u.link (.parent w) = v.link (.parent w)
  boundOutput : ∀ w, .window w ∈ dead → u.link (.boundOutput w) = v.link (.boundOutput w)

theorem Rebound.refl (dead : Option Target) (v : Web) : Rebound dead v v :=
  ⟨fun _ => rfl, fun _ => rfl, fun _ _ => rfl⟩

theorem Rebound.trans {u' : Web} (h : Rebound dead v u) (h' : Rebound dead u u') :
    Rebound dead v u' :=
  ⟨fun w => (h'.signal w).trans (h.signal w), fun w => (h'.parent w).trans (h.parent w),
    fun w hw => (h'.boundOutput w hw).trans (h.boundOutput w hw)⟩

theorem Exact.rebound_cut (h : v.Exact) (hw : .window w ∉ dead) :
    Rebound dead v (v.cut (.boundOutput w)) := by
  refine ⟨fun x => signal_cut_of_ne fun k hk => h.suits _ _ _ hk,
    fun x => link_cut_of_ne (by simp) v, fun x hx => link_cut_of_ne ?_ v⟩
  rintro he
  cases he
  exact hw hx

theorem rebound_tie (hw : .window w ∉ dead) (v : Web) (o : OutputId) :
    Rebound dead v (v.tie (.boundOutput w) (.output o)) := by
  refine ⟨fun x => signal_tie_of_ne (by simp) v _, fun x => link_tie_of_ne (by simp) v _,
    fun x hx => link_tie_of_ne ?_ v _⟩
  rintro he
  cases he
  exact hw hx

/-! ## Webs that agree but for one record -/

/-- The two webs are the same, except perhaps for the signal of `dead` and the links it holds. -/
structure Agree (dead : Option Target) (v u : Web) : Prop where
  link : ∀ l, (∀ t ∈ dead, l.holder ≠ some t) → v.link l = u.link l
  signal : ∀ t, t ∉ dead → v.signal t = u.signal t

theorem agree_none : Agree none v u ↔ v = u := by
  constructor
  · intro h
    exact Web.ext (funext fun l => h.link l fun _ ht => nomatch ht)
      (funext fun t => h.signal t fun ht => nomatch ht)
  · rintro rfl
    exact ⟨fun _ _ => rfl, fun _ _ => rfl⟩

theorem Agree.point (h : Agree dead v u) (l : Listener) (e : Option (Target × Token)) :
    Agree dead (v.point l e) (u.point l e) := by
  refine ⟨fun m hm => ?_, h.signal⟩
  by_cases hml : m = l
  · rw [hml, link_point_self, link_point_self]
  · rw [link_point_of_ne hml, link_point_of_ne hml]
    exact h.link m hm

theorem Agree.place (h : Agree dead v u) (t : Target) (τ : Option Signal) :
    Agree dead (v.place t τ) (u.place t τ) := by
  refine ⟨h.link, fun s hs => ?_⟩
  by_cases hst : s = t
  · rw [hst, signal_place_self, signal_place_self]
  · rw [signal_place_of_ne hst, signal_place_of_ne hst]
    exact h.signal s hs

theorem Agree.mute (h : Agree dead v u) (t : Target) (k : Token) :
    Agree dead (v.mute t k) (u.mute t k) := by
  refine ⟨h.link, fun s hs => ?_⟩
  by_cases hst : s = t
  · subst hst
    rw [signal_mute_self, signal_mute_self, h.signal s hs]
  · rw [signal_mute_of_ne hst, signal_mute_of_ne hst]
    exact h.signal s hs

theorem Agree.cut (h : Agree dead v u) (hl : ∀ t ∈ dead, l.holder ≠ some t) :
    Agree dead (v.cut l) (u.cut l) := by
  have he := h.link l hl
  cases hv : v.link l with
  | none =>
    rw [cut_of_none hv, cut_of_none (he ▸ hv)]
    exact h
  | some e =>
    obtain ⟨t, k⟩ := e
    rw [cut_of_some hv, cut_of_some (he ▸ hv)]
    exact (h.point l none).mute t k

/-- A link of the record that is gone, of which only the subscription is left to be ended. -/
theorem Agree.cut_dead (h : Agree (some t) v u) (hl : l.holder = some t) {r : Target}
    (hv : v.link l = some (r, k)) : Agree (some t) (v.cut l) (u.mute r k) := by
  have hpoint : Agree (some t) (v.point l none) u := by
    refine ⟨fun m hm => ?_, h.signal⟩
    have hml : m ≠ l := by
      rintro rfl
      exact hm t rfl hl
    rw [link_point_of_ne hml]
    exact h.link m hm
  rw [cut_of_some hv]
  exact hpoint.mute r k

theorem Agree.tie (h : Agree dead v u) (ht : t ∉ dead) (l : Listener) :
    Agree dead (v.tie l t) (u.tie l t) := by
  have he := h.signal t ht
  cases hv : v.signal t with
  | none =>
    rw [Web.tie, Web.tie, ← he, hv]
    exact h
  | some σ =>
    rw [tie_of_some hv, tie_of_some (he ▸ hv)]
    exact (h.place t _).point l _

/-- The webs are the same once the record is gone from both. -/
theorem Agree.place_none (h : Agree (some t) v u)
    (hl : ∀ l, l.holder = some t → v.link l = u.link l)
    (hu : u.signal t = none) : v.place t none = u := by
  refine (eq_place (fun l => ?_) hu fun s hs => ?_).symm
  · by_cases ht : l.holder = some t
    · exact (hl l ht).symm
    · refine (h.link l fun s hs => ?_).symm
      cases hs
      exact ht
  · exact (h.signal s fun hm => hs (Option.some.inj hm).symm).symm

end Web

end Kiosk
