import Kiosk.Proofs.Seniority

/-!
# Outputs reserved for applications

An output is reserved for the application ids that the first section of its name lists
between commas (`Config.Reserves`), and a search by application id finds the one of these
that was registered first (`Desktop.affinity_exact`).

The ids are read off the text once, when the output is registered. Splitting a text at its
commas is a matter of lists (`AppIds.splitCommas_eq_splitOn`), and an id is one of the
parts if it has no comma and stands between commas or the ends of the text
(`AppIds.mem_splitOn_iff`).
-/

namespace Kiosk

/-! ## Texts with commas -/

namespace AppIds

theorem splitCommas_eq_splitOn : ∀ cs : List Char, splitCommas cs = cs.splitOn ','
  | [] => rfl
  | c :: cs => by
    rw [splitCommas, splitCommas_eq_splitOn cs, List.splitOn_cons_eq_if_modifyHead]
    by_cases hc : c = ','
    · rw [if_pos hc, if_pos (beq_iff_eq.2 hc)]
    · rw [if_neg hc, if_neg (mt beq_iff_eq.1 hc)]
      cases hparts : cs.splitOn ',' with
      | nil => exact absurd hparts (List.splitOn_ne_nil ',' cs)
      | cons part parts => rfl

/-- `part` stands in `cs` between commas or the ends. -/
def Between (part cs : List Char) : Prop :=
  ∃ pre post, cs = pre ++ part ++ post ∧ (pre = [] ∨ ∃ p, pre = p ++ [',']) ∧
    (post = [] ∨ ∃ q, post = ',' :: q)

theorem mem_splitOn_of_between {part cs : List Char} (hp : ',' ∉ part) (h : Between part cs) :
    part ∈ cs.splitOn ',' := by
  obtain ⟨pre, post, rfl, hpre, hpost⟩ := h
  have hfirst : part ∈ (part ++ post).splitOn ',' := by
    obtain rfl | ⟨q, rfl⟩ := hpost
    · rw [List.append_nil, List.splitOn_eq_singleton hp]
      exact List.mem_singleton_self part
    · rw [List.splitOn_append_cons_self_of_not_mem hp]
      exact List.mem_cons_self
  obtain rfl | ⟨p, rfl⟩ := hpre
  · exact hfirst
  · rw [List.append_assoc, List.append_assoc, List.singleton_append,
      List.splitOn_append_cons_self]
    exact List.mem_append_right _ hfirst

/-- By induction on the length of the text: its first part ends at its first comma, and the
others are the parts of what follows. -/
theorem between_of_mem_splitOn {part : List Char} (cs : List Char) (h : part ∈ cs.splitOn ',') :
    ',' ∉ part ∧ Between part cs := by
  by_cases hc : ',' ∈ cs
  · obtain ⟨xs, ys, hcs, hxs⟩ := List.eq_append_cons_of_mem hc
    rw [hcs, List.splitOn_append_cons_self_of_not_mem hxs] at h
    obtain rfl | h := List.mem_cons.1 h
    · exact ⟨hxs, [], ',' :: ys, hcs, .inl rfl, .inr ⟨ys, rfl⟩⟩
    · obtain ⟨hp, pre, post, hys, hpre, hpost⟩ := between_of_mem_splitOn ys h
      refine ⟨hp, xs ++ ',' :: pre, post, by simp [hcs, hys], .inr ?_, hpost⟩
      obtain rfl | ⟨p, rfl⟩ := hpre
      · exact ⟨xs, rfl⟩
      · exact ⟨xs ++ ',' :: p, by simp⟩
  · rw [List.splitOn_eq_singleton hc, List.mem_singleton] at h
    rw [h]
    exact ⟨hc, [], [], by simp, .inl rfl, .inl rfl⟩
termination_by cs.length
decreasing_by simp [hcs]; omega

/-- `appId` is listed in `text`: it has no comma, and stands between commas or the ends. -/
def Lists (text appId : String) : Prop :=
  ',' ∉ appId.toList ∧ ∃ pre post, text = pre ++ appId ++ post ∧
    (pre = "" ∨ ∃ p, pre = p ++ ",") ∧ (post = "" ∨ ∃ q, post = "," ++ q)

theorem lists_iff {text appId : String} :
    Lists text appId ↔ ',' ∉ appId.toList ∧ Between appId.toList text.toList := by
  refine and_congr_right fun _ => ⟨?_, ?_⟩
  · rintro ⟨pre, post, rfl, hpre, hpost⟩
    refine ⟨pre.toList, post.toList, by simp, ?_, ?_⟩
    · obtain rfl | ⟨p, rfl⟩ := hpre
      · exact .inl rfl
      · exact .inr ⟨p.toList, by simp⟩
    · obtain rfl | ⟨q, rfl⟩ := hpost
      · exact .inl rfl
      · exact .inr ⟨q.toList, by simp⟩
  · rintro ⟨pre, post, htext, hpre, hpost⟩
    refine ⟨String.ofList pre, String.ofList post, String.toList_inj.1 (by simpa using htext),
      ?_, ?_⟩
    · obtain rfl | ⟨p, rfl⟩ := hpre
      · exact .inl rfl
      · exact .inr ⟨String.ofList p, String.toList_inj.1 (by simp)⟩
    · obtain rfl | ⟨q, rfl⟩ := hpost
      · exact .inl rfl
      · exact .inr ⟨String.ofList q, String.toList_inj.1 (by simp)⟩

theorem contains_ofText_iff {text appId : String} :
    (ofText text).contains appId ↔ Lists text appId := by
  rw [lists_iff, contains, List.contains_iff_mem, ofText, splitCommas_eq_splitOn, List.mem_map]
  constructor
  · rintro ⟨part, hm, rfl⟩
    rw [String.toList_ofList]
    exact between_of_mem_splitOn _ hm
  · rintro ⟨hp, h⟩
    exact ⟨_, mem_splitOn_of_between hp h, String.ofList_toList⟩

theorem not_comma_mem_ofText {text token : String} (h : token ∈ (ofText text).tokens) :
    ',' ∉ token.toList :=
  (contains_ofText_iff.1 (List.contains_iff_mem.2 h)).1

/-- The ids of a text joined with commas are the text. -/
theorem intercalate_ofText (text : String) : ",".intercalate (ofText text).tokens = text := by
  refine String.toList_inj.1 ?_
  have htokens : (ofText text).tokens.map String.toList = text.toList.splitOn ',' := by
    rw [ofText, List.map_map, splitCommas_eq_splitOn]
    exact List.map_id'' (fun _ => String.toList_ofList) _
  rw [String.toList_intercalate, htokens]
  exact List.intercalate_splitOn ','

end AppIds

/-! ## Configured outputs -/

namespace Config

variable {c : Config} {name appId text : String}

/-- Outputs of this name are reserved for `appId`: the first section of the name lists it. -/
def Reserves (c : Config) (name appId : String) : Prop :=
  ∃ entry text, Earliest c.outputs (·.name = name) entry ∧ entry.appIds = some text ∧
    AppIds.Lists text appId

theorem outputAppIds_eq_some_iff : c.outputAppIds name = some text ↔
    ∃ entry, Earliest c.outputs (·.name = name) entry ∧ entry.appIds = some text := by
  rw [outputAppIds, Option.bind_eq_some_iff]
  exact exists_congr fun entry =>
    and_congr_left fun _ => find?_eq_some_iff_earliest fun _ => decide_eq_true_iff

theorem contains_reserved_iff : (c.reserved name).contains appId ↔ c.Reserves name appId := by
  rw [reserved]
  constructor
  · intro h
    cases htext : c.outputAppIds name with
    | none =>
      rw [htext] at h
      cases h
    | some text =>
      rw [htext] at h
      obtain ⟨entry, hfirst, hentry⟩ := outputAppIds_eq_some_iff.1 htext
      exact ⟨entry, text, hfirst, hentry, AppIds.contains_ofText_iff.1 h⟩
  · rintro ⟨entry, text, hfirst, hentry, hlists⟩
    rw [outputAppIds_eq_some_iff.2 ⟨entry, hfirst, hentry⟩]
    exact AppIds.contains_ofText_iff.2 hlists

end Config

namespace Registry

variable {g g' : Registry} {reply : Reply}

/-- Every output has the application ids that are configured for its name. -/
def Configured (g : Registry) : Prop :=
  ∀ o name appIds, g.outputs.get? o = some (name, appIds) → appIds = g.config.reserved name

theorem Step.config (hs : g.Step reply g') : g'.config = g.config := by
  cases hs <;> rfl

theorem Step.configured (h : g.Configured) (hs : g.Step reply g') : g'.Configured := by
  intro o name appIds ho
  rw [hs.config]
  cases hs with
  | addOutput added =>
    have ho : (g.outputs.insert (added, g.config.reserved added)).2.get? o = some (name, appIds) :=
      ho
    rw [Roster.get?_insert] at ho
    split at ho
    · cases ho
      rfl
    · exact h o name appIds ho
  | removeOutput gone =>
    have ho : (g.outputs.erase gone).get? o = some (name, appIds) := ho
    rw [Roster.get?_erase] at ho
    split at ho
    · cases ho
    · exact h o name appIds ho
  | _ => exact h o name appIds ho

end Registry

variable {config : Config} {d : Desktop} {as : List Action} {o : OutputId} {output : Output}

theorem Reached.config_eq (h : Reached config d) : d.shell.config = config := by
  induction h with
  | fresh => rfl
  | @act d a _ _ ih => exact (d.act_registers a).config.trans ih

theorem Reached.configured (h : Reached config d) : d.shell.registry.Configured := by
  induction h with
  | fresh => exact fun o name appIds ho => nomatch ho
  | @act d a _ _ ih => exact (d.act_registers a).configured ih

/-- An output is reserved for the applications that its name is. -/
theorem Reached.appIds_eq (h : Reached config d) (ho : d.shell.outputs.get? o = some output) :
    output.appIds = config.reserved output.name := by
  have hlabel : d.shell.registry.outputs.get? o = some output.label :=
    (d.shell.outputs.get?_map Output.label o).trans (congrArg _ ho)
  rw [h.configured o _ _ hlabel]
  exact congrArg (Config.reserved · output.name) h.config_eq

/-! ## The result -/

/-- The live output `o` is reserved for `appId`. -/
def Shell.ReservedFor (s : Shell) (config : Config) (appId : String) (o : OutputId) : Prop :=
  ∃ output, s.outputs.get? o = some output ∧ config.Reserves output.name appId

/-- A search by application id finds the output that was registered first among those that are
configured for it. -/
theorem Desktop.affinity_exact (h : (Desktop.fresh config).run as = some d) (appId : String) :
    (∀ o, d.shell.outputs.findByAppId appId = some o ↔
      Earliest ((Desktop.fresh config).registered as) (d.shell.ReservedFor config appId) o) ∧
    (d.shell.outputs.findByAppId appId = none ↔ ∀ o, ¬ d.shell.ReservedFor config appId o) ∧
    ∀ text, (∀ token ∈ (AppIds.ofText text).tokens, ',' ∉ token.toList) ∧
      ",".intercalate (AppIds.ofText text).tokens = text := by
  have hreached := Reached.run as .fresh h
  have houtputs := (Desktop.run_chronicle h).1
  have hreserved (o : OutputId) :
      (d.shell.outputs.get? o).any (·.appIds.contains appId) ↔
        d.shell.ReservedFor config appId o := by
    rw [Option.any_eq_true]
    refine exists_congr fun output => and_congr_right fun ho => ?_
    rw [hreached.appIds_eq ho]
    exact Config.contains_reserved_iff
  rw [Outputs.findByAppId, houtputs.find?_toList (·.appIds.contains appId)]
  refine ⟨fun o => find?_eq_some_iff_earliest hreserved, ?_,
    fun text => ⟨fun _ => AppIds.not_comma_mem_ofText, AppIds.intercalate_ofText text⟩⟩
  rw [find?_eq_none_iff_forall hreserved]
  refine ⟨fun hnone o hr => hnone o (houtputs.mem o ?_) hr, fun hnone o _ => hnone o⟩
  obtain ⟨output, ho, -⟩ := hr
  exact Option.isSome_iff_exists.2 ⟨output, ho⟩

/-- Two outputs share an application, and a second section of the first one's name has another. -/
def sharingConfig : Config :=
  ⟨false, [⟨"DP-1", some "mpv,vlc"⟩, ⟨"DP-2", some "vlc,"⟩, ⟨"DP-1", some "foot"⟩]⟩

/-- Both outputs appear, and the first one goes away and comes back into its old slot. -/
def replugRun : List Action :=
  [.event (.outputAdded ⟨1⟩ "DP-1" ⟨.origin, outputSize⟩),
    .event (.outputAdded ⟨2⟩ "DP-2" ⟨⟨1920, 0⟩, outputSize⟩),
    .event (.outputRemoved ⟨0, 1⟩),
    .event (.outputAdded ⟨1⟩ "DP-1" ⟨.origin, outputSize⟩)]

theorem isSome_replugRun : ((Desktop.fresh sharingConfig).run replugRun).isSome := by
  decide +kernel

/-- The second output has become the oldest one for what they share, and nothing is reserved for
what the later section says. -/
theorem affinity_exact_replugRun : ∃ d, (Desktop.fresh sharingConfig).run replugRun = some d ∧
    (Desktop.fresh sharingConfig).registered replugRun = [⟨0, 1⟩, ⟨1, 1⟩, ⟨0, 2⟩] ∧
    Earliest ((Desktop.fresh sharingConfig).registered replugRun)
      (d.shell.ReservedFor sharingConfig "vlc") ⟨1, 1⟩ ∧
    ∀ o, ¬ d.shell.ReservedFor sharingConfig "foot" o := by
  have hrun := (Option.some_get isSome_replugRun).symm
  obtain ⟨hfirst, -, -⟩ := Desktop.affinity_exact hrun "vlc"
  obtain ⟨-, hnone, -⟩ := Desktop.affinity_exact hrun "foot"
  exact ⟨_, hrun, by decide +kernel, (hfirst _).1 (by decide +kernel),
    hnone.1 (by decide +kernel)⟩

end Kiosk
