import Kiosk.Cli.Arguments
import Mathlib.Data.List.Perm.Basic

/-!
# The grammar of the command line

A command line is a sequence of items: `--json`, `--config` with whatever word comes
next, and words that do not look like options. Every command line divides into items with
at most one script among them and a rest that is empty or begins with a word that cannot
be read there (`Item.exists_division`). Reading takes the items in turn and then sees what
is left (`Arguments.readAfter_spell`), so what a command line comes to is a matter of how
it divides (`Arguments.parse_exact`).
-/

namespace Kiosk.Cli

/-- One item of a command line. -/
inductive Item where
  | json
  | config (path : String)
  | script (word : String)
  deriving DecidableEq, Repr

namespace Item

/-- The words of an item. -/
def words : Item → List String
  | .json => ["--json"]
  | .config path => ["--config", path]
  | .script word => [word]

/-- Any word can follow `--config`, but a script does not look like an option. -/
def Fits : Item → Prop
  | .script word => isOption word = false
  | _ => True

instance : DecidablePred Fits
  | .json => .isTrue trivial
  | .config _ => .isTrue trivial
  | .script word => inferInstanceAs (Decidable (isOption word = false))

/-- The script an item names. -/
def script? : Item → Option String
  | .script word => some word
  | _ => none

/-- The configuration an item names. -/
def config? : Item → Option String
  | .config path => some path
  | _ => none

/-- The words of items, one item after the other. -/
def spell (items : List Item) : List String :=
  items.flatMap words

def scripts (items : List Item) : List String :=
  items.filterMap script?

def configs (items : List Item) : List String :=
  items.filterMap config?

/-- The format that items ask for. -/
def format (items : List Item) : Format :=
  if .json ∈ items then .json else .text

variable {items more : List Item} {rest words : List String}

/-! ## One more item -/

theorem scripts_append (items more : List Item) :
    scripts (items ++ more) = scripts items ++ scripts more :=
  List.filterMap_append

theorem configs_append (items more : List Item) :
    configs (items ++ more) = configs items ++ configs more :=
  List.filterMap_append

theorem format_concat (items : List Item) (item : Item) :
    format (items ++ [item]) = if item = .json then .json else format items := by
  by_cases h : item = .json <;> simp [format, h, eq_comm]

/-! ## Division -/

/-- The words after the items begin with one that cannot be read there. -/
inductive Offends (items : List Item) : List String → UsageError → Prop
  | missingConfigPath : Offends items ["--config"] .missingConfigPath
  | unknownOption {word : String} (rest : List String) (hword : isOption word)
      (hjson : word ≠ "--json") (hconfig : word ≠ "--config") :
      Offends items (word :: rest) (.unknownOption word)
  | secondScript {word : String} (rest : List String) (hword : isOption word = false)
      (hscript : scripts items ≠ []) : Offends items (word :: rest) .secondScript

/-- `words` are items with at most one script among them, and a rest. -/
structure Divides (words : List String) (items : List Item) (rest : List String) : Prop where
  fits : ∀ item ∈ items, item.Fits
  single : (scripts items).length ≤ 1
  words : spell items ++ rest = words

theorem Divides.concat (item : Item) (h : Divides words items (item.words ++ rest))
    (hfits : item.Fits) (hsingle : (scripts (items ++ [item])).length ≤ 1) :
    Divides words (items ++ [item]) rest where
  fits i hi := (List.mem_append.1 hi).elim (h.fits i) fun hi => List.mem_singleton.1 hi ▸ hfits
  single := hsingle
  words := by
    rw [← h.words, spell, List.flatMap_append, List.flatMap_singleton, List.append_assoc]
    rfl

/-- A division goes on until nothing is left or a word cannot be read. -/
theorem Divides.extend : ∀ {rest : List String} {items : List Item}, Divides words items rest →
    ∃ items rest, Divides words items rest ∧ (rest = [] ∨ ∃ e, Offends items rest e)
  | [], items, h => ⟨items, [], h, .inl rfl⟩
  | word :: rest, items, h => by
    by_cases hjson : word = "--json"
    · subst hjson
      refine (h.concat .json trivial ?_).extend
      rw [scripts_append]
      exact (List.append_nil _).symm ▸ h.single
    by_cases hconfig : word = "--config"
    · subst hconfig
      cases rest with
      | nil => exact ⟨items, _, h, .inr ⟨_, .missingConfigPath⟩⟩
      | cons path rest =>
        refine (h.concat (.config path) trivial ?_).extend
        rw [scripts_append]
        exact (List.append_nil _).symm ▸ h.single
    cases hword : isOption word with
    | true => exact ⟨items, _, h, .inr ⟨_, .unknownOption rest hword hjson hconfig⟩⟩
    | false =>
      by_cases hscript : scripts items = []
      · refine (h.concat (.script word) hword ?_).extend
        rw [scripts_append, hscript]
        exact Nat.le_refl _
      · exact ⟨items, _, h, .inr ⟨_, .secondScript rest hword hscript⟩⟩
  termination_by rest => rest.length

/-- Every command line divides. -/
theorem exists_division (words : List String) :
    ∃ items rest, Divides words items rest ∧ (rest = [] ∨ ∃ e, Offends items rest e) :=
  have hnone : Divides words [] words := ⟨by simp, by decide, rfl⟩
  hnone.extend

end Item

open Item

namespace Arguments

variable {items more : List Item} {rest words : List String}

/-! ## Reading item by item -/

theorem read_cons (script config : Option String) (format : Format) (word : String)
    (words : List String) : read script config format (word :: words) =
      if word = "--json" then read script config .json words
      else if word = "--config" then
        match words with
        | [] => .error .missingConfigPath
        | path :: words => read script (some path) format words
      else if isOption word then .error (.unknownOption word)
      else if script.isSome then .error .secondScript
      else read (some word) config format words := by
  cases words <;> rfl

/-- Reads the words that come after the given items. -/
def readAfter (items : List Item) (rest : List String) : Except UsageError Arguments :=
  read (scripts items).head? (configs items).getLast? (Item.format items) rest

theorem readAfter_json (items : List Item) (rest : List String) :
    readAfter items ("--json" :: rest) = readAfter (items ++ [.json]) rest := by
  have hscripts : scripts (items ++ [.json]) = scripts items :=
    (scripts_append _ _).trans (List.append_nil _)
  have hconfigs : configs (items ++ [.json]) = configs items :=
    (configs_append _ _).trans (List.append_nil _)
  rw [readAfter, readAfter, read_cons, if_pos rfl, hscripts, hconfigs, format_concat, if_pos rfl]

theorem readAfter_config (items : List Item) (path : String) (rest : List String) :
    readAfter items ("--config" :: path :: rest) = readAfter (items ++ [.config path]) rest := by
  have hscripts : scripts (items ++ [.config path]) = scripts items :=
    (scripts_append _ _).trans (List.append_nil _)
  have hconfigs : (configs (items ++ [.config path])).getLast? = some path := by
    rw [configs_append]
    exact List.getLast?_concat
  rw [readAfter, readAfter, read_cons, if_neg (by decide), if_pos rfl, hscripts, hconfigs,
    format_concat, if_neg (by simp)]

theorem readAfter_script (items : List Item) {word : String} (hword : isOption word = false)
    (rest : List String) : readAfter items (word :: rest) = if scripts items = [] then
      readAfter (items ++ [.script word]) rest else .error .secondScript := by
  have hjson : word ≠ "--json" := by
    rintro rfl
    exact absurd hword (by decide)
  have hconfig : word ≠ "--config" := by
    rintro rfl
    exact absurd hword (by decide)
  rw [readAfter, read_cons, if_neg hjson, if_neg hconfig, hword, if_neg Bool.false_ne_true]
  split
  · next hsome =>
    rw [if_neg]
    intro hnone
    rw [hnone] at hsome
    cases hsome
  · next hnone =>
    have hnil : scripts items = [] := by
      rwa [Bool.not_eq_true, Option.isSome_eq_false_iff, Option.isNone_iff_eq_none,
        List.head?_eq_none_iff] at hnone
    have hconfigs : configs (items ++ [.script word]) = configs items :=
      (configs_append _ _).trans (List.append_nil _)
    rw [if_pos hnil, readAfter, scripts_append, hnil, hconfigs, format_concat, if_neg (by simp)]
    rfl

/-- Items are read in turn, up to a second script. -/
theorem readAfter_spell : ∀ (items more : List Item), (∀ item ∈ more, item.Fits) →
    (scripts items).length ≤ 1 → ∀ rest, readAfter items (spell more ++ rest) =
      if (scripts (items ++ more)).length ≤ 1 then readAfter (items ++ more) rest
      else .error .secondScript
  | items, [], _, hsingle, rest => by
    rw [List.append_nil, if_pos hsingle]
    rfl
  | items, item :: more, hfits, hsingle, rest => by
    have hmore : ∀ item ∈ more, item.Fits := fun i hi => hfits i (List.mem_cons_of_mem _ hi)
    have hshift : items ++ item :: more = items ++ [item] ++ more := by simp
    have hsame (h : scripts [item] = []) : (scripts (items ++ [item])).length ≤ 1 := by
      rwa [scripts_append, h, List.append_nil]
    rw [hshift]
    cases item with
    | json =>
      rw [← readAfter_spell _ more hmore (hsame rfl)]
      exact readAfter_json items _
    | config path =>
      rw [← readAfter_spell _ more hmore (hsame rfl)]
      exact readAfter_config items path _
    | script word =>
      refine (readAfter_script items (hfits _ List.mem_cons_self) _).trans ?_
      by_cases hscript : scripts items = []
      · rw [if_pos hscript]
        refine readAfter_spell _ more hmore ?_ rest
        rw [scripts_append, hscript]
        exact Nat.le_refl _
      · -- The script that was there before is still there.
        rw [if_neg hscript, if_neg]
        rw [scripts_append, scripts_append, List.length_append, List.length_append]
        have hpos := List.length_pos_of_ne_nil hscript
        have hone : (scripts [.script word]).length = 1 := rfl
        omega

/-! ## What a division comes to -/

theorem readAfter_offends {e : UsageError} (h : Offends items rest e) :
    readAfter items rest = .error e := by
  cases h with
  | missingConfigPath => rw [readAfter, read_cons, if_neg (by decide), if_pos rfl]
  | unknownOption rest hword hjson hconfig =>
    rw [readAfter, read_cons, if_neg hjson, if_neg hconfig, if_pos hword]
  | secondScript rest hword hscript => rw [readAfter_script _ hword, if_neg hscript]

theorem readAfter_nil_of_none (h : scripts items = []) :
    readAfter items [] = .error .noScript := by
  rw [readAfter, h]
  rfl

theorem readAfter_nil_of_some {script : String} (h : scripts items = [script]) :
    readAfter items [] = .ok ⟨script, (configs items).getLast?, Item.format items⟩ := by
  rw [readAfter, h]
  rfl

/-- A division is read as what is left after its items. -/
theorem parse_of_divides (h : Divides words items rest) : parse words = readAfter items rest := by
  have hread := readAfter_spell [] items h.fits (by decide) rest
  rw [List.nil_append, if_pos h.single, h.words] at hread
  exact hread

theorem parse_spell (hfits : ∀ item ∈ items, item.Fits) :
    parse (spell items) = if (scripts items).length ≤ 1 then readAfter items []
      else .error .secondScript := by
  have hread := readAfter_spell [] items hfits (by decide) []
  rw [List.append_nil, List.nil_append] at hread
  exact hread

/-- Reading does not depend on the order of the items, that of configurations apart. -/
theorem parse_spell_congr (hfits : ∀ item ∈ items, item.Fits) (hperm : items.Perm more)
    (hconfigs : configs items = configs more) : parse (spell items) = parse (spell more) := by
  have hscripts : (scripts items).Perm (scripts more) := hperm.filterMap _
  have hformat : Item.format items = Item.format more := by
    simp only [Item.format, hperm.mem_iff]
  rw [parse_spell hfits, parse_spell fun i hi => hfits i (hperm.mem_iff.2 hi), hscripts.length_eq]
  split
  · next hsingle =>
    have heq : scripts items = scripts more := by
      generalize scripts more = l at hscripts hsingle
      match l, hsingle with
      | [], _ => exact hscripts.eq_nil
      | [script], _ => exact List.perm_singleton.1 hscripts
    rw [readAfter, readAfter, heq, hconfigs, hformat]
  · rfl

/-! ## The result -/

/-- A command line is accepted when it is a sequence of items with one script among them, and
then means that script, the last configuration, and lines of JSON if some item asks for them. Else
the leftmost word that cannot be read is complained about, or, when there is none, the missing
script. The order of the items does not matter, that of the configurations apart. -/
theorem parse_exact :
    (∀ words a, parse words = .ok a ↔ ∃ items, Divides words items [] ∧
      scripts items = [a.script] ∧ (configs items).getLast? = a.config ∧
      Item.format items = a.format) ∧
    (∀ words e, parse words = .error e ↔
      (∃ items rest, Divides words items rest ∧ Offends items rest e) ∨
        (e = .noScript ∧ ∃ items, Divides words items [] ∧ scripts items = [])) ∧
    ∀ items items', (∀ item ∈ items, item.Fits) → items.Perm items' →
      configs items = configs items' → parse (spell items) = parse (spell items') := by
  refine ⟨fun words a => ⟨fun h => ?_, ?_⟩, fun words e => ⟨fun h => ?_, ?_⟩,
    fun items items' => parse_spell_congr⟩
  · obtain ⟨items, rest, hdiv, rfl | ⟨e, hoff⟩⟩ := exists_division words
    · rw [parse_of_divides hdiv] at h
      match hscript : scripts items, hdiv.single with
      | [], _ => cases (readAfter_nil_of_none hscript).symm.trans h
      | [script], _ =>
        cases (readAfter_nil_of_some hscript).symm.trans h
        exact ⟨items, hdiv, hscript, rfl, rfl⟩
    · rw [parse_of_divides hdiv, readAfter_offends hoff] at h
      cases h
  · rintro ⟨items, hdiv, hscript, hconfig, hformat⟩
    rw [parse_of_divides hdiv, readAfter_nil_of_some hscript, hconfig, hformat]
  · obtain ⟨items, rest, hdiv, rfl | ⟨e', hoff⟩⟩ := exists_division words
    · rw [parse_of_divides hdiv] at h
      match hscript : scripts items, hdiv.single with
      | [], _ =>
        cases (readAfter_nil_of_none hscript).symm.trans h
        exact .inr ⟨rfl, items, hdiv, hscript⟩
      | [script], _ => cases (readAfter_nil_of_some hscript).symm.trans h
    · rw [parse_of_divides hdiv, readAfter_offends hoff] at h
      cases h
      exact .inl ⟨items, rest, hdiv, hoff⟩
  · rintro (⟨items, rest, hdiv, hoff⟩ | ⟨rfl, items, hdiv, hscript⟩)
    · rw [parse_of_divides hdiv, readAfter_offends hoff]
    · rw [parse_of_divides hdiv, readAfter_nil_of_none hscript]

/-- A command line that names two configurations, one of which looks like an option. -/
def manyItems : List Item :=
  [.config "--json", .script "a.toml", .json, .config "b.toml"]

/-- The script can come first and the format last. After a complaint about an option nothing is
said of the second script that follows it. -/
theorem parse_exact_manyItems :
    parse ["--config", "--json", "a.toml", "--json", "--config", "b.toml"] =
      parse ["a.toml", "--config", "--json", "--config", "b.toml", "--json"] ∧
    parse ["a.toml", "--config", "--json", "--config", "b.toml", "--json"] =
      .ok ⟨"a.toml", some "b.toml", .json⟩ ∧
    parse ["a.toml", "--verbose", "b.toml"] = .error (.unknownOption "--verbose") := by
  obtain ⟨hok, herror, hperm⟩ := parse_exact
  refine ⟨hperm manyItems [.script "a.toml", .config "--json", .config "b.toml", .json]
    (by decide) (by decide) rfl, ?_, ?_⟩
  · exact (hok _ _).2 ⟨[.script "a.toml", .config "--json", .config "b.toml", .json],
      ⟨by decide, by decide, rfl⟩, rfl, rfl, rfl⟩
  · exact (herror _ _).2 (.inl ⟨[.script "a.toml"], ["--verbose", "b.toml"],
      ⟨by decide, by decide, rfl⟩, .unknownOption _ rfl (by decide) (by decide)⟩)

end Arguments

end Kiosk.Cli
