import Kiosk.Proofs.Shapes

/-!
# Steps written as tables

A table is read as a step just when it names a kind, has every key that the kind requires,
and has under each key of the kind a value of its shape. The step then says what the table
says, and under keys that are left out what these stand for (`Step.ofValue_table_exact`).
Neither the order of the keys nor other keys play a part.

Reading a step reads the keys of its kind one after the other. What one key needs and gives
is `FieldSpec.Reads`; `Decodes` follows a computation along the keys, so that for each kind
only the sequence of its readers is left to be named (`Step.build_decodes`).
-/

namespace Kiosk

open Toml

/-! ## Entries -/

/-- Where keys are distinct, the first thing found by its key is the only one. -/
theorem find?_key_iff {α : Type} {key : α → String} {as : List α} (hkeys : (as.map key).Nodup)
    {k : String} {a : α} : as.find? (key · = k) = some a ↔ a ∈ as ∧ key a = k := by
  induction as with
  | nil => exact ⟨nofun, fun h => nomatch h.1⟩
  | cons b as ih =>
    obtain ⟨hnew, hkeys⟩ := List.nodup_cons.1 hkeys
    rw [List.find?_cons, List.mem_cons]
    by_cases hb : key b = k
    · subst hb
      rw [decide_eq_true rfl]
      constructor
      · intro h
        obtain rfl := Option.some.inj h
        exact ⟨.inl rfl, rfl⟩
      · rintro ⟨rfl | ha, hkey⟩
        · rfl
        · exact (hnew (List.mem_map.2 ⟨a, ha, hkey⟩)).elim
    · rw [decide_eq_false hb]
      refine (ih hkeys).trans (and_congr_left fun hkey => (or_iff_right ?_).symm)
      rintro rfl
      exact hb hkey

theorem lookup_eq_map_find? (es : Entries) (k : String) :
    es.lookup k = (es.find? (·.1 = k)).map Prod.snd := by
  induction es with
  | nil => rfl
  | cons e es ih =>
    rw [List.lookup_cons, List.find?_cons, ih]
    by_cases hk : k = e.1
    · rw [beq_iff_eq.2 hk, decide_eq_true hk.symm]
      rfl
    · rw [beq_false_of_ne hk, decide_eq_false (Ne.symm hk)]

/-- The entries of a table with distinct keys are those found by their keys. -/
theorem lookup_eq_some_iff_mem {es : Entries} (hkeys : (es.map Prod.fst).Nodup) {k : String}
    {v : Value} : es.lookup k = some v ↔ (k, v) ∈ es := by
  rw [lookup_eq_map_find?, Option.map_eq_some_iff]
  simp only [find?_key_iff hkeys]
  constructor
  · rintro ⟨e, ⟨he, rfl⟩, rfl⟩
    exact he
  · intro he
    exact ⟨_, ⟨he, rfl⟩, rfl⟩

theorem forM_eq_ok_iff {ε α : Type} {check : α → Except ε Unit} : ∀ {as : List α},
    as.forM check = .ok () ↔ ∀ a ∈ as, check a = .ok ()
  | [] => ⟨fun _ => nofun, fun _ => rfl⟩
  | a :: as => by
    show (check a >>= fun _ => as.forM check) = .ok () ↔ _
    rw [bind_eq_ok_iff, List.forall_mem_cons, ← forM_eq_ok_iff]
    exact ⟨fun ⟨_, h, hrest⟩ => ⟨h, hrest⟩, fun ⟨h, hrest⟩ => ⟨(), h, hrest⟩⟩

/-! ## Keys -/

/-- What a key of the shape stands for when it is left out, if it is anything. -/
def FieldShape.omitted : FieldShape → Option Value
  | .text => none
  | .flag => some (.boolean true)
  | .number => some (.integer 0x110)
  | .point => some (.array [.integer 0, .integer 0])
  | .area => none
  | .device => some (.string "pointer")

namespace FieldSpec

/-- The key is there if it has to be, and what is there has its shape. -/
structure Holds (f : FieldSpec) (es : Entries) : Prop where
  present : f.required → (es.lookup f.key).isSome
  fits : ∀ v, es.lookup f.key = some v → f.shape.Fits v

/-- What a table says under a key, or what leaving it out stands for. -/
def value? (f : FieldSpec) (es : Entries) : Option Value :=
  (es.lookup f.key).or (if f.required then none else f.shape.omitted)

/-- A computation reads a key: it succeeds just when the key holds, and its result is written as
what the table says there. -/
structure Reads {α : Type} (es : Entries) (f : FieldSpec) (x : Except Mismatch α)
    (write : α → Option Value) : Prop where
  ok_iff : (∃ a, x = .ok a) ↔ f.Holds es
  value : ∀ a, x = .ok a → write a = f.value? es

theorem holds_congr {f : FieldSpec} {es es' : Entries} (h : es'.lookup f.key = es.lookup f.key) :
    f.Holds es' ↔ f.Holds es :=
  ⟨fun hf => ⟨h ▸ hf.present, h ▸ hf.fits⟩, fun hf => ⟨h ▸ hf.present, h ▸ hf.fits⟩⟩

theorem value?_congr {f : FieldSpec} {es es' : Entries} (h : es'.lookup f.key = es.lookup f.key) :
    f.value? es' = f.value? es := by
  rw [value?, h, value?]

variable {α : Type} {es : Entries} {key : String} {shape : FieldShape}
  {read : Value → Except Mismatch α} {write : α → Value}

theorem holds_of_some {required : Bool} {v : Value} (hv : es.lookup key = some v) :
    Holds ⟨key, shape, required⟩ es ↔ shape.Fits v := by
  constructor
  · exact fun h => h.fits v hv
  · refine fun h => ⟨fun _ => Option.isSome_of_eq_some hv, fun v' hv' => ?_⟩
    cases hv.symm.trans hv'
    exact h

theorem holds_of_none {required : Bool} (hv : es.lookup key = none) :
    Holds ⟨key, shape, required⟩ es ↔ required = false := by
  constructor
  · intro h
    cases required with
    | false => rfl
    | true => exact absurd (h.present rfl) (by rw [hv]; exact Bool.false_ne_true)
  · rintro rfl
    exact ⟨nofun, fun v' hv' => nomatch hv.symm.trans hv'⟩

/-- A key that must be there. -/
theorem reads_required (hfits : ∀ v, shape.Fits v ↔ ∃ a, v = write a)
    (hread : ∀ v a, es.lookup key = some v → (read v = .ok a ↔ v = write a)) :
    Reads es ⟨key, shape, true⟩ (Step.required es key read) fun a => some (write a) := by
  unfold Step.required
  cases hv : es.lookup key with
  | none =>
    refine ⟨⟨fun ⟨_, h⟩ => (nomatch h), fun h => ?_⟩, fun _ h => nomatch h⟩
    cases (holds_of_none hv).1 h
  | some v =>
    refine ⟨?_, fun a ha => ?_⟩
    · rw [holds_of_some hv, hfits]
      exact exists_congr fun a => hread v a hv
    · rw [value?, hv, ← (hread v a hv).1 ha]
      rfl

/-- A key that may be left out. -/
theorem reads_optional {default : α} (hfits : ∀ v, shape.Fits v ↔ ∃ a, v = write a)
    (hread : ∀ v a, es.lookup key = some v → (read v = .ok a ↔ v = write a))
    (hdefault : shape.omitted = some (write default)) :
    Reads es ⟨key, shape, false⟩ (Step.optional es key read default)
      fun a => some (write a) := by
  unfold Step.optional
  cases hv : es.lookup key with
  | none =>
    refine ⟨⟨fun _ => (holds_of_none hv).2 rfl, fun _ => ⟨default, rfl⟩⟩, fun a ha => ?_⟩
    obtain rfl := Except.ok.inj ha
    rw [value?, hv]
    exact hdefault.symm
  | some v =>
    refine ⟨?_, fun a ha => ?_⟩
    · rw [holds_of_some hv, hfits]
      exact exists_congr fun a => hread v a hv
    · rw [value?, hv, ← (hread v a hv).1 ha]
      rfl

/-- A text that may be left out. -/
theorem reads_optionalText (es : Entries) (key : String) :
    Reads es ⟨key, .text, false⟩ (Step.optionalText es key) (Option.map Value.string) := by
  unfold Step.optionalText Step.optional
  cases hv : es.lookup key with
  | none =>
    refine ⟨⟨fun _ => (holds_of_none hv).2 rfl, fun _ => ⟨none, rfl⟩⟩, fun a ha => ?_⟩
    obtain rfl := Except.ok.inj ha
    rw [value?, hv]
    rfl
  | some v =>
    have hread (text : Option String) :
        v.asString.map some = .ok text ↔ ∃ s, v = .string s ∧ some s = text := by
      rw [map_eq_ok_iff]
      simp only [Value.asString_undoes v]
    refine ⟨?_, fun text htext => ?_⟩
    · rw [holds_of_some hv]
      constructor
      · rintro ⟨text, htext⟩
        obtain ⟨s, hs, -⟩ := (hread text).1 htext
        exact ⟨s, hs⟩
      · rintro ⟨s, hs⟩
        exact ⟨some s, (hread _).2 ⟨s, hs, rfl⟩⟩
    · obtain ⟨s, rfl, rfl⟩ := (hread text).1 htext
      rw [value?, hv]
      rfl

end FieldSpec

/-! ## Reading along the keys -/

/-- A computation reads keys one after the other: it succeeds just when all of them hold, and its
result has to do with what the table says there as `Q` tells. -/
structure Decodes {α : Type} (es : Entries) (fs : List FieldSpec) (x : Except Mismatch α)
    (Q : α → List (Option Value) → Prop) : Prop where
  ok_iff : (∃ a, x = .ok a) ↔ ∀ f ∈ fs, f.Holds es
  values : ∀ a, x = .ok a → Q a (fs.map (·.value? es))

section

variable {α β : Type} {es : Entries} {f : FieldSpec} {fs : List FieldSpec}
  {x : Except Mismatch α} {Q : β → List (Option Value) → Prop}

theorem Decodes.pure {b : β} (h : Q b []) : Decodes es [] (pure b) Q where
  ok_iff := ⟨fun _ => nofun, fun _ => ⟨b, rfl⟩⟩
  values a ha := by
    obtain rfl := Except.ok.inj ha
    exact h

theorem FieldSpec.Reads.bind {write : α → Option Value} {g : α → Except Mismatch β}
    (h : f.Reads es x write) (hg : ∀ a, Decodes es fs (g a) fun b os => Q b (write a :: os)) :
    Decodes es (f :: fs) (x >>= g) Q where
  ok_iff := by
    rw [List.forall_mem_cons, ← h.ok_iff]
    simp only [bind_eq_ok_iff]
    constructor
    · rintro ⟨b, a, ha, hb⟩
      exact ⟨⟨a, ha⟩, (hg a).ok_iff.1 ⟨b, hb⟩⟩
    · rintro ⟨⟨a, ha⟩, hfs⟩
      obtain ⟨b, hb⟩ := (hg a).ok_iff.2 hfs
      exact ⟨b, a, ha, hb⟩
  values b hb := by
    obtain ⟨a, ha, hb⟩ := bind_eq_ok_iff.1 hb
    rw [List.map_cons, ← h.value a ha]
    exact (hg a).values b hb

end

/-! ## Steps -/

namespace Step

/-- The kind of a step. -/
def kind : Step → StepKind
  | .windowAdded _ _ _ => .windowAdded
  | .windowRemoved _ => .windowRemoved
  | .windowCommitted _ _ _ _ => .windowCommitted
  | .parentChanged _ _ => .parentChanged
  | .fullscreenRequested _ _ _ => .fullscreenRequested
  | .maximizeRequested _ _ => .maximizeRequested
  | .minimizeRequested _ => .minimizeRequested
  | .resizeRequested _ => .resizeRequested
  | .moveRequested _ _ _ _ => .moveRequested
  | .xwaylandPositionSet _ _ => .xwaylandPositionSet
  | .appIdChanged _ _ => .appIdChanged
  | .outputAdded _ _ _ _ => .outputAdded
  | .outputRemoved _ => .outputRemoved
  | .outputResized _ _ _ => .outputResized
  | .outputMoved _ _ => .outputMoved
  | .seatAdded _ _ => .seatAdded
  | .seatCapabilitiesChanged _ _ => .seatCapabilitiesChanged
  | .seatRemoved _ => .seatRemoved
  | .keyboardFocusChanged _ _ => .keyboardFocusChanged
  | .pointerButton _ _ _ _ => .pointerButton
  | .touchDown _ _ _ => .touchDown
  | .grabMotion _ _ => .grabMotion
  | .grabReleased _ => .grabReleased

/-- What a step says, as values under the keys of its kind and in their order. -/
def values : Step → List (Option Value)
  | .windowAdded label appId parent =>
    [some (.string label), appId.map .string, parent.map .string]
  | .windowRemoved window => [some (.string window)]
  | .windowCommitted window size offset geometry =>
    [some (.string window), some (.ofPoint size), some (.ofPoint offset),
      some (.ofPoint geometry)]
  | .parentChanged window parent => [some (.string window), parent.map .string]
  | .fullscreenRequested window fullscreen output =>
    [some (.string window), some (.boolean fullscreen), output.map .string]
  | .maximizeRequested window maximized => [some (.string window), some (.boolean maximized)]
  | .minimizeRequested window => [some (.string window)]
  | .resizeRequested window => [some (.string window)]
  | .moveRequested window seat device location =>
    [some (.string window), some (.string seat), some (.ofDevice device),
      some (.ofPoint location)]
  | .xwaylandPositionSet window position => [some (.string window), some (.ofPoint position)]
  | .appIdChanged window appId => [some (.string window), appId.map .string]
  | .outputAdded label name loc size =>
    [some (.string label), some (.string name), some (.ofArea (loc, size))]
  | .outputRemoved output => [some (.string output)]
  | .outputResized output loc size => [some (.string output), some (.ofArea (loc, size))]
  | .outputMoved output delta => [some (.string output), some (.ofPoint delta)]
  | .seatAdded label hasKeyboard => [some (.string label), some (.boolean hasKeyboard)]
  | .seatCapabilitiesChanged seat hasKeyboard =>
    [some (.string seat), some (.boolean hasKeyboard)]
  | .seatRemoved seat => [some (.string seat)]
  | .keyboardFocusChanged seat window => [some (.string seat), window.map .string]
  | .pointerButton seat button window defaultGrab =>
    [some (.string seat), some (.ofUInt32 button), window.map .string,
      some (.boolean defaultGrab)]
  | .touchDown seat window defaultGrab =>
    [some (.string seat), window.map .string, some (.boolean defaultGrab)]
  | .grabMotion seat location => [some (.string seat), some (.ofPoint location)]
  | .grabReleased seat => [some (.string seat)]

open FieldSpec

variable {es : Entries} {k : StepKind} {s : Step}

/-- For a drag, the device is not given by a table. -/
def DeviceNamed (k : StepKind) (es : Entries) : Prop :=
  k = .moveRequested → ∀ entries, es.lookup "device" ≠ some (.table entries)

/-- Reading a step of a kind reads the keys of the kind in their order. -/
theorem build_decodes (hdevice : DeviceNamed k es) :
    Decodes es k.fields (build k es) fun s os => s.kind = k ∧ s.values = os := by
  -- A reader for each shape, and then for each kind the sequence of its readers.
  have text (key : String) : Reads es ⟨key, .text, true⟩ (required es key Value.asString) _ :=
    reads_required (fun _ => .rfl) fun v a _ => Value.asString_undoes v a
  have text? (key : String) := reads_optionalText es key
  have flag (key : String) : Reads es ⟨key, .flag, true⟩ (required es key Value.asBool) _ :=
    reads_required (fun _ => .rfl) fun v a _ => Value.asBool_undoes v a
  have flag? (key : String) : Reads es ⟨key, .flag, false⟩ (optional es key Value.asBool true) _ :=
    reads_optional (fun _ => .rfl) (fun v a _ => Value.asBool_undoes v a) rfl
  have point (key : String) : Reads es ⟨key, .point, true⟩ (required es key Value.asPoint) _ :=
    reads_required (fun _ => FieldShape.point_fits_iff) fun v a _ => Value.asPoint_undoes v a
  have point? (key : String) :
      Reads es ⟨key, .point, false⟩ (optional es key Value.asPoint .origin) _ :=
    reads_optional (fun _ => FieldShape.point_fits_iff) (fun v a _ => Value.asPoint_undoes v a) rfl
  have area (key : String) : Reads es ⟨key, .area, true⟩ (required es key areaOfValue) _ :=
    reads_required (fun _ => FieldShape.area_fits_iff) fun v a _ => Value.areaOfValue_undoes v a
  cases k with
  | windowAdded =>
    exact (text _).bind fun _ => (text? _).bind fun _ => (text? _).bind fun _ => .pure ⟨rfl, rfl⟩
  | windowRemoved | minimizeRequested | resizeRequested | outputRemoved | seatRemoved
  | grabReleased => exact (text _).bind fun _ => .pure ⟨rfl, rfl⟩
  | windowCommitted =>
    exact (text _).bind fun _ => (point _).bind fun _ => (point? _).bind fun _ =>
      (point? _).bind fun _ => .pure ⟨rfl, rfl⟩
  | parentChanged | appIdChanged | keyboardFocusChanged =>
    exact (text _).bind fun _ => (text? _).bind fun _ => .pure ⟨rfl, rfl⟩
  | fullscreenRequested =>
    exact (text _).bind fun _ => (flag _).bind fun _ => (text? _).bind fun _ => .pure ⟨rfl, rfl⟩
  | maximizeRequested | seatCapabilitiesChanged =>
    exact (text _).bind fun _ => (flag _).bind fun _ => .pure ⟨rfl, rfl⟩
  | moveRequested =>
    have device : Reads es ⟨"device", .device, false⟩
        (optional es "device" Device.ofValue .pointer) _ :=
      reads_optional (fun _ => FieldShape.device_fits_iff) (fun v a hv =>
        Value.device_eq_ok_iff fun entries he => hdevice rfl entries (he ▸ hv)) rfl
    exact (text _).bind fun _ => (text _).bind fun _ => device.bind fun _ =>
      (point _).bind fun _ => .pure ⟨rfl, rfl⟩
  | xwaylandPositionSet | outputMoved | grabMotion =>
    exact (text _).bind fun _ => (point _).bind fun _ => .pure ⟨rfl, rfl⟩
  | outputAdded =>
    exact (text _).bind fun _ => (text _).bind fun _ => (area _).bind fun _ => .pure ⟨rfl, rfl⟩
  | outputResized =>
    exact (text _).bind fun _ => (area _).bind fun _ => .pure ⟨rfl, rfl⟩
  | seatAdded => exact (text _).bind fun _ => (flag? _).bind fun _ => .pure ⟨rfl, rfl⟩
  | pointerButton =>
    have button : Reads es ⟨"button", .number, false⟩
        (optional es "button" Value.asUInt32 Desktop.leftButton) _ :=
      reads_optional (fun _ => FieldShape.number_fits_iff)
        (fun v a _ => Value.asUInt32_undoes v a) rfl
    exact (text _).bind fun _ => button.bind fun _ => (text? _).bind fun _ =>
      (flag? _).bind fun _ => .pure ⟨rfl, rfl⟩
  | touchDown =>
    exact (text _).bind fun _ => (text? _).bind fun _ => (flag? _).bind fun _ => .pure ⟨rfl, rfl⟩

/-! ## Kinds and shapes -/

theorem kindOf_undoes : Undoes kindOf fun k => .string k.name := fun v k => by
  cases v with
  | string name =>
    show StepKind.ofName name = .ok k ↔ _
    unfold StepKind.ofName
    constructor
    · intro h
      split at h
      · next k' hk' =>
        obtain rfl := Except.ok.inj h
        exact congrArg _ (Eq.symm (by simpa using List.find?_some hk'))
      · cases h
    · intro h
      obtain rfl := Value.string.inj h
      have hfind : StepKind.all.find? (·.name = k.name) = some k := by cases k <;> decide
      rw [hfind]
  | _ => exact ⟨nofun, nofun⟩

theorem nodup_keys (k : StepKind) : (k.fields.map FieldSpec.key).Nodup := by
  cases k <;> decide

/-- Only a drag names a device. -/
theorem device_of_shape (k : StepKind) :
    ∀ f ∈ k.fields, f.shape = .device → k = .moveRequested ∧ f.key = "device" := by
  cases k <;> decide

theorem checkShapes_eq_ok_iff (hkeys : (es.map Prod.fst).Nodup) (hdevice : DeviceNamed k es) :
    checkShapes k es = .ok () ↔
      ∀ f ∈ k.fields, ∀ v, es.lookup f.key = some v → f.shape.Fits v := by
  have hshape {f : FieldSpec} {v : Value} (hf : f ∈ k.fields) (hv : es.lookup f.key = some v) :
      f.shape.check v = .ok () ↔ f.shape.Fits v := by
    refine f.shape.check_eq_ok_iff fun hd entries he => ?_
    obtain ⟨hk, hkey⟩ := device_of_shape k f hf hd
    exact hdevice hk entries (hkey ▸ he ▸ hv)
  rw [checkShapes, forM_eq_ok_iff]
  constructor
  · intro h f hf v hv
    have hcheck := h (f.key, v) ((lookup_eq_some_iff_mem hkeys).1 hv)
    dsimp only at hcheck
    rw [(find?_key_iff (nodup_keys k)).2 ⟨hf, rfl⟩] at hcheck
    exact (hshape hf hv).1 hcheck
  · rintro h ⟨key, v⟩ he
    dsimp only
    split
    · next f hfind =>
      obtain ⟨hf, rfl⟩ := (find?_key_iff (nodup_keys k)).1 hfind
      have hv := (lookup_eq_some_iff_mem hkeys).2 he
      exact (hshape hf hv).2 (h f hf v hv)
    · rfl

/-- A step is what it says. -/
theorem ext_values {s t : Step} (hk : s.kind = t.kind) (hv : s.values = t.values) : s = t := by
  cases s <;> cases t <;> cases hk <;>
    simpa [values, Value.ofPoint_inj, Value.ofArea_inj, Value.ofUInt32_inj, Value.ofDevice_inj,
      Value.map_string_inj, and_assoc] using hv

theorem required_event_eq_ok_iff :
    required es "event" kindOf = .ok k ↔ es.lookup "event" = some (.string k.name) := by
  unfold required
  cases es.lookup "event" with
  | none => exact ⟨nofun, nofun⟩
  | some v => exact (kindOf_undoes v k).trans ⟨congrArg some, Option.some.inj⟩

/-- What a table is read as. -/
theorem ofTable_eq_ok_iff (hkeys : (es.map Prod.fst).Nodup)
    (hdevice : ∀ k : StepKind, es.lookup "event" = some (.string k.name) → DeviceNamed k es) :
    ofTable es = .ok s ↔ es.lookup "event" = some (.string s.kind.name) ∧
      (∀ f ∈ s.kind.fields, f.Holds es) ∧ s.values = s.kind.fields.map (·.value? es) := by
  simp only [ofTable, bind_eq_ok_iff, required_event_eq_ok_iff]
  constructor
  · rintro ⟨k, hevent, -, -, hbuild⟩
    have hdecodes := build_decodes (hdevice k hevent)
    obtain ⟨rfl, hvalues⟩ := hdecodes.values s hbuild
    exact ⟨hevent, hdecodes.ok_iff.1 ⟨s, hbuild⟩, hvalues⟩
  · rintro ⟨hevent, hholds, hvalues⟩
    have hdecodes := build_decodes (hdevice _ hevent)
    obtain ⟨t, ht⟩ := hdecodes.ok_iff.2 hholds
    -- What is read says the same as `s`, so it is `s`.
    obtain ⟨hkind, htvalues⟩ := hdecodes.values t ht
    obtain rfl : t = s := ext_values hkind (htvalues.trans hvalues.symm)
    refine ⟨t.kind, hevent, (), ?_, ht⟩
    exact (checkShapes_eq_ok_iff hkeys (hdevice _ hevent)).2 fun f hf => (hholds f hf).fits

/-- A table that names the kind of a step, and no table as a device, is read just when it holds what
the kind asks for. -/
theorem ofTable_isOk_iff (hkeys : (es.map Prod.fst).Nodup)
    (hdevice : ∀ k : StepKind, es.lookup "event" = some (.string k.name) → DeviceNamed k es) :
    (∃ s, ofTable es = .ok s) ↔ ∃ k : StepKind, es.lookup "event" = some (.string k.name) ∧
      ∀ f ∈ k.fields, f.Holds es := by
  constructor
  · rintro ⟨s, hs⟩
    obtain ⟨hevent, hholds, -⟩ := (ofTable_eq_ok_iff hkeys hdevice).1 hs
    exact ⟨s.kind, hevent, hholds⟩
  · rintro ⟨k, hevent, hholds⟩
    have hdecodes := build_decodes (hdevice k hevent)
    obtain ⟨s, hs⟩ := hdecodes.ok_iff.2 hholds
    obtain ⟨rfl, hvalues⟩ := hdecodes.values s hs
    exact ⟨s, (ofTable_eq_ok_iff hkeys hdevice).2 ⟨hevent, hholds, hvalues⟩⟩

/-! ## The result -/

/-- The keys that matter to a table: `event`, and those of the kind it names. -/
def Matters (es : Entries) (key : String) : Prop :=
  key = "event" ∨ ∃ k : StepKind, es.lookup "event" = some (.string k.name) ∧
    ∃ f ∈ k.fields, f.key = key

theorem toOption_eq_some_iff {ε α : Type} {x : Except ε α} {a : α} :
    x.toOption = some a ↔ x = .ok a := by
  cases x with
  | error e => exact ⟨nofun, nofun⟩
  | ok b => exact ⟨fun h => congrArg _ (Option.some.inj h), fun h => congrArg _ (Except.ok.inj h)⟩

/-- Tables with the same entries under the keys that matter are read as the same step, or not at
all. -/
theorem toOption_ofTable_congr {es' : Entries} (hkeys : (es.map Prod.fst).Nodup)
    (hdevice : ∀ entries, es.lookup "device" ≠ some (.table entries))
    (hkeys' : (es'.map Prod.fst).Nodup)
    (hsame : ∀ key, Matters es key → ∀ v, (key, v) ∈ es' ↔ (key, v) ∈ es) :
    (ofTable es').toOption = (ofTable es).toOption := by
  have hlookup (key : String) (hkey : Matters es key) : es'.lookup key = es.lookup key := by
    ext v
    rw [lookup_eq_some_iff_mem hkeys', lookup_eq_some_iff_mem hkeys, hsame key hkey]
  have hevent : es'.lookup "event" = es.lookup "event" := hlookup _ (.inl rfl)
  have hfield {k : StepKind} (hk : es.lookup "event" = some (.string k.name)) {f : FieldSpec}
      (hf : f ∈ k.fields) : es'.lookup f.key = es.lookup f.key :=
    hlookup _ (.inr ⟨k, hk, f, hf, rfl⟩)
  -- For a drag, the device is among the keys that matter, so `es'` has no table there either.
  have hdevice' (k : StepKind) (hk : es'.lookup "event" = some (.string k.name)) :
      DeviceNamed k es' := by
    rintro rfl entries h
    rw [hevent] at hk
    have hmatters : es'.lookup "device" = es.lookup "device" :=
      hlookup _ (.inr ⟨_, hk, ⟨"device", .device, false⟩, by decide, rfl⟩)
    exact hdevice entries (hmatters ▸ h)
  ext s
  rw [toOption_eq_some_iff, toOption_eq_some_iff, ofTable_eq_ok_iff hkeys' hdevice',
    ofTable_eq_ok_iff hkeys fun _ _ _ => hdevice, hevent]
  refine and_congr_right fun hk => and_congr ?_ ?_
  · exact forall_congr' fun f => forall_congr' fun hf => FieldSpec.holds_congr (hfield hk hf)
  · rw [List.map_congr_left fun f hf => FieldSpec.value?_congr (hfield hk hf)]

/-- A table with distinct keys, in which no table stands for a device, is read as a step just when
it names a kind, has what the kind requires, and has values of the right shapes. The step then has
the kind that is named, and says what the table says, or under keys that are left out what these
stand for. The order of the keys does not matter, nor do any but `event` and those of the kind. -/
theorem ofValue_table_exact (es : Entries) (hkeys : (es.map Prod.fst).Nodup)
    (hdevice : ∀ entries, es.lookup "device" ≠ some (.table entries)) :
    ((∃ s, ofValue (.table es) = .ok s) ↔
      ∃ k : StepKind, es.lookup "event" = some (.string k.name) ∧ ∀ f ∈ k.fields, f.Holds es) ∧
    (∀ s, ofValue (.table es) = .ok s ↔ es.lookup "event" = some (.string s.kind.name) ∧
      (∀ f ∈ s.kind.fields, f.Holds es) ∧ s.values = s.kind.fields.map (·.value? es)) ∧
    ∀ es' : Entries, (es'.map Prod.fst).Nodup →
      (∀ key, Matters es key → ∀ v, (key, v) ∈ es' ↔ (key, v) ∈ es) →
      (ofValue (.table es')).toOption = (ofValue (.table es)).toOption :=
  have hnamed (k : StepKind) (_ : es.lookup "event" = some (.string k.name)) : DeviceNamed k es :=
    fun _ => hdevice
  ⟨ofTable_isOk_iff hkeys hnamed, fun _ => ofTable_eq_ok_iff hkeys hnamed,
    fun _ => toOption_ofTable_congr hkeys hdevice⟩

/-- A commit without an offset. -/
def plainCommit : Entries :=
  [("event", .string "window-committed"), ("window", .string "app"),
    ("size", .array [.integer 800, .integer 600]),
    ("geometry", .array [.integer 4, .integer (-2147483648)])]

/-- The same commit with its keys the other way round, and one that commits do not have. -/
def oddCommit : Entries :=
  ("device", .boolean true) :: plainCommit.reverse

/-- The odd commit is read with the origin for its offset, and the plain one is the same step. -/
theorem ofValue_table_exact_oddCommit :
    ofValue (.table oddCommit) =
      .ok (.windowCommitted "app" ⟨800, 600⟩ .origin ⟨4, -2147483648⟩) ∧
    (ofValue (.table plainCommit)).toOption = (ofValue (.table oddCommit)).toOption := by
  have hkeys : (oddCommit.map Prod.fst).Nodup := by decide
  have hdevice (entries : Entries) : oddCommit.lookup "device" ≠ some (.table entries) :=
    fun h => nomatch Option.some.inj (show some (Value.boolean true) = some (.table entries) from h)
  obtain ⟨-, hread, hsame⟩ := ofValue_table_exact oddCommit hkeys hdevice
  have hholds : ∀ f ∈ StepKind.windowCommitted.fields, f.Holds oddCommit := by
    refine List.forall_mem_cons.2 ⟨(holds_of_some rfl).2 ⟨_, rfl⟩, ?_⟩
    refine List.forall_mem_cons.2 ⟨(holds_of_some rfl).2 ?_, ?_⟩
    · exact FieldShape.point_fits_iff.2 ⟨⟨800, 600⟩, rfl⟩
    refine List.forall_mem_cons.2 ⟨(holds_of_none rfl).2 rfl, ?_⟩
    refine List.forall_mem_singleton.2 ((holds_of_some rfl).2 ?_)
    exact FieldShape.point_fits_iff.2 ⟨⟨4, -2147483648⟩, rfl⟩
  have hdeviceless : ¬ Matters oddCommit "device" := by
    rintro (h | ⟨k, hk, hkey⟩)
    · exact absurd h (by decide)
    · obtain rfl : k = .windowCommitted := by
        have hname : "window-committed" = k.name := Value.string.inj (Option.some.inj hk)
        revert hname
        cases k <;> decide
      revert hkey
      decide
  refine ⟨(hread _).2 ⟨rfl, hholds, rfl⟩, hsame plainCommit (by decide) fun key hkey v => ?_⟩
  rw [oddCommit, List.mem_cons, List.mem_reverse]
  refine (or_iff_right fun h => ?_).symm
  cases h
  exact hdeviceless hkey

end Step

end Kiosk
