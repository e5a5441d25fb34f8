import Scoreboard.Proofs.TomlKeys
import Scoreboard.Settings.File

/-!
# Settings that are loaded

Main statement (`loadsSafely`): whatever is found at a path, settings that are loaded pass every check, and nothing but
a missing file is written. What comes of a file is decided by the first stage that fails: the bytes, the document, the
kinds of its values, the checks in their order.

In a document whose sections are tables every field is what stands under its key, and its default where nothing stands
there (`Describes`). This is told by what the sections contain and not by how the decoder finds it, so neither other
keys nor the order of keys can matter; keys are never given twice (`Toml.distinct_of_parse?`), so there is one value to
be found.
-/

namespace Scoreboard.Settings

open Text (trim)
open Toml (Value Entries)

/-! ### What is said of a load -/

/-- Values that an engine can run with. -/
structure Usable (s : Settings) : Prop where
  owner : trim s.scoreboard.owner.toList ≠ []
  window : 1 ≤ s.scoreboard.window
  level : s.logging.level ∈ ["trace", "debug", "info", "warn", "error"]

/-- The first check that fails, with what is said about it. -/
inductive Fails (s : Settings) : Fault → String → Prop where
  | owner (blank : trim s.scoreboard.owner.toList = []) :
      Fails s .emptyOwner "Invalid configuration: owner cannot be empty"
  | window (owned : trim s.scoreboard.owner.toList ≠ []) (zero : s.scoreboard.window = 0) :
      Fails s .zeroWindow "Invalid configuration: sync_debounce_ms must be greater than zero"
  | level (owned : trim s.scoreboard.owner.toList ≠ []) (waits : s.scoreboard.window ≠ 0)
      (unknown : s.logging.level ∉ ["trace", "debug", "info", "warn", "error"]) :
      Fails s (.unknownLevel s.logging.level) ("Invalid configuration: Invalid log level: " ++ s.logging.level ++
        ". Must be one of: [\"trace\", \"debug\", \"info\", \"warn\", \"error\"]")

/-- Whether the sections of a document are tables, as far as they are there. -/
def Sectioned (entries : Entries) : Prop :=
  ∀ name ∈ ["scoreboard", "logging"], ∀ v, (name, v) ∈ entries → ∃ origin fields, v = .table origin fields

/-- A value stands under a key of a section. -/
def Stands (entries : Entries) (name key : String) (v : Value) : Prop :=
  ∃ origin fields, (name, Value.table origin fields) ∈ entries ∧ (key, v) ∈ fields

/-- A field is what stands under its key, which is of the right kind, or its default if nothing stands there. -/
structure Tells {α : Type} (entries : Entries) (name key : String) (kind : α → Value) (fallback a : α) : Prop where
  present : ∀ v, Stands entries name key v → v = kind a
  missing : (∀ v, ¬ Stands entries name key v) → a = fallback

/-- What a document whose sections are tables says about every field. -/
structure Describes (entries : Entries) (s : Settings) : Prop where
  owner : Tells entries "scoreboard" "owner" .text "ScoreboardCore" s.scoreboard.owner
  window : Tells entries "scoreboard" "sync_debounce_ms" (fun n : Nat => .integer n) 1000 s.scoreboard.window
  purgeStale : Tells entries "scoreboard" "purge_stale_triggers" .boolean true s.scoreboard.purgeStale
  level : Tells entries "logging" "level" .text "info" s.logging.level
  json : Tells entries "logging" "json_format" .boolean false s.logging.json

/-- The sections and keys of the fields. -/
def fieldKeys : List (String × String) :=
  [("scoreboard", "owner"), ("scoreboard", "sync_debounce_ms"), ("scoreboard", "purge_stale_triggers"),
   ("logging", "level"), ("logging", "json_format")]

/-- What comes of a document whose sections are tables. -/
structure Follows (entries : Entries) (result : Except LoadError Settings) : Prop where
  /-- What is described is loaded if every check passes. -/
  ok : ∀ s, result = .ok s ↔ Describes entries s ∧ Usable s
  /-- If one fails, the first that does is the fault. -/
  invalid : ∀ fault, result = .error (.invalid fault) ↔ ∃ s, Describes entries s ∧ Fails s fault fault.message
  /-- A value of another kind than its field is an error of form. -/
  form : result = .error .form ↔ ∀ s, ¬ Describes entries s

/-- What comes of what is found, by the first stage that fails. -/
inductive Outcome : FileState → Except LoadError Settings → Prop where
  | written : Outcome (.absent true) (.ok {})
  | unwritable : Outcome (.absent false) (.error .access)
  | directory : Outcome .directory (.error .access)
  | notText {bytes : ByteArray} (h : ∀ text : String, bytes ≠ text.toUTF8) :
      Outcome (.holding bytes) (.error .access)
  | notToml {text : String} (h : Toml.parse? text = none) : Outcome (.holding text.toUTF8) (.error .form)
  | mistyped {text : String} {entries : Entries} (parsed : Toml.parse? text = some entries)
      (h : ofEntries? entries = none) : Outcome (.holding text.toUTF8) (.error .form)
  | refused {text : String} {entries : Entries} {s : Settings} {fault : Fault}
      (parsed : Toml.parse? text = some entries) (decoded : ofEntries? entries = some s)
      (h : Fails s fault fault.message) : Outcome (.holding text.toUTF8) (.error (.invalid fault))
  | loaded {text : String} {entries : Entries} {s : Settings} (parsed : Toml.parse? text = some entries)
      (decoded : ofEntries? entries = some s) (h : Usable s) : Outcome (.holding text.toUTF8) (.ok s)

/-- What loading does about what it finds at a path. -/
structure LoadsSafely (before : FileState) : Prop where
  /-- The first stage that fails decides. -/
  outcome : Outcome before (load before).1
  /-- Settings that are loaded pass the checks. -/
  usable : ∀ s, (load before).1 = .ok s → s.fault? = none ∧ Usable s
  /-- Nothing is written but a file that is missing and can be written. -/
  kept : before ≠ .absent true → (load before).2 = before
  /-- A missing file is written with the defaults, and loading it again gives them and leaves it. -/
  created : before = .absent true → (load before).1 = .ok {} ∧ load (load before).2 = (.ok {}, (load before).2)
  /-- Where the sections are tables, every field has what stands under its key, or its default. -/
  follows : ∀ text entries, before = .holding text.toUTF8 → Toml.parse? text = some entries → Sectioned entries →
    Follows entries (load before).1
  /-- Nothing matters but what stands under the keys of the fields. -/
  alike : ∀ text text' entries entries', before = .holding text.toUTF8 →
    Toml.parse? text = some entries → Sectioned entries → Toml.parse? text' = some entries' → Sectioned entries' →
    (∀ field ∈ fieldKeys, ∀ v, Stands entries field.1 field.2 v ↔ Stands entries' field.1 field.2 v) →
    (load before).1 = (load (.holding text'.toUTF8)).1

/-! ### The checks -/

theorem names_eq : Level.all.map Level.name = ["trace", "debug", "info", "warn", "error"] := rfl

/-- The message for an unknown level names it and the five that there are. -/
theorem message_unknownLevel (name : String) : (Fault.unknownLevel name).message =
    "Invalid configuration: Invalid log level: " ++ name ++
      ". Must be one of: [\"trace\", \"debug\", \"info\", \"warn\", \"error\"]" := by
  have hlast : ". Must be one of: [\"trace\", \"debug\", \"info\", \"warn\", \"error\"]" =
      ". Must be one of: " ++ levelList := rfl
  rw [hlast, ← String.append_assoc]
  rfl

/-- A check fails just as the table of faults says, in its order and with its message. -/
theorem fails_iff {s : Settings} {fault : Fault} : s.fault? = some fault ↔ Fails s fault fault.message := by
  rw [fault?, names_eq]
  -- each check comes after those before it have passed, on both sides
  constructor
  · intro h
    split at h
    · rename_i hblank
      cases h
      exact .owner hblank
    · rename_i howner
      split at h
      · rename_i hzero
        cases h
        exact .window howner hzero
      · rename_i hwindow
        split at h
        · rename_i hlevel
          cases h
          rw [message_unknownLevel]
          exact .level howner hwindow hlevel
        · cases h
  · intro h
    generalize hmessage : fault.message = message at h
    cases h with
    | owner hblank => rw [if_pos hblank]
    | window howner hzero => rw [if_neg howner, if_pos hzero]
    | level howner hwindow hlevel => rw [if_neg howner, if_neg hwindow, if_pos hlevel]

/-- Settings are usable just if no check fails. -/
theorem usable_iff {s : Settings} : s.fault? = none ↔ Usable s := by
  rw [fault?, names_eq]
  constructor
  · intro h
    split at h
    · cases h
    · rename_i howner
      split at h
      · cases h
      · rename_i hwindow
        split at h
        · cases h
        · rename_i hlevel
          exact ⟨howner, Nat.one_le_iff_ne_zero.mpr hwindow, Decidable.not_not.mp hlevel⟩
  · rintro ⟨howner, hwindow, hlevel⟩
    rw [if_neg howner, if_neg (Nat.one_le_iff_ne_zero.mp hwindow), if_neg (Decidable.not_not.mpr hlevel)]

/-! ### The fields -/

section Fields

variable {entries : Entries} {name key : String} {v : Value} {α β : Type}

theorem text?_eq_some_iff (v : Value) (s : String) : text? v = some s ↔ v = .text s := by
  cases v <;> simp [text?]

/-- A count is read of an integer that is not negative only. -/
theorem count?_eq_some_iff (v : Value) (n : Nat) : count? v = some n ↔ v = .integer n := by
  cases v with
  | integer m =>
    simp only [count?, Value.integer.injEq]
    split
    · rw [Option.some.injEq]
      omega
    · simp only [reduceCtorEq, false_iff]
      omega
  | _ => simp [count?]

theorem flag?_eq_some_iff (v : Value) (b : Bool) : flag? v = some b ↔ v = .boolean b := by
  cases v <;> simp [flag?]

/-- The value under a key of a section. -/
def found? (entries : Entries) (name key : String) : Option Value :=
  match Table.find? name entries with
  | some (.table _ fields) => Table.find? key fields
  | _ => none

/-- Keys are never given twice, so what stands under a key is what is found there. -/
theorem stands_iff (distinct : entries.Distinct) : Stands entries name key v ↔ found? entries name key = some v := by
  unfold found?
  constructor
  · rintro ⟨origin, fields, hsection, hfield⟩
    have hname := (Table.find?_eq_some_iff distinct.keys).mpr hsection
    rw [hname]
    exact (Table.find?_eq_some_iff (distinct.table_of_find? hname).keys).mpr hfield
  · intro h
    split at h
    · rename_i origin fields hname
      exact ⟨origin, fields, Table.mem_of_find? hname, Table.mem_of_find? h⟩
    · cases h

/-- Where keys are distinct, a field is told just as it is read. -/
theorem tells_iff (distinct : entries.Distinct) {kind? : Value → Option α} {kind : α → Value}
    (reads : ∀ v a, kind? v = some a ↔ v = kind a) {fallback a : α} :
    Tells entries name key kind fallback a ↔ field? kind? fallback (found? entries name key) = some a := by
  constructor
  · intro told
    cases hfound : found? entries name key with
    | none =>
      have hnone : ∀ v, ¬ Stands entries name key v := fun v hv => by
        rw [stands_iff distinct, hfound] at hv
        cases hv
      exact congrArg some (told.missing hnone).symm
    | some v => exact (reads v a).mpr (told.present v ((stands_iff distinct).mpr hfound))
  · intro h
    refine ⟨fun v hv => ?_, fun hnone => ?_⟩
    · rw [(stands_iff distinct).mp hv] at h
      exact (reads v a).mp h
    · have hfound : found? entries name key = none :=
        Option.eq_none_iff_forall_ne_some.mpr fun v hv => hnone v ((stands_iff distinct).mpr hv)
      rw [hfound] at h
      exact (Option.some.inj h).symm

/-- A section that is not there is read as one without any field. -/
theorem field?_section (tabled : ∀ v, (name, v) ∈ entries → ∃ origin fields, v = .table origin fields)
    (decode? : Section → Option β) {fallback : β} (hnone : decode? (fun _ _ => none) = some fallback) :
    field? (fun v => (section? v).bind decode?) fallback (Table.find? name entries) =
      decode? fun key _ => found? entries name key := by
  unfold found?
  cases hname : Table.find? name entries with
  | none => exact hnone.symm
  | some v =>
    obtain ⟨origin, fields, rfl⟩ := tabled v (Table.mem_of_find? hname)
    rfl

/-- The first section is read field by field. -/
theorem config?_eq_some_iff {fields : Section} {c : Config} : config? fields = some c ↔
    field? text? "ScoreboardCore" (fields "owner" 0) = some c.owner ∧
    field? count? 1000 (fields "sync_debounce_ms" 1) = some c.window ∧
    field? flag? true (fields "purge_stale_triggers" 2) = some c.purgeStale := by
  unfold config?
  constructor
  · intro h
    obtain ⟨owner, howner, h⟩ := Option.bind_eq_some_iff.mp h
    obtain ⟨window, hwindow, h⟩ := Option.bind_eq_some_iff.mp h
    obtain ⟨purge, hpurge, h⟩ := Option.bind_eq_some_iff.mp h
    cases h
    exact ⟨howner, hwindow, hpurge⟩
  · rintro ⟨howner, hwindow, hpurge⟩
    rw [howner, hwindow, hpurge]
    rfl

/-- The logging section is read field by field. -/
theorem logging?_eq_some_iff {fields : Section} {l : LogSettings} : logging? fields = some l ↔
    field? text? "info" (fields "level" 0) = some l.level ∧
    field? flag? false (fields "json_format" 1) = some l.json := by
  unfold logging?
  constructor
  · intro h
    obtain ⟨level, hlevel, h⟩ := Option.bind_eq_some_iff.mp h
    obtain ⟨json, hjson, h⟩ := Option.bind_eq_some_iff.mp h
    cases h
    exact ⟨hlevel, hjson⟩
  · rintro ⟨hlevel, hjson⟩
    rw [hlevel, hjson]
    rfl

/-- Where sections are tables, decoding gives what the document describes. -/
theorem ofEntries?_eq_some_iff (distinct : entries.Distinct) (sectioned : Sectioned entries) {s : Settings} :
    ofEntries? entries = some s ↔ Describes entries s := by
  have hscoreboard := field?_section (sectioned "scoreboard" (by decide)) config? rfl
  have hlogging := field?_section (sectioned "logging" (by decide)) logging? rfl
  -- each section is read by itself, the missing ones as if empty
  have hparts : ofEntries? entries = some s ↔
      config? (fun key _ => found? entries "scoreboard" key) = some s.scoreboard ∧
      logging? (fun key _ => found? entries "logging" key) = some s.logging := by
    unfold ofEntries?
    rw [hscoreboard, hlogging]
    constructor
    · intro h
      obtain ⟨c, hc, h⟩ := Option.bind_eq_some_iff.mp h
      obtain ⟨l, hl, h⟩ := Option.bind_eq_some_iff.mp h
      cases h
      exact ⟨hc, hl⟩
    · rintro ⟨hc, hl⟩
      rw [hc, hl]
      rfl
  rw [hparts, config?_eq_some_iff, logging?_eq_some_iff]
  simp only [← tells_iff distinct text?_eq_some_iff, ← tells_iff distinct count?_eq_some_iff,
    ← tells_iff distinct flag?_eq_some_iff]
  constructor
  · rintro ⟨⟨howner, hwindow, hpurge⟩, hlevel, hjson⟩
    exact ⟨howner, hwindow, hpurge, hlevel, hjson⟩
  · rintro ⟨howner, hwindow, hpurge, hlevel, hjson⟩
    exact ⟨⟨howner, hwindow, hpurge⟩, hlevel, hjson⟩

theorem Tells.of_same {entries' : Entries} {kind : α → Value} {fallback a : α}
    (same : ∀ v, Stands entries name key v ↔ Stands entries' name key v)
    (told : Tells entries name key kind fallback a) : Tells entries' name key kind fallback a where
  present v hv := told.present v ((same v).mpr hv)
  missing hnone := told.missing fun v hv => hnone v ((same v).mp hv)

/-- The settings described depend only on what stands at the six keys. -/
theorem Describes.of_same {entries' : Entries} {s : Settings}
    (same : ∀ field ∈ fieldKeys, ∀ v, Stands entries field.1 field.2 v ↔ Stands entries' field.1 field.2 v)
    (h : Describes entries s) : Describes entries' s where
  owner := h.owner.of_same (same ("scoreboard", "owner") (by decide))
  window := h.window.of_same (same ("scoreboard", "sync_debounce_ms") (by decide))
  purgeStale := h.purgeStale.of_same (same ("scoreboard", "purge_stale_triggers") (by decide))
  level := h.level.of_same (same ("logging", "level") (by decide))
  json := h.json.of_same (same ("logging", "json_format") (by decide))

end Fields

/-! ### Texts -/

section Texts

variable {text : String} {entries : Entries} {s : Settings} {fault : Fault}

/-- What comes of a document, by how far it gets. -/
theorem ofText_cases (h : Toml.parse? text = some entries) :
    (ofEntries? entries = none ∧ ofText text = .error .form) ∨
    (∃ s fault, ofEntries? entries = some s ∧ s.fault? = some fault ∧ ofText text = .error (.invalid fault)) ∨
    ∃ s, ofEntries? entries = some s ∧ s.fault? = none ∧ ofText text = .ok s := by
  rw [ofText, h, Option.bind_some]
  split
  · rename_i hdecode
    exact .inl ⟨hdecode, rfl⟩
  · rename_i s hdecode
    split
    · rename_i hvalid
      exact .inr (.inr ⟨s, hdecode, hvalid, rfl⟩)
    · rename_i fault hfault
      exact .inr (.inl ⟨s, fault, hdecode, hfault, rfl⟩)

/-- A text gives settings just if its entries do and no check fails. -/
theorem ofText_eq_ok_iff (h : Toml.parse? text = some entries) :
    ofText text = .ok s ↔ ofEntries? entries = some s ∧ s.fault? = none := by
  obtain ⟨hdecode, hresult⟩ | ⟨_, _, hdecode, hfault, hresult⟩ | ⟨_, hdecode, hvalid, hresult⟩ := ofText_cases h
  · rw [hdecode, hresult]
    exact ⟨nofun, nofun⟩
  · rw [hdecode, hresult]
    grind
  · rw [hdecode, hresult]
    grind

/-- A text is invalid just if its entries give settings that a check fails on. -/
theorem ofText_eq_invalid_iff (h : Toml.parse? text = some entries) :
    ofText text = .error (.invalid fault) ↔ ∃ s, ofEntries? entries = some s ∧ s.fault? = some fault := by
  obtain ⟨hdecode, hresult⟩ | ⟨_, _, hdecode, hfault, hresult⟩ | ⟨_, hdecode, hvalid, hresult⟩ := ofText_cases h
  · rw [hdecode, hresult]
    exact ⟨nofun, nofun⟩
  · rw [hdecode, hresult]
    grind
  · rw [hdecode, hresult]
    grind

/-- A text has the wrong form just if its entries give no settings. -/
theorem ofText_eq_form_iff (h : Toml.parse? text = some entries) :
    ofText text = .error .form ↔ ofEntries? entries = none := by
  obtain ⟨hdecode, hresult⟩ | ⟨_, _, hdecode, -, hresult⟩ | ⟨_, hdecode, -, hresult⟩ := ofText_cases h
  · exact ⟨fun _ => hdecode, fun _ => hresult⟩
  · rw [hdecode, hresult]
    exact ⟨nofun, nofun⟩
  · rw [hdecode, hresult]
    exact ⟨nofun, nofun⟩

/-- What comes of a text is decided by the first stage that fails. -/
theorem outcome_ofText (text : String) : Outcome (.holding text.toUTF8) (ofText text) := by
  cases hparse : Toml.parse? text with
  | none =>
    have hresult : ofText text = .error .form := by rw [ofText, hparse, Option.bind_none]
    rw [hresult]
    exact .notToml hparse
  | some entries =>
    obtain ⟨hdecode, hresult⟩ | ⟨s, fault, hdecode, hfault, hresult⟩ | ⟨s, hdecode, hvalid, hresult⟩ :=
      ofText_cases hparse
    · rw [hresult]
      exact .mistyped hparse hdecode
    · rw [hresult]
      exact .refused hparse hdecode (fails_iff.mp hfault)
    · rw [hresult]
      exact .loaded hparse hdecode (usable_iff.mp hvalid)

/-- What comes of a text follows from what stands at the six keys. -/
theorem follows_ofText (hparse : Toml.parse? text = some entries) (sectioned : Sectioned entries) :
    Follows entries (ofText text) := by
  have hdecode : ∀ s, ofEntries? entries = some s ↔ Describes entries s := fun _ =>
    ofEntries?_eq_some_iff (Toml.distinct_of_parse? hparse) sectioned
  constructor
  · intro s
    rw [ofText_eq_ok_iff hparse, hdecode, usable_iff]
  · intro fault
    rw [ofText_eq_invalid_iff hparse]
    simp only [hdecode, fails_iff]
  · rw [ofText_eq_form_iff hparse, Option.eq_none_iff_forall_ne_some]
    simp only [ne_eq, hdecode]

/-- Documents that say the same about every field give the same. -/
theorem ofText_congr {text' : String} {entries' : Entries} (hparse : Toml.parse? text = some entries)
    (sectioned : Sectioned entries) (hparse' : Toml.parse? text' = some entries') (sectioned' : Sectioned entries')
    (same : ∀ field ∈ fieldKeys, ∀ v, Stands entries field.1 field.2 v ↔ Stands entries' field.1 field.2 v) :
    ofText text = ofText text' := by
  have hdecode : ofEntries? entries = ofEntries? entries' := by
    apply Option.ext
    intro s
    rw [ofEntries?_eq_some_iff (Toml.distinct_of_parse? hparse) sectioned,
      ofEntries?_eq_some_iff (Toml.distinct_of_parse? hparse') sectioned']
    exact ⟨.of_same same, .of_same fun field hfield v => (same field hfield v).symm⟩
  rw [ofText, ofText, hparse, hparse', Option.bind_some, Option.bind_some, hdecode]

/-- Tables and keys that mean nothing are passed over, and what is missing has its default. -/
example : (ofText "[other]\nowner = 1\n[logging]\ncolour = true\njson_format = true\n").toOption =
    some { logging := { json := true } } := by
  decide +kernel

end Texts

/-! ### Loading -/

theorem fromUTF8?_toUTF8 (text : String) : String.fromUTF8? text.toUTF8 = some text := dif_pos text.isValidUTF8

/-- What can be decoded is the encoding of a text. -/
theorem toUTF8_of_fromUTF8? {bytes : ByteArray} {text : String} (h : String.fromUTF8? bytes = some text) :
    bytes = text.toUTF8 := by
  unfold String.fromUTF8? at h
  split at h
  · cases h
    rfl
  · cases h

/-- Loading a file with a text gives what the text gives, and leaves the file as it is. -/
theorem load_toUTF8 (text : String) : load (.holding text.toUTF8) = (ofText text, .holding text.toUTF8) := by
  rw [load, fromUTF8?_toUTF8]

/-- The template is a document of the defaults. -/
theorem ofText_template : ofText template = .ok {} := by
  have hdefaults : (ofText template).toOption = some {} := by decide +kernel
  cases hresult : ofText template with
  | ok s =>
    rw [hresult] at hdefaults
    exact congrArg Except.ok (Option.some.inj hdefaults)
  | error _ =>
    rw [hresult] at hdefaults
    cases hdefaults

/-- What loading comes to is decided by the first stage that fails, whatever there is at the path. -/
theorem outcome_load (before : FileState) : Outcome before (load before).1 := by
  cases before with
  | absent writable =>
    cases writable with
    | false => exact .unwritable
    | true => exact .written
  | directory => exact .directory
  | holding bytes =>
    cases htext : String.fromUTF8? bytes with
    | none =>
      have haccess : (load (.holding bytes)).1 = .error .access := by
        rw [load, htext]
      rw [haccess]
      refine .notText fun text heq => ?_
      rw [heq, fromUTF8?_toUTF8] at htext
      cases htext
    | some text =>
      obtain rfl := toUTF8_of_fromUTF8? htext
      rw [load_toUTF8]
      exact outcome_ofText text

theorem Outcome.usable {before : FileState} {s : Settings} (h : Outcome before (.ok s)) : Usable s := by
  cases h with
  | written => exact usable_iff.mp rfl
  | loaded _ _ usable => exact usable

/-- Only a missing file is written. -/
theorem load_snd {before : FileState} (h : before ≠ .absent true) : (load before).2 = before := by
  cases before with
  | absent writable =>
    cases writable with
    | false => rfl
    | true => exact absurd rfl h
  | directory => rfl
  | holding bytes => rfl

/-- Loading gives settings that can be used or says why not, and leaves what an operator has written. -/
theorem loadsSafely (before : FileState) : LoadsSafely before := by
  have houtcome := outcome_load before
  constructor
  case outcome => exact houtcome
  case usable =>
    intro s hs
    rw [hs] at houtcome
    exact ⟨usable_iff.mpr houtcome.usable, houtcome.usable⟩
  case kept => exact load_snd
  case created =>
    rintro rfl
    refine ⟨rfl, ?_⟩
    change load (.holding template.toUTF8) = _
    rw [load_toUTF8, ofText_template]
    rfl
  case follows =>
    rintro text entries rfl hparse sectioned
    rw [load_toUTF8]
    exact follows_ofText hparse sectioned
  case alike =>
    rintro text text' entries entries' rfl hparse sectioned hparse' sectioned' same
    rw [load_toUTF8, load_toUTF8]
    exact ofText_congr hparse sectioned hparse' sectioned' same

end Scoreboard.Settings
