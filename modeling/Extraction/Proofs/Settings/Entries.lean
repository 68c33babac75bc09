import Extraction.Settings
import Mathlib.Data.List.Nodup

/-!
# Entries with settings

Which entries of names and values give settings, and which ones.

There are four choices. Each has a name, what is chosen if there is no entry of the name, and the
values that choose something. Entries give settings if and only if their names are those of choices
and each value chooses something for its name. What the values choose is then chosen, and all else
is as usual.

* `Settings.Choice` are the choices, and `Settings.Choice.Chosen` says what entries choose.
* `Settings.Follow` relates settings to the entries that give them.
* `Settings.ofEntries_eq_ok_iff` says that these are the settings that are read from the entries.
-/

namespace Extraction

open Function (Injective)

/-! ## Names of levels and formats -/

/-- The member of a complete list that is found by a name, if no two have the same name. -/
theorem find?_name_eq_some_iff {α : Type} {all : List α} {name : α → String}
    (hcomplete : ∀ a, a ∈ all) (hdistinct : Injective name) {word : String} {a : α} :
    (all.find? fun b => name b == word) = some a ↔ name a = word := by
  constructor
  · intro hfound
    simpa using List.find?_some hfound
  · rintro rfl
    obtain ⟨b, hfound⟩ : ∃ b, (all.find? fun b => name b == name a) = some b :=
      Option.isSome_iff_exists.1 (List.find?_isSome.2 ⟨a, hcomplete a, by simp⟩)
    have hsame : name b = name a := by simpa using List.find?_some hfound
    rw [hfound, hdistinct hsame]

namespace Log

theorem Level.name_injective : Injective Level.name := by
  intro a b
  cases a <;> cases b <;> decide

/-- A text names a level if it is the name but for its case. -/
theorem Level.ofName?_eq_some_iff {text : String} {level : Level} :
    Level.ofName? text = some level ↔ level.name = Text.capitals text :=
  find?_name_eq_some_iff (fun a => by cases a <;> decide) Level.name_injective

theorem Format.name_injective : Injective Format.name := by
  intro a b
  cases a <;> cases b <;> decide

/-- A text names a format of the log if it is the name. -/
theorem Format.ofName?_eq_some_iff {text : String} {format : Format} :
    Format.ofName? text = some format ↔ format.name = text :=
  find?_name_eq_some_iff (fun a => by cases a <;> decide) Format.name_injective

end Log

namespace Report

theorem Format.name_injective : Injective Format.name := by
  intro a b
  cases a <;> cases b <;> decide

/-- A text names a format of reports if it is the name. -/
theorem Format.ofName?_eq_some_iff {text : String} {format : Format} :
    Format.ofName? text = some format ↔ format.name = text :=
  find?_name_eq_some_iff (fun a => by cases a <;> decide) Format.name_injective

end Report

/-- A value is a text if and only if it is the scalar of the text. -/
theorem Yaml.Value.text?_eq_some_iff {value : Yaml.Value} {text : String} :
    value.text? = some text ↔ value = .scalar (.text text) := by
  unfold Yaml.Value.text?
  split <;> simp_all

/-- Two things of which a value is the name are the same if no two have the same name. -/
theorem eq_of_text_name {α : Type} {name : α → String} (hdistinct : Injective name)
    {value : Yaml.Value} {a b : α} (ha : value = .scalar (.text (name a)))
    (hb : value = .scalar (.text (name b))) : a = b := by
  have hsame : Yaml.Value.scalar (.text (name a)) = .scalar (.text (name b)) := ha.symm.trans hb
  exact hdistinct (by simpa using hsame)

namespace Settings

/-! ## Choices -/

/-- Something that a user may choose. -/
structure Choice (α : Type) where
  /-- The name of the entries that choose. -/
  name : String
  /-- What is chosen if there is no entry of the name. -/
  usual : α
  /-- The values that choose something, each with what it chooses. -/
  Means : Yaml.Value → α → Prop
  /-- What is chosen in some settings. -/
  get : Settings → α
  /-- The settings in which something is chosen, and all else as in others. -/
  set : α → Settings → Settings

namespace Choice

/-- The choice of the least level that is logged, by its name in capitals or not. -/
def logLevel : Choice Log.Level where
  name := "log_level"
  usual := .warning
  Means value level := ∃ text, value = .scalar (.text text) ∧ level.name = Text.capitals text
  get := Settings.logLevel
  set level settings := { settings with logLevel := level }

/-- The choice of the format of the log. -/
def logFormat : Choice Log.Format where
  name := "log_format"
  usual := .console
  Means value format := value = .scalar (.text format.name)
  get := Settings.logFormat
  set format settings := { settings with logFormat := format }

/-- The choice of the reader of pages. Any text may be its name, also one in bytes. -/
def reader : Choice String where
  name := "html_parser"
  usual := "html.parser"
  Means value reader := ∃ scalar, value = .scalar scalar ∧ scalar.text? = some reader
  get := Settings.reader
  set reader settings := { settings with reader := reader }

/-- The choice of the format of reports. -/
def reportFormat : Choice Report.Format where
  name := "output_format"
  usual := .json
  Means value format := value = .scalar (.text format.name)
  get := Settings.reportFormat
  set format settings := { settings with reportFormat := format }

variable {α : Type}

/-- What `entries` choose for `choice`: `a`, which is `otherwise` if there is no entry for it. -/
def Chosen (choice : Choice α) (entries : List (String × Yaml.Value)) (otherwise a : α) : Prop :=
  match entries.lookup choice.name with
  | some value => choice.Means value a
  | none => a = otherwise

end Choice

/-- `settings` are those that `entries` give: each name is that of a choice, and everything is
chosen as the entries say, or else as usual. -/
structure Follow (settings : Settings) (entries : List (String × Yaml.Value)) : Prop where
  /-- There is no other name than those of the choices. -/
  known : ∀ entry ∈ entries,
    entry.1 ∈ [Choice.logLevel.name, Choice.logFormat.name, Choice.reader.name,
      Choice.reportFormat.name]
  /-- The least level that is logged. -/
  logLevel : Choice.logLevel.Chosen entries Choice.logLevel.usual settings.logLevel
  /-- The format of the log. -/
  logFormat : Choice.logFormat.Chosen entries Choice.logFormat.usual settings.logFormat
  /-- The reader of pages. -/
  reader : Choice.reader.Chosen entries Choice.reader.usual settings.reader
  /-- The format of reports. -/
  reportFormat :
    Choice.reportFormat.Chosen entries Choice.reportFormat.usual settings.reportFormat

/-! ## Changes -/

/-- A text makes the change that it chooses by its name, and no other value makes one. -/
theorem change_of_text {α : Type} {value : Yaml.Value} {choose? : String → Option α}
    {set : α → Settings → Settings} {f : Settings → Settings} :
    (match value.text?.bind choose? with
      | some a => Except.ok (set a)
      | none => .error Problem.noChoice) = .ok f ↔
      ∃ text a, value = .scalar (.text text) ∧ choose? text = some a ∧ f = set a := by
  cases hfound : value.text?.bind choose? with
  | none =>
    simp only [reduceCtorEq, false_iff, not_exists, not_and]
    intro text a htext hchosen
    simp [htext, Yaml.Value.text?, hchosen] at hfound
  | some a =>
    obtain ⟨text, htext, hchosen⟩ := Option.bind_eq_some_iff.1 hfound
    rw [Yaml.Value.text?_eq_some_iff] at htext
    subst htext
    simp [hchosen, eq_comm]

/-- So does a text that is the `name` of what it chooses, if these are the texts that choose. -/
theorem change_of_name {α : Type} {value : Yaml.Value} {choose? : String → Option α}
    {name : α → String} {set : α → Settings → Settings} {f : Settings → Settings}
    (hchoose : ∀ text a, choose? text = some a ↔ name a = text) :
    (match value.text?.bind choose? with
      | some a => Except.ok (set a)
      | none => .error Problem.noChoice) = .ok f ↔
      ∃ a, value = .scalar (.text (name a)) ∧ f = set a := by
  refine change_of_text.trans ⟨?_, ?_⟩
  · rintro ⟨text, a, htext, hchosen, hset⟩
    obtain rfl := (hchoose text a).1 hchosen
    exact ⟨a, htext, hset⟩
  · rintro ⟨a, htext, hset⟩
    exact ⟨name a, a, htext, (hchoose _ a).2 rfl, hset⟩

/-- `name` and `value` make the change `f` for `choice`: the name is its name, and what the value
chooses is set. -/
def Choice.Changes {α : Type} (choice : Choice α) (name : String) (value : Yaml.Value)
    (f : Settings → Settings) : Prop :=
  name = choice.name ∧ ∃ a, choice.Means value a ∧ f = choice.set a

/-- The changes for `log_level` are those that `Choice.logLevel` means. -/
theorem change_logLevel {value : Yaml.Value} {f : Settings → Settings} :
    change "log_level" value = .ok f ↔ Choice.logLevel.Changes "log_level" value f := by
  refine change_of_text.trans ?_
  simp only [Log.Level.ofName?_eq_some_iff, Choice.Changes, Choice.logLevel, true_and]
  constructor
  · rintro ⟨text, level, htext, hname, hset⟩
    exact ⟨level, ⟨text, htext, hname⟩, hset⟩
  · rintro ⟨level, ⟨text, htext, hname⟩, hset⟩
    exact ⟨text, level, htext, hname, hset⟩

/-- The changes for `log_format` are those that `Choice.logFormat` means. -/
theorem change_logFormat {value : Yaml.Value} {f : Settings → Settings} :
    change "log_format" value = .ok f ↔ Choice.logFormat.Changes "log_format" value f := by
  refine (change_of_name fun _ _ => Log.Format.ofName?_eq_some_iff).trans ?_
  simp only [Choice.Changes, Choice.logFormat, true_and]

/-- The changes for `html_parser` are those that `Choice.reader` means. -/
theorem change_reader {value : Yaml.Value} {f : Settings → Settings} :
    change "html_parser" value = .ok f ↔ Choice.reader.Changes "html_parser" value f := by
  simp only [change, Choice.Changes, Choice.reader, true_and]
  -- Bytes are taken as a text here, as long as they are one.
  cases value with
  | scalar scalar =>
    cases scalar with
    | binary bytes =>
      cases hfound : (Yaml.Scalar.binary bytes).text? <;> simp [hfound, eq_comm]
    | _ => simp [Yaml.Value.text?, Yaml.Scalar.text?, eq_comm]
  | _ => simp [Yaml.Value.text?]

/-- The changes for `output_format` are those that `Choice.reportFormat` means. -/
theorem change_reportFormat {value : Yaml.Value} {f : Settings → Settings} :
    change "output_format" value = .ok f ↔ Choice.reportFormat.Changes "output_format" value f := by
  refine (change_of_name fun _ _ => Report.Format.ofName?_eq_some_iff).trans ?_
  simp only [Choice.Changes, Choice.reportFormat, true_and]

/-- All that an entry can change. -/
theorem change_cases {name : String} {value : Yaml.Value} {f : Settings → Settings}
    (hchanges : change name value = .ok f) :
    Choice.logLevel.Changes name value f ∨ Choice.logFormat.Changes name value f ∨
      Choice.reader.Changes name value f ∨ Choice.reportFormat.Changes name value f := by
  by_cases hlevel : name = "log_level"
  · subst hlevel
    exact .inl (change_logLevel.1 hchanges)
  by_cases hformat : name = "log_format"
  · subst hformat
    exact .inr (.inl (change_logFormat.1 hchanges))
  by_cases hreader : name = "html_parser"
  · subst hreader
    exact .inr (.inr (.inl (change_reader.1 hchanges)))
  by_cases hreport : name = "output_format"
  · subst hreport
    exact .inr (.inr (.inr (change_reportFormat.1 hchanges)))
  simp [change, *] at hchanges

/-! ## Laws of choices -/

namespace Choice

variable {α : Type}

/-- The settings heed `choice`: an entry with its name changes what the value chooses, and no other
entry changes what is chosen. -/
structure Heeded (choice : Choice α) : Prop where
  /-- A value for the name makes the change that it chooses, and no other value makes one. -/
  change_iff : ∀ value f, change choice.name value = .ok f ↔ choice.Changes choice.name value f
  /-- What is set is what one gets. -/
  get_set : ∀ a settings, choice.get (choice.set a settings) = a
  /-- What is chosen does not depend on any other name. -/
  get_change : ∀ name value f settings, name ≠ choice.name → change name value = .ok f →
    choice.get (f settings) = choice.get settings
  /-- A value chooses one thing at most. -/
  unique : ∀ value a b, choice.Means value a → choice.Means value b → a = b

/-- What is chosen for `choice` stays where something else is set by the name of `other`. -/
def Keeps {β : Type} (choice : Choice α) (other : Choice β) : Prop :=
  other.name ≠ choice.name → ∀ b settings, choice.get (other.set b settings) = choice.get settings

/-- What stays by each other name stays, whatever an entry of another name changes. -/
theorem get_change {choice : Choice α} (hlevel : choice.Keeps logLevel)
    (hformat : choice.Keeps logFormat) (hpage : choice.Keeps reader)
    (hreport : choice.Keeps reportFormat) {name : String} {value : Yaml.Value}
    {f : Settings → Settings} (settings : Settings) (hother : name ≠ choice.name)
    (hchanges : change name value = .ok f) : choice.get (f settings) = choice.get settings := by
  rcases change_cases hchanges with
    ⟨rfl, a, -, rfl⟩ | ⟨rfl, a, -, rfl⟩ | ⟨rfl, a, -, rfl⟩ | ⟨rfl, a, -, rfl⟩
  · exact hlevel hother a settings
  · exact hformat hother a settings
  · exact hpage hother a settings
  · exact hreport hother a settings

/-- The entry `log_level` chooses the level of the log. -/
theorem heeded_logLevel : logLevel.Heeded where
  change_iff _ _ := change_logLevel
  get_set _ _ := rfl
  get_change _ _ _ := get_change (fun hne => absurd rfl hne) (fun _ _ _ => rfl)
    (fun _ _ _ => rfl) (fun _ _ _ => rfl)
  unique := by
    rintro _ a b ⟨text, rfl, ha⟩ ⟨_, hsame, hb⟩
    cases hsame
    exact Log.Level.name_injective (ha.trans hb.symm)

/-- The entry `log_format` chooses the format of the log. -/
theorem heeded_logFormat : logFormat.Heeded where
  change_iff _ _ := change_logFormat
  get_set _ _ := rfl
  get_change _ _ _ := get_change (fun _ _ _ => rfl) (fun hne => absurd rfl hne)
    (fun _ _ _ => rfl) (fun _ _ _ => rfl)
  unique _ _ _ := eq_of_text_name Log.Format.name_injective

/-- The entry `html_parser` chooses the reader of pages. -/
theorem heeded_reader : reader.Heeded where
  change_iff _ _ := change_reader
  get_set _ _ := rfl
  get_change _ _ _ := get_change (fun _ _ _ => rfl) (fun _ _ _ => rfl)
    (fun hne => absurd rfl hne) (fun _ _ _ => rfl)
  unique := by
    rintro _ a b ⟨scalar, rfl, ha⟩ ⟨_, hsame, hb⟩
    cases hsame
    simpa [ha] using hb

/-- The entry `output_format` chooses the format of the report. -/
theorem heeded_reportFormat : reportFormat.Heeded where
  change_iff _ _ := change_reportFormat
  get_set _ _ := rfl
  get_change _ _ _ := get_change (fun _ _ _ => rfl) (fun _ _ _ => rfl) (fun _ _ _ => rfl)
    (fun hne => absurd rfl hne)
  unique _ _ _ := eq_of_text_name Report.Format.name_injective

/-- Entries choose one thing at most. -/
theorem Heeded.chosen_unique {choice : Choice α} (h : choice.Heeded)
    {entries : List (String × Yaml.Value)} {otherwise a b : α}
    (ha : choice.Chosen entries otherwise a) (hb : choice.Chosen entries otherwise b) :
    a = b := by
  unfold Chosen at ha hb
  split at ha
  case h_1 value hfound =>
    rw [hfound] at hb
    exact h.unique value a b ha hb
  case h_2 hmissing =>
    rw [hmissing] at hb
    exact ha.trans hb.symm

end Choice

/-! ## Entries -/

/-- Each of `entries` changes something. -/
def Fits (entries : List (String × Yaml.Value)) : Prop :=
  ∀ entry ∈ entries, ∃ f, change entry.1 entry.2 = .ok f

/-- A name that stands in one entry only has the value of that entry. -/
theorem lookup_of_mem {entries : List (String × Yaml.Value)}
    (hdistinct : (entries.map Prod.fst).Nodup) {name : String} {value : Yaml.Value}
    (hmem : (name, value) ∈ entries) : entries.lookup name = some value := by
  obtain ⟨former, later, rfl⟩ := List.append_of_mem hmem
  refine List.lookup_eq_some_iff.2 ⟨former, later, rfl, fun entry hearlier => ?_⟩
  rw [List.map_append, List.nodup_append] at hdistinct
  have hapart := hdistinct.2.2 entry.1 (List.mem_map_of_mem hearlier) name (by simp)
  simpa using Ne.symm hapart

/-- What is chosen after some entries that fit is what they choose, or else what was chosen in
front of them. -/
theorem Choice.Heeded.chosen_choose {α : Type} {choice : Choice α} (h : choice.Heeded)
    {entries : List (String × Yaml.Value)} (hfits : Fits entries)
    (hdistinct : (entries.map Prod.fst).Nodup) (settings : Settings) :
    choice.Chosen entries (choice.get settings) (choice.get (settings.choose entries)) := by
  induction entries generalizing settings with
  | nil => rfl
  | cons entry entries ih =>
    obtain ⟨name, value⟩ := entry
    obtain ⟨f, hchanges⟩ := hfits (name, value) List.mem_cons_self
    have hlater : Fits entries := fun entry hmem => hfits entry (List.mem_cons_of_mem _ hmem)
    obtain ⟨hnew, hdistinct⟩ := List.nodup_cons.1 hdistinct
    have hrest := ih hlater hdistinct (f settings)
    have hstep : settings.choose ((name, value) :: entries) = (f settings).choose entries := by
      simp [choose, hchanges]
    rw [hstep]
    by_cases hsame : name = choice.name
    · -- No later entry has the name, so what the value chooses stays chosen.
      subst hsame
      obtain ⟨-, a, hmeans, rfl⟩ := (h.change_iff value f).1 hchanges
      have habsent : entries.lookup choice.name = none :=
        List.lookup_eq_none_iff.2 fun entry hmem => by
          have hother : choice.name ≠ entry.1 := fun hsame =>
            hnew (List.mem_map.2 ⟨entry, hmem, hsame.symm⟩)
          simpa using hother
      simp only [Choice.Chosen, habsent, h.get_set] at hrest
      simpa [Choice.Chosen, hrest] using hmeans
    · rw [h.get_change name value f settings hsame hchanges] at hrest
      have hother : (choice.name == name) = false := by simpa using Ne.symm hsame
      simpa [Choice.Chosen, List.lookup_cons, hother] using hrest

/-- A value for a name changes something if the entries choose something by it. -/
theorem Choice.Heeded.change_of_chosen {α : Type} {choice : Choice α} (h : choice.Heeded)
    {entries : List (String × Yaml.Value)} {otherwise a : α} {value : Yaml.Value}
    (hfound : entries.lookup choice.name = some value)
    (hchosen : choice.Chosen entries otherwise a) : ∃ f, change choice.name value = .ok f := by
  simp only [Choice.Chosen, hfound] at hchosen
  exact ⟨choice.set a, (h.change_iff value _).2 ⟨rfl, a, hchosen, rfl⟩⟩

/-- The settings chosen by entries that fit follow the entries. -/
theorem follow_choose {entries : List (String × Yaml.Value)} (hfits : Fits entries)
    (hdistinct : (entries.map Prod.fst).Nodup) : (standard.choose entries).Follow entries where
  known entry hmem := by
    obtain ⟨f, hchanges⟩ := hfits entry hmem
    rcases change_cases hchanges with ⟨hsame, -⟩ | ⟨hsame, -⟩ | ⟨hsame, -⟩ | ⟨hsame, -⟩ <;>
      simp [hsame]
  logLevel := Choice.heeded_logLevel.chosen_choose hfits hdistinct standard
  logFormat := Choice.heeded_logFormat.chosen_choose hfits hdistinct standard
  reader := Choice.heeded_reader.chosen_choose hfits hdistinct standard
  reportFormat := Choice.heeded_reportFormat.chosen_choose hfits hdistinct standard

/-- Entries that some settings follow fit. -/
theorem Follow.fits {settings : Settings} {entries : List (String × Yaml.Value)}
    (hfollow : settings.Follow entries) (hdistinct : (entries.map Prod.fst).Nodup) :
    Fits entries := by
  rintro ⟨name, value⟩ hmem
  -- What is chosen for a name tells of one entry only, so the names have to be distinct.
  have hfound := lookup_of_mem hdistinct hmem
  have hknown := hfollow.known _ hmem
  simp only [List.mem_cons, List.not_mem_nil, or_false] at hknown
  rcases hknown with rfl | rfl | rfl | rfl
  · exact Choice.heeded_logLevel.change_of_chosen hfound hfollow.logLevel
  · exact Choice.heeded_logFormat.change_of_chosen hfound hfollow.logFormat
  · exact Choice.heeded_reader.change_of_chosen hfound hfollow.reader
  · exact Choice.heeded_reportFormat.change_of_chosen hfound hfollow.reportFormat

/-- Only one settings follow some entries. -/
theorem Follow.unique {a b : Settings} {entries : List (String × Yaml.Value)}
    (hfollow : a.Follow entries) (hfollow' : b.Follow entries) : a = b := by
  obtain ⟨level, format, reader, reportFormat⟩ := a
  obtain ⟨level', format', reader', reportFormat'⟩ := b
  obtain rfl : level = level' :=
    Choice.heeded_logLevel.chosen_unique hfollow.logLevel hfollow'.logLevel
  obtain rfl : format = format' :=
    Choice.heeded_logFormat.chosen_unique hfollow.logFormat hfollow'.logFormat
  obtain rfl : reader = reader' :=
    Choice.heeded_reader.chosen_unique hfollow.reader hfollow'.reader
  obtain rfl : reportFormat = reportFormat' :=
    Choice.heeded_reportFormat.chosen_unique hfollow.reportFormat hfollow'.reportFormat
  rfl

/-- The problems of entries are those of the entries that change nothing. -/
theorem mem_problems_iff {entries : List (String × Yaml.Value)} {name : String}
    {problem : Problem} : (name, problem) ∈ problems entries ↔
      ∃ value, (name, value) ∈ entries ∧ change name value = .error problem := by
  simp only [problems, List.mem_mergeSort, List.mem_filterMap, Prod.exists]
  constructor
  · rintro ⟨name', value, hmem, hfound⟩
    split at hfound
    · cases hfound
    · cases hfound
      exact ⟨value, hmem, by assumption⟩
  · rintro ⟨value, hmem, hfailed⟩
    exact ⟨name, value, hmem, by simp [hfailed]⟩

/-- There are no problems if and only if the entries fit. -/
theorem problems_eq_nil_iff {entries : List (String × Yaml.Value)} :
    problems entries = [] ↔ Fits entries := by
  rw [List.eq_nil_iff_forall_not_mem]
  constructor
  · rintro hnone ⟨name, value⟩ hmem
    cases hchanges : change name value with
    | ok f => exact ⟨f, rfl⟩
    | error problem => exact absurd (mem_problems_iff.2 ⟨value, hmem, hchanges⟩) (hnone _)
  · rintro hfits ⟨name, problem⟩ hmem
    obtain ⟨value, hmem, hfailed⟩ := mem_problems_iff.1 hmem
    obtain ⟨f, hchanges⟩ := hfits _ hmem
    simp [hfailed] at hchanges

/-- Entries with distinct names give the settings that follow them, and no others. -/
theorem ofEntries_eq_ok_iff {entries : List (String × Yaml.Value)}
    (hdistinct : (entries.map Prod.fst).Nodup) {settings : Settings} :
    ofEntries entries = .ok settings ↔ settings.Follow entries := by
  have hgiven (hfits : Fits entries) : ofEntries entries = .ok (standard.choose entries) := by
    simp [ofEntries, problems_eq_nil_iff.2 hfits]
  constructor
  · intro hfound
    -- Settings are given only if there are no problems.
    have hfits : Fits entries := by
      rw [← problems_eq_nil_iff]
      unfold ofEntries at hfound
      split at hfound
      · assumption
      · cases hfound
    rw [hgiven hfits] at hfound
    cases hfound
    exact follow_choose hfits hdistinct
  · intro hfollow
    have hfits := hfollow.fits hdistinct
    rw [hgiven hfits, (follow_choose hfits hdistinct).unique hfollow]

end Settings

end Extraction
