import Extraction.Proofs.Settings.Entries
import Extraction.Proofs.Yaml.Keys
import Mathlib.Tactic.ByContra

/-!
# Files with settings

Which files give settings, which ones, and what becomes of all other files.

A file gives settings if and only if it has nothing in it, or a mapping whose keys are texts and
whose entries give settings. Any other file is refused, and the failure has the path of the file.
The one exception is a mapping with a key that is no text: its reading stops for another reason,
whatever else stands in the file.

* `Settings.Holds` relates a value to the entries by which it gives settings.
* `Settings.load_of_file` is what comes of every file that has a value.
-/

namespace Extraction.Settings

/-- A value holds some entries by names: nothing holds none, and a mapping whose keys are texts its
own. -/
inductive Holds : Yaml.Value → List (String × Yaml.Value) → Prop
  /-- Nothing holds no entries. -/
  | nothing : Holds (.scalar .absent) []
  /-- A mapping whose keys are texts holds its entries. -/
  | mapping (entries : List (String × Yaml.Value)) :
      Holds (.mapping (entries.map fun entry => (.text entry.1, entry.2))) entries

/-- Every key of a mapping is a text. -/
def TextKeys : Yaml.Value → Prop
  | .mapping entries => ∀ entry ∈ entries, ∃ name, entry.1 = .text name
  | _ => True

/-! ## Keys -/

/-- A key is a name if it is the text of the name. -/
theorem name?_eq_some_iff {entry : Yaml.Scalar × Yaml.Value} {named : String × Yaml.Value} :
    name? entry = some named ↔ entry = (.text named.1, named.2) := by
  unfold name?
  split
  · simp [Prod.ext_iff, eq_comm]
  case h_2 hother =>
    simp only [reduceCtorEq, false_iff]
    exact hother named.1 named.2

/-- The entries of a mapping by the names that its keys are, if all are texts. -/
theorem mapM_name?_eq_some_iff {entries : List (Yaml.Scalar × Yaml.Value)}
    {named : List (String × Yaml.Value)} :
    entries.mapM name? = some named ↔
      entries = named.map fun entry => (.text entry.1, entry.2) := by
  induction entries generalizing named with
  | nil => simp [eq_comm (a := [])]
  | cons entry entries ih =>
    simp only [List.mapM_cons, Option.bind_eq_bind, Option.bind_eq_some_iff, name?_eq_some_iff, ih]
    constructor
    · rintro ⟨first, rfl, others, rfl, hsame⟩
      cases hsame
      rfl
    · intro hsame
      cases named with
      | nil => cases hsame
      | cons first others =>
        obtain ⟨rfl, rfl⟩ := List.cons.inj hsame
        exact ⟨first, rfl, others, rfl, rfl⟩

/-- All keys of a mapping are texts if and only if the mapping has entries by names. -/
theorem textKeys_mapping_iff {entries : List (Yaml.Scalar × Yaml.Value)} :
    TextKeys (.mapping entries) ↔
      ∃ named : List (String × Yaml.Value),
        entries = named.map fun entry => (.text entry.1, entry.2) := by
  constructor
  · intro htexts
    induction entries with
    | nil => exact ⟨[], rfl⟩
    | cons entry entries ih =>
      obtain ⟨key, value⟩ := entry
      obtain ⟨name, rfl⟩ := htexts (key, value) List.mem_cons_self
      obtain ⟨named, rfl⟩ := ih fun entry hmem => htexts entry (List.mem_cons_of_mem _ hmem)
      exact ⟨(name, value) :: named, rfl⟩
  · rintro ⟨named, rfl⟩ entry hmem
    obtain ⟨named, -, rfl⟩ := List.mem_map.1 hmem
    exact ⟨named.1, rfl⟩

/-- A value that holds entries by names has texts as keys only. -/
theorem Holds.textKeys {value : Yaml.Value} {entries : List (String × Yaml.Value)}
    (hholds : Holds value entries) : TextKeys value := by
  cases hholds with
  | nothing => trivial
  | mapping => exact textKeys_mapping_iff.2 ⟨entries, rfl⟩

/-- The names of the entries are distinct if the keys of the value are. -/
theorem Holds.nodup {value : Yaml.Value} {entries : List (String × Yaml.Value)}
    (hholds : Holds value entries) (hdistinct : value.Distinct) :
    (entries.map Prod.fst).Nodup := by
  cases hholds with
  | nothing => exact List.nodup_nil
  | mapping =>
    refine List.Nodup.of_map Yaml.Scalar.text ?_
    simpa [Yaml.Value.Distinct, Function.comp_def] using hdistinct

/-! ## Values of files -/

/-- A value gives what its entries give, and every fault of theirs is a failure with the path. -/
theorem ofValue_of_holds {value : Yaml.Value} {entries : List (String × Yaml.Value)}
    (hholds : Holds value entries) (path : String) :
    ofValue path value =
      (ofEntries entries).mapError fun fault => .failure ⟨fault, .file path⟩ := by
  cases hholds with
  | nothing => simp [ofValue, ofEntries, problems, choose, Except.mapError]
  | mapping =>
    simp only [ofValue, mapM_name?_eq_some_iff.2 rfl]
    cases ofEntries entries <;> rfl

/-- A value that holds no entries gives no settings: either it is no mapping, or some key of the
mapping is no text. -/
theorem ofValue_of_not_holds {value : Yaml.Value} (hbare : ∀ entries, ¬Holds value entries)
    (path : String) :
    TextKeys value ∧ ofValue path value = .error (.failure ⟨.noMapping, .file path⟩) ∨
      ¬TextKeys value ∧ ofValue path value = .error .keyNotText := by
  cases value with
  | scalar scalar =>
    refine .inl ⟨trivial, ?_⟩
    cases scalar with
    | absent => exact absurd .nothing (hbare [])
    | _ => rfl
  | mapping entries =>
    -- With texts as keys only, the mapping would hold its entries.
    refine .inr ⟨fun htexts => ?_, ?_⟩
    · obtain ⟨named, rfl⟩ := textKeys_mapping_iff.1 htexts
      exact hbare named (.mapping named)
    · cases hfound : entries.mapM name? with
      | none => simp [ofValue, hfound]
      | some named =>
        obtain rfl := mapM_name?_eq_some_iff.1 hfound
        exact absurd (.mapping named) (hbare named)
  | _ => exact .inl ⟨trivial, rfl⟩

/-- A value with distinct keys gives the settings that follow its entries, and no others. -/
theorem ofValue_eq_ok_iff {value : Yaml.Value} (hdistinct : value.Distinct) {path : String}
    {settings : Settings} :
    ofValue path value = .ok settings ↔
      ∃ entries, Holds value entries ∧ settings.Follow entries := by
  constructor
  · intro hfound
    by_cases hholds : ∃ entries, Holds value entries
    · obtain ⟨entries, hholds⟩ := hholds
      refine ⟨entries, hholds, (ofEntries_eq_ok_iff (hholds.nodup hdistinct)).1 ?_⟩
      rw [ofValue_of_holds hholds] at hfound
      cases hgiven : ofEntries entries with
      | ok other =>
        rw [hgiven] at hfound
        cases hfound
        rfl
      | error fault => simp [hgiven, Except.mapError] at hfound
    · rcases ofValue_of_not_holds (not_exists.1 hholds) path with ⟨-, hfailed⟩ | ⟨-, hfailed⟩ <;>
        simp [hfailed] at hfound
  · rintro ⟨entries, hholds, hfollow⟩
    rw [ofValue_of_holds hholds, (ofEntries_eq_ok_iff (hholds.nodup hdistinct)).2 hfollow]
    rfl

/-- A value whose keys are texts gives settings or a failure with the path of the file. -/
theorem ofValue_of_textKeys {value : Yaml.Value} (htexts : TextKeys value) {path : String}
    {stop : Stop} (hstopped : ofValue path value = .error stop) :
    ∃ fault, stop = .failure ⟨fault, .file path⟩ := by
  by_cases hholds : ∃ entries, Holds value entries
  · obtain ⟨entries, hholds⟩ := hholds
    rw [ofValue_of_holds hholds] at hstopped
    cases hgiven : ofEntries entries with
    | ok settings => simp [hgiven, Except.mapError] at hstopped
    | error fault =>
      rw [hgiven] at hstopped
      cases hstopped
      exact ⟨fault, rfl⟩
  · rcases ofValue_of_not_holds (not_exists.1 hholds) path with ⟨-, hfailed⟩ | ⟨hother, -⟩
    · rw [hfailed] at hstopped
      cases hstopped
      exact ⟨.noMapping, rfl⟩
    · exact absurd htexts hother

/-- A value with a key that is no text stops the reading for that reason. -/
theorem ofValue_of_not_textKeys {value : Yaml.Value} (hother : ¬TextKeys value) (path : String) :
    ofValue path value = .error .keyNotText := by
  rcases ofValue_of_not_holds (fun _ hholds => hother hholds.textKeys) path with
    ⟨htexts, -⟩ | ⟨-, hfailed⟩
  · exact absurd htexts hother
  · exact hfailed

/-- What comes of a file in which `read` finds a `value`, if no mapping has a key twice for it.

The file gives settings if and only if it has nothing in it or a mapping whose keys are names of
choices, each with a value that chooses something, and it gives those that are chosen, with the
usual ones for all other names. If not, the reading stops with a failure that has the path of the
file, unless some key of a mapping is no text: then it stops because of the key. -/
theorem load_of_file {read : String → Except Yaml.Fault Yaml.Value} {files : Files}
    {asked surrounding : Option String} {path text : String} {value : Yaml.Value}
    (hread : Yaml.Value.ReadsDistinct read) (hpath : path? asked surrounding = some path)
    (hcontent : files.text path = .ok text) (hvalue : read text = .ok value) :
    (∀ settings, load read files asked surrounding = .ok settings ↔
      ∃ entries, Holds value entries ∧ settings.Follow entries) ∧
    (TextKeys value ↔ ∀ stop, load read files asked surrounding = .error stop →
      ∃ fault, stop = .failure ⟨fault, .file path⟩) ∧
    (¬TextKeys value → load read files asked surrounding = .error .keyNotText) := by
  have hload : load read files asked surrounding = ofValue path value := by
    simp only [load, hpath, hcontent, ofText, hvalue]
  rw [hload]
  refine ⟨fun settings => ?_, ⟨fun htexts stop => ?_, fun hfailures => ?_⟩, fun hother => ?_⟩
  · exact ofValue_eq_ok_iff (hread text value hvalue)
  · exact ofValue_of_textKeys htexts
  · by_contra hother
    obtain ⟨fault, hfault⟩ := hfailures .keyNotText (ofValue_of_not_textKeys hother path)
    cases hfault
  · exact ofValue_of_not_textKeys hother path

/-- A file with a level in small letters and in quotes: the level is chosen, and all else is as
usual. -/
theorem load_of_file_with_level :
    let text := "\"log_level\": \"debug\"\n"
    let files := Files.ofTable [("munge.yaml", text)]
    Yaml.Value.ReadsDistinct Yaml.Value.read ∧
      path? (some "munge.yaml") none = some "munge.yaml" ∧ files.text "munge.yaml" = .ok text ∧
      Yaml.Value.read text = .ok (.mapping [(.text "log_level", .scalar (.text "debug"))]) ∧
      load Yaml.Value.read files (some "munge.yaml") none =
        .ok ⟨.debug, .console, "html.parser", .json⟩ := by
  intro text files
  have hpath : path? (some "munge.yaml") none = some "munge.yaml" := by decide +kernel
  have hcontent : files.text "munge.yaml" = .ok text := by decide +kernel
  have htokens : Yaml.tokens? text =
      some [.mappingStart, .key, .scalar "log_level" false, .value, .scalar "debug" false,
        .blockEnd] := by decide +kernel
  have hnode : Yaml.Node.read? text = some (.mapping Yaml.Node.noProperties
      [(.scalar Yaml.Node.noProperties "log_level" false,
        .scalar Yaml.Node.noProperties "debug" false)]) := by
    simp only [Yaml.Node.read?, htokens, Option.bind_eq_bind, Option.bind_some]
    with_unfolding_all rfl
  have hvalue : Yaml.Value.read text =
      .ok (.mapping [(.text "log_level", .scalar (.text "debug"))]) := by
    simp only [Yaml.Value.read, hnode]
    rfl
  have hfollow : Follow ⟨.debug, .console, "html.parser", .json⟩
      [("log_level", .scalar (.text "debug"))] :=
    { known := by simp [Choice.logLevel]
      logLevel := ⟨"debug", rfl, by decide⟩
      logFormat := rfl
      reader := rfl
      reportFormat := rfl }
  refine ⟨Yaml.Value.readsDistinct_read, hpath, hcontent, hvalue, ?_⟩
  obtain ⟨hload, -, -⟩ := load_of_file Yaml.Value.readsDistinct_read hpath hcontent hvalue
  exact (hload _).2 ⟨_, .mapping [("log_level", .scalar (.text "debug"))], hfollow⟩

/-- A number as a key: the reading of such a file does not stop with a failure that has its path. -/
theorem load_of_file_with_number :
    let files := Files.ofTable [("munge.yaml", "1:\n")]
    Yaml.Value.read "1:\n" = .ok (.mapping [(.other .integer "1", .scalar .absent)]) ∧
      load Yaml.Value.read files (some "munge.yaml") none = .error .keyNotText ∧
      ¬∃ fault, load Yaml.Value.read files (some "munge.yaml") none =
        .error (.failure ⟨fault, .file "munge.yaml"⟩) := by
  intro files
  have hpath : path? (some "munge.yaml") none = some "munge.yaml" := by decide +kernel
  have hcontent : files.text "munge.yaml" = .ok "1:\n" := by decide +kernel
  have htokens : Yaml.tokens? "1:\n" =
      some [.mappingStart, .key, .scalar "1" true, .value, .blockEnd] := by decide +kernel
  have hnode : Yaml.Node.read? "1:\n" = some (.mapping Yaml.Node.noProperties
      [(.scalar Yaml.Node.noProperties "1" true, Yaml.Node.missing)]) := by
    simp only [Yaml.Node.read?, htokens, Option.bind_eq_bind, Option.bind_some]
    with_unfolding_all rfl
  have hvalue : Yaml.Value.read "1:\n" =
      .ok (.mapping [(.other .integer "1", .scalar .absent)]) := by
    simp only [Yaml.Value.read, hnode]
    rfl
  have hstopped : load Yaml.Value.read files (some "munge.yaml") none = .error .keyNotText := by
    simp [load, hpath, hcontent, ofText, hvalue, ofValue, name?]
  exact ⟨hvalue, hstopped, by simp [hstopped]⟩

end Extraction.Settings
