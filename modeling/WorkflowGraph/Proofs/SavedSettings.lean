import WorkflowGraph.Proofs.TomlDocuments
import WorkflowGraph.Proofs.WrittenFiles
import WorkflowGraph.Settings.Store

/-!
# Settings that are saved and loaded

Settings are three sections whose keys need no quotes, so a document of settings reads back
(`Settings.parse?_of_written`).  It can be written if its two limits have at most 63 bits
(`Settings.render?_eq_none_iff`), whatever the texts are.  So saving fails for a limit that is too
large, and for nothing else where the file can be written, and loading gives back what was saved
(`saved_settings_load`).
-/

namespace WorkflowGraph

namespace Settings

variable (settings : Settings)

/-! ## The sections -/

theorem optionalEntry_sublist (key : String) (value : Option String) :
    ((optionalEntry key value).map Prod.fst).Sublist [key] := by
  cases value with
  | none => exact List.nil_sublist _
  | some value => exact List.Sublist.refl _

/-- No key of the settings needs quotes, and none is in a section twice. -/
theorem readable_of_mem_sections : ∀ block ∈ settings.sections, block.Readable := by
  have hanalysis : Toml.Reader.IsBare "analysis" := by decide
  have hvalidation : Toml.Reader.IsBare "validation" := by decide
  have houtput : Toml.Reader.IsBare "output" := by decide
  rw [sections, List.forall_mem_cons, List.forall_mem_cons, List.forall_mem_singleton]
  refine ⟨?_, ?_, ?_⟩
  · have hpackage := optionalEntry_sublist "filter_package" settings.analysis.filterPackage
    have hname := optionalEntry_sublist "filter_name" settings.analysis.filterName
    apply Toml.Section.readable_of_sublist
      (["root_dir", "include_tests"] ++ ["filter_package"] ++ ["filter_name"] ++ ["exclude_dirs"])
      hanalysis (by decide) (by decide)
    rw [List.map_append, List.map_append, List.map_append]
    exact (((List.Sublist.refl _).append hpackage).append hname).append (List.Sublist.refl _)
  · exact Toml.Section.readable_of_sublist ["max_depth", "max_fan_out", "check_signatures"]
      hvalidation (by decide) (by decide) (List.Sublist.refl _)
  · exact Toml.Section.readable_of_sublist ["graph_file", "pretty"] houtput (by decide) (by decide)
      (List.Sublist.refl _)

theorem nodup_sections : (settings.sections.map Toml.Section.name).Nodup := by
  show ["analysis", "validation", "output"].Nodup
  decide

/-! ## Reading -/

theorem texts?_array (values : List String) : texts? (.array (values.map .text)) = some values := by
  have htext : text? ∘ Toml.text = fun value => pure (id value) := rfl
  rw [texts?, List.mapM_map, htext, List.mapM_pure, List.map_id]
  rfl

theorem nat?_integer (n : Nat) : nat? (.integer n) = some n := by
  simp [nat?]

/-- The table of the first section has what is analysed. -/
theorem analysis?_entry (analysis : AnalysisSettings) (form : TableForm) :
    analysis? (.table form (Toml.entriesOf
      ([("root_dir", .text analysis.rootDir), ("include_tests", .flag analysis.includeTests)] ++
       optionalEntry "filter_package" analysis.filterPackage ++
       optionalEntry "filter_name" analysis.filterName ++
       [("exclude_dirs", .texts analysis.excludeDirs)]))) = some analysis := by
  obtain ⟨rootDir, tests, package, name, dirs⟩ := analysis
  unfold analysis?
  refine Option.bind_eq_some_iff.mpr ⟨_, rfl, ?_⟩
  refine Option.bind_eq_some_iff.mpr ⟨rootDir, rfl, ?_⟩
  refine Option.bind_eq_some_iff.mpr ⟨tests, rfl, ?_⟩
  refine Option.bind_eq_some_iff.mpr ⟨package, ?_, ?_⟩
  · cases package <;> cases name <;> rfl
  refine Option.bind_eq_some_iff.mpr ⟨name, ?_, ?_⟩
  · cases package <;> cases name <;> rfl
  refine Option.bind_eq_some_iff.mpr ⟨dirs, ?_, rfl⟩
  cases package <;> cases name <;> exact texts?_array dirs

/-- The table of the second section has the limits. -/
theorem validation?_entry (validation : ValidationSettings) (form : TableForm) :
    validation? (.table form (Toml.entriesOf
      [("max_depth", .natural validation.maxDepth), ("max_fan_out", .natural validation.maxFanOut),
       ("check_signatures", .flag validation.checkSignatures)])) = some validation := by
  unfold validation?
  refine Option.bind_eq_some_iff.mpr ⟨_, rfl, ?_⟩
  refine Option.bind_eq_some_iff.mpr ⟨validation.maxDepth, nat?_integer _, ?_⟩
  refine Option.bind_eq_some_iff.mpr ⟨validation.maxFanOut, nat?_integer _, ?_⟩
  exact Option.bind_eq_some_iff.mpr ⟨validation.checkSignatures, rfl, rfl⟩

/-- The tables of the sections have the settings. -/
theorem parse?_of_entries {text : String}
    (h : Toml.parse? text = some (settings.sections.map Toml.Section.entry)) :
    parse? text = some settings := by
  have hanalysis := analysis?_entry settings.analysis .header
  have hvalidation := validation?_entry settings.validation .header
  unfold parse?
  refine Option.bind_eq_some_iff.mpr ⟨_, h, ?_⟩
  refine Option.bind_eq_some_iff.mpr ⟨settings.analysis, hanalysis, ?_⟩
  refine Option.bind_eq_some_iff.mpr ⟨settings.validation, hvalidation, ?_⟩
  exact Option.bind_eq_some_iff.mpr ⟨settings.output, rfl, rfl⟩

/-- **A document of settings is read back.** -/
theorem parse?_of_written {text : String}
    (h : Toml.WrittenSections settings.sections text.toList) : parse? text = some settings :=
  settings.parse?_of_entries
    (Toml.parse?_of_written h settings.readable_of_mem_sections settings.nodup_sections)

/-! ## Writing -/

/-- Whether the settings can be written is a matter of the two limits. -/
theorem all_isWritable_sections :
    (settings.sections.all fun block => block.entries.all fun entry => entry.2.isWritable) =
      ((Toml.Setting.natural settings.validation.maxDepth).isWritable &&
        (Toml.Setting.natural settings.validation.maxFanOut).isWritable) := by
  have htexts : ∀ key value,
      ((optionalEntry key value).all fun entry => entry.2.isWritable) = true := by
    intro key value
    cases value <;> rfl
  simp only [sections, List.all_cons, List.all_append, List.all_nil, htexts]
  simp only [Toml.Setting.isWritable, Bool.and_true, Bool.true_and]

/-- Settings cannot be written exactly if one of their limits has more than 63 bits. -/
theorem render?_eq_none_iff :
    settings.render? = none ↔
      2 ^ 63 - 1 < settings.validation.maxDepth ∨ 2 ^ 63 - 1 < settings.validation.maxFanOut := by
  rw [render?, Toml.render?, all_isWritable_sections, ite_eq_right_iff, Bool.and_eq_true,
    Toml.isWritable_natural_iff, Toml.isWritable_natural_iff]
  constructor
  · intro h
    by_contra hsmall
    exact absurd (h (by omega)) (Option.some_ne_none _)
  · intro hlarge hsmall
    omega

/-! ## Files -/

variable {settings}

/-- Saving writes the document, if there is one and the file can be written. -/
theorem save_eq_ok {path text : String} {state : ShellState} {files : Files}
    (hrender : settings.render? = some text) (hwrite : state.files.write path text = .ok files) :
    settings.save path state = (.ok (), { state with files }) := by
  simp only [save, hrender, Shell.write, hwrite]

/-- Saving leaves everything as it was if there is no document. -/
theorem save_eq_error {path : String} {state : ShellState} (hrender : settings.render? = none) :
    ∃ reason, settings.save path state =
      (.error { cause := .failure (.settings reason) }, state) := by
  simp only [save, hrender, Shell.fail]
  exact ⟨_, rfl⟩

/-- Loading gives the settings of the document that the file holds. -/
theorem load_of_read {path text : String} {state : ShellState}
    (hread : state.files.read path = .ok text) (hparse : parse? text = some settings) :
    load path state = (.ok settings, state) := by
  simp only [load, bind, Shell.read, hread, hparse]
  rfl

end Settings

/-- A file can be written at the path, whatever its text. -/
def Files.CanWrite (files : Files) (path : String) : Prop :=
  ∀ text, ∃ after, files.write path text = .ok after

/-- **Settings that are saved are loaded.**  Where the file can be written, saving settings fails
exactly if one of the two limits is above `2 ^ 63 - 1`; the settings are then to blame, and nothing is
changed.  Otherwise the file holds a document with the layout of `Toml.WrittenSections`, and loading
it gives the settings back, whatever texts they hold. -/
theorem saved_settings_load (settings : Settings) (path : String) (state : ShellState)
    (hpath : state.files.CanWrite path) :
    ((∃ failure, (settings.save path state).1 = .error failure) ↔
      2 ^ 63 - 1 < settings.validation.maxDepth ∨ 2 ^ 63 - 1 < settings.validation.maxFanOut) ∧
    (∀ failure, (settings.save path state).1 = .error failure →
      (∃ reason, failure.cause = .failure (.settings reason)) ∧
        (settings.save path state).2 = state) ∧
    (settings.validation.maxDepth ≤ 2 ^ 63 - 1 ∧ settings.validation.maxFanOut ≤ 2 ^ 63 - 1 →
      (settings.save path state).1 = .ok () ∧
      (Settings.load path (settings.save path state).2).1 = .ok settings ∧
      ∃ text, (settings.save path state).2.files.read path = .ok text ∧
        Toml.WrittenSections settings.sections text.toList) := by
  have hlimits := settings.render?_eq_none_iff
  cases hrender : settings.render? with
  | none =>
      rw [hrender] at hlimits
      have hlarge := hlimits.mp rfl
      obtain ⟨reason, hsave⟩ : ∃ reason, settings.save path state = _ :=
        Settings.save_eq_error hrender
      rw [hsave]
      refine ⟨iff_of_true ⟨_, rfl⟩ hlarge, ?_, ?_⟩
      · intro failure hfailure
        obtain rfl := Except.error.inj hfailure
        exact ⟨⟨reason, rfl⟩, rfl⟩
      · intro hsmall
        omega
  | some text =>
      rw [hrender] at hlimits
      have hsmall := mt hlimits.mpr (Option.some_ne_none text)
      obtain ⟨files, hwrite⟩ := hpath text
      have hread : files.read path = .ok text := Files.read_of_write hwrite
      have hlayout := Toml.writtenSections_render? hrender
      rw [Settings.save_eq_ok hrender hwrite]
      refine ⟨iff_of_false ?_ hsmall, ?_, fun _ => ⟨rfl, ?_, text, hread, hlayout⟩⟩
      · intro ⟨failure, hfailure⟩
        cases hfailure
      · intro failure hfailure
        cases hfailure
      · rw [Settings.load_of_read hread (settings.parse?_of_written hlayout)]

/-- Settings with texts that are hard to write: quotes of both kinds in rows, backslashes, line ends,
tabs and other control characters, and text beyond ASCII. -/
def hardSettings : Settings where
  analysis :=
    { rootDir := "C:\\\"work\"\\日本\t'é'"
      includeTests := true
      filterPackage := some "'''\"\"\"\"\n\r\n\\u0041\x00"
      excludeDirs := ["", "two\nlines", "it's", "\x7f\x08\x0c", "\n'''"] }
  validation := { maxDepth := 2 ^ 63 - 1, maxFanOut := 0 }
  output := { graphFile := "\"\"\"", pretty := false }

theorem canWrite_empty : ({} : Files).CanWrite "settings.toml" :=
  fun _ => ⟨_, rfl⟩

/-- They are saved and loaded, and a limit of `2 ^ 63` is too much. -/
theorem hard_settings_load :
    ({} : Files).CanWrite "settings.toml" ∧
    (Settings.load "settings.toml" (hardSettings.save "settings.toml" {}).2).1 = .ok hardSettings ∧
    ∃ failure, (Settings.save { hardSettings with validation := { maxDepth := 2 ^ 63 } }
      "settings.toml" {}).1 = .error failure := by
  refine ⟨canWrite_empty, ?_, ?_⟩
  · exact ((saved_settings_load hardSettings "settings.toml" {} canWrite_empty).2.2
      ⟨Nat.le_refl _, Nat.zero_le _⟩).2.1
  · exact (saved_settings_load _ "settings.toml" {} canWrite_empty).1.mpr (Or.inl (by decide))

end WorkflowGraph
