import Reckoner.Proofs.Json.RoundTrip
import Reckoner.Settings

/-!
# The format of the settings file

Settings are got back from the text that is written for them (`ofFile?_fileText`) if the count in
them fits a word. So it does in all settings that were read from a file (`maxHistory_load`), and a
theme that is chosen later changes nothing about it.
-/

namespace Reckoner.Settings

/-- Settings are written as JSON has them. -/
theorem isProper_toJson (settings : Settings) : settings.toJson.IsProper := by
  refine .object ?_ ?_
  · intro field member
    obtain ⟨named, -, rfl⟩ := List.mem_map.mp member
    exact Json.Quotation.isProper_ofText named.1
  · intro field member
    obtain ⟨named, among, rfl⟩ := List.mem_map.mp member
    simp only [List.mem_cons, List.not_mem_nil, or_false] at among
    rcases among with rfl | rfl | rfl
    · exact .string (Json.Quotation.isProper_ofText settings.theme.name)
    · exact .number (Json.Numeral.isProper_ofNat settings.maxHistory)
    · exact .bool settings.persistHistory

/-- The fields of settings are found by their names. -/
theorem record?_toJson (settings : Settings) :
    settings.toJson.record? fieldNames =
      some [some (.ofText settings.theme.name), some (.number (.ofNat settings.maxHistory)),
        some (.bool settings.persistHistory)] := rfl

/-- A theme is got back from its name. -/
theorem themeOfJson?_name (theme : Theme) : themeOfJson? (.ofText theme.name) = some theme := by
  cases theme <;> rfl

/-- **The settings are got back from what is written for them.** -/
theorem ofFile?_fileText {settings : Settings}
    (fits : settings.maxHistory < Json.Numeral.wordLimit) :
    ofFile? settings.fileText = some settings := by
  have count := Json.Numeral.nat64?_ofNat fits
  rw [ofFile?, fileText, Json.read?_pretty settings.isProper_toJson]
  show ofJson? settings.toJson = some settings
  rw [ofJson?, record?_toJson]
  simp only [Option.bind_eq_bind, Option.bind_some, fieldOr, themeOfJson?_name, countOfJson?,
    count, Json.Value.bool?]
  rfl

/-! ## Loading -/

/-- Which settings are loaded depends on the disk only, and loading them changes nothing on it. -/
theorem load_frame (store : Store) (path : Text) :
    (load store path).1 = (load { disk := store.disk } path).1 ∧
      (load store path).2.disk = store.disk := by
  rw [load, load]
  dsimp only
  split
  · exact ⟨rfl, rfl⟩
  · split
    · exact ⟨rfl, rfl⟩
    · split
      · exact ⟨rfl, rfl⟩
      · exact ⟨rfl, rfl⟩

theorem maxHistory_standard : standard.maxHistory < Json.Numeral.wordLimit := by decide

theorem maxHistory_ofJson? {value : Json.Value} {settings : Settings}
    (read : ofJson? value = some settings) : settings.maxHistory < Json.Numeral.wordLimit := by
  rw [ofJson?] at read
  obtain ⟨fields, -, read⟩ := Option.bind_eq_some_iff.mp read
  split at read
  · rename_i theme maxHistory persistHistory
    obtain ⟨theme, -, read⟩ := Option.bind_eq_some_iff.mp read
    obtain ⟨count, counted, read⟩ := Option.bind_eq_some_iff.mp read
    obtain ⟨persists, -, read⟩ := Option.bind_eq_some_iff.mp read
    cases read
    cases maxHistory with
    | none =>
        cases counted
        exact maxHistory_standard
    | some value =>
        cases value with
        | number numeral => exact Json.Numeral.nat64?_lt counted
        | _ => cases counted
  · cases read

/-- **The count in the settings that a program starts with fits a word.** -/
theorem maxHistory_load (store : Store) (path : Text) :
    (load store path).1.maxHistory < Json.Numeral.wordLimit := by
  rw [load]
  split
  · exact maxHistory_standard
  · split
    · exact maxHistory_standard
    · split
      · rename_i settings read
        obtain ⟨value, -, read⟩ := Option.bind_eq_some_iff.mp read
        exact maxHistory_ofJson? read
      · exact maxHistory_standard

end Reckoner.Settings
