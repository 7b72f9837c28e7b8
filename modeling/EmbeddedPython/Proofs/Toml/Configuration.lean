import EmbeddedPython.Config
import EmbeddedPython.Proofs.Text.Octets
import EmbeddedPython.Proofs.Toml.Documents

/-!
# Configurations that are read as they were written

The document of a configuration is a document of lines (`document_eq`), so the
configuration is read back from it, whatever texts it holds (`ofText_document`).
-/

namespace EmbeddedPython

namespace Config

open Toml (Setting)

/-- The lines of a document of settings. -/
def settings (c : Config) (root : String) : List Setting :=
  .text rootName root :: c.version.toList.map (.text versionName) ++
    [.text scriptName c.bootstrapScript, .number timeoutName c.bootstrapTimeout.toNat,
      .switch loggingName c.forwardsLogging]

theorem document_eq (c : Config) (root : String) :
    c.document root.toList = (c.settings root).flatMap Setting.line := by
  unfold document settings
  cases c.version <;>
    simp [line, Setting.line, Setting.text, Setting.number, Setting.switch]

theorem isBare_name : ∀ name ∈ [rootName, versionName, scriptName, timeoutName, loggingName],
    Toml.IsBare name := by
  decide

theorem isRead_of_mem_settings (c : Config) (root : String) :
    ∀ s ∈ c.settings root, s.IsRead := by
  intro s there
  simp only [settings, List.cons_append, List.mem_append, List.mem_cons, List.mem_map,
    Option.mem_toList, List.not_mem_nil, or_false] at there
  rcases there with rfl | ⟨version, -, rfl⟩ | rfl | rfl | rfl
  · exact Setting.isRead_text (isBare_name _ (by decide)) root
  · exact Setting.isRead_text (isBare_name _ (by decide)) version
  · exact Setting.isRead_text (isBare_name _ (by decide)) c.bootstrapScript
  · exact Setting.isRead_number (isBare_name _ (by decide)) c.bootstrapTimeout.toNat_lt
  · exact Setting.isRead_switch (isBare_name _ (by decide)) c.forwardsLogging

theorem nodup_settings (c : Config) (root : String) : ((c.settings root).map (·.name)).Nodup := by
  unfold settings
  cases c.version
  · exact (by decide : [rootName, scriptName, timeoutName, loggingName].Nodup)
  · exact (by decide : [rootName, versionName, scriptName, timeoutName, loggingName].Nodup)

/-- The settings in a document are those that it was written for. -/
theorem ofEntries_settings (c : Config) {root : String} (same : Path.ofText root = c.root) :
    ofEntries ((c.settings root).map Setting.entry) = .ok c := by
  have found {α : Type} {s : Setting} (there : s ∈ c.settings root)
      (read : String → Toml.Value → Except String α) :
      setting ((c.settings root).map Setting.entry) s.name read =
        (read s.name s.value).map some := by
    rw [setting, Toml.get?_entries (c.nodup_settings root) there]
  have rootRead : setting ((c.settings root).map Setting.entry) rootName stringOf =
      .ok (some root) := found (s := .text rootName root) (by simp [settings]) stringOf
  have version : setting ((c.settings root).map Setting.entry) versionName stringOf =
      .ok c.version := by
    cases version : c.version with
    | none =>
      rw [setting, Toml.get?_entries_of_not_mem]
      rw [settings, version]
      exact (by decide : versionName ∉ [rootName, scriptName, timeoutName, loggingName])
    | some text =>
      exact found (s := .text versionName text) (by simp [settings, version]) stringOf
  have script : setting ((c.settings root).map Setting.entry) scriptName stringOf =
      .ok (some c.bootstrapScript) :=
    found (s := .text scriptName c.bootstrapScript) (by simp [settings]) stringOf
  have timeout : setting ((c.settings root).map Setting.entry) timeoutName wordOf =
      .ok (some c.bootstrapTimeout) := by
    have fits : (0 ≤ (c.bootstrapTimeout.toNat : Int) &&
        (c.bootstrapTimeout.toNat : Int) < UInt64.size) = true := by
      simp only [Bool.and_eq_true, decide_eq_true_eq]
      exact ⟨Int.natCast_nonneg _, Int.ofNat_lt.2 c.bootstrapTimeout.toNat_lt⟩
    refine (found (s := .number timeoutName c.bootstrapTimeout.toNat) (by simp [settings])
      wordOf).trans ?_
    rw [Setting.number, wordOf, if_pos fits, Int.toNat_natCast, UInt64.ofNat_toNat]
    rfl
  have logging : setting ((c.settings root).map Setting.entry) loggingName booleanOf =
      .ok (some c.forwardsLogging) :=
    found (s := .switch loggingName c.forwardsLogging) (by simp [settings]) booleanOf
  rw [ofEntries, rootRead, version, script, timeout, logging]
  change Except.ok _ = _
  rw [same]
  rfl

/-- Reading undoes writing. -/
theorem ofText_document {c : Config} {text : String} (written : c.document? = some text) :
    ofText text = .ok c := by
  obtain ⟨root, read, rfl⟩ := Option.map_eq_some_iff.1 written
  have same : Path.ofText root = c.root := congrArg Path.mk (Octets.ofText_of_text? read)
  unfold ofText
  dsimp only
  rw [String.toList_ofList, document_eq,
    Toml.readDocument_settings (c.isRead_of_mem_settings root) (c.nodup_settings root)]
  dsimp only
  rw [ofEntries_settings c same]

theorem document?_isSome (c : Config) :
    c.document?.isSome = (Octets.text? c.root.octets).isSome := Option.isSome_map

end Config

end EmbeddedPython
