import Outline.Scan.Candidates
import Outline.Settings.Load

/-! Which settings are valid, and so make a scanner. The extensions and the pattern are checked each
on their own, so another pattern in valid settings is all that can make them invalid. -/
namespace Outline

section Except

variable {ε α : Type} {x : Except ε α}

/-! What is evaluated is compared without its error, as errors need not be comparable. -/

theorem eq_ok_of_toOption {a : α} (h : x.toOption = some a) : x = .ok a := by
  cases x with
  | error e => cases h
  | ok b => exact congrArg Except.ok (Option.some.inj h)

theorem exists_error_of_toOption (h : x.toOption = none) : ∃ e, x = .error e := by
  cases x with
  | error e => exact ⟨e, rfl⟩
  | ok a => cases h

end Except

namespace Settings

theorem validate_eq_ok_iff (s : Settings) : s.validate = .ok () ↔ s.issues = [] := by
  unfold validate
  split <;> simp_all

/-- Checking all that can be set is checking what a scan visits. -/
theorem validate_configuration (s : Settings) : (Configuration.mk s).validate = s.validate := rfl

theorem exists_excludeRegex_iff (s : Settings) : (∃ regex, s.excludeRegex = .ok regex) ↔
    s.exclude = "" ∨ ∃ regex, Regex.compile s.exclude = .ok regex := by
  unfold excludeRegex
  split
  · next hempty => simp [String.isEmpty_iff.mp hempty]
  · next hempty =>
    have hne : s.exclude ≠ "" := fun h => hempty (by rw [h]; rfl)
    cases Regex.compile s.exclude <;> simp [Except.map, hne]

/-- The extensions are fit for valid settings. -/
def ValidExtensions (s : Settings) : Prop :=
  s.extensions ≠ [] ∧ ∀ ext ∈ s.extensions, extensionFault? ext = none

theorem issues_eq_nil_iff (s : Settings) :
    s.issues = [] ↔ s.ValidExtensions ∧ ∃ regex, s.excludeRegex = .ok regex := by
  have hextensions : (if s.extensions.isEmpty then [Issue.noExtensions] else []) = [] ↔
      s.extensions ≠ [] := by
    cases s.extensions <;> simp
  have hfaults : (s.extensions.filterMap fun ext => (extensionFault? ext).map (Issue.extension ext))
      = [] ↔ ∀ ext ∈ s.extensions, extensionFault? ext = none := by
    simp [List.filterMap_eq_nil_iff]
  rw [issues, List.append_eq_nil_iff, List.append_eq_nil_iff, hextensions, hfaults]
  refine and_congr_right fun _ => ?_
  cases s.excludeRegex <;> simp

/-- Other patterns in valid settings are judged on their own. -/
theorem issues_with_exclude {s : Settings} (h : s.issues = []) (pattern : String) :
    { s with exclude := pattern }.issues = [] ↔
      pattern = "" ∨ ∃ regex, Regex.compile pattern = .ok regex := by
  rw [issues_eq_nil_iff, exists_excludeRegex_iff]
  exact and_iff_right ((issues_eq_nil_iff s).mp h).1

theorem issues_default : ({} : Settings).issues = [] := by
  decide +kernel

theorem parse_eq_ok_iff {text : String} {path : Option Path} {s : Settings} :
    parse text path = .ok s ↔ (Toml.parse text >>= ofDocument) = .ok s ∧ s.issues = [] := by
  unfold parse
  cases Toml.parse text >>= ofDocument with
  | error flaw => simp
  | ok t =>
    dsimp only
    rw [validate_configuration]
    constructor
    · intro h
      split at h
      · cases h
      · next hvalid =>
        cases h
        exact ⟨rfl, (validate_eq_ok_iff _).mp hvalid⟩
    · rintro ⟨h, hissues⟩
      cases h
      rw [(validate_eq_ok_iff _).mpr hissues]

/-- A file of settings is loaded if it can be read and holds a document of valid settings. -/
theorem load_eq_ok_iff {fs : FileSystem} {path : Path} {s : Settings} :
    load fs path = .ok s ↔ ∃ text, fs.readText path = .ok text ∧
      (Toml.parse text >>= ofDocument) = .ok s ∧ s.issues = [] := by
  unfold load
  cases fs.readText path with
  | error fault => simp
  | ok text => simp [parse_eq_ok_iff]

end Settings

/-- A scanner is made of valid settings and of no others. -/
theorem Scanner.exists_new_iff (s : Settings) : (∃ scanner, new s = .ok scanner) ↔ s.issues = [] := by
  rw [← Settings.validate_eq_ok_iff]
  unfold new
  cases hvalid : s.validate with
  | error invalid => simp
  | ok =>
    obtain ⟨regex, hregex⟩ := ((s.issues_eq_nil_iff).mp (s.validate_eq_ok_iff.mp hvalid)).2
    simp [hregex]

end Outline
