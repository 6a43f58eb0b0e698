import Mathlib.Data.List.DropRight
import Mathlib.Data.List.Forall2
import Outline.Proofs.Scan.Enumeration
import Outline.Proofs.Settings.Validation

/-! All that is wrong with some settings. The issues come in three parts: that there is no
extension, one issue for each position of the extensions that holds a faulty one, in the order of the
positions, and the pattern if it does not compile. Settings on their own, settings in a configuration
and settings that a scanner is made of are checked apart from each other; the three checks fail for
the same settings and with the same issues, so a scanner never has to refuse a pattern itself. -/
namespace Outline

namespace Text

/-- A text without the blanks at its ends. -/
def trimmed (text : String) : String :=
  String.ofList ((text.toList.dropWhile isBlank).rdropWhile isBlank)

/-- Nothing is left of a text of blanks, and of no other. -/
theorem trimmed_eq_empty_iff (text : String) :
    trimmed text = "" ↔ text.toList.all isBlank = true := by
  rw [trimmed, String.ofList_eq_empty_iff, List.rdropWhile_eq_nil_iff, List.all_eq_true]
  constructor
  · intro h
    -- what is left in front starts with no blank, so it can only be blank if there is nothing
    have hnil : text.toList.dropWhile isBlank = [] := by
      by_contra hne
      have hhead := h _ (List.head_mem hne)
      rw [List.head_dropWhile_not isBlank hne] at hhead
      cases hhead
    exact List.dropWhile_eq_nil_iff.mp hnil
  · intro h
    rw [List.dropWhile_eq_nil_iff.mpr h]
    exact fun c hc => absurd hc List.not_mem_nil

end Text

namespace Settings

/-! ### Faulty extensions -/

/-- The extension has the fault. One of blanks has no other. -/
def HasFault (ext : String) : ExtensionFault → Prop
  | .blank => Text.trimmed ext = ""
  | .leadingDot => Text.trimmed ext ≠ "" ∧ ∃ rest, ext = "." ++ rest

theorem head?_eq_dot_iff (ext : String) :
    ext.toList.head? = some '.' ↔ ∃ rest, ext = "." ++ rest := by
  constructor
  · intro h
    obtain ⟨cs, hcs⟩ := List.head?_eq_some_iff.mp h
    refine ⟨String.ofList cs, ?_⟩
    rw [← String.toList_inj, hcs]
    simp
  · rintro ⟨rest, rfl⟩
    simp

theorem extensionFault?_eq_some_iff {ext : String} {fault : ExtensionFault} :
    extensionFault? ext = some fault ↔ HasFault ext fault := by
  rw [extensionFault?]
  cases fault with
  | blank =>
    rw [HasFault, Text.trimmed_eq_empty_iff]
    split
    · next h => simp [h]
    · next h => simp [h]
  | leadingDot =>
    rw [HasFault, Ne, Text.trimmed_eq_empty_iff, ← head?_eq_dot_iff]
    split
    · next h => simp [h]
    · next h => simp [h]

theorem exists_hasFault_iff {ext : String} :
    (∃ fault, HasFault ext fault) ↔ Text.trimmed ext = "" ∨ ∃ rest, ext = "." ++ rest := by
  constructor
  · rintro ⟨fault, h⟩
    cases fault with
    | blank => exact .inl h
    | leadingDot => exact .inr h.2
  · intro h
    by_cases hblank : Text.trimmed ext = ""
    · exact ⟨.blank, hblank⟩
    · exact ⟨.leadingDot, hblank, h.resolve_left hblank⟩

/-- What a partial function finds in a list comes from the positions where it finds something, in
order. -/
theorem exists_positions {α β : Type} (f : α → Option β) (xs : List α) :
    ∃ positions : List Nat, positions.Pairwise (· < ·) ∧
      (∀ i, i ∈ positions ↔ ∃ x y, xs[i]? = some x ∧ f x = some y) ∧
      List.Forall₂ (fun i y => ∃ x, xs[i]? = some x ∧ f x = some y) positions
        (xs.filterMap f) := by
  induction xs with
  | nil => exact ⟨[], .nil, by simp, .nil⟩
  | cons x xs ih =>
    obtain ⟨positions, hsorted, hmem, hat⟩ := ih
    have hsorted' : (positions.map Nat.succ).Pairwise (· < ·) :=
      List.pairwise_map.mpr (hsorted.imp Nat.succ_lt_succ)
    have hat' : List.Forall₂ (fun i y => ∃ z, (x :: xs)[i]? = some z ∧ f z = some y)
        (positions.map Nat.succ) (xs.filterMap f) :=
      List.forall₂_map_left_iff.mpr hat
    cases hx : f x with
    | none =>
      refine ⟨_, hsorted', fun i => ?_, by rwa [List.filterMap_cons_none hx]⟩
      cases i with
      | zero => simp [hx]
      | succ i => simp [hmem]
    | some y =>
      rw [List.filterMap_cons_some hx]
      refine ⟨0 :: positions.map Nat.succ, ?_, fun i => ?_, .cons ⟨x, rfl, hx⟩ hat'⟩
      · exact List.pairwise_cons.mpr ⟨by simp, hsorted'⟩
      · cases i with
        | zero => simp [hx]
        | succ i => simp [hmem]

/-! ### Issues -/

/-- The three parts of the issues of some settings, with the positions of the faulty extensions. -/
structure Complaints (s : Settings) (missing : List Issue) (positions : List Nat)
    (faulty pattern : List Issue) : Prop where
  missing_of_nil : s.extensions = [] → missing = [.noExtensions]
  missing_of_ne_nil : s.extensions ≠ [] → missing = []
  positions_sorted : positions.Pairwise (· < ·)
  mem_positions : ∀ i, i ∈ positions ↔ ∃ ext, s.extensions[i]? = some ext ∧
    (Text.trimmed ext = "" ∨ ∃ rest, ext = "." ++ rest)
  faulty_at : List.Forall₂ (fun i issue => ∃ ext fault, s.extensions[i]? = some ext ∧
    HasFault ext fault ∧ issue = .extension ext fault) positions faulty
  pattern_of_ok : (s.exclude = "" ∨ ∃ regex, Regex.compile s.exclude = .ok regex) → pattern = []
  pattern_of_error : ∀ refusal, s.exclude ≠ "" → Regex.compile s.exclude = .error refusal →
    pattern = [.exclude s.exclude refusal]

theorem exists_complaints (s : Settings) : ∃ missing positions faulty pattern,
    s.issues = missing ++ faulty ++ pattern ∧ s.Complaints missing positions faulty pattern := by
  obtain ⟨positions, hsorted, hmem, hat⟩ := exists_positions
    (fun ext => (extensionFault? ext).map (Issue.extension ext)) s.extensions
  refine ⟨_, positions, _, _, rfl, ?_⟩
  have hfault {ext : String} {issue : Issue} :
      (extensionFault? ext).map (Issue.extension ext) = some issue ↔
        ∃ fault, HasFault ext fault ∧ issue = .extension ext fault := by
    simp only [Option.map_eq_some_iff, extensionFault?_eq_some_iff, eq_comm (a := issue)]
  exact {
    missing_of_nil := fun h => if_pos (List.isEmpty_iff.mpr h)
    missing_of_ne_nil := fun h => if_neg (mt List.isEmpty_iff.mp h)
    positions_sorted := hsorted
    mem_positions := fun i => by
      rw [hmem]
      refine exists_congr fun ext => ?_
      rw [exists_and_left, ← exists_hasFault_iff]
      simp [hfault]
    faulty_at := hat.imp fun i issue ⟨ext, hext, hissue⟩ => by
      obtain ⟨fault, hfault, rfl⟩ := hfault.mp hissue
      exact ⟨ext, fault, hext, hfault, rfl⟩
    pattern_of_ok := fun h => by
      obtain ⟨regex?, hregex⟩ := s.exists_excludeRegex_iff.mpr h
      rw [hregex]
    pattern_of_error := fun refusal hne hcompile => by
      rw [excludeRegex, if_neg (mt String.isEmpty_iff.mp hne), hcompile]
      rfl }

/-! ### Checks -/

theorem validate_of_ne_nil {s : Settings} (h : s.issues ≠ []) : s.validate = .error ⟨s.issues⟩ :=
  if_neg (mt List.isEmpty_iff.mp h)

theorem new_of_ne_nil {s : Settings} (h : s.issues ≠ []) :
    Scanner.new s = .error (.settings ⟨s.issues⟩) := by
  rw [Scanner.new, validate_of_ne_nil h]

/-- The issues of settings are that there is no extension, the faults of the extensions by their
positions, and the pattern if it does not compile. Settings without issues pass every check and make a
scanner; others fail every check with all their issues, and never for the pattern alone. So settings
that are read or loaded make a scanner. -/
theorem validation_exact (s : Settings) :
    (∃ missing positions faulty pattern, s.issues = missing ++ faulty ++ pattern ∧
      s.Complaints missing positions faulty pattern) ∧
    (s.issues = [] → s.validate = .ok () ∧ (Configuration.mk s).validate = .ok () ∧
      ∃ scanner, Scanner.new s = .ok scanner ∧ scanner.settings = s) ∧
    (s.issues ≠ [] → s.validate = .error ⟨s.issues⟩ ∧
      (Configuration.mk s).validate = .error ⟨s.issues⟩ ∧
      Scanner.new s = .error (.settings ⟨s.issues⟩)) ∧
    (∀ refusal, Scanner.new s ≠ .error (.exclude refusal)) ∧
    (∀ text path, parse text path = .ok s → ∃ scanner, Scanner.new s = .ok scanner) ∧
    ∀ fs path, load fs path = .ok s → ∃ scanner, Scanner.new s = .ok scanner := by
  have hnew : s.issues = [] → ∃ scanner, Scanner.new s = .ok scanner :=
    (Scanner.exists_new_iff s).mpr
  refine ⟨s.exists_complaints, fun h => ?_, fun h => ?_, fun refusal hrefused => ?_,
    fun text path h => hnew (parse_eq_ok_iff.mp h).2, fun fs path h => ?_⟩
  · obtain ⟨scanner, hscanner⟩ := hnew h
    have hvalid := s.validate_eq_ok_iff.mpr h
    exact ⟨hvalid, hvalid, scanner, hscanner, (Scanner.new_eq_ok hscanner).1⟩
  · exact ⟨validate_of_ne_nil h, validate_of_ne_nil h, new_of_ne_nil h⟩
  · by_cases h : s.issues = []
    · obtain ⟨scanner, hscanner⟩ := hnew h
      cases hscanner.symm.trans hrefused
    · cases (new_of_ne_nil h).symm.trans hrefused
  · obtain ⟨text, -, -, hissues⟩ := load_eq_ok_iff.mp h
    exact hnew hissues

/-- Settings with faults of all kinds, one of them twice. -/
def mixed : Settings := { extensions := [".rb", "\u00a0", "rb", ".rb"], exclude := "(" }

theorem issues_mixed : ∃ refusal, mixed.issues = [.extension ".rb" .leadingDot,
    .extension "\u00a0" .blank, .extension ".rb" .leadingDot, .exclude "(" refusal] := by
  have hextensions : mixed.extensions.filterMap
      (fun ext => (extensionFault? ext).map (Issue.extension ext)) =
      [.extension ".rb" .leadingDot, .extension "\u00a0" .blank, .extension ".rb" .leadingDot] := by
    decide
  obtain ⟨refusal, hregex⟩ : ∃ refusal, mixed.excludeRegex = .error refusal :=
    exists_error_of_toOption (by decide +kernel)
  refine ⟨refusal, ?_⟩
  rw [issues, hextensions, hregex]
  rfl

theorem validation_exact_mixed :
    (∃ refusal, mixed.issues = [.extension ".rb" .leadingDot, .extension "\u00a0" .blank,
      .extension ".rb" .leadingDot, .exclude "(" refusal]) ∧
      mixed.validate = .error ⟨mixed.issues⟩ ∧
      (Configuration.mk mixed).validate = .error ⟨mixed.issues⟩ ∧
      Scanner.new mixed = .error (.settings ⟨mixed.issues⟩) ∧
      ∃ scanner, Scanner.new { exclude := "b+" } = .ok scanner := by
  have hparse : parse "[scan]\nexclude = 'b+'" = .ok { exclude := "b+" } :=
    eq_ok_of_toOption (by decide +kernel)
  have hne : mixed.issues ≠ [] := by
    obtain ⟨refusal, hissues⟩ := issues_mixed
    rw [hissues]
    exact List.cons_ne_nil _ _
  obtain ⟨hvalidate, hconfiguration, hnew⟩ := (validation_exact mixed).2.2.1 hne
  exact ⟨issues_mixed, hvalidate, hconfiguration, hnew,
    (validation_exact { exclude := "b+" }).2.2.2.2.1 _ _ hparse⟩

end Settings

end Outline
