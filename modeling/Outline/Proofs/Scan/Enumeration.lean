import Outline.Proofs.Scan.Walk
import Mathlib.Data.Set.List

/-! The candidates of a scan. A file is its own candidate. Below a directory, a scan that follows no
link and can look into all directories has as candidates the files whose names end in one of the
extensions and whose names from the directory down are not excluded, each once. With links or
without, and whatever the links point to, the candidates come in the order of their paths. -/
namespace Outline

/-- What the settings ask of the names from a scanned directory down to a file. -/
def Settings.Wants (settings : Settings) (names : Location) : Prop :=
  (∃ stem ext, stem ≠ "" ∧ ext ∈ settings.extensions ∧ '.' ∉ ext.toList ∧
      names.getLast? = some (stem ++ "." ++ ext)) ∧
    (settings.exclude = "" ∨ ∃ regex, Regex.compile settings.exclude = .ok regex ∧
      regex.isMatch ("/".intercalate names) = false)

namespace FileSystem

theorem find_eq_ok {fs : FileSystem} {path : Path} {e : Entry} (h : fs.find path = .ok e) :
    ∃ location, fs.resolve path = .ok location ∧ fs.entryAt? location = some e := by
  unfold find at h
  cases hr : fs.resolve path with
  | error fault =>
    rw [hr] at h
    cases h
  | ok location =>
    rw [hr] at h
    cases he : fs.entryAt? location with
    | none => simp [bind, Except.bind, he] at h
    | some d =>
      simp only [bind, Except.bind, he, pure, Except.pure, Except.ok.injEq] at h
      exact ⟨location, rfl, h ▸ he⟩

end FileSystem

namespace Scanner

variable {settings : Settings} {s : Scanner} {fs : FileSystem} {path : Path}

/-! ### Choosing files -/

theorem new_eq_ok (h : new settings = .ok s) :
    s.settings = settings ∧ settings.excludeRegex = .ok s.exclude := by
  unfold new at h
  split at h
  · cases h
  · split at h
    · cases h
    next exclude hexclude =>
      cases h
      exact ⟨rfl, hexclude⟩

theorem hasExtension_below (hset : s.settings = settings) {names : Location}
    (hnames : ∀ name ∈ names, Path.IsName name) (hne : names ≠ []) :
    s.hasExtension (path.below names) = true ↔
      ∃ stem ext, stem ≠ "" ∧ ext ∈ settings.extensions ∧ '.' ∉ ext.toList ∧
        names.getLast? = some (stem ++ "." ++ ext) := by
  have hlast := List.getLast?_eq_some_getLast hne
  have hdots : names.getLast hne ≠ ".." := (hnames _ (List.getLast_mem hne)).2.2.1
  rw [hasExtension, Path.extension, Path.fileName_below path hnames hlast, Option.bind_some,
    Option.any_eq_true, hlast, hset]
  constructor
  · rintro ⟨ext, hext, hmatch⟩
    obtain ⟨stem, hstem, hdot, hname⟩ := (Path.extensionOf_eq_some_iff hdots).mp hext
    exact ⟨stem, ext, hstem, List.contains_iff_mem.mp hmatch, hdot, congrArg some hname⟩
  · rintro ⟨stem, ext, hstem, hext, hdot, heq⟩
    refine ⟨ext, (Path.extensionOf_eq_some_iff hdots).mpr ⟨stem, hstem, hdot, ?_⟩,
      List.contains_iff_mem.mpr hext⟩
    exact Option.some.inj heq

/-- What the pattern is matched against are the names below the scanned directory, whatever the path
of that is. -/
theorem relativeName_below (path : Path) {names : Location}
    (hnames : ∀ name ∈ names, Path.IsName name) :
    relativeName path (path.below names) = "/".intercalate names := by
  have htext : (names.map Path.Component.name).map (·.text) = names := by
    rw [List.map_map]
    exact List.map_id names
  rw [relativeName, Path.stripBase_below path hnames, Option.getD_some, htext]

theorem isExcluded_below {names : Location} (hnames : ∀ name ∈ names, Path.IsName name) :
    s.isExcluded path (path.below names) = s.exclude.any (·.isMatch ("/".intercalate names)) := by
  rw [isExcluded, relativeName_below path hnames]

theorem not_isExcluded_below (hexclude : settings.excludeRegex = .ok s.exclude) {names : Location}
    (hnames : ∀ name ∈ names, Path.IsName name) :
    s.isExcluded path (path.below names) = false ↔
      settings.exclude = "" ∨ ∃ regex, Regex.compile settings.exclude = .ok regex ∧
        regex.isMatch ("/".intercalate names) = false := by
  rw [isExcluded_below hnames]
  unfold Settings.excludeRegex at hexclude
  split at hexclude
  next hempty =>
    rw [← Except.ok.inj hexclude]
    simp [String.isEmpty_iff.mp hempty]
  next hempty =>
    cases hcompile : Regex.compile settings.exclude with
    | error refusal =>
      rw [hcompile] at hexclude
      cases hexclude
    | ok regex =>
      rw [hcompile] at hexclude
      rw [← Except.ok.inj hexclude]
      simp [mt String.isEmpty_iff.mpr hempty]

/-- The settings want the names whose path a scanner chooses. -/
theorem wants_iff (hnew : new settings = .ok s) {names : Location}
    (hnames : ∀ name ∈ names, Path.IsName name) (hne : names ≠ []) :
    settings.Wants names ↔ s.hasExtension (path.below names) = true ∧
      s.isExcluded path (path.below names) = false := by
  obtain ⟨hset, hexclude⟩ := new_eq_ok hnew
  rw [hasExtension_below hset hnames hne, not_isExcluded_below hexclude hnames, Settings.Wants]

theorem choose_eq_some {found : Except Obstacle Path} {p : Path} :
    (s.choose path found).1 = some p ↔
      found = .ok p ∧ s.hasExtension p = true ∧ s.isExcluded path p = false := by
  cases found with
  | error obstacle => simp [choose]
  | ok q =>
    simp only [choose, Except.ok.injEq]
    split
    next hext =>
      simp only [reduceCtorEq, false_iff]
      rintro ⟨rfl, hext', -⟩
      simp [hext'] at hext
    next hext =>
      split
      next hexcluded =>
        simp only [reduceCtorEq, false_iff]
        rintro ⟨rfl, -, hexcluded'⟩
        simp [hexcluded'] at hexcluded
      next hexcluded =>
        simp only [Option.some.injEq]
        constructor
        · rintro rfl
          exact ⟨rfl, by simpa using hext, by simpa using hexcluded⟩
        · exact fun h => h.1

/-! ### The candidates -/

theorem candidates_of_directory {location : Location} {es : List (String × Entry)}
    (hresolve : fs.resolve path = .ok location)
    (hentry : fs.entryAt? location = some (.directory es)) :
    s.candidates fs path = .ok ((walk fs s.settings.followLinks (walkLimit fs)
      [⟨path, location⟩]).filterMap fun found => (s.choose path found).1) := by
  simp only [candidates, enumerate, hresolve, hentry, Except.map, List.filterMap_map]
  rfl

theorem candidates_of_not_directory {location : Location} {e : Entry}
    (hresolve : fs.resolve path = .ok location) (hentry : fs.entryAt? location = some e)
    (hdir : ∀ es, e ≠ .directory es) : s.candidates fs path = .ok [path] := by
  simp only [candidates, enumerate, hresolve, hentry]
  cases e with
  | directory es => exact absurd rfl (hdir es)
  | file _ => rfl
  | link _ => rfl

theorem isName_of_hasFile (hfs : fs.top.WellNamed) {e : Entry} (hfind : fs.find path = .ok e)
    {names : Location} (hfile : e.HasFile names) : ∀ name ∈ names, Path.IsName name := by
  obtain ⟨location, -, hentry⟩ := FileSystem.find_eq_ok hfind
  obtain ⟨bytes, hfile⟩ := hfile
  exact ((hfs.of_at? hentry).2.of_at? hfile).1

theorem pairwise_candidates (hfs : fs.top.WellNamed) {e : Entry} (hfind : fs.find path = .ok e) :
    ∃ found, s.candidates fs path = .ok found ∧ found.Pairwise Path.Precedes := by
  obtain ⟨location, hresolve, hentry⟩ := FileSystem.find_eq_ok hfind
  by_cases hdir : ∃ es, e = .directory es
  · obtain ⟨es, rfl⟩ := hdir
    refine ⟨_, candidates_of_directory hresolve hentry, ?_⟩
    refine (pairwise_walk hfs _ _).filterMap _ fun x y hxy p hp q hq => ?_
    exact hxy p q (choose_eq_some.mp hp).1 (choose_eq_some.mp hq).1
  · refine ⟨_, candidates_of_not_directory hresolve hentry fun es he => hdir ⟨es, he⟩, ?_⟩
    exact List.pairwise_singleton _ _

/-- Without links, the candidates below a directory are the files that the settings want. -/
theorem mem_candidates_iff (hnew : new settings = .ok s) (hfs : fs.top.WellNamed)
    {es : List (String × Entry)} (hfind : fs.find path = .ok (.directory es))
    (hfit : FileSystem.DirectoriesFit path (.directory es))
    (hlinks : settings.followLinks = false) {found : List Path}
    (hfound : s.candidates fs path = .ok found) (p : Path) :
    p ∈ found ↔ ∃ names, ((Entry.directory es).HasFile names ∧ settings.Wants names) ∧
      p = path.below names := by
  obtain ⟨location, hresolve, hentry⟩ := FileSystem.find_eq_ok hfind
  rw [candidates_of_directory hresolve hentry, (new_eq_ok hnew).1, hlinks] at hfound
  have hlimit : (Entry.directory es).directories ≤ walkLimit fs :=
    (Entry.directories_le_of_at? hentry).trans (Nat.le_mul_of_pos_right _ (Nat.succ_pos _))
  have hwants {names : Location} (hfile : (Entry.directory es).HasFile names) :
      settings.Wants names ↔ s.hasExtension (path.below names) = true ∧
        s.isExcluded path (path.below names) = false := by
    have hne : names ≠ [] := by
      rintro rfl
      exact Entry.not_hasFile_nil es hfile
    exact wants_iff hnew (isName_of_hasFile hfs hfind hfile) hne
  rw [← Except.ok.inj hfound, List.mem_filterMap]
  constructor
  · rintro ⟨x, hx, hp⟩
    obtain ⟨rfl, hchosen⟩ := choose_eq_some.mp hp
    obtain ⟨names, hfile, rfl⟩ := (mem_walk_iff hentry hfit hlimit).mp hx
    exact ⟨names, ⟨hfile, (hwants hfile).mpr hchosen⟩, rfl⟩
  · rintro ⟨names, ⟨hfile, hwanted⟩, rfl⟩
    refine ⟨_, (mem_walk_iff hentry hfit hlimit).mpr ⟨names, hfile, rfl⟩, ?_⟩
    exact choose_eq_some.mpr ⟨rfl, (hwants hfile).mp hwanted⟩

/-- A list of paths below a directory, each once, is a list of the ways down to them, each once. -/
theorem exists_ways {Way : Location → Prop}
    (hnames : ∀ names, Way names → ∀ name ∈ names, Path.IsName name) {found : List Path}
    (hmem : ∀ p, p ∈ found ↔ ∃ names, Way names ∧ p = path.below names) (hnodup : found.Nodup) :
    ∃ ns : List Location, ns.map path.below = found ∧ ns.Nodup ∧
      ∀ names, names ∈ ns ↔ Way names := by
  have hrange :
      found ∈ Set.range (List.map fun way : { names // Way names } => path.below way) := by
    rw [Set.range_list_map]
    intro p hp
    obtain ⟨names, hway, rfl⟩ := (hmem p).mp hp
    exact ⟨⟨names, hway⟩, rfl⟩
  obtain ⟨ways, rfl⟩ := hrange
  refine ⟨ways.map Subtype.val, by rw [List.map_map]; rfl, ?_, fun names => ?_⟩
  · exact hnodup.of_map.map Subtype.val_injective
  · constructor
    · intro hin
      obtain ⟨way, -, rfl⟩ := List.mem_map.mp hin
      exact way.2
    · intro hway
      obtain ⟨way, hin, heq⟩ := List.mem_map.mp ((hmem _).mpr ⟨names, hway, rfl⟩)
      rw [← path.below_injective (hnames way way.2) (hnames names hway) heq]
      exact List.mem_map_of_mem hin

/-- A file is its own candidate. Without links, the candidates below a directory are the files that
the settings want, each once, if no directory there has a path that is too long to look into it. With
links or without, the candidates are in the order of their paths. -/
theorem candidates_exact (hnew : new settings = .ok s) (hfs : fs.top.WellNamed) (path : Path) :
    (∀ bytes, fs.find path = .ok (.file bytes) → s.candidates fs path = .ok [path]) ∧
      (∀ es, fs.find path = .ok (.directory es) →
        FileSystem.DirectoriesFit path (.directory es) → settings.followLinks = false →
        ∃ ns : List Location, s.candidates fs path = .ok (ns.map path.below) ∧ ns.Nodup ∧
          ∀ names, names ∈ ns ↔ (Entry.directory es).HasFile names ∧ settings.Wants names) ∧
      ∀ e, fs.find path = .ok e →
        ∃ found, s.candidates fs path = .ok found ∧ found.Pairwise Path.Precedes ∧ found.Nodup := by
  refine ⟨fun bytes hfind => ?_, fun es hfind hfit hlinks => ?_, fun e hfind => ?_⟩
  · obtain ⟨location, hresolve, hentry⟩ := FileSystem.find_eq_ok hfind
    exact candidates_of_not_directory hresolve hentry (by simp)
  · obtain ⟨found, hfound, hsorted⟩ := pairwise_candidates (s := s) hfs hfind
    obtain ⟨ns, rfl, hns⟩ := exists_ways (fun _ hway => isName_of_hasFile hfs hfind hway.1)
      (mem_candidates_iff hnew hfs hfind hfit hlinks hfound) (hsorted.imp Path.Precedes.ne)
    exact ⟨ns, hfound, hns⟩
  · obtain ⟨found, hfound, hsorted⟩ := pairwise_candidates (s := s) hfs hfind
    exact ⟨found, hfound, hsorted, hsorted.imp Path.Precedes.ne⟩

/-- A directory with a file, a directory, a link to that and a link to itself. -/
def linked : FileSystem :=
  { root := [("d", .directory [("b-c.rb", .file .empty), ("b", .directory [("x.rb", .file .empty)]),
      ("l", .link "b"), ("o", .link "o")])] }

theorem find_linked : linked.find ⟨"d/l/x.rb"⟩ = .ok (.file .empty) := by
  have hlocation : (linked.resolve ⟨"d/l/x.rb"⟩).toOption = some ["d", "b", "x.rb"] := by
    decide +kernel
  unfold FileSystem.find
  cases hresolve : linked.resolve ⟨"d/l/x.rb"⟩ with
  | error fault =>
    rw [hresolve] at hlocation
    cases hlocation
  | ok location =>
    rw [hresolve] at hlocation
    cases hlocation
    rfl

theorem candidates_exact_linked :
    candidates ⟨{ exclude := "" }, none⟩ linked ⟨"d/l/x.rb"⟩ = .ok [⟨"d/l/x.rb"⟩] ∧
      (∃ ns : List Location,
        candidates ⟨{ exclude := "" }, none⟩ linked ⟨"d"⟩ = .ok (ns.map (Path.below ⟨"d"⟩)) ∧
          ns.Nodup ∧ ["b", "x.rb"] ∈ ns ∧ ["l", "x.rb"] ∉ ns) ∧
      ∃ found, candidates ⟨{ exclude := "", followLinks := true }, none⟩ linked ⟨"d"⟩ = .ok found ∧
        found.Pairwise Path.Precedes := by
  have hfs : linked.top.WellNamed := by decide
  have hfit := FileSystem.directoriesFit_of_locations (p := ⟨"d"⟩)
    (e := .directory [("b-c.rb", .file .empty), ("b", .directory [("x.rb", .file .empty)]),
      ("l", .link "b"), ("o", .link "o")]) (by decide)
  have hnew (followLinks : Bool) :
      new { exclude := "", followLinks } = .ok ⟨{ exclude := "", followLinks }, none⟩ := by
    cases followLinks <;> rfl
  refine ⟨(candidates_exact (hnew false) hfs _).1 _ find_linked, ?_, ?_⟩
  · obtain ⟨ns, hns, hnodup, hmem⟩ := (candidates_exact (hnew false) hfs ⟨"d"⟩).2.1 _ rfl hfit rfl
    refine ⟨ns, hns, hnodup, (hmem _).mpr ⟨⟨.empty, rfl⟩, ?_⟩, fun hin => ?_⟩
    · exact ⟨⟨"x", "rb", by simp, by simp, by simp, rfl⟩, .inl rfl⟩
    · obtain ⟨bytes, hfile⟩ := ((hmem _).mp hin).1
      cases hfile
  · obtain ⟨found, hfound, hsorted, -⟩ := (candidates_exact (hnew true) hfs ⟨"d"⟩).2.2 _ rfl
    exact ⟨found, hfound, hsorted⟩

end Scanner

end Outline
