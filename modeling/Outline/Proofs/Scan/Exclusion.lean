import Outline.Proofs.Regex.Matching
import Outline.Proofs.Scan.Enumeration
import Outline.Proofs.Settings.Validation

/-! What the default pattern excludes. The pattern asks for one of some words with the start of the
text or a slash in front and a slash behind. The slashes of the text that it is matched against stand
between the names on the way down to a file, and nowhere else, so the words it finds are whole names
of directories: the name of the file does not count, nor does a name with something more in it. -/
namespace Outline

namespace Text

/-- The pieces but for the last are what stands between the start of the text or a separator and
another separator. -/
theorem mem_dropLast_cut_iff {sep : Char} {word : List Char} (hword : sep ∉ word)
    {cs : List Char} : word ∈ (cut sep cs).dropLast ↔
      ∃ a b, cs = a ++ word ++ sep :: b ∧ (a = [] ∨ a.getLast? = some sep) := by
  constructor
  · intro h
    induction hn : cs.length using Nat.strong_induction_on generalizing cs with
    | _ n ih =>
      by_cases hsep : sep ∈ cs
      · -- the first separator parts the first piece from the others
        obtain ⟨front, rest, rfl, hfront⟩ := List.eq_append_cons_of_mem hsep
        rw [cut_append, cut_of_notMem hfront, List.singleton_append,
          List.dropLast_cons_of_ne_nil (cut_ne_nil sep rest)] at h
        rcases List.mem_cons.mp h with rfl | h
        · exact ⟨[], rest, rfl, .inl rfl⟩
        · have hlt : rest.length < n := by
            rw [← hn, List.length_append, List.length_cons]
            omega
          obtain ⟨a, b, rfl, ha⟩ := ih rest.length hlt h rfl
          refine ⟨front ++ sep :: a, b, by simp, .inr ?_⟩
          rcases ha with rfl | ha
          · simp
          · simp [List.getLast?_append, List.getLast?_cons, ha]
      · rw [cut_of_notMem hsep] at h
        cases h
  · rintro ⟨a, b, rfl, ha⟩
    have hcut : cut sep (word ++ sep :: b) = word :: cut sep b := by
      rw [cut_append, cut_of_notMem hword]
      rfl
    have hmem : word ∈ (word :: cut sep b).dropLast := by
      rw [List.dropLast_cons_of_ne_nil (cut_ne_nil sep b)]
      exact List.mem_cons_self
    rcases ha with rfl | ha
    · rwa [List.nil_append, hcut]
    · obtain ⟨front, rfl⟩ := List.getLast?_eq_some_iff.mp ha
      rw [List.append_assoc, List.append_assoc, List.singleton_append, cut_append, hcut,
        List.dropLast_append_of_ne_nil (List.cons_ne_nil _ _)]
      exact List.mem_append_right _ hmem

/-- Parts without the separator are the pieces of the text that it joins them to. -/
theorem cut_intercalate {sep : Char} {parts : List (List Char)} (hne : parts ≠ [])
    (h : ∀ part ∈ parts, sep ∉ part) : cut sep ([sep].intercalate parts) = parts := by
  induction parts with
  | nil => exact absurd rfl hne
  | cons part parts ih =>
    obtain ⟨hpart, hparts⟩ := List.forall_mem_cons.mp h
    cases parts with
    | nil => rw [List.intercalate_singleton, cut_of_notMem hpart]
    | cons next parts =>
      rw [List.intercalate_cons_cons, List.append_assoc, List.singleton_append, cut_append,
        cut_of_notMem hpart, ih (List.cons_ne_nil _ _) hparts]
      rfl

end Text

/-! ### The pattern -/

namespace Regex.Expr

variable {text : List Char}

theorem contains_one {c d : Char} : (Unicode.CodeSet.one c).contains d = true ↔ d = c := by
  simp only [Unicode.CodeSet.contains, Unicode.CodeSet.has, Unicode.CodeSet.one, List.any_cons,
    List.any_nil, Bool.or_false, Bool.and_eq_true, decide_eq_true_eq]
  rw [← Nat.le_antisymm_iff, Char.toNat_inj, eq_comm]

theorem spans_one {c : Char} {i j : Nat} :
    (chars (.one c)).Spans text i j ↔ j = i + 1 ∧ text[i]? = some c := by
  simp only [Spans, contains_one, exists_eq_right]

theorem cons_isPrefix_drop_iff {c : Char} {cs : List Char} {i : Nat} :
    c :: cs <+: text.drop i ↔ text[i]? = some c ∧ cs <+: text.drop (i + 1) := by
  rw [← List.drop_drop, ← List.head?_drop]
  cases text.drop i with
  | nil => simp
  | cons d rest => simp [List.cons_prefix_cons, eq_comm]

/-- The expression of a word matches where the word stands. -/
theorem spans_ofChars {word : List Char} {i j : Nat} :
    (ofChars word).Spans text i j ↔ j = i + word.length ∧ word <+: text.drop i := by
  induction word generalizing i with
  | nil => simp [ofChars, Spans]
  | cons c cs ih =>
    cases cs with
    | nil => rw [ofChars, spans_one, cons_isPrefix_drop_iff]; simp
    | cons d cs =>
      have hcons : ofChars (c :: d :: cs) = seq (chars (.one c)) (ofChars (d :: cs)) := rfl
      rw [hcons, Spans, cons_isPrefix_drop_iff]
      simp only [spans_one, ih, List.length_cons]
      constructor
      · rintro ⟨k, ⟨rfl, hc⟩, rfl, hcs⟩
        exact ⟨by omega, hc, hcs⟩
      · rintro ⟨rfl, hc, hcs⟩
        exact ⟨i + 1, ⟨rfl, hc⟩, by omega, hcs⟩

/-- Any of some words. -/
def oneOf : List (List Char) → Expr
  | [] => chars .empty
  | [word] => ofChars word
  | word :: words => alt (ofChars word) (oneOf words)

theorem spans_oneOf {words : List (List Char)} {i j : Nat} :
    (oneOf words).Spans text i j ↔ ∃ word ∈ words, (ofChars word).Spans text i j := by
  induction words with
  | nil => simp [oneOf, Spans, Unicode.CodeSet.contains, Unicode.CodeSet.has, Unicode.CodeSet.empty]
  | cons word words ih =>
    cases words with
    | nil => simp [oneOf]
    | cons next words =>
      rw [oneOf, Spans, ih]
      · simp
      · exact List.cons_ne_nil _ _

/-- One of some names with the start of the text or a slash in front and a slash behind. -/
def inDirectory (names : List (List Char)) : Expr :=
  seq (capture (alt (look .textStart) (ofChars ['/'])))
    (seq (capture (oneOf names)) (ofChars ['/']))

/-- The start of the text, or a slash, is in front of a place. -/
theorem spans_front {i k : Nat} (h : (alt (look .textStart) (ofChars ['/'])).Spans text i k) :
    text.take k = [] ∨ (text.take k).getLast? = some '/' := by
  simp only [Spans, ofChars, spans_one] at h
  rcases h with ⟨rfl, hstart⟩ | ⟨rfl, hslash⟩
  · exact .inl (List.getLast?_eq_none_iff.mp (Option.isNone_iff_eq_none.mp hstart))
  · right
    rw [List.take_add_one, hslash]
    exact List.getLast?_concat

theorem exists_spans_inDirectory {names : List (List Char)} :
    (∃ i ≤ text.length, ∃ j, (inDirectory names).Spans text i j) ↔
      ∃ name ∈ names, ∃ a b, text = a ++ name ++ '/' :: b ∧
        (a = [] ∨ a.getLast? = some '/') := by
  constructor
  · rintro ⟨i, -, j, k, hfront, l, hname, hslash⟩
    obtain ⟨name, hmem, hname⟩ := spans_oneOf.mp hname
    obtain ⟨rfl, rest, hrest⟩ := spans_ofChars.mp hname
    obtain ⟨-, b, hb⟩ := spans_ofChars.mp hslash
    have hbehind : rest = '/' :: b := by
      rw [← List.drop_drop, ← hrest, List.drop_left] at hb
      exact hb.symm
    refine ⟨name, hmem, text.take k, b, ?_, spans_front hfront⟩
    rw [List.append_assoc, ← hbehind, hrest, List.take_append_drop]
  · rintro ⟨name, hmem, a, b, rfl, ha⟩
    have hname : (ofChars name).Spans (a ++ name ++ '/' :: b) a.length (a.length + name.length) := by
      rw [spans_ofChars, List.append_assoc, List.drop_left]
      exact ⟨rfl, List.prefix_append _ _⟩
    have hslash : (ofChars ['/']).Spans (a ++ name ++ '/' :: b) (a.length + name.length)
        (a.length + name.length + 1) := by
      rw [spans_ofChars, ← List.length_append, List.drop_left]
      exact ⟨rfl, b, rfl⟩
    have hrest := spans_oneOf.mpr ⟨name, hmem, hname⟩
    rcases ha with rfl | ha
    · exact ⟨0, Nat.zero_le _, _, 0, .inl ⟨rfl, rfl⟩, _, hrest, hslash⟩
    · obtain ⟨front, rfl⟩ := List.getLast?_eq_some_iff.mp ha
      refine ⟨front.length, by simp, _, _, .inr ?_, _, hrest, hslash⟩
      rw [spans_ofChars]
      simp

end Regex.Expr

/-- The directories that the default pattern names. -/
def excludedDirectories : List String := ["vendor", "node_modules", "tmp", ".git"]

theorem compile_defaultExclude : Regex.compile defaultExclude =
    .ok ⟨defaultExclude, .inDirectory (excludedDirectories.map (·.toList))⟩ :=
  eq_ok_of_toOption (by decide +kernel)

/-- The default pattern matches names joined by slashes if one of them, but for the last, is a
directory that it names. -/
theorem isMatch_default_iff {regex : Regex} (h : Regex.compile defaultExclude = .ok regex)
    {names : List String} (hne : names ≠ []) (hnames : ∀ name ∈ names, '/' ∉ name.toList) :
    regex.isMatch ("/".intercalate names) = true ↔
      ∃ dir ∈ names.dropLast, dir ∈ excludedDirectories := by
  obtain rfl := Except.ok.inj (compile_defaultExclude.symm.trans h)
  have hslash : ∀ dir ∈ excludedDirectories, '/' ∉ dir.toList := by decide
  have hcut : Text.cut '/' ("/".intercalate names).toList = names.map (·.toList) := by
    rw [String.toList_intercalate]
    refine Text.cut_intercalate (by simpa using hne) ?_
    simpa using hnames
  rw [Regex.isMatch, Regex.Expr.matchesIn_iff, Regex.Expr.exists_spans_inDirectory]
  constructor
  · rintro ⟨_, hmem, hplace⟩
    obtain ⟨dir, hdir, rfl⟩ := List.mem_map.mp hmem
    have hpiece := (Text.mem_dropLast_cut_iff (hslash dir hdir)).mpr hplace
    rw [hcut, ← List.map_dropLast, List.mem_map] at hpiece
    obtain ⟨name, hname, heq⟩ := hpiece
    exact ⟨dir, String.toList_inj.mp heq ▸ hname, hdir⟩
  · rintro ⟨dir, hin, hdir⟩
    refine ⟨dir.toList, List.mem_map_of_mem hdir, ?_⟩
    rw [← Text.mem_dropLast_cut_iff (hslash dir hdir), hcut, ← List.map_dropLast]
    exact List.mem_map_of_mem hin

/-! ### Files below a directory -/

namespace Scanner

variable {settings : Settings} {s : Scanner}

theorem isExcluded_default_iff (hnew : new settings = .ok s)
    (hdefault : settings.exclude = defaultExclude) (path : Path) {names : List String}
    (hne : names ≠ []) (hnames : ∀ name ∈ names, Path.IsName name) :
    s.isExcluded path (path.below names) = true ↔
      ∃ dir ∈ names.dropLast, dir ∈ excludedDirectories := by
  have hexclude : s.exclude = some ⟨defaultExclude, .inDirectory
      (excludedDirectories.map (·.toList))⟩ := by
    have hregex := (new_eq_ok hnew).2
    rw [Settings.excludeRegex, hdefault, compile_defaultExclude] at hregex
    exact (Except.ok.inj hregex).symm
  rw [isExcluded_below hnames, hexclude, Option.any_some]
  exact isMatch_default_iff compile_defaultExclude hne fun name hname => (hnames name hname).2.2.2

/-- With the default pattern, a file below a scanned directory is excluded exactly if one of the
directories on the way down to it has one of the four names; its own name does not count, nor does
where the scanned directory is. All that is found below a scanned directory is such a file. -/
theorem excludes_by_directory (hnew : new settings = .ok s)
    (hdefault : settings.exclude = defaultExclude) :
    (∀ (path : Path) (names : List String), names ≠ [] → (∀ name ∈ names, Path.IsName name) →
      (s.isExcluded path (path.below names) = true ↔
        ∃ dir ∈ names.dropLast, dir ∈ ["vendor", "node_modules", "tmp", ".git"])) ∧
    ∀ (fs : FileSystem) (path : Path) (location : Location), fs.top.WellNamed →
      fs.resolve path = .ok location →
      ∀ p, .ok p ∈ walk fs s.settings.followLinks (walkLimit fs) [⟨path, location⟩] →
        ∃ names, names ≠ [] ∧ (∀ name ∈ names, Path.IsName name) ∧ p = path.below names ∧
          (s.isExcluded path p = true ↔
            ∃ dir ∈ names.dropLast, dir ∈ ["vendor", "node_modules", "tmp", ".git"]) := by
  constructor
  · exact fun path names hne hnames => isExcluded_default_iff hnew hdefault path hne hnames
  · intro fs path location hfs _ p hp
    obtain ⟨names, hne, hnames, rfl⟩ := exists_below_of_mem_walk hfs hp
    exact ⟨names, hne, hnames, rfl, isExcluded_default_iff hnew hdefault path hne hnames⟩

theorem excludes_by_directory_nested : ∃ s, new {} = .ok s ∧
    s.isExcluded ⟨"/tmp/x"⟩ (Path.below ⟨"/tmp/x"⟩ ["lib", "tmp", "a.rb"]) = true ∧
    s.isExcluded ⟨"vendor/"⟩ (Path.below ⟨"vendor/"⟩ ["my.git", "tmp\nvendor", "tmp"]) = false ∧
    ∃ names, names ≠ [] ∧ ⟨"d/b/x.rb"⟩ = Path.below ⟨"d"⟩ names ∧
      (s.isExcluded ⟨"d"⟩ ⟨"d/b/x.rb"⟩ = true ↔
        ∃ dir ∈ names.dropLast, dir ∈ ["vendor", "node_modules", "tmp", ".git"]) := by
  obtain ⟨s, hnew⟩ := (exists_new_iff {}).mpr Settings.issues_default
  have hexcludes := excludes_by_directory hnew rfl
  have hfound : .ok ⟨"d/b/x.rb"⟩ ∈
      walk linked s.settings.followLinks (walkLimit linked) [⟨⟨"d"⟩, ["d"]⟩] := by
    rw [(new_eq_ok hnew).1]
    refine (mem_walk_iff rfl ?_ (by decide)).mpr ⟨["b", "x.rb"], ⟨.empty, rfl⟩, rfl⟩
    exact FileSystem.directoriesFit_of_locations (by decide)
  obtain ⟨names, hne, -, hbelow, hiff⟩ :=
    hexcludes.2 linked ⟨"d"⟩ ["d"] (by decide) rfl _ hfound
  refine ⟨s, hnew, ?_, ?_, names, hne, hbelow, hiff⟩
  · exact (hexcludes.1 _ _ (by decide) (by decide)).mpr ⟨"tmp", by decide, by decide⟩
  · rw [← Bool.not_eq_true, hexcludes.1 _ _ (by decide) (by decide)]
    decide

end Scanner

end Outline
