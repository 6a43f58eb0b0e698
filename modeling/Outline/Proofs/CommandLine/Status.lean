import Outline.CommandLine.Run
import Outline.Proofs.Declaration.Search
import Outline.Proofs.Scan.Provenance
import Outline.Proofs.Settings.Validation

/-! When a run succeeds. All that is asked for is found out before anything is printed: the settings
make a scanner, the path can be scanned, and the declarations that are asked for are there. A run for
which one of these fails prints nothing and has the exit status 1; files that are skipped and
declarations without lines never make a run fail. -/
namespace Outline

attribute [local irreducible] SyntaxTree.ofText

/-! ### Scans and reports -/

/-- The declarations of a survey, at any depth. -/
def Survey.declarations (v : Survey) : List Node := Node.walkFrom v.root.children

/-- A node has the name and, if one is asked for, the kind. -/
def Node.Answers (name : String) (kind : Option Kind) (n : Node) : Prop :=
  n.name = some name ∧ ∀ k ∈ kind, n.kind = k

namespace Report

variable {σ : Type} {p : Progress σ}

/-- The matches are declarations: the root has no name. -/
theorem mem_matching_iff (hp : p.Grown) {name : String} {kind : Option Kind} {n : Node} :
    n ∈ matching p.survey name kind ↔ n ∈ p.survey.declarations ∧ n.Answers name kind := by
  have htest : (n.name == some name && kind.all (n.kind == ·)) = true ↔ n.Answers name kind := by
    cases kind <;> simp [Node.Answers]
  rw [matching, Node.findAll_eq_filter, List.mem_filter, Node.walk_eq, List.mem_cons, htest,
    or_and_right]
  refine or_iff_right ?_
  rintro ⟨rfl, hname, -⟩
  cases hp.outlined.name_eq.symm.trans hname

theorem exists_block {n : Node} {e : Extent} (h : n.extent = some e) (coloured : Bool) :
    ∃ lines, block coloured n = .ok lines := by
  rw [block, Node.numberedLines, Node.requireExtent, h]
  exact ⟨_, rfl⟩

theorem exists_blocks {ns : List Node} (h : ∀ n ∈ ns, ∃ e, n.extent = some e) (coloured : Bool) :
    ∃ lines, blocks coloured ns = .ok lines := by
  have hmap : ∃ parts, ns.mapM (block coloured) = .ok parts := by
    induction ns with
    | nil => exact ⟨_, rfl⟩
    | cons n ns ih =>
      obtain ⟨e, he⟩ := h n List.mem_cons_self
      obtain ⟨lines, hlines⟩ := exists_block he coloured
      obtain ⟨parts, hparts⟩ := ih fun m hm => h m (List.mem_cons_of_mem n hm)
      rw [List.mapM_cons, hlines, hparts]
      exact ⟨_, rfl⟩
  obtain ⟨parts, hparts⟩ := hmap
  rw [blocks, hparts]
  exact ⟨_, rfl⟩

/-- The matches of a scan have lines of their own to be shown. -/
theorem exists_blocks_matching (hp : p.Grown) (coloured : Bool) (name : String)
    (kind : Option Kind) : ∃ lines, blocks coloured (matching p.survey name kind) = .ok lines := by
  refine exists_blocks (fun n hn => ?_) coloured
  obtain ⟨e, he, -⟩ := hp.sourced n ((mem_matching_iff hp).mp hn).1
  exact ⟨e, he⟩

end Report

namespace CommandLine

open Terminal (Environment)

/-! ### Outcomes -/

/-- A run succeeds if `P` holds. Else it fails with nothing printed. -/
structure Outcome.Decides (o : Outcome) (P : Prop) : Prop where
  status_of : P → o.status = 0
  failed_of : ¬P → o.status = 1 ∧ o.out = ""

theorem Outcome.Decides.status_eq_zero_iff {o : Outcome} {P : Prop} (h : o.Decides P) :
    o.status = 0 ↔ P := by
  refine ⟨fun hzero => ?_, h.status_of⟩
  by_contra hP
  exact absurd hzero (by rw [(h.failed_of hP).1]; decide)

theorem Outcome.Decides.congr {o : Outcome} {P Q : Prop} (h : o.Decides P) (hPQ : P ↔ Q) :
    o.Decides Q :=
  ⟨fun hQ => h.status_of (hPQ.mpr hQ), fun hQ => h.failed_of (mt hPQ.mp hQ)⟩

/-- The path that a command is about. -/
def Command.path : Command → String
  | tree path _ => path
  | find path _ _ => path
  | source path _ _ => path

/-- The name and the kind of the declarations that a command asks for, unless it takes them all. -/
def Command.wanted : Command → Option (String × Option Kind)
  | tree _ _ => none
  | find _ name kind => some (name, kind)
  | source _ name kind => some (name, kind)

/-- What a command makes of a survey. -/
def Command.outcome (coloured : Bool) (p : Progress String) : Command → Outcome
  | tree _ json => runTree coloured json p
  | find _ name kind => runMatches coloured name kind p fun ns => .ok (ns.map Report.matchLine)
  | source _ name kind => runMatches coloured name kind p (Report.blocks coloured)

theorem runMatches_decides (coloured : Bool) (name : String) (kind : Option Kind)
    {p : Progress String} (hp : p.Grown)
    (write : List Node → Except Node.MissingExtent (List String))
    (hwrite : ∃ lines, write (Report.matching p.survey name kind) = .ok lines) :
    (runMatches coloured name kind p write).Decides
      (∃ n ∈ p.survey.declarations, n.Answers name kind) := by
  have hmatching : Report.matching p.survey name kind ≠ [] ↔
      ∃ n ∈ p.survey.declarations, n.Answers name kind := by
    constructor
    · intro hne
      obtain ⟨n, hn⟩ := List.exists_mem_of_ne_nil _ hne
      exact ⟨n, (Report.mem_matching_iff hp).mp hn⟩
    · rintro ⟨n, hn⟩
      exact List.ne_nil_of_mem ((Report.mem_matching_iff hp).mpr hn)
  obtain ⟨lines, hlines⟩ := hwrite
  refine Outcome.Decides.congr ?_ hmatching
  unfold runMatches
  split
  · next hnone => exact ⟨fun h => absurd hnone h, fun _ => ⟨rfl, rfl⟩⟩
  · next hsome =>
    -- the branch for matches that cannot be written is never taken
    rw [hlines]
    exact ⟨fun _ => rfl, fun h => absurd (not_not.mp h) hsome⟩

theorem Command.outcome_decides (coloured : Bool) {p : Progress String} (hp : p.Grown)
    (c : Command) : (c.outcome coloured p).Decides (∀ name kind, c.wanted = some (name, kind) →
      ∃ n ∈ p.survey.declarations, n.Answers name kind) := by
  cases c with
  | tree path json => exact ⟨fun _ => rfl, fun h => absurd (fun _ _ hwanted => nomatch hwanted) h⟩
  | find path name kind =>
    refine (runMatches_decides coloured name kind hp
      (fun ns => .ok (ns.map Report.matchLine)) ⟨_, rfl⟩).congr ?_
    simp [wanted]
  | source path name kind =>
    refine (runMatches_decides coloured name kind hp _
      (Report.exists_blocks_matching hp coloured name kind)).congr ?_
    simp [wanted]

/-! ### Settings -/

section Except

variable {ε ε' α β : Type} {x : Except ε α}

theorem exists_bind_ok_iff {f : α → Except ε β} :
    (∃ b, x >>= f = .ok b) ↔ ∃ a, x = .ok a ∧ ∃ b, f a = .ok b := by
  cases x <;> simp [bind, Except.bind]

theorem mapError_eq_ok_iff {f : ε → ε'} {a : α} : x.mapError f = .ok a ↔ x = .ok a := by
  cases x <;> simp [Except.mapError]

end Except

variable {fs : FileSystem} {r : Request}

/-- Settings with the pattern from the command line, if there is one. -/
def withPattern (s : Settings) : Option String → Settings
  | some pattern => { s with exclude := pattern }
  | none => s

theorem settings_none (exclude : Option String) :
    settings fs none exclude = .ok (withPattern {} exclude) := by
  cases exclude <;> rfl

theorem settings_some (path : String) (exclude : Option String) : settings fs (some path) exclude =
    ((Settings.load fs ⟨path⟩).mapError .ofLoad).map (withPattern · exclude) := by
  cases h : Settings.load fs ⟨path⟩ <;> cases exclude <;> simp [settings, h] <;> rfl

/-- The settings that a request asks for can be had. -/
structure Accepted (fs : FileSystem) (r : Request) : Prop where
  config : ∀ path, r.config = some path → ∃ s, Settings.load fs ⟨path⟩ = .ok s
  exclude : ∀ pattern, r.exclude = some pattern →
    pattern = "" ∨ ∃ regex, Regex.compile pattern = .ok regex

theorem exists_scanner_iff (fs : FileSystem) (r : Request) :
    (∃ s, scanner fs r = .ok s) ↔ Accepted fs r := by
  -- settings that are loaded or left out are valid, so only the pattern can still be refused
  have hpattern {t : Settings} (ht : t.issues = []) : (withPattern t r.exclude).issues = [] ↔
      ∀ pattern, r.exclude = some pattern →
        pattern = "" ∨ ∃ regex, Regex.compile pattern = .ok regex := by
    cases r.exclude with
    | none => simpa [withPattern] using ht
    | some pattern => simpa [withPattern] using Settings.issues_with_exclude ht pattern
  rw [scanner, exists_bind_ok_iff]
  simp only [mapError_eq_ok_iff, Scanner.exists_new_iff]
  cases hconfig : r.config with
  | none =>
    simp only [settings_none, Except.ok.injEq, exists_eq_left', hpattern Settings.issues_default]
    refine ⟨fun h => ⟨fun q hq => ?_, h⟩, fun h => h.exclude⟩
    cases hconfig.symm.trans hq
  | some path =>
    rw [settings_some]
    cases hload : Settings.load fs ⟨path⟩ with
    | error e =>
      simp only [Except.mapError, Except.map, reduceCtorEq, false_and, exists_false, false_iff]
      intro h
      obtain ⟨s, hs⟩ := h.config path hconfig
      cases hload.symm.trans hs
    | ok t =>
      obtain ⟨-, -, -, ht⟩ := Settings.load_eq_ok_iff.mp hload
      simp only [Except.mapError, Except.map, Except.ok.injEq, exists_eq_left', hpattern ht]
      refine ⟨fun h => ⟨fun q hq => ?_, h⟩, fun h => h.exclude⟩
      cases hconfig.symm.trans hq
      exact ⟨t, hload⟩

/-! ### Runs -/

/-- The survey that a request asks for. -/
def surveyed (fs : FileSystem) (r : Request) : Except Trouble (Progress String) := do
  surveyOf fs (← scanner fs r) r.command.path

theorem exists_surveyed_iff (fs : FileSystem) (r : Request) : (∃ p, surveyed fs r = .ok p) ↔
    Accepted fs r ∧ ∃ e, fs.find ⟨r.command.path⟩ = .ok e := by
  rw [← exists_scanner_iff, surveyed, exists_bind_ok_iff, ← exists_and_right]
  refine exists_congr fun s => and_congr_right fun _ => ?_
  simp only [surveyOf, mapError_eq_ok_iff]
  exact s.exists_scan_iff fs _ _ _

theorem exists_of_surveyed {p : Progress String} (h : surveyed fs r = .ok p) :
    ∃ s : Scanner, s.scan fs ⟨r.command.path⟩ Writer.collect "" = .ok p := by
  unfold surveyed at h
  cases hs : scanner fs r with
  | error t =>
    rw [hs] at h
    cases h
  | ok s =>
    rw [hs] at h
    exact ⟨s, mapError_eq_ok_iff.mp h⟩

theorem grown_of_surveyed {p : Progress String} (h : surveyed fs r = .ok p) : p.Grown := by
  obtain ⟨s, hscan⟩ := exists_of_surveyed h
  exact Scanner.grown_of_scan hscan

theorem runCommand_eq (coloured : Bool) (fs : FileSystem) (s : Scanner) (c : Command) :
    runCommand coloured fs s c = (surveyOf fs s c.path).map (c.outcome coloured) := by
  cases c <;> exact bind_pure_comp _ _

/-- A request that is surveyed has the outcome of its command. -/
theorem runRequest_eq (coloured : Bool) (fs : FileSystem) (r : Request) :
    runRequest coloured fs r =
      match surveyed fs r with
      | .ok p => r.command.outcome coloured p
      | .error t => { status := 1, err := t.message } := by
  unfold runRequest surveyed
  simp only [runCommand_eq]
  cases scanner fs r with
  | error t => rfl
  | ok s => cases h : surveyOf fs s r.command.path <;> simp [bind, Except.bind, Except.map, h]

/-- What has to hold for a run to succeed. -/
structure Met (fs : FileSystem) (r : Request) : Prop extends Accepted fs r where
  path : ∃ e, fs.find ⟨r.command.path⟩ = .ok e
  named : ∀ name kind, r.command.wanted = some (name, kind) →
    ∃ p, surveyed fs r = .ok p ∧ ∃ n ∈ p.survey.declarations, n.Answers name kind

theorem runRequest_decides (coloured : Bool) (fs : FileSystem) (r : Request) :
    (runRequest coloured fs r).Decides (Met fs r) := by
  have hsurveyed := exists_surveyed_iff fs r
  rw [runRequest_eq]
  cases h : surveyed fs r with
  | error t =>
    have hnot : ¬Met fs r := by
      intro hmet
      obtain ⟨p, hp⟩ := hsurveyed.mpr ⟨hmet.toAccepted, hmet.path⟩
      cases h.symm.trans hp
    exact ⟨fun hmet => absurd hmet hnot, fun _ => ⟨rfl, rfl⟩⟩
  | ok p =>
    obtain ⟨haccepted, hpath⟩ := hsurveyed.mp ⟨p, h⟩
    refine (r.command.outcome_decides coloured (grown_of_surveyed h)).congr ⟨fun hnamed => ?_, ?_⟩
    · exact ⟨haccepted, hpath, fun name kind hwanted => ⟨p, h, hnamed name kind hwanted⟩⟩
    · intro hmet name kind hwanted
      obtain ⟨q, hq, hn⟩ := hmet.named name kind hwanted
      cases h.symm.trans hq
      exact hn

/-- A run whose arguments are understood succeeds exactly if the settings load, the pattern compiles,
the path is there and, if declarations are asked for by name, there is one; else it fails with the
exit status 1 and prints nothing. So a tree is shown whatever files are skipped, a file of settings
with a pattern that does not compile fails the run also if the pattern is not used, and no
declaration that is shown lacks lines. -/
theorem run_all_or_nothing (fs : FileSystem) (env : Environment) {args : List String}
    (h : parse args = .ok r) :
    ((run fs env args).status = 0 ↔ Met fs r) ∧
      (¬Met fs r → (run fs env args).status = 1 ∧ (run fs env args).out = "") ∧
      (∀ path json p, r.command = .tree path json → surveyed fs r = .ok p →
        (run fs env args).status = 0) ∧
      (∀ path text s refusal, r.config = some path → fs.readText ⟨path⟩ = .ok text →
        (Toml.parse text >>= Settings.ofDocument) = .ok s → s.excludeRegex = .error refusal →
        (run fs env args).status = 1 ∧ (run fs env args).out = "") ∧
      ∀ p, surveyed fs r = .ok p → ∀ coloured name kind,
        ∃ lines, Report.blocks coloured (Report.matching p.survey name kind) = .ok lines := by
  have hrun : run fs env args = runRequest (Terminal.forced env) fs r := by
    rw [run, h]
  have hdecides := runRequest_decides (Terminal.forced env) fs r
  rw [hrun]
  refine ⟨hdecides.status_eq_zero_iff, hdecides.failed_of, fun path json p hcommand hp => ?_,
    fun path text s refusal hconfig htext hdocument hregex => hdecides.failed_of fun hmet => ?_,
    fun p hp coloured name kind =>
      Report.exists_blocks_matching (grown_of_surveyed hp) coloured name kind⟩
  · obtain ⟨haccepted, hpath⟩ := (exists_surveyed_iff fs r).mp ⟨p, hp⟩
    refine hdecides.status_of ⟨haccepted, hpath, fun name kind hwanted => ?_⟩
    rw [hcommand] at hwanted
    cases hwanted
  · obtain ⟨t, ht⟩ := hmet.config path hconfig
    obtain ⟨text', htext', hdocument', hissues⟩ := Settings.load_eq_ok_iff.mp ht
    cases htext.symm.trans htext'
    cases hdocument.symm.trans hdocument'
    obtain ⟨regex, hok⟩ := ((Settings.issues_eq_nil_iff s).mp hissues).2
    cases hregex.symm.trans hok

/-- Nothing is declared in a file that cannot be read. -/
theorem declarations_of_unreadable {s : Scanner} {c : Path} {fault : FileSystem.Fault}
    {p : Progress String} (hcs : s.candidates fs c = .ok [c])
    (hfault : fs.readText c = .error fault) (h : s.scan fs c Writer.collect "" = .ok p) :
    p.survey.declarations = [] := by
  rw [Survey.declarations, Scanner.survey_of_unreadable hcs hfault h, Node.root, Node.children,
    Node.walkFrom]

/-- A file of settings with a pattern that does not compile, and a file that is no text. -/
def spoiled : FileSystem :=
  { root := [("c", .file "[scan]\nexclude = '('\n".toUTF8), ("b.rb", .file ⟨#[255]⟩)] }

theorem document_spoiled : (Toml.parse "[scan]\nexclude = '('\n" >>= Settings.ofDocument) =
    .ok { exclude := "(" } :=
  eq_ok_of_toOption (by decide +kernel)

theorem excludeRegex_spoiled :
    ∃ refusal, Settings.excludeRegex { exclude := "(" } = .error refusal :=
  exists_error_of_toOption (by decide +kernel)

/-- The file that is no text has a tree, but no declarations to be found. The settings are refused,
though the pattern is not used. -/
theorem run_all_or_nothing_spoiled :
    (run spoiled [] ["tree", "b.rb"]).status = 0 ∧
      (run spoiled [] ["find", "b.rb", "A"]).status = 1 ∧
      (run spoiled [] ["find", "b.rb", "A"]).out = "" ∧
      (run spoiled [] ["-c", "c", "-e", "", "tree", "b.rb"]).status = 1 := by
  have htree : parse ["tree", "b.rb"] = .ok ⟨none, none, .tree "b.rb" false⟩ := rfl
  have hfind : parse ["find", "b.rb", "A"] = .ok ⟨none, none, .find "b.rb" "A" none⟩ := rfl
  have hload : parse ["-c", "c", "-e", "", "tree", "b.rb"] =
    .ok ⟨some "c", some "", .tree "b.rb" false⟩ := rfl
  have hfile : spoiled.find ⟨"b.rb"⟩ = .ok (.file ⟨#[255]⟩) := rfl
  have hfault : spoiled.readText ⟨"b.rb"⟩ = .error .notText := rfl
  have htext : spoiled.readText ⟨"c"⟩ = .ok "[scan]\nexclude = '('\n" := rfl
  have hshown : Met spoiled ⟨none, none, .tree "b.rb" false⟩ :=
    ⟨⟨by simp, by simp⟩, ⟨_, hfile⟩, by simp [Command.wanted]⟩
  have hunnamed : ¬Met spoiled ⟨none, none, .find "b.rb" "A" none⟩ := by
    intro hmet
    obtain ⟨p, hp, n, hn, -⟩ := hmet.named "A" none rfl
    obtain ⟨s, hscan⟩ := exists_of_surveyed hp
    obtain ⟨location, hresolve, hentry⟩ := FileSystem.find_eq_ok hfile
    have hcs : s.candidates spoiled ⟨"b.rb"⟩ = .ok [⟨"b.rb"⟩] :=
      Scanner.candidates_of_not_directory hresolve hentry (by simp)
    rw [declarations_of_unreadable hcs hfault hscan] at hn
    cases hn
  obtain ⟨refusal, hregex⟩ := excludeRegex_spoiled
  have hfailed := (run_all_or_nothing spoiled [] hfind).2.1 hunnamed
  exact ⟨(run_all_or_nothing spoiled [] htree).1.mpr hshown, hfailed.1, hfailed.2,
    ((run_all_or_nothing spoiled [] hload).2.2.2.1 "c" _ _ refusal rfl htext document_spoiled
      hregex).1⟩

end CommandLine

end Outline
