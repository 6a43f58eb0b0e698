import Outline.Proofs.Declaration.Laminar
import Outline.Proofs.Declaration.Shape
import Outline.Proofs.FileSystem.Resolution
import Outline.Proofs.Scan.Decomposition
import Outline.Proofs.Scan.Enumeration

/-! Where the nodes of a scan come from. Each step of a scan keeps the shape of the tree and adds
declarations only together with the file they are in, so every declaration has its file among the
sources. Sources and failures have the paths of the candidates between them, and no two candidates
have the same components; so the first file that a path is found under is the only one. -/
namespace Outline

attribute [local irreducible] SyntaxTree.ofText

/-! ### Looking files up -/

/-- Among files of which no two have the same path, each is found under its own path. -/
theorem SourceMap.get?_of_mem {m : SourceMap}
    (h : m.files.Pairwise fun a b => a.path.same b.path = false) {f : SourceFile}
    (hf : f ∈ m.files) : m.get? f.path = some f := by
  obtain ⟨before, after, hfiles⟩ := List.append_of_mem hf
  rw [hfiles, List.pairwise_append] at h
  rw [get?, List.find?_eq_some_iff_append]
  refine ⟨f.path.same_refl, before, after, hfiles, fun a ha => ?_⟩
  rw [h.2.2 a ha f List.mem_cons_self]
  rfl

theorem Path.same_comm (p q : Path) : p.same q = q.same p := by
  rw [Bool.eq_iff_iff, same_iff, same_iff]
  exact eq_comm

theorem Path.Precedes.not_same {p q : Path} (h : p.Precedes q) : p.same q = false := by
  rw [Bool.eq_false_iff, ne_eq, same_iff]
  intro hcomponents
  rw [Precedes, hcomponents] at h
  exact List.lex_irrefl Component.not_before_self _ h

namespace FileSystem.Divides

variable {fs : FileSystem} {cs : List Path} {files : List SourceFile} {failures : List Failure}
  {kept skipped : List Nat}

/-- Items that have the path of their position have the paths at these positions. -/
theorem map_path_eq {α : Type} {path : α → Path} {positions : List Nat} {items : List α}
    (h : List.Forall₂ (fun i a => cs[i]? = some (path a)) positions items) :
    items.map path = positions.filterMap (cs[·]?) := by
  induction h with
  | nil => rfl
  | cons hpath _ ih => rw [List.map_cons, List.filterMap_cons_some hpath, ih]

theorem filterMap_range (cs : List Path) : (List.range cs.length).filterMap (cs[·]?) = cs := by
  induction cs using List.reverseRecOn with
  | nil => rfl
  | append_singleton cs c ih =>
    have hfront : (List.range cs.length).filterMap ((cs ++ [c])[·]?) =
        (List.range cs.length).filterMap (cs[·]?) := by
      refine List.filterMap_congr fun i hi => ?_
      exact List.getElem?_append_left (List.mem_range.mp hi)
    rw [List.length_append, List.length_singleton, List.range_succ, List.filterMap_append, hfront,
      ih]
    simp

/-- Sources and failures have the paths of the candidates between them. -/
theorem paths_perm (h : fs.Divides cs files failures kept skipped) :
    (files.map (·.path) ++ failures.map (·.path)).Perm cs := by
  have hfiles : files.map (·.path) = kept.filterMap (cs[·]?) := by
    refine map_path_eq (h.file_at.imp fun i f hf => ?_)
    obtain ⟨c, text, hc, -, rfl⟩ := hf
    exact hc
  have hfailures : failures.map (·.path) = skipped.filterMap (cs[·]?) := by
    refine map_path_eq (h.failure_at.imp fun i f hf => ?_)
    obtain ⟨c, e, hc, -, rfl⟩ := hf
    exact hc
  rw [hfiles, hfailures, ← List.filterMap_append]
  exact (h.positions.filterMap _).trans (.of_eq (filterMap_range cs))

/-- No two of the sources and failures have the same path. -/
theorem pairwise_not_same (h : fs.Divides cs files failures kept skipped)
    (hcs : cs.Pairwise Path.Precedes) :
    (files.map (·.path) ++ failures.map (·.path)).Pairwise fun p q => p.same q = false := by
  refine (h.paths_perm.pairwise_iff fun {p q} hpq => ?_).mpr (hcs.imp Path.Precedes.not_same)
  exact (q.same_comm p).trans hpq

end FileSystem.Divides

/-! ### Steps of a scan -/

namespace Progress

variable {σ : Type} {fs : FileSystem} {p : Progress σ}

/-- What holds of the tree of a scan under way: it has the shape of an outline, and every
declaration in it is in one of the sources. -/
structure Grown (p : Progress σ) : Prop where
  outlined : p.survey.root.Outlined
  sourced : ∀ n ∈ Node.walkFrom p.survey.root.children,
    ∃ e, n.extent = some e ∧ e.file ∈ p.survey.sources.files

theorem Grown.record (h : p.Grown) (file : SourceFile) {t : SyntaxTree} (ht : t.Ordered) :
    (p.record file t).Grown where
  outlined := h.outlined.visit file ht
  sourced n hn := by
    change n ∈ Node.walkFrom (p.survey.root.visit file t).children at hn
    rw [Node.visit, Node.children_attach, Node.walkFrom_append, List.mem_append] at hn
    change ∃ e, n.extent = some e ∧ e.file ∈ p.survey.sources.files ++ [file]
    rcases hn with hn | hn
    · obtain ⟨e, he, hfile⟩ := h.sourced n hn
      exact ⟨e, he, List.mem_append_left _ hfile⟩
    · obtain ⟨e, he, hfile⟩ := (t.declaredIn_declarations ht n hn).exists_extent
      exact ⟨e, he, List.mem_append_right _ (List.mem_singleton.mpr hfile)⟩

theorem Grown.step (h : p.Grown) (fs : FileSystem) (w : Writer σ) (c : Path) :
    (p.step fs w c).Grown := by
  obtain ⟨text, -, hp⟩ | ⟨e, -, hp⟩ := step_cases fs w p c
  · rw [hp]
    exact h.record _ (SyntaxTree.ordered_ofText text)
  · rw [hp]
    exact ⟨h.outlined, h.sourced⟩

theorem Grown.run (h : p.Grown) (fs : FileSystem) (w : Writer σ) (cs : List Path) :
    (cs.foldl (·.step fs w ·) p).Grown := by
  induction cs generalizing p with
  | nil => exact h
  | cons c cs ih => exact ih (h.step fs w c)

end Progress

namespace Scanner

variable {σ : Type} {s : Scanner} {fs : FileSystem} {path : Path} {w : Writer σ} {out : σ}
  {p : Progress σ}

/-- A scan that succeeds has taken the candidates in order, from an empty survey. -/
theorem exists_of_scan (h : s.scan fs path w out = .ok p) :
    ∃ (cs : List Path) (start : Progress σ), s.candidates fs path = .ok cs ∧
      start.survey = { root := .root path } ∧ start.taken = 0 ∧
      p.survey = (cs.foldl (·.step fs w ·) start).survey := by
  cases hc : s.candidates fs path with
  | error e =>
    cases he : s.enumerate fs path with
    | error e =>
      unfold scan at h
      rw [he] at h
      cases h
    | ok found =>
      rw [candidates, he] at hc
      cases hc
  | ok cs =>
    obtain ⟨start, events, hstart, hzero, -, hscan⟩ := scan_eq_ok hc w out
    rw [h] at hscan
    exact ⟨cs, start, rfl, hstart, hzero, by rw [Except.ok.inj hscan]⟩

/-- Only where something is to be found are there candidates. -/
theorem exists_find_of_candidates {cs : List Path} (h : s.candidates fs path = .ok cs) :
    ∃ e, fs.find path = .ok e := by
  cases hr : fs.resolve path with
  | error fault => simp [candidates, enumerate, hr, Except.map] at h
  | ok location => exact FileSystem.exists_find_of_resolve hr

/-- A path can be scanned if there is anything to be found there. -/
theorem exists_scan_iff {σ : Type} (s : Scanner) (fs : FileSystem) (path : Path)
    (w : Writer σ) (out : σ) :
    (∃ p, s.scan fs path w out = .ok p) ↔ ∃ e, fs.find path = .ok e := by
  constructor
  · rintro ⟨p, hp⟩
    obtain ⟨cs, -, hcs, -⟩ := exists_of_scan hp
    exact exists_find_of_candidates hcs
  · rintro ⟨e, he⟩
    obtain ⟨location, hr, -⟩ := FileSystem.find_eq_ok he
    have hcs : ∃ cs, s.candidates fs path = .ok cs := by
      simp only [candidates, enumerate, hr]
      split <;> exact ⟨_, rfl⟩
    obtain ⟨cs, hcs⟩ := hcs
    obtain ⟨start, events, -, -, -, hscan⟩ := scan_eq_ok hcs w out
    exact ⟨_, hscan⟩

/-- Whatever is scanned, the candidates come in the order of their paths. -/
theorem pairwise_of_candidates (hfs : fs.top.WellNamed) {cs : List Path}
    (h : s.candidates fs path = .ok cs) : cs.Pairwise Path.Precedes := by
  obtain ⟨e, he⟩ := exists_find_of_candidates h
  obtain ⟨found, hfound, hsorted⟩ := pairwise_candidates (s := s) hfs he
  rw [h] at hfound
  exact Except.ok.inj hfound ▸ hsorted

theorem grown_of_scan (h : s.scan fs path w out = .ok p) : p.Grown := by
  obtain ⟨cs, start, -, hstart, -, hp⟩ := exists_of_scan h
  have hgrown : start.Grown := by
    constructor
    · rw [hstart]
      exact Node.outlined_root path
    · rw [hstart]
      simp [Node.root, Node.children, Node.walkFrom]
  have hrun := hgrown.run fs w cs
  exact ⟨hp ▸ hrun.outlined, hp ▸ hrun.sourced⟩

/-- A scan whose one candidate cannot be read has nothing but the failure of that. -/
theorem survey_of_unreadable {c : Path} {fault : FileSystem.Fault}
    (hcs : s.candidates fs path = .ok [c]) (hfault : fs.readText c = .error fault)
    (h : s.scan fs path w out = .ok p) :
    p.survey = { root := .root path, failures := [⟨c, .unreadable c fault⟩] } := by
  obtain ⟨cs, start, hcs', hstart, -, hp⟩ := exists_of_scan h
  cases hcs.symm.trans hcs'
  have hread : readSource fs start.taken c = .error (.unreadable c fault) := by
    rw [readSource, hfault]
  rw [hp, List.foldl_cons, List.foldl_nil, Progress.step, hread]
  simp [Progress.skip, hstart]

/-- The sources and failures of a scan divide its candidates. -/
theorem exists_divides_of_scan (h : s.scan fs path w out = .ok p) :
    ∃ cs kept skipped, s.candidates fs path = .ok cs ∧
      fs.Divides cs p.survey.sources.files p.survey.failures kept skipped := by
  obtain ⟨cs, start, hcs, hstart, hzero, hp⟩ := exists_of_scan h
  have hafter : start.After fs path [] := by
    refine ⟨hzero, by rw [hstart]; rfl, [], [], ?_⟩
    rw [hstart]
    exact ⟨.nil, .nil, .refl _, .nil, .nil⟩
  obtain ⟨kept, skipped, hdivides⟩ := (hafter.run w cs).divides
  exact ⟨cs, kept, skipped, hcs, hp ▸ hdivides⟩

/-- No two of the sources and failures of a scan have the same path. -/
theorem paths_of_scan (hfs : fs.top.WellNamed) (h : s.scan fs path w out = .ok p) :
    (p.survey.sources.files.map (·.path) ++ p.survey.failures.map (·.path)).Pairwise
      fun p q => p.same q = false := by
  obtain ⟨cs, kept, skipped, hcs, hdivides⟩ := exists_divides_of_scan h
  exact hdivides.pairwise_not_same (pairwise_of_candidates hfs hcs)

/-- Every declaration of a scan has its file among the sources, and that very file is found under
its path; so is every source under its own, and no source has the path of a failure. -/
theorem scan_resolves (hfs : fs.top.WellNamed) (h : s.scan fs path w out = .ok p) :
    (∀ n ∈ Node.walkFrom p.survey.root.children,
      ∃ e, n.extent = some e ∧ p.survey.sources.get? n.filePath = some e.file) ∧
    (∀ f ∈ p.survey.sources.files, p.survey.sources.get? f.path = some f) ∧
    ∀ f ∈ p.survey.sources.files, ∀ g ∈ p.survey.failures, f.path.same g.path = false := by
  have hpaths := paths_of_scan hfs h
  rw [List.pairwise_append, List.pairwise_map] at hpaths
  have hget : ∀ f ∈ p.survey.sources.files, p.survey.sources.get? f.path = some f :=
    fun f hf => SourceMap.get?_of_mem hpaths.1 hf
  refine ⟨fun n hn => ?_, hget, fun f hf g hg => ?_⟩
  · obtain ⟨e, he, hfile⟩ := (grown_of_scan h).sourced n hn
    refine ⟨e, he, ?_⟩
    rw [Node.filePath_of_extent he]
    exact hget e.file hfile
  · exact hpaths.2.2 f.path (List.mem_map_of_mem hf) g.path (List.mem_map_of_mem hg)

theorem scan_resolves_sample :
    sample.top.WellNamed ∧
      ∃ p, scan ⟨{ exclude := "" }, none⟩ sample ⟨"p"⟩ Writer.collect "" = .ok p ∧
        (∀ n ∈ Node.walkFrom p.survey.root.children,
          ∃ e, n.extent = some e ∧ p.survey.sources.get? n.filePath = some e.file) ∧
        (∀ f ∈ p.survey.sources.files, p.survey.sources.get? f.path = some f) ∧
        ∀ f ∈ p.survey.sources.files, ∀ g ∈ p.survey.failures, f.path.same g.path = false := by
  have hfs : sample.top.WellNamed := by decide
  obtain ⟨start, events, -, -, -, hscan⟩ := scan_eq_ok candidates_sample Writer.collect ""
  exact ⟨hfs, _, hscan, scan_resolves hfs hscan⟩

end Scanner

/-! ### Shape -/

theorem Node.outlined_ofSource {path : Path} {text : String} {key : Nat} {n : Node}
    (h : ofSource path text key = .ok n) : n.Outlined := by
  unfold ofSource visitFile visitChecked at h
  cases hcheck : (SyntaxTree.ofText text).check with
  | error fault =>
    rw [hcheck] at h
    cases h
  | ok u =>
    rw [hcheck] at h
    cases h
    exact (outlined_root path).visit _ (SyntaxTree.ordered_ofText text)

/-- Every tree that is built has its shape: one built from a root by visits of any files with any
ordered syntax, the outline of a text, and the tree of a scan. -/
theorem Node.shape_of_built :
    (∀ (path : Path) (visits : List (SourceFile × SyntaxTree)), (∀ v ∈ visits, v.2.Ordered) →
      ((root path).visitAll visits).Shape) ∧
    (∀ (path : Path) (text : String) (key : Nat) (n : Node), ofSource path text key = .ok n →
      n.Shape) ∧
    ∀ (σ : Type) (s : Scanner) (fs : FileSystem) (path : Path) (w : Writer σ) (out : σ)
      (p : Progress σ), s.scan fs path w out = .ok p → p.survey.root.Shape := by
  refine ⟨fun path visits hv => ?_, fun path text key n h => ?_, fun σ s fs path w out p h => ?_⟩
  · exact ((outlined_root path).visitAll hv).shape
  · exact (outlined_ofSource h).shape
  · exact (Scanner.grown_of_scan h).outlined.shape

/-- Two files with the same syntax, one after the other, and the scan of a directory. -/
theorem Node.shape_of_built_sample :
    let text := "module A\nclass B\nend\nend\n"
    let visits : List (SourceFile × SyntaxTree) :=
      [(⟨0, ⟨"a.rb"⟩, text⟩, SyntaxTree.sample), (⟨1, ⟨"b.rb"⟩, text⟩, SyntaxTree.sample)]
    (∀ v ∈ visits, v.2.Ordered) ∧ ((root ⟨"."⟩).visitAll visits).places.length = 5 ∧
      ((root ⟨"."⟩).visitAll visits).Shape ∧
      ∃ p, Scanner.scan ⟨{ exclude := "" }, none⟩ Scanner.sample ⟨"p"⟩ Writer.collect "" = .ok p ∧
        p.survey.root.Shape := by
  have hv : ∀ v ∈ [((⟨0, ⟨"a.rb"⟩, "module A\nclass B\nend\nend\n"⟩ : SourceFile),
      SyntaxTree.sample), (⟨1, ⟨"b.rb"⟩, "module A\nclass B\nend\nend\n"⟩, SyntaxTree.sample)],
      v.2.Ordered := by
    decide
  obtain ⟨start, events, -, -, -, hscan⟩ :=
    Scanner.scan_eq_ok Scanner.candidates_sample Writer.collect ""
  exact ⟨hv, by decide +kernel, shape_of_built.1 _ _ hv, _, hscan,
    shape_of_built.2.2 _ _ _ _ _ _ _ hscan⟩

end Outline
