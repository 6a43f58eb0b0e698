import Mathlib.Data.List.Forall2
import Mathlib.Data.List.Perm.Basic
import Outline.Scan.Survey

/-! A scan falls apart into its candidates. Each candidate either reads as a text without faults and
adds the outline of that text, or is skipped and adds nothing; the files and the failures divide the
positions of the candidates between them, and only the diagnostics can depend on the writer. The
invariant of a scan under way speaks of the candidates taken so far, so that one step appends one
candidate to it. -/
namespace Outline

-- The parser is never run here: whether a text has faults is all that is asked of it.
attribute [local irreducible] SyntaxTree.ofText

namespace FileSystem

/-- The candidate reads as a text without faults. -/
def Outlines (fs : FileSystem) (c : Path) (text : String) : Prop :=
  fs.readText c = .ok text ∧ (SyntaxTree.ofText text).check = .ok ()

/-- The candidate is skipped for a reason: it cannot be read, or its text has faults. -/
inductive Skips (fs : FileSystem) (c : Path) : FileError → Prop
  | unreadable {fault : Fault} (h : fs.readText c = .error fault) : Skips fs c (.unreadable c fault)
  | faulty {text : String} {fault : SyntaxFault} (h : fs.readText c = .ok text)
      (hf : (SyntaxTree.ofText text).check = .error fault) : Skips fs c (.faulty fault)

/-- What an outline, if there is one, adds to the root of a scan. -/
def added : Except SyntaxFault Node → List Node
  | .ok root => root.children
  | .error _ => []

/-- What a candidate adds to the root of a scan: the outline of its text, if it reads as one. The
key is the identity of the reading. -/
def contribution (fs : FileSystem) (c : Path) (key : Nat) : List Node :=
  match fs.readText c with
  | .error _ => []
  | .ok text => added (Node.ofSource c text key)

theorem added_visitChecked {c : Path} {file : SourceFile} {t : SyntaxTree} (h : t.check = .ok ()) :
    added ((Node.root c).visitChecked file t) = t.declarations file := by
  rw [Node.visitChecked, h]
  change ((Node.root c).visit file t).children = _
  rw [Node.visit, Node.children_attach]
  rfl

theorem Outlines.contribution_eq {fs : FileSystem} {c : Path} {text : String}
    (h : fs.Outlines c text) (key : Nat) :
    fs.contribution c key = (SyntaxTree.ofText text).declarations { key, path := c, text } := by
  rw [contribution, h.1]
  exact added_visitChecked h.2

theorem added_visitChecked_error {n : Node} {file : SourceFile} {t : SyntaxTree}
    {fault : SyntaxFault} (h : t.check = .error fault) : added (n.visitChecked file t) = [] := by
  rw [Node.visitChecked, h]
  rfl

theorem Skips.contribution_eq {fs : FileSystem} {c : Path} {e : FileError} (h : fs.Skips c e)
    (key : Nat) : fs.contribution c key = [] := by
  cases h with
  | unreadable h => rw [contribution, h]
  | faulty h hf =>
    rw [contribution, h]
    exact added_visitChecked_error hf

/-- Files and failures divide the candidates: the positions kept and those skipped are all
positions, each in one of the two lists and in order; a file has the path and text of its position,
a failure the path and the reason. -/
structure Divides (fs : FileSystem) (cs : List Path) (files : List SourceFile)
    (failures : List Failure) (kept skipped : List Nat) : Prop where
  kept_sorted : kept.Pairwise (· < ·)
  skipped_sorted : skipped.Pairwise (· < ·)
  positions : (kept ++ skipped).Perm (List.range cs.length)
  file_at : List.Forall₂ (fun i f => ∃ c text, cs[i]? = some c ∧ fs.Outlines c text ∧
    f = { key := i, path := c, text }) kept files
  failure_at : List.Forall₂ (fun i f => ∃ c e, cs[i]? = some c ∧ fs.Skips c e ∧
    f = { path := c, error := e }) skipped failures

end FileSystem

/-! ### Reading one candidate -/

theorem checkSource_eq_ok {file f : SourceFile} {t u : SyntaxTree}
    (h : checkSource file t = .ok (f, u)) : t.check = .ok () ∧ f = file ∧ u = t := by
  unfold checkSource at h
  split at h
  · cases h
  · rename_i hc
    cases h
    exact ⟨hc, rfl, rfl⟩

theorem checkSource_eq_error {file : SourceFile} {t : SyntaxTree} {e : FileError}
    (h : checkSource file t = .error e) : ∃ fault, t.check = .error fault ∧ e = .faulty fault := by
  unfold checkSource at h
  split at h
  · rename_i fault hc
    cases h
    exact ⟨fault, hc, rfl⟩
  · cases h

theorem readSource_eq_ok {fs : FileSystem} {key : Nat} {c : Path} {file : SourceFile}
    {t : SyntaxTree} (h : readSource fs key c = .ok (file, t)) :
    ∃ text, fs.Outlines c text ∧ file = { key, path := c, text } ∧ t = SyntaxTree.ofText text := by
  unfold readSource at h
  split at h
  · cases h
  · rename_i text hr
    obtain ⟨hc, hf, ht⟩ := checkSource_eq_ok h
    exact ⟨text, ⟨hr, hc⟩, hf, ht⟩

theorem readSource_eq_error {fs : FileSystem} {key : Nat} {c : Path} {e : FileError}
    (h : readSource fs key c = .error e) : fs.Skips c e := by
  unfold readSource at h
  split at h
  · rename_i fault hr
    cases h
    exact .unreadable hr
  · rename_i text hr
    obtain ⟨fault, hc, rfl⟩ := checkSource_eq_error h
    exact .faulty hr hc

namespace FileSystem.Divides

variable {fs : FileSystem} {cs : List Path} {files : List SourceFile} {failures : List Failure}
  {kept skipped : List Nat}

theorem lt_length (h : fs.Divides cs files failures kept skipped) {i : Nat}
    (hi : i ∈ kept ++ skipped) : i < cs.length :=
  List.mem_range.mp (h.positions.mem_iff.mp hi)

/-- Positions that are sorted and below `n` stay sorted with `n` at the end. -/
theorem sorted_snoc {l : List Nat} {n : Nat} (h : l.Pairwise (· < ·)) (hl : ∀ i ∈ l, i < n) :
    (l ++ [n]).Pairwise (· < ·) := by
  rw [List.pairwise_append]
  exact ⟨h, List.pairwise_singleton _ _, by simpa using hl⟩

theorem file_at_snoc (h : fs.Divides cs files failures kept skipped) (c : Path) :
    List.Forall₂ (fun i f => ∃ d text, (cs ++ [c])[i]? = some d ∧ fs.Outlines d text ∧
      f = { key := i, path := d, text }) kept files := by
  refine h.file_at.imp fun i f hf => ?_
  obtain ⟨d, text, hd, rest⟩ := hf
  exact ⟨d, text, by rw [List.getElem?_append_left (List.getElem?_eq_some_iff.mp hd).1, hd], rest⟩

theorem failure_at_snoc (h : fs.Divides cs files failures kept skipped) (c : Path) :
    List.Forall₂ (fun i f => ∃ d e, (cs ++ [c])[i]? = some d ∧ fs.Skips d e ∧
      f = { path := d, error := e }) skipped failures := by
  refine h.failure_at.imp fun i f hf => ?_
  obtain ⟨d, e, hd, rest⟩ := hf
  exact ⟨d, e, by rw [List.getElem?_append_left (List.getElem?_eq_some_iff.mp hd).1, hd], rest⟩

/-- One more candidate that is kept. -/
theorem keep (h : fs.Divides cs files failures kept skipped) {c : Path} {text : String}
    (ho : fs.Outlines c text) :
    fs.Divides (cs ++ [c]) (files ++ [{ key := cs.length, path := c, text }]) failures
      (kept ++ [cs.length]) skipped where
  kept_sorted := sorted_snoc h.kept_sorted fun i hi => h.lt_length (List.mem_append_left _ hi)
  skipped_sorted := h.skipped_sorted
  positions := by
    rw [List.length_append, List.length_singleton, List.range_succ, List.append_assoc]
    exact (List.perm_middle.trans (h.positions.cons _)).trans (List.perm_append_singleton _ _).symm
  file_at := List.rel_append (h.file_at_snoc c)
    (.cons ⟨c, text, by simp, ho, rfl⟩ .nil)
  failure_at := h.failure_at_snoc c

/-- One more candidate that is skipped. -/
theorem skip (h : fs.Divides cs files failures kept skipped) {c : Path} {e : FileError}
    (hs : fs.Skips c e) :
    fs.Divides (cs ++ [c]) files (failures ++ [{ path := c, error := e }])
      kept (skipped ++ [cs.length]) where
  kept_sorted := h.kept_sorted
  skipped_sorted :=
    sorted_snoc h.skipped_sorted fun i hi => h.lt_length (List.mem_append_right _ hi)
  positions := by
    rw [List.length_append, List.length_singleton, List.range_succ, ← List.append_assoc]
    exact h.positions.append_right _
  file_at := h.file_at_snoc c
  failure_at := List.rel_append (h.failure_at_snoc c)
    (.cons ⟨c, e, by simp, hs, rfl⟩ .nil)

end FileSystem.Divides

/-! ### One step of a scan -/

/-- Everything that is written can be seen afterwards. -/
def Writer.Keeps {σ : Type} (w : Writer σ) (view : σ → String) : Prop :=
  ∀ line out, view (w line out).1 = view out ++ line

/-- The lines of diagnostics that a survey stands for. -/
def Survey.diagnostics (v : Survey) : String :=
  String.join (v.failures.map fun f => f.message ++ "\n")

namespace Progress

variable {σ τ : Type} {fs : FileSystem} {path : Path} {done : List Path}

theorem step_cases (fs : FileSystem) (w : Writer σ) (p : Progress σ) (c : Path) :
    (∃ text, fs.Outlines c text ∧
      p.step fs w c = p.record { key := p.taken, path := c, text } (.ofText text)) ∨
    (∃ e, fs.Skips c e ∧ p.step fs w c = p.skip w { path := c, error := e }) := by
  unfold step
  split
  · rename_i file t h
    obtain ⟨text, ho, rfl, rfl⟩ := readSource_eq_ok h
    exact .inl ⟨text, ho, rfl⟩
  · rename_i e h
    exact .inr ⟨e, readSource_eq_error h, rfl⟩

/-- What holds of a scan under the path once the candidates `done` have been taken. -/
structure After (fs : FileSystem) (path : Path) (done : List Path) (p : Progress σ) : Prop where
  taken_eq : p.taken = done.length
  root_eq : p.survey.root =
    (Node.root path).attach (done.zipIdx.flatMap fun c => fs.contribution c.1 c.2)
  divides : ∃ kept skipped, fs.Divides done p.survey.sources.files p.survey.failures kept skipped

theorem contributions_snoc (fs : FileSystem) (done : List Path) (c : Path) :
    (done ++ [c]).zipIdx.flatMap (fun c => fs.contribution c.1 c.2) =
      done.zipIdx.flatMap (fun c => fs.contribution c.1 c.2) ++ fs.contribution c done.length := by
  simp [List.zipIdx_append]

theorem attach_attach (n : Node) (cs ds : List Node) :
    (n.attach cs).attach ds = n.attach (cs ++ ds) := by
  cases n
  simp [Node.attach]

theorem After.step {p : Progress σ} (h : p.After fs path done) (w : Writer σ) (c : Path) :
    (p.step fs w c).After fs path (done ++ [c]) := by
  obtain ⟨kept, skipped, hd⟩ := h.divides
  obtain ⟨text, ho, hp⟩ | ⟨e, hs, hp⟩ := step_cases fs w p c
  · rw [hp, h.taken_eq]
    refine ⟨by simp [record, h.taken_eq], ?_, kept ++ [done.length], skipped, hd.keep ho⟩
    rw [contributions_snoc, ho.contribution_eq, ← attach_attach, ← h.root_eq]
    rfl
  · rw [hp]
    refine ⟨by simp [skip, h.taken_eq], ?_, kept, skipped ++ [done.length], hd.skip hs⟩
    rw [contributions_snoc, hs.contribution_eq, List.append_nil]
    exact h.root_eq

/-- Whatever the writers do, a step leads from equal surveys to equal surveys. -/
theorem step_agree (fs : FileSystem) {p : Progress σ} {q : Progress τ} (hs : p.survey = q.survey)
    (ht : p.taken = q.taken) (w : Writer σ) (x : Writer τ) (c : Path) :
    (p.step fs w c).survey = (q.step fs x c).survey ∧
      (p.step fs w c).taken = (q.step fs x c).taken := by
  unfold step
  rw [ht]
  split <;> simp [record, skip, hs, ht]

theorem step_diagnostics {w : Writer σ} {view : σ → String} (hw : w.Keeps view) {before : String}
    {p : Progress σ} (h : view p.out = before ++ p.survey.diagnostics) (c : Path) :
    view (p.step fs w c).out = before ++ (p.step fs w c).survey.diagnostics := by
  obtain ⟨text, -, hp⟩ | ⟨e, -, hp⟩ := step_cases fs w p c
  · rw [hp]
    exact h
  · rw [hp]
    change view (w _ p.out).1 = _
    rw [hw, h]
    simp [skip, Survey.diagnostics, String.append_assoc]

/-! ### A whole scan -/

theorem After.run {p : Progress σ} (h : p.After fs path done) (w : Writer σ) (cs : List Path) :
    (cs.foldl (·.step fs w ·) p).After fs path (done ++ cs) := by
  induction cs generalizing done p with
  | nil => simpa using h
  | cons c cs ih =>
    rw [List.foldl_cons, ← List.singleton_append, ← List.append_assoc]
    exact ih (h.step w c)

theorem run_agree (fs : FileSystem) {p : Progress σ} {q : Progress τ} (hs : p.survey = q.survey)
    (ht : p.taken = q.taken) (w : Writer σ) (x : Writer τ) (cs : List Path) :
    (cs.foldl (·.step fs w ·) p).survey = (cs.foldl (·.step fs x ·) q).survey := by
  induction cs generalizing p q with
  | nil => exact hs
  | cons c cs ih =>
    obtain ⟨hs', ht'⟩ := step_agree fs hs ht w x c
    exact ih hs' ht'

theorem run_diagnostics (fs : FileSystem) {w : Writer σ} {view : σ → String} (hw : w.Keeps view)
    {before : String} {p : Progress σ} (h : view p.out = before ++ p.survey.diagnostics)
    (cs : List Path) :
    view (cs.foldl (·.step fs w ·) p).out =
      before ++ (cs.foldl (·.step fs w ·) p).survey.diagnostics := by
  induction cs generalizing p with
  | nil => exact h
  | cons c cs ih => exact ih (step_diagnostics hw h c)

end Progress

namespace Scanner

/-- A scan takes the candidates in order from an empty survey; only events are added at the end. -/
theorem scan_eq_ok {σ : Type} {s : Scanner} {fs : FileSystem} {path : Path} {cs : List Path}
    (h : s.candidates fs path = .ok cs) (w : Writer σ) (out : σ) :
    ∃ (start : Progress σ) (events : List Event), start.survey = { root := .root path } ∧
      start.taken = 0 ∧ start.out = out ∧
      s.scan fs path w out = .ok { cs.foldl (·.step fs w ·) start with events } := by
  unfold candidates at h
  cases he : s.enumerate fs path with
  | error e =>
    rw [he] at h
    cases h
  | ok found =>
    rw [he] at h
    cases h
    unfold scan
    rw [he]
    exact ⟨_, _, rfl, rfl, rfl, rfl⟩

/-- Where the candidates of a path are known, its scan gives one survey with every writer. The root
holds what the candidates add, in their order; sources and failures divide the candidates; and a
writer that keeps what it is given has been given one line for each failure, in order. -/
theorem scan_decomposes (s : Scanner) (fs : FileSystem) (path : Path) (cs : List Path)
    (h : s.candidates fs path = .ok cs) :
    ∃ v : Survey,
      v.root = .mk .root none (.scanned path)
        (cs.zipIdx.flatMap fun c => fs.contribution c.1 c.2) ∧
      (∃ kept skipped, fs.Divides cs v.sources.files v.failures kept skipped) ∧
      ∀ (σ : Type) (w : Writer σ) (out : σ), ∃ p, s.scan fs path w out = .ok p ∧ p.survey = v ∧
        ∀ view, w.Keeps view →
          view p.out = view out ++ String.join (v.failures.map fun f => f.message ++ "\n") := by
  obtain ⟨start, -, hstart, hzero, -, -⟩ := scan_eq_ok h Writer.collect ""
  have hafter : start.After fs path [] := by
    refine ⟨hzero, by rw [hstart]; rfl, [], [], ?_⟩
    rw [hstart]
    exact ⟨.nil, .nil, .refl _, .nil, .nil⟩
  -- the survey is the one that a writer to a text ends with; every other run agrees with that one
  have hrun := hafter.run Writer.collect cs
  refine ⟨_, hrun.root_eq, hrun.divides, fun σ w out => ?_⟩
  obtain ⟨first, events, hfirst, hnone, hout, hscan⟩ := scan_eq_ok h w out
  have hagree := Progress.run_agree fs (hfirst.trans hstart.symm) (hnone.trans hzero.symm) w
    Writer.collect cs
  refine ⟨_, hscan, hagree, fun view hw => ?_⟩
  have hbefore : view first.out = view out ++ first.survey.diagnostics := by
    rw [hfirst, hout]
    simp [Survey.diagnostics]
  have htold := Progress.run_diagnostics fs hw hbefore cs
  rw [← hagree]
  exact htold

/-- A directory with an empty file and one that is no text. -/
def sample : FileSystem :=
  { root := [("p", .directory [("b.rb", .file ⟨#[255]⟩), ("a.rb", .file .empty)])] }

theorem names_sample :
    (Entry.directory [("b.rb", .file ⟨#[255]⟩), ("a.rb", .file .empty)]).names =
      ["a.rb", "b.rb"] := by
  simp [Entry.names, List.mergeSort, List.MergeSort.Internal.splitInTwo, List.eraseDups_cons]

theorem candidates_sample :
    candidates ⟨{ exclude := "" }, none⟩ sample ⟨"p"⟩ = .ok [⟨"p/a.rb"⟩, ⟨"p/b.rb"⟩] := by
  have he : sample.entryAt? ["p"] =
      some (.directory [("b.rb", .file ⟨#[255]⟩), ("a.rb", .file .empty)]) := rfl
  have hw : walk sample false (walkLimit sample) [⟨⟨"p"⟩, ["p"]⟩] =
      [.ok ⟨"p/a.rb"⟩, .ok ⟨"p/b.rb"⟩] := by
    rw [show walkLimit sample = 5 + 1 from rfl, walk]
    simp only [he, names_sample]
    rfl
  have hp : sample.resolve ⟨"p"⟩ = .ok ["p"] := rfl
  simp only [candidates, enumerate, hp, he, hw]
  rfl

theorem scan_decomposes_sample :
    ∃ v : Survey,
      (∃ kept skipped, sample.Divides [⟨"p/a.rb"⟩, ⟨"p/b.rb"⟩] v.sources.files v.failures
        kept skipped) ∧
      ∃ p, scan ⟨{ exclude := "" }, none⟩ sample ⟨"p"⟩ Writer.collect "" = .ok p ∧ p.survey = v ∧
        p.out = String.join (v.failures.map fun f => f.message ++ "\n") := by
  obtain ⟨v, -, hd, hscan⟩ := scan_decomposes _ _ _ _ candidates_sample
  obtain ⟨p, hp, hv, htold⟩ := hscan String Writer.collect ""
  exact ⟨v, hd, p, hp, hv, by simpa using htold id fun _ _ => rfl⟩

end Scanner

end Outline
