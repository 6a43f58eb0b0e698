import Outline.Proofs.CommandLine.Status
import Outline.Proofs.Declaration.Touched
import Outline.Proofs.Parse.Run
import Outline.Proofs.Report.Listing

/-! What is printed of the declarations that are asked for. They come in the order of the outline,
a line each, or each with its source in a block of numbered lines. The numbers and the bar after them
can be taken off again, and what is left is the source. No line of a declaration that was scanned is
missing, as its lines are those of bytes of its file. -/
namespace Outline

attribute [local irreducible] SyntaxTree.ofText

namespace Report

/-! ### Numbers -/

/-- A number behind so many blanks that it has at least a width, and no blanks if it is wider. -/
structure RightAligned (width n : Nat) (text : String) : Prop where
  length_eq : text.length = max width (toString n).length
  blanks : ∃ k, text = String.ofList (List.replicate k ' ') ++ toString n

theorem rightAligned_padded (n : Nat) : RightAligned 5 n (padded n) := by
  refine ⟨?_, _, rfl⟩
  rw [padded, String.length_append, String.length_ofList, List.length_replicate]
  omega

/-- What follows the first bar and the blank after it. -/
def afterBar (line : String) : String :=
  String.ofList ((line.toList.dropWhile (· ≠ '|')).drop 2)

theorem bar_notMem_padded (n : Nat) : '|' ∉ (padded n).toList := by
  have hnumber := notMem_toString (c := '|') (by decide) n
  simp_all [padded]

theorem sourceLine_eq (x : Nat × String) : sourceLine false x = padded x.1 ++ " | " ++ x.2 := by
  simp [sourceLine, Terminal.paint_false, String.append_assoc]

theorem afterBar_sourceLine (x : Nat × String) : afterBar (sourceLine false x) = x.2 := by
  have hline : (sourceLine false x).toList =
      ((padded x.1).toList ++ [' ']) ++ '|' :: ' ' :: x.2.toList := by
    rw [sourceLine_eq]
    simp
  have hbefore : ∀ c ∈ (padded x.1).toList ++ [' '], decide (c ≠ '|') = true := by
    intro c hc
    rcases List.mem_append.mp hc with hc | hc
    · simpa using ne_of_mem_of_not_mem hc (bar_notMem_padded x.1)
    · rw [List.mem_singleton.mp hc]
      decide
  rw [afterBar, hline, List.dropWhile_append_of_pos hbefore]
  simp

/-! ### Blocks -/

/-- The lines of a declaration and its source: a heading, and then each line of the source behind
its number. -/
structure IsBlock (n : Node) (e : Extent) (lines : List String) : Prop where
  heading : lines.head? = some ("==> " ++ n.display)
  length_eq : lines.tail.length = e.lines.length
  numbered : ∀ j text, e.lines[j]? = some text → ∃ number,
    RightAligned 5 (e.firstLine + j) number ∧ lines.tail[j]? = some (number ++ " | " ++ text)
  source_eq : n.source = .ok ("\n".intercalate (lines.tail.map afterBar))

theorem block_eq_ok {n : Node} {e : Extent} (h : n.extent = some e) :
    block false n = .ok (("==> " ++ n.display) :: e.numberedLines.map (sourceLine false)) := by
  rw [block, Node.numberedLines, Node.requireExtent, h]
  rfl

theorem map_snd_numberedLines (e : Extent) : e.numberedLines.map (·.2) = e.lines := by
  rw [Extent.numberedLines, List.map_map]
  exact List.zipIdx_map_fst _ _

theorem isBlock_of_extent {n : Node} {e : Extent} (h : n.extent = some e) :
    IsBlock n e (("==> " ++ n.display) :: e.numberedLines.map (sourceLine false)) where
  heading := rfl
  length_eq := by
    rw [List.tail_cons, List.length_map, Extent.numberedLines, List.length_map, List.length_zipIdx]
  numbered j text hj := by
    refine ⟨padded (e.firstLine + j), rightAligned_padded _, ?_⟩
    simp [Extent.numberedLines, hj, sourceLine_eq]
  source_eq := by
    have hafter : (e.numberedLines.map (sourceLine false)).map afterBar = e.lines := by
      rw [List.map_map, ← map_snd_numberedLines]
      exact List.map_congr_left fun x _ => afterBar_sourceLine x
    rw [List.tail_cons, hafter, Node.source, Node.requireExtent, h]
    rfl

theorem mapM_block {ns : List Node} (h : ∀ n ∈ ns, ∃ e, n.extent = some e) :
    ∃ bs, ns.mapM (block false) = .ok bs ∧
      List.Forall₂ (fun n b => ∃ e, n.extent = some e ∧ IsBlock n e b) ns bs := by
  induction ns with
  | nil => exact ⟨[], rfl, .nil⟩
  | cons n ns ih =>
    rw [List.forall_mem_cons] at h
    obtain ⟨⟨e, he⟩, hrest⟩ := h
    obtain ⟨bs, hbs, hblocks⟩ := ih hrest
    refine ⟨_ :: bs, ?_, .cons ⟨e, he, isBlock_of_extent he⟩ hblocks⟩
    rw [List.mapM_cons, block_eq_ok he, hbs]
    rfl

theorem unlines_append (a b : List String) : unlines (a ++ b) = unlines a ++ unlines b := by
  simp [unlines, String.join_append]

theorem unlines_intercalate (bs : List (List String)) :
    unlines ([""].intercalate bs) = "\n".intercalate (bs.map unlines) := by
  induction bs with
  | nil => rfl
  | cons b bs ih =>
    cases bs with
    | nil => simp
    | cons c bs =>
      rw [List.intercalate_cons_cons, unlines_append, unlines_append, ih]
      simp [unlines]

/-! ### Matches -/

/-- The root has no name, so it is none of the matches. -/
theorem matching_eq {v : Survey} (h : v.root.IsOutline) (name : String) (kind : Option Kind) :
    matching v name kind =
      v.declarations.filter fun n => n.name == some name && kind.all (n.kind == ·) := by
  obtain ⟨path, cs, hroot, -⟩ := h
  have hname : v.root.name = none := by rw [hroot]; rfl
  rw [matching, Node.findAll_eq_filter, Node.walk_eq, List.filter_cons, hname]
  rfl

/-- The declarations of an outline have names and extents, and none is a root. -/
theorem exists_of_mem_declarations {v : Survey} (h : v.root.IsOutline) {n : Node}
    (hn : n ∈ v.declarations) :
    n.kind ≠ .root ∧ (∃ name, n.name = some name) ∧ ∃ e, n.extent = some e := by
  obtain ⟨path, cs, hroot, hcs⟩ := h
  rw [Survey.declarations, hroot] at hn
  obtain ⟨c, hc, hwalk⟩ := Node.mem_walkFrom.mp hn
  cases (hcs c hc).of_mem_walk n hwalk with
  | declaration hkind => exact ⟨hkind, ⟨_, rfl⟩, _, rfl⟩

theorem matchLine_eq {n : Node} {name : String} {e : Extent} (hname : n.name = some name)
    (he : n.extent = some e) :
    matchLine n = e.describe ++ "\t" ++ n.kind.humanName ++ "\t" ++ name := by
  simp [matchLine, location, Node.firstLine, Node.lastLine, Node.filePath_of_extent he, he, hname,
    Extent.describe, String.append_assoc]

theorem unlines_matchLines {ns : List Node} {name : String}
    (h : ∀ n ∈ ns, n.name = some name ∧ ∃ e, n.extent = some e) :
    ∃ lines, unlines (ns.map matchLine) = String.join lines ∧
      List.Forall₂ (fun n line => ∃ e, n.extent = some e ∧
        line = e.describe ++ "\t" ++ n.kind.humanName ++ "\t" ++ name ++ "\n") ns lines := by
  refine ⟨ns.map (matchLine · ++ "\n"), by rw [unlines, List.map_map]; rfl, ?_⟩
  rw [List.forall₂_map_right_iff, List.forall₂_same]
  intro n hn
  obtain ⟨hname, e, he⟩ := h n hn
  exact ⟨e, he, by rw [matchLine_eq hname he]⟩

end Report

/-! ### Scans -/

/-- No line of a declaration in well placed syntax is missing. -/
theorem SyntaxTree.WellPlaced.length_lines {file : SourceFile} {t : SyntaxTree}
    (h : t.WellPlaced file.text) {n : Node} (hn : n ∈ Node.walkFrom (t.declarations file)) :
    ∃ e, n.extent = some e ∧ e.lines.length = e.lineSpan := by
  rw [← Node.placesFrom_map_snd 0] at hn
  obtain ⟨x, hx, rfl⟩ := List.mem_map.mp hn
  obtain ⟨a, b, -, hab, hb, he⟩ := t.within_declarations h 0 x hx
  have hlength := h.stop_isIn.le_length
  have hrows : rowAt file.text a ≤ rowAt file.text (b - 1) := rowAt_mono file.text (by omega)
  have hlast : rowAt file.text (b - 1) < file.allLines.length :=
    rowAt_lt_length_allLines file (by omega)
  exact ⟨_, he, Extent.length_lines_of_le (Nat.succ_pos _) (Nat.succ_le_succ hrows) hlast⟩

namespace Progress

variable {σ : Type} {p : Progress σ}

/-- No line of a declaration of the survey is missing. -/
structure Whole (p : Progress σ) : Prop where
  length_lines : ∀ n ∈ p.survey.declarations,
    ∃ e, n.extent = some e ∧ e.lines.length = e.lineSpan

theorem Whole.record (h : p.Whole) (file : SourceFile) {t : SyntaxTree}
    (ht : t.WellPlaced file.text) : (p.record file t).Whole where
  length_lines n hn := by
    change n ∈ Node.walkFrom (p.survey.root.visit file t).children at hn
    rw [Node.visit, Node.children_attach, Node.walkFrom_append, List.mem_append] at hn
    rcases hn with hn | hn
    · exact h.length_lines n hn
    · exact ht.length_lines hn

theorem Whole.step (h : p.Whole) (fs : FileSystem) (w : Writer σ) (c : Path) :
    (p.step fs w c).Whole := by
  obtain ⟨text, -, hp⟩ | ⟨e, -, hp⟩ := step_cases fs w p c
  · rw [hp]
    exact h.record _ (SyntaxTree.wellPlaced_ofText text)
  · rw [hp]
    exact ⟨h.length_lines⟩

theorem Whole.run (h : p.Whole) (fs : FileSystem) (w : Writer σ) (cs : List Path) :
    (cs.foldl (·.step fs w ·) p).Whole := by
  induction cs generalizing p with
  | nil => exact h
  | cons c cs ih => exact ih (h.step fs w c)

end Progress

/-- A scan reads its declarations from trees that are well placed, so none of their lines is
missing. -/
theorem Scanner.whole_of_scan {σ : Type} {s : Scanner} {fs : FileSystem} {path : Path}
    {w : Writer σ} {out : σ} {p : Progress σ} (h : s.scan fs path w out = .ok p) : p.Whole := by
  obtain ⟨cs, start, -, hstart, -, hp⟩ := exists_of_scan h
  have hwhole : start.Whole := by
    constructor
    rw [hstart]
    simp [Survey.declarations, Node.root, Node.children, Node.walkFrom]
  exact ⟨hp ▸ (hwhole.run fs w cs).length_lines⟩

namespace CommandLine

open Report

theorem runMatches_of_ne_nil {name : String} {kind : Option Kind} {p : Progress String}
    {write : List Node → Except Node.MissingExtent (List String)} {lines : List String}
    (hne : matching p.survey name kind ≠ [])
    (hlines : write (matching p.survey name kind) = .ok lines) :
    runMatches false name kind p write = { out := unlines lines, err := p.out } := by
  unfold runMatches
  split
  · next hnil => exact absurd hnil hne
  · rw [hlines]

/-- The declarations that are asked for are printed in the order of the outline, and the root never
is. For a search each has a line, with its lines, kind and name. Else each has a block with its
source, and one empty line between blocks; if the outline is that of a scan, a block has a line for
every line number of the declaration. -/
theorem Command.outcome_prints {p : Progress String} (hp : p.survey.root.IsOutline)
    (path name : String) (kind : Option Kind)
    (hfound : ∃ n ∈ p.survey.root.walk, n.Answers name kind) :
    let found := p.survey.declarations.filter fun n =>
      n.name == some name && kind.all (n.kind == ·)
    (∃ lines, ((find path name kind).outcome false p).out = String.join lines ∧
      List.Forall₂ (fun n line => ∃ e, n.extent = some e ∧
        line = e.describe ++ "\t" ++ n.kind.humanName ++ "\t" ++ name ++ "\n") found lines) ∧
    (∃ blocks, ((source path name kind).outcome false p).out = "\n".intercalate (blocks.map unlines) ∧
      List.Forall₂ (fun n lines => ∃ e, n.extent = some e ∧ IsBlock n e lines) found blocks ∧
      ∀ (s : Scanner) (fs : FileSystem) (dir : Path) (out : String),
        s.scan fs dir Writer.collect out = .ok p →
        List.Forall₂ (fun n lines => ∃ e, n.extent = some e ∧ lines.tail.length = e.lineSpan) found
          blocks) ∧
    ∀ name kind, ∀ n ∈ matching p.survey name kind, n.kind ≠ .root := by
  intro found
  have hmatching : matching p.survey name kind = found := matching_eq hp name kind
  have hnamed : ∀ n ∈ found, n.name = some name ∧ ∃ e, n.extent = some e := by
    intro n hn
    obtain ⟨hmem, htest⟩ := List.mem_filter.mp hn
    rw [Bool.and_eq_true, beq_iff_eq] at htest
    exact ⟨htest.1, (exists_of_mem_declarations hp hmem).2.2⟩
  have hne : matching p.survey name kind ≠ [] := by
    obtain ⟨n, hn, hname, hkind⟩ := hfound
    have htest : (n.name == some name && kind.all (n.kind == ·)) = true := by
      cases kind <;> simp_all
    rw [matching, Node.findAll_eq_filter]
    exact List.ne_nil_of_mem (List.mem_filter.mpr ⟨hn, htest⟩)
  refine ⟨?_, ?_, fun name kind n hn => ?_⟩
  · obtain ⟨lines, hlines, hall⟩ := unlines_matchLines hnamed
    refine ⟨lines, ?_, hall⟩
    rw [outcome, runMatches_of_ne_nil hne rfl, hmatching]
    exact hlines
  · obtain ⟨bs, hbs, hall⟩ := mapM_block fun n hn => (hnamed n hn).2
    have hblocks : blocks false (matching p.survey name kind) = .ok ([""].intercalate bs) := by
      rw [blocks, hmatching, hbs]
      rfl
    refine ⟨bs, ?_, hall, fun s fs dir out hscan => ?_⟩
    · rw [outcome, runMatches_of_ne_nil hne hblocks]
      exact unlines_intercalate bs
    · have hwhole := Scanner.whole_of_scan hscan
      have hmem : ∀ n ∈ found, n ∈ p.survey.declarations := fun n hn => (List.mem_filter.mp hn).1
      refine ((List.forall₂_and_left ..).mpr ⟨hmem, hall⟩).imp ?_
      rintro n lines ⟨hn, e, he, hblock⟩
      obtain ⟨e', he', hlines⟩ := hwhole.length_lines n hn
      cases he.symm.trans he'
      exact ⟨e, he, hblock.length_eq.trans hlines⟩
  · rw [matching_eq hp] at hn
    exact (exists_of_mem_declarations hp (List.mem_filter.mp hn).1).1

/-- A class that two files open. -/
def reopened : Progress String where
  survey := {
    root := (Node.root ⟨"lib"⟩).attach [
      .declaration .classDecl "A" ⟨⟨0, ⟨"lib/a.rb"⟩, "class A\n  def a; end\nend\n"⟩, 1, 3⟩ [
        .declaration .instanceMethod "a" ⟨⟨0, ⟨"lib/a.rb"⟩, "class A\n  def a; end\nend\n"⟩, 2, 2⟩ []],
      .declaration .classDecl "A" ⟨⟨1, ⟨"lib/b.rb"⟩, "# b\nclass A; end\n"⟩, 2, 2⟩ []] }
  out := ""

theorem isOutline_reopened : reopened.survey.root.IsOutline := by
  refine ⟨_, _, rfl, ?_⟩
  rw [List.forall_mem_cons, List.forall_mem_singleton]
  refine ⟨.declaration (by decide) ?_, .declaration (by decide) (by simp)⟩
  rw [List.forall_mem_singleton]
  exact .declaration (by decide) (by simp)

/-- Both are found, in order, and each is shown with its source. -/
theorem Command.outcome_prints_reopened :
    reopened.survey.root.IsOutline ∧ (∃ n ∈ reopened.survey.root.walk, n.Answers "A" none) ∧
    ((find "lib" "A" none).outcome false reopened).out =
      "lib/a.rb:1-3\tclass\tA\nlib/b.rb:2-2\tclass\tA\n" ∧
    ∃ a b, ((source "lib" "A" none).outcome false reopened).out = unlines a ++ "\n" ++ unlines b ∧
      a.head? = some "==> class A (lib/a.rb:1-3)" ∧
      "\n".intercalate (a.tail.map afterBar) = "class A\n  def a; end\nend" ∧
      b.head? = some "==> class A (lib/b.rb:2-2)" ∧
      "\n".intercalate (b.tail.map afterBar) = "class A; end" := by
  have hfound : ∃ n ∈ reopened.survey.root.walk, n.Answers "A" none := by
    refine ⟨.declaration .classDecl "A" ⟨⟨1, ⟨"lib/b.rb"⟩, "# b\nclass A; end\n"⟩, 2, 2⟩ [], ?_, rfl,
      by simp⟩
    rw [← Node.places_map_snd]
    simp [reopened, Node.root, Node.attach, Node.places, Node.places.placesFrom, Node.declaration]
  have hlist : (reopened.survey.declarations.filter fun n =>
      n.name == some "A" && (none : Option Kind).all (n.kind == ·)) = reopened.survey.root.children := by
    rw [Survey.declarations, ← Node.placesFrom_map_snd 0]
    rfl
  obtain ⟨⟨lines, hout, hlines⟩, ⟨blocks, hblocks, hall, -⟩, -⟩ :=
    outcome_prints isOutline_reopened "lib" "A" none hfound
  rw [hlist] at hlines hall
  obtain ⟨a, bs, ⟨e, he, ha⟩, hbs, rfl⟩ := List.forall₂_cons_left_iff.mp hall
  obtain ⟨b, cs, ⟨f, hf, hb⟩, hcs, rfl⟩ := List.forall₂_cons_left_iff.mp hbs
  obtain rfl := List.forall₂_nil_left_iff.mp hcs
  obtain ⟨k, ks, ⟨e', he', rfl⟩, hks, rfl⟩ := List.forall₂_cons_left_iff.mp hlines
  obtain ⟨l, ls, ⟨f', hf', rfl⟩, hls, rfl⟩ := List.forall₂_cons_left_iff.mp hks
  obtain rfl := List.forall₂_nil_left_iff.mp hls
  obtain rfl := Option.some.inj he'
  obtain rfl := Option.some.inj hf'
  refine ⟨isOutline_reopened, hfound, hout.trans (by decide), a, b, ?_, ha.heading, ?_, hb.heading, ?_⟩
  · rw [hblocks]
    simp
  · exact (Except.ok.inj ha.source_eq).symm.trans (by decide +kernel)
  · exact (Except.ok.inj hb.source_eq).symm.trans (by decide +kernel)

end CommandLine

end Outline
