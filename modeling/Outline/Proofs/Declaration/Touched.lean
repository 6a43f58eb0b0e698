import Outline.Proofs.Declaration.Laminar
import Outline.Proofs.Text.Lines

/-! The lines of a declaration are those that its syntax touches. Rows of the syntax are counted by
line feeds and an end is set back from the start of a line, while the lines of a file may end in two
characters and leave out an empty one at the end; still, a line is in the extent of a span exactly
if a byte of the span is on that line, and the file has all of these lines. -/
namespace Outline

open Text

/-- The number of the line that a byte is on. A line feed is on the line that it ends. -/
def lineOf (text : String) (byte : Nat) : Nat := ((utf8 text).take byte).count 10 + 1

theorem lineOf_eq (text : String) (byte : Nat) : lineOf text byte = rowAt text byte + 1 := by
  rw [lineOf, rowAt, row_ofBytes]

/-! ### Rows between rows -/

theorem rowAt_succ_le (text : String) (n : Nat) : rowAt text (n + 1) ≤ rowAt text n + 1 := by
  unfold rowAt
  by_cases h : n < (utf8 text).length
  · rw [ofBytes_take_succ h, Offset.pushByte]
    split
    · exact Nat.le_refl _
    · exact Nat.le_succ _
  · rw [List.take_of_length_le (by omega), List.take_of_length_le (by omega)]
    exact Nat.le_succ _

/-- No row is passed over: one byte on, the row is the same or the next. -/
theorem exists_rowAt_eq (text : String) {a b n : Nat} (hab : a ≤ b) (ha : rowAt text a ≤ n)
    (hb : n ≤ rowAt text b) : ∃ c, a ≤ c ∧ c ≤ b ∧ rowAt text c = n := by
  induction b, hab using Nat.le_induction with
  | base => exact ⟨a, Nat.le_refl a, Nat.le_refl a, Nat.le_antisymm ha hb⟩
  | succ b hab ih =>
    by_cases hn : n ≤ rowAt text b
    · obtain ⟨c, hac, hcb, hc⟩ := ih hn
      exact ⟨c, hac, Nat.le_succ_of_le hcb, hc⟩
    · have hstep := rowAt_succ_le text b
      exact ⟨b + 1, Nat.le_succ_of_le hab, Nat.le_refl _, by omega⟩

/-! ### Extents of spans -/

/-- The extent has the lines of the bytes from `a` up to `b`, and its file has these lines. -/
structure Extent.Covers (e : Extent) (a b : Nat) : Prop where
  one_le : 1 ≤ e.firstLine
  first_le_last : e.firstLine ≤ e.lastLine
  touched : ∀ n, e.firstLine ≤ n ∧ n ≤ e.lastLine ↔
    ∃ byte, a ≤ byte ∧ byte < b ∧ lineOf e.file.text byte = n
  last_le : e.lastLine ≤ e.file.allLines.length
  length_lines : e.lines.length = e.lineSpan
  numbers : e.numberedLines.map (·.1) = List.range' e.firstLine e.lineSpan

/-- Where the lines exist, none is left out. -/
theorem Extent.length_lines_of_le {e : Extent} (hone : 1 ≤ e.firstLine)
    (hle : e.firstLine ≤ e.lastLine) (hlast : e.lastLine ≤ e.file.allLines.length) :
    e.lines.length = e.lineSpan := by
  rw [lines, e.file.lines_of_le hone hle, List.length_take, List.length_drop, lineSpan]
  omega

theorem Extent.map_fst_numberedLines (e : Extent) :
    e.numberedLines.map (·.1) = List.range' e.firstLine e.lines.length := by
  rw [numberedLines, List.map_map]
  exact List.zipIdx_map_snd _ _

/-- The extent of a span that is not empty covers the bytes of the span. -/
theorem Extent.covers_ofSpan {file : SourceFile} {start stop : Offset}
    (hs : start.IsIn file.text) (he : stop.IsIn file.text) (h : start.bytes < stop.bytes) :
    (ofSpan file start stop).Covers start.bytes stop.bytes := by
  have hfirst := firstLine_ofSpan file hs stop
  have hlast := lastLine_ofSpan file hs he h
  have hrows : rowAt file.text start.bytes ≤ rowAt file.text (stop.bytes - 1) :=
    rowAt_mono file.text (by omega)
  have hlen := he.le_length
  have hexist : rowAt file.text (stop.bytes - 1) < file.allLines.length :=
    rowAt_lt_length_allLines file (by omega)
  have hone : 1 ≤ (ofSpan file start stop).firstLine := by omega
  have hle : (ofSpan file start stop).firstLine ≤ (ofSpan file start stop).lastLine := by omega
  have hall : (ofSpan file start stop).lastLine ≤ file.allLines.length := by omega
  have hlines := length_lines_of_le hone hle hall
  refine ⟨hone, hle, fun n => ?_, hall, hlines, ?_⟩
  · rw [hfirst, hlast]
    constructor
    · rintro ⟨hfrom, hto⟩
      have hbytes : start.bytes ≤ stop.bytes - 1 := by omega
      obtain ⟨c, hac, hcb, hc⟩ :=
        exists_rowAt_eq file.text (n := n - 1) hbytes (by omega) (by omega)
      refine ⟨c, hac, by omega, ?_⟩
      change lineOf file.text c = n
      rw [lineOf_eq]
      omega
    · rintro ⟨c, hac, hcb, rfl⟩
      change _ ≤ lineOf file.text c ∧ lineOf file.text c ≤ _
      rw [lineOf_eq]
      exact ⟨Nat.succ_le_succ (rowAt_mono _ hac), Nat.succ_le_succ (rowAt_mono _ (by omega))⟩
  · rw [map_fst_numberedLines, hlines]

/-! ### Extents of declarations -/

namespace SyntaxTree

theorem WellPlaced.of_mem_reachFrom {text : String} {k : Nat} {cs : List SyntaxTree}
    (ih : ∀ c ∈ cs, ∀ x ∈ c.reach, x.2.WellPlaced text) {x : Address × SyntaxTree}
    (hx : x ∈ reach.reachFrom k cs) : x.2.WellPlaced text := by
  induction cs generalizing k with
  | nil => cases hx
  | cons c cs ihcs =>
    rw [List.forall_mem_cons] at ih
    rw [reach.reachFrom, List.mem_append] at hx
    rcases hx with hx | hx
    · split at hx
      · obtain ⟨y, hy, rfl⟩ := List.mem_map.mp hx
        exact ih.1 y hy
      · cases hx
    · exact ihcs ih.2 hx

theorem WellPlaced.of_mem_reach {text : String} {t : SyntaxTree} (h : t.WellPlaced text) :
    ∀ x ∈ t.reach, x.2.WellPlaced text := by
  induction t using ind with
  | h i cs ih =>
    intro x hx
    rw [reach, List.mem_cons] at hx
    rcases hx with rfl | hx
    · exact h
    · exact of_mem_reachFrom (fun c hc => ih c hc (h.of_mem hc)) hx

end SyntaxTree

/-- The extent of every span that is not empty covers its bytes, and every declaration that a visit
attaches is that of such a span: it records syntax that declares something, so has a name in it. -/
theorem Extent.covers_exactly :
    (∀ (file : SourceFile) (start stop : Offset), start.IsIn file.text → stop.IsIn file.text →
      start.bytes < stop.bytes → (ofSpan file start stop).Covers start.bytes stop.bytes) ∧
    ∀ (p : Node) (file : SourceFile) (t : SyntaxTree), t.WellPlaced file.text →
      ∀ n ∈ Node.walkFrom ((p.visit file t).children.drop p.children.length),
        ∃ x ∈ t.recorded file.text, n.extent = some (x.2.extentIn file) ∧
          x.2.info.start.bytes < x.2.info.stop.bytes ∧
          (x.2.extentIn file).Covers x.2.info.start.bytes x.2.info.stop.bytes := by
  refine ⟨fun file start stop hs he h => covers_ofSpan hs he h, fun p file t ht n hn => ?_⟩
  obtain ⟨pairs, hpairs⟩ := t.exists_mirror file 0
  rw [Node.visit, Node.children_attach, List.drop_left, ← Node.placesFrom_map_snd 0,
    ← hpairs.snd_eq, List.map_map] at hn
  obtain ⟨x, hx, rfl⟩ := List.mem_map.mp hn
  have hrecords := hpairs.records x hx
  have hrecorded : x.1 ∈ t.recorded file.text := hpairs.fst_eq ▸ List.mem_map_of_mem hx
  have hplaced := ht.of_mem_reach x.1 (List.mem_filter.mp hrecorded).1
  obtain ⟨kind, name, hdeclares, -⟩ := hrecords.declared
  have hlt := hplaced.start_lt_stop hdeclares
  exact ⟨x.1, hrecorded, hrecords.extent_eq, hlt,
    covers_ofSpan hplaced.start_isIn hplaced.stop_isIn hlt⟩

/-- A class that ends at the start of a line, and the tree that it is in. -/
theorem Extent.covers_exactly_sample :
    let file : SourceFile := ⟨0, ⟨"a.rb"⟩, "module A\nclass B\nend\nend\n"⟩
    ofSpan file ⟨9, 1, 0⟩ ⟨21, 3, 0⟩ = ⟨file, 2, 3⟩ ∧
      (ofSpan file ⟨9, 1, 0⟩ ⟨21, 3, 0⟩).Covers 9 21 ∧
      SyntaxTree.sample.WellPlaced file.text ∧
      ∀ n ∈ Node.walkFrom (((Node.root ⟨"."⟩).visit file SyntaxTree.sample).children.drop 0),
        ∃ x ∈ SyntaxTree.sample.recorded file.text, n.extent = some (x.2.extentIn file) ∧
          x.2.info.start.bytes < x.2.info.stop.bytes ∧
          (x.2.extentIn file).Covers x.2.info.start.bytes x.2.info.stop.bytes := by
  have h : SyntaxTree.sample.WellPlaced "module A\nclass B\nend\nend\n" := by decide +kernel
  exact ⟨rfl, covers_exactly.1 ⟨0, ⟨"a.rb"⟩, "module A\nclass B\nend\nend\n"⟩ ⟨9, 1, 0⟩ ⟨21, 3, 0⟩
      (by decide +kernel) (by decide +kernel) (by decide), h,
    covers_exactly.2 (Node.root ⟨"."⟩) ⟨0, ⟨"a.rb"⟩, _⟩ _ h⟩

end Outline
