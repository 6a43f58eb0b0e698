import Outline.Proofs.Declaration.Recorded
import Outline.Proofs.Text.Position

/-! The declarations of one file nest or follow each other. Of the syntax it is only asked that each
node lies in its parent, that siblings follow each other, and that rows and columns are those of the
bytes; the same then holds of the lines of the declarations, whose extents end with the line of
their last byte. A declaration has a name, so its span is not empty. -/
namespace Outline

open Address Text

namespace SyntaxTree

/-- All nodes are placed in the text as their bytes are, inside their parents, and after the
siblings before them. -/
def WellPlaced (text : String) : SyntaxTree → Prop
  | node i cs =>
    i.start.IsIn text ∧ i.stop.IsIn text ∧
      (∀ c ∈ cs, i.start.bytes ≤ c.info.start.bytes ∧ c.info.stop.bytes ≤ i.stop.bytes) ∧
      cs.Pairwise (fun a b => a.info.stop.bytes ≤ b.info.start.bytes) ∧ allWellPlaced cs
where
  allWellPlaced : List SyntaxTree → Prop
  | [] => True
  | c :: r => c.WellPlaced text ∧ allWellPlaced r

/-- Whether a tree is well placed can be computed. -/
def decideWellPlaced (text : String) : (t : SyntaxTree) → Decidable (t.WellPlaced text)
  | node _ cs =>
    have := decideAll cs
    inferInstanceAs (Decidable (_ ∧ _ ∧ _ ∧ _ ∧ WellPlaced.allWellPlaced text cs))
where
  decideAll : (cs : List SyntaxTree) → Decidable (WellPlaced.allWellPlaced text cs)
  | [] => inferInstanceAs (Decidable True)
  | c :: r =>
    have := c.decideWellPlaced text
    have := decideAll r
    inferInstanceAs (Decidable (c.WellPlaced text ∧ WellPlaced.allWellPlaced text r))

instance (text : String) (t : SyntaxTree) : Decidable (t.WellPlaced text) := decideWellPlaced text t

theorem WellPlaced.of_mem {text : String} {i : SyntaxInfo} {cs : List SyntaxTree}
    (h : (node i cs).WellPlaced text) {c : SyntaxTree} (hc : c ∈ cs) : c.WellPlaced text := by
  obtain ⟨-, -, -, -, hall⟩ := h
  induction cs with
  | nil => cases hc
  | cons d cs ih =>
    rcases List.mem_cons.mp hc with rfl | hc
    · exact hall.1
    · exact ih hc hall.2

theorem WellPlaced.start_isIn {text : String} {t : SyntaxTree} (h : t.WellPlaced text) :
    t.info.start.IsIn text := by
  cases t
  exact h.1

theorem WellPlaced.stop_isIn {text : String} {t : SyntaxTree} (h : t.WellPlaced text) :
    t.info.stop.IsIn text := by
  cases t
  exact h.2.1

theorem mem_children_of_nameNode {t n : SyntaxTree} (h : t.nameNode = some n) :
    n ∈ t.children := by
  obtain ⟨k, -, hk⟩ := Option.bind_eq_some_iff.mp h
  exact List.mem_of_getElem? hk

theorem start_lt_stop_of_text? {t : SyntaxTree} {source name : String}
    (h : t.text? source = some name) (hne : name ≠ "") :
    t.info.start.bytes < t.info.stop.bytes := by
  by_contra hle
  have hempty : source.toUTF8.extract t.info.start.bytes t.info.stop.bytes = .empty := by
    rw [ByteArray.extract_eq_empty_iff]
    omega
  rw [text?, hempty] at h
  exact hne (Option.some.inj h).symm

theorem WellPlaced.child_inside {text : String} {t : SyntaxTree} (h : t.WellPlaced text)
    {c : SyntaxTree} (hc : c ∈ t.children) :
    c.WellPlaced text ∧ t.info.start.bytes ≤ c.info.start.bytes ∧
      c.info.stop.bytes ≤ t.info.stop.bytes := by
  cases t with
  | node i cs => exact ⟨h.of_mem hc, h.2.2.1 c hc⟩

/-- What declares something has a span that is not empty: its name lies inside. -/
theorem WellPlaced.start_lt_stop {text : String} {t : SyntaxTree} (h : t.WellPlaced text)
    {kind : Kind} {name : String} (hd : t.declares text = some (kind, name)) :
    t.info.start.bytes < t.info.stop.bytes := by
  obtain ⟨n, m, hn, hm, hname, hne⟩ := declaredName_eq_some (declares_eq_some hd)
  obtain ⟨hwn, hstart, hstop⟩ := h.child_inside (mem_children_of_nameNode hn)
  have hlt : m.info.start.bytes < m.info.stop.bytes :=
    start_lt_stop_of_text? hname hne
  rcases hm with rfl | hm
  · omega
  · obtain ⟨-, hstart', hstop'⟩ := hwn.child_inside (mem_children_of_nameNode hm)
    omega

end SyntaxTree

/-! ### Lines of declarations -/

/-- The node has the lines of some bytes of the file, at least one, between the bounds. -/
def Node.Within (file : SourceFile) (lo hi : Nat) (n : Node) : Prop :=
  ∃ a b, lo ≤ a ∧ a < b ∧ b ≤ hi ∧
    n.extent = some ⟨file, rowAt file.text a + 1, rowAt file.text (b - 1) + 1⟩

theorem Node.Within.mono {file : SourceFile} {lo hi lo' hi' : Nat} {n : Node}
    (h : n.Within file lo hi) (hlo : lo' ≤ lo) (hhi : hi ≤ hi') : n.Within file lo' hi' := by
  obtain ⟨a, b, ha, hab, hb, he⟩ := h
  exact ⟨a, b, by omega, hab, by omega, he⟩

namespace SyntaxTree

open Node.places (placesFrom)

variable {file : SourceFile}

theorem WellPlaced.extentIn_eq {t : SyntaxTree} (h : t.WellPlaced file.text)
    (hlt : t.info.start.bytes < t.info.stop.bytes) :
    t.extentIn file = ⟨file, rowAt file.text t.info.start.bytes + 1,
      rowAt file.text (t.info.stop.bytes - 1) + 1⟩ := by
  rw [← Extent.firstLine_ofSpan file h.start_isIn t.info.stop,
    ← Extent.lastLine_ofSpan file h.start_isIn h.stop_isIn hlt]
  rfl

theorem within_declaration {t : SyntaxTree} (h : t.WellPlaced file.text) {kind : Kind}
    {name : String} (hd : t.declares file.text = some (kind, name)) (cs : List Node) :
    (Node.declaration kind name (t.extentIn file) cs).Within file t.info.start.bytes
      t.info.stop.bytes := by
  have hlt := h.start_lt_stop hd
  exact ⟨_, _, Nat.le_refl _, hlt, Nat.le_refl _, congrArg some (h.extentIn_eq hlt)⟩

theorem within_inChildren {cs : List SyntaxTree}
    (ih : ∀ c ∈ cs, ∀ k, ∀ x ∈ placesFrom k (c.declarations file),
      x.2.Within file c.info.start.bytes c.info.stop.bytes)
    (k : Nat) {x : Address × Node} (hx : x ∈ placesFrom k (declarations.inChildren file cs)) :
    ∃ c ∈ cs, x.2.Within file c.info.start.bytes c.info.stop.bytes := by
  induction cs generalizing k with
  | nil => cases hx
  | cons c cs ihcs =>
    rw [declarations.inChildren, Node.placesFrom_append, List.mem_append] at hx
    rcases hx with hx | hx
    · split at hx
      · exact ⟨c, List.mem_cons_self, ih c List.mem_cons_self k x hx⟩
      · cases hx
    · obtain ⟨d, hd, hw⟩ := ihcs (fun d hd => ih d (List.mem_cons_of_mem _ hd)) _ hx
      exact ⟨d, List.mem_cons_of_mem _ hd, hw⟩

theorem within_node {i : SyntaxInfo} {cs : List SyntaxTree} (h : (node i cs).WellPlaced file.text)
    (ih : ∀ c ∈ cs, ∀ k, ∀ x ∈ placesFrom k (c.declarations file),
      x.2.Within file c.info.start.bytes c.info.stop.bytes)
    (k : Nat) {x : Address × Node} (hx : x ∈ placesFrom k (declarations.inChildren file cs)) :
    x.2.Within file i.start.bytes i.stop.bytes := by
  obtain ⟨c, hc, hw⟩ := within_inChildren ih k hx
  obtain ⟨hlo, hhi⟩ := h.2.2.1 c hc
  exact hw.mono hlo hhi

/-- All declarations of a tree lie inside it. -/
theorem within_declarations (t : SyntaxTree) (h : t.WellPlaced file.text) :
    ∀ k, ∀ x ∈ placesFrom k (t.declarations file),
      x.2.Within file t.info.start.bytes t.info.stop.bytes := by
  induction t using ind with
  | h i cs ih =>
    intro k x hx
    have hin : ∀ k, ∀ y ∈ placesFrom k (declarations.inChildren file cs),
        y.2.Within file i.start.bytes i.stop.bytes :=
      fun k y hy => within_node h (fun c hc => ih c hc (h.of_mem hc)) k hy
    cases hd : (node i cs).declares file.text with
    | none =>
      rw [declarations_of_none hd] at hx
      exact hin k x hx
    | some d =>
      rw [declarations_of_some hd, Node.placesFrom_singleton, List.mem_cons] at hx
      rcases hx with rfl | hx
      · exact within_declaration h hd _
      · obtain ⟨y, hy, rfl⟩ := List.mem_map.mp hx
        rw [Node.declaration, Node.children] at hy
        split at hy
        · exact hin 0 y hy
        · cases hy

end SyntaxTree

/-! ### Pairs of declarations -/

/-- How the extents of two places stand to each other, the first being before the second in
preorder: they nest if the second place is below the first, and else the second extent starts no
earlier than with the last line of the first. -/
def Follows (x y : Address × Node) : Prop :=
  ∃ d e, x.2.extent = some d ∧ y.2.extent = some e ∧ (x.1 <+: y.1 → d.contains e = true) ∧
    (¬ x.1 <+: y.1 → d.lastLine ≤ e.firstLine) ∧ d.firstLine ≤ e.firstLine

namespace Follows

variable {file : SourceFile}

theorem under {x y : Address × Node} (h : Follows x y) (k : Nat) :
    Follows (k :: x.1, x.2) (k :: y.1, y.2) := by
  obtain ⟨d, e, hd, he, hin, hout, hle⟩ := h
  refine ⟨d, e, hd, he, fun hp => hin ?_, fun hp => hout fun hp' => hp ?_, hle⟩
  · exact (List.cons_prefix_cons.mp hp).2
  · exact List.cons_prefix_cons.mpr ⟨rfl, hp'⟩

/-- A node that spans the bytes between the bounds, and one below it that lies between them. -/
theorem of_within {n : Node} {lo hi k : Nat} {y : Address × Node}
    (hn : n.extent = some ⟨file, rowAt file.text lo + 1, rowAt file.text (hi - 1) + 1⟩)
    (hy : y.2.Within file lo hi) : Follows ([k], n) (k :: y.1, y.2) := by
  obtain ⟨a, b, ha, hab, hb, he⟩ := hy
  have hfirst : rowAt file.text lo ≤ rowAt file.text a := rowAt_mono _ ha
  have hlast : rowAt file.text (b - 1) ≤ rowAt file.text (hi - 1) := rowAt_mono _ (by omega)
  refine ⟨_, _, hn, he, fun _ => ?_, fun hp => absurd (by simp) hp, by simpa using hfirst⟩
  simp [Extent.contains, hfirst, hlast]

/-- Two nodes, the first of which ends before the second one starts. -/
theorem of_before {x y : Address × Node} {lo hi lo' hi' : Nat} (hx : x.2.Within file lo hi)
    (hy : y.2.Within file lo' hi') (h : hi ≤ lo') (hp : ¬ x.1 <+: y.1) : Follows x y := by
  obtain ⟨a, b, ha, hab, hb, hd⟩ := hx
  obtain ⟨a', b', ha', hab', hb', he⟩ := hy
  have hfirst : rowAt file.text a ≤ rowAt file.text a' := rowAt_mono _ (by omega)
  have hlast : rowAt file.text (b - 1) ≤ rowAt file.text a' := rowAt_mono _ (by omega)
  exact ⟨_, _, hd, he, fun hp' => absurd hp' hp, fun _ => by simpa using hlast,
    by simpa using hfirst⟩

end Follows

namespace SyntaxTree

open Node.places (placesFrom)

variable {file : SourceFile}

/-- Places of siblings before and after an index are not below one another. -/
theorem not_prefix_of_placesFrom {k : Nat} {ds es : List Node} {x y : Address × Node}
    (hx : x ∈ placesFrom k ds) (hy : y ∈ placesFrom (k + ds.length) es) : ¬ x.1 <+: y.1 := by
  obtain ⟨i, a, ha, -, hi⟩ := Node.exists_cons_of_mem_placesFrom hx
  obtain ⟨j, b, hb, hj, -⟩ := Node.exists_cons_of_mem_placesFrom hy
  rw [ha, hb, List.cons_prefix_cons]
  rintro ⟨rfl, -⟩
  omega

theorem pairwise_inChildren {cs : List SyntaxTree}
    (hcs : cs.Pairwise fun a b => a.info.stop.bytes ≤ b.info.start.bytes)
    (hw : ∀ c ∈ cs, c.WellPlaced file.text)
    (ih : ∀ c ∈ cs, ∀ k, (placesFrom k (c.declarations file)).Pairwise Follows) (k : Nat) :
    (placesFrom k (declarations.inChildren file cs)).Pairwise Follows := by
  induction cs generalizing k with
  | nil => exact .nil
  | cons c cs ihcs =>
    rw [List.pairwise_cons] at hcs
    have hrest := ihcs hcs.2 (fun d hd => hw d (List.mem_cons_of_mem _ hd))
      (fun d hd => ih d (List.mem_cons_of_mem _ hd))
    rw [declarations.inChildren, Node.placesFrom_append, List.pairwise_append]
    refine ⟨?_, hrest _, ?_⟩
    · split
      · exact ih c List.mem_cons_self k
      · exact .nil
    · intro x hx y hy
      have hnot := not_prefix_of_placesFrom hx hy
      split at hx
      · have hxw := within_declarations c (hw c List.mem_cons_self) k x hx
        obtain ⟨d, hd, hyw⟩ := within_inChildren (fun d hd =>
          within_declarations d (hw d (List.mem_cons_of_mem _ hd))) _ hy
        exact Follows.of_before hxw hyw (hcs.1 d hd) hnot
      · cases hx

/-- In preorder each declaration of a tree stands rightly to all after it. -/
theorem pairwise_declarations (t : SyntaxTree) (h : t.WellPlaced file.text) :
    ∀ k, (placesFrom k (t.declarations file)).Pairwise Follows := by
  induction t using ind with
  | h i cs ih =>
    intro k
    have hin : ∀ k, (placesFrom k (declarations.inChildren file cs)).Pairwise Follows :=
      pairwise_inChildren h.2.2.2.1 (fun c hc => h.of_mem hc)
        (fun c hc => ih c hc (h.of_mem hc))
    cases hd : (node i cs).declares file.text with
    | none =>
      rw [declarations_of_none hd]
      exact hin k
    | some d =>
      have hlt := h.start_lt_stop hd
      rw [declarations_of_some hd, Node.placesFrom_singleton, List.pairwise_cons]
      cases hc : d.1.isContainer with
      | false => exact ⟨by simp [Node.declaration, Node.children, placesFrom], .nil⟩
      | true =>
        refine ⟨?_, (hin 0).map _ fun x y hxy => hxy.under k⟩
        intro x hx
        obtain ⟨y, hy, rfl⟩ := List.mem_map.mp hx
        have hy' := within_node h (fun c hc => within_declarations c (h.of_mem hc)) 0 hy
        exact Follows.of_within (congrArg some (h.extentIn_eq hlt)) hy'

end SyntaxTree

/-- Where syntax is placed in a text as its bytes are, the declarations that a visit attaches nest
or follow each other: an extent contains those of all declarations below, and ends no later than
with the first line of every other one after it in preorder. -/
theorem Node.visit_laminar (p : Node) (file : SourceFile) (t : SyntaxTree)
    (h : t.WellPlaced file.text) :
    (places.placesFrom p.children.length
      ((p.visit file t).children.drop p.children.length)).Pairwise Follows := by
  have hnew : (p.visit file t).children.drop p.children.length = t.declarations file := by
    rw [visit, children_attach, List.drop_left]
  rw [hnew]
  exact t.pairwise_declarations h p.children.length

/-- A class in a module, with an end that stands at the start of a line. -/
def SyntaxTree.sample : SyntaxTree :=
  .node { kind := "program", stop := ⟨25, 4, 0⟩ } [
    .node { kind := "module", stop := ⟨24, 3, 3⟩, nameChild := some 1 } [
      .node { kind := "module", named := false, stop := ⟨6, 0, 6⟩ } [],
      .node { kind := "constant", start := ⟨7, 0, 7⟩, stop := ⟨8, 0, 8⟩ } [],
      .node { kind := "class", start := ⟨9, 1, 0⟩, stop := ⟨21, 3, 0⟩, nameChild := some 1 } [
        .node { kind := "class", named := false, start := ⟨9, 1, 0⟩, stop := ⟨14, 1, 5⟩ } [],
        .node { kind := "constant", start := ⟨15, 1, 6⟩, stop := ⟨16, 1, 7⟩ } [],
        .node { kind := "end", named := false, start := ⟨17, 2, 0⟩, stop := ⟨20, 2, 3⟩ } []],
      .node { kind := "end", named := false, start := ⟨21, 3, 0⟩, stop := ⟨24, 3, 3⟩ } []]]

theorem Node.visit_laminar_sample :
    let file : SourceFile := ⟨0, ⟨"a.rb"⟩, "module A\nclass B\nend\nend\n"⟩
    let forest := ((root ⟨"."⟩).visit file SyntaxTree.sample).children
    SyntaxTree.sample.WellPlaced file.text ∧ (places.placesFrom 0 forest).length = 2 ∧
      (places.placesFrom 0 forest).Pairwise Follows := by
  have h : SyntaxTree.sample.WellPlaced "module A\nclass B\nend\nend\n" := by decide +kernel
  exact ⟨h, by decide +kernel, visit_laminar (root ⟨"."⟩) ⟨0, ⟨"a.rb"⟩, _⟩ _ h⟩

end Outline
