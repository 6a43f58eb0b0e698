import Outline.Proofs.Declaration.Recorded

/-! The shape of a tree that visits have built. Its top is the only root in it; every node below has
a name that is not empty and lines that an extent may have; methods hold nothing; and what is below a
declaration comes from the file of that declaration. Of the syntax it is only asked that no node ends
before it starts, and the syntax of a text is of this kind, with errors in it or without. -/
namespace Outline

attribute [local irreducible] Parse.parse

/-! ### Positions in order -/

namespace Text.Offset

/-- Positions are ordered by their rows, and in one row by their columns. -/
instance : LE Offset := ⟨fun a b => a.row < b.row ∨ a.row = b.row ∧ a.column ≤ b.column⟩

instance (a b : Offset) : Decidable (a ≤ b) :=
  inferInstanceAs (Decidable (a.row < b.row ∨ a.row = b.row ∧ a.column ≤ b.column))

theorem row_le {a b : Offset} (h : a ≤ b) : a.row ≤ b.row := by
  rcases h with h | ⟨h, -⟩
  · exact Nat.le_of_lt h
  · exact Nat.le_of_eq h

/-- No reach leads back. -/
theorem le_add (a b : Offset) : a ≤ a + b := by
  change a ≤ add a b
  unfold add
  split
  · exact .inr ⟨rfl, Nat.le_add_right _ _⟩
  · exact .inl (Nat.lt_add_of_pos_right (by omega))

end Text.Offset

/-- An end that is not before the start gives lines that an extent may have. -/
theorem Extent.new?_ofSpan (file : SourceFile) {start stop : Text.Offset} (h : start ≤ stop) :
    new? file (ofSpan file start stop).firstLine (ofSpan file start stop).lastLine =
      some (ofSpan file start stop) := by
  have hrow := Text.Offset.row_le h
  have hlines : (ofSpan file start stop).firstLine ≤ (ofSpan file start stop).lastLine := by
    simp only [ofSpan, Bool.and_eq_true, decide_eq_true_eq]
    split <;> omega
  exact if_pos (by simpa [ofSpan] using hlines)

namespace SyntaxTree

/-- No node ends before it starts. -/
def Ordered : SyntaxTree → Prop
  | node i cs => i.start ≤ i.stop ∧ allOrdered cs
where
  allOrdered : List SyntaxTree → Prop
  | [] => True
  | c :: r => c.Ordered ∧ allOrdered r

/-- Whether a tree is ordered can be computed. -/
def decideOrdered : (t : SyntaxTree) → Decidable t.Ordered
  | node i cs =>
    have := decideAll cs
    inferInstanceAs (Decidable (i.start ≤ i.stop ∧ Ordered.allOrdered cs))
where
  decideAll : (cs : List SyntaxTree) → Decidable (Ordered.allOrdered cs)
  | [] => inferInstanceAs (Decidable True)
  | c :: r =>
    have := c.decideOrdered
    have := decideAll r
    inferInstanceAs (Decidable (c.Ordered ∧ Ordered.allOrdered r))

instance (t : SyntaxTree) : Decidable t.Ordered := decideOrdered t

theorem Ordered.of_mem {i : SyntaxInfo} {cs : List SyntaxTree} (h : (node i cs).Ordered)
    {c : SyntaxTree} (hc : c ∈ cs) : c.Ordered := by
  obtain ⟨-, hall⟩ := h
  induction cs with
  | nil => cases hc
  | cons d cs ih =>
    rcases List.mem_cons.mp hc with rfl | hc
    · exact hall.1
    · exact ih hc hall.2

/-- Whatever tree is shown, each node ends where its size leads to from its start. -/
theorem ordered_showTree : (t : Parse.Tree) → (start : Text.Offset) →
    (as : Option Grammar.Shown) → (showTree t start as).Ordered
  | .node s ps, start, as => by
    rw [showTree]
    exact ⟨Text.Offset.le_add start _, ordered_showParts ps _ true start [] trivial⟩
where
  ordered_showParts : (ps : List Parse.Tree) → (names : List (Option Grammar.Shown)) →
      (first : Bool) → (here : Text.Offset) → (after : List SyntaxTree) →
      Ordered.allOrdered after →
      Ordered.allOrdered (showTree.showParts ps names first here after)
  | [], _, _, _, _, h => h
  | .node s ps :: rest, names, first, here, after, h => by
    rw [showTree.showParts]
    have hrest (names : List (Option Grammar.Shown)) (here : Text.Offset) :=
      ordered_showParts rest names false here after h
    split
    · exact ⟨ordered_showTree (.node s ps) _ _, hrest _ _⟩
    · exact ordered_showParts ps _ true _ _ (hrest _ _)

/-- The syntax of every text is ordered, that of a text with faults too. -/
theorem ordered_ofText (text : String) : (ofText text).Ordered :=
  ordered_showTree _ _ _

end SyntaxTree

/-! ### Declarations of one file -/

/-- What holds of a declaration in a file, wherever it stands. -/
structure Node.DeclaredIn (file : SourceFile) (n : Node) : Prop where
  kind_ne : n.kind ≠ .root
  named : ∃ name, n.name = some name ∧ name ≠ ""
  placed : ∃ e, n.extent = some e ∧ Extent.new? file e.firstLine e.lastLine = some e
  leaf : n.kind.isMethod = true → n.children = []

theorem Extent.file_of_new? {file : SourceFile} {first last : Nat} {e : Extent}
    (h : new? file first last = some e) : e.file = file := by
  unfold new? at h
  split at h
  · exact (Option.some.inj h) ▸ rfl
  · cases h

theorem Node.filePath_of_extent {n : Node} {e : Extent} (h : n.extent = some e) :
    n.filePath = e.file.path := by
  unfold extent at h
  unfold filePath
  split at h
  · cases h
  · exact congrArg (·.file.path) (Option.some.inj h)

theorem Node.DeclaredIn.exists_extent {file : SourceFile} {n : Node} (h : n.DeclaredIn file) :
    ∃ e, n.extent = some e ∧ e.file = file := by
  obtain ⟨e, he, hnew⟩ := h.placed
  exact ⟨e, he, Extent.file_of_new? hnew⟩

namespace SyntaxTree

variable {file : SourceFile}

theorem kind_ne_root {t : SyntaxTree} {source : String} {kind : Kind} {name : String}
    (h : t.declares source = some (kind, name)) : kind ≠ .root := by
  simp only [declares, Option.bind_eq_bind, Option.bind_eq_some_iff, Option.pure_def,
    Option.some.injEq, Prod.mk.injEq] at h
  obtain ⟨k, hk, _, -, rfl, -⟩ := h
  unfold Kind.ofSyntax? at hk
  rintro rfl
  split at hk <;> cases hk

theorem declaredIn_declaration {t : SyntaxTree} (ho : t.info.start ≤ t.info.stop) {kind : Kind}
    {name : String} (h : t.declares file.text = some (kind, name)) (children : List Node) :
    (Node.declaration kind name (t.extentIn file)
      (if kind.isContainer then children else [])).DeclaredIn file where
  kind_ne := kind_ne_root h
  named := ⟨name, rfl, declares_name_ne h⟩
  placed := ⟨_, rfl, Extent.new?_ofSpan file ho⟩
  leaf := by
    intro hmethod
    change kind.isMethod = true at hmethod
    rw [Kind.isMethod_eq_not_isContainer, Bool.not_eq_true'] at hmethod
    simp [Node.declaration, Node.children, hmethod]

theorem declaredIn_inChildren {cs : List SyntaxTree}
    (ih : ∀ c ∈ cs, ∀ n ∈ Node.walkFrom (c.declarations file), n.DeclaredIn file) :
    ∀ n ∈ Node.walkFrom (declarations.inChildren file cs), n.DeclaredIn file := by
  intro n hn
  induction cs with
  | nil => simp [declarations.inChildren, Node.walkFrom] at hn
  | cons c cs ihcs =>
    rw [declarations.inChildren, Node.walkFrom_append, List.mem_append] at hn
    rcases hn with hn | hn
    · split at hn
      · exact ih c List.mem_cons_self n hn
      · simp [Node.walkFrom] at hn
    · exact ihcs (fun d hd => ih d (List.mem_cons_of_mem _ hd)) hn

/-- All declarations of a tree are declarations in its file. -/
theorem declaredIn_declarations (t : SyntaxTree) (h : t.Ordered) :
    ∀ n ∈ Node.walkFrom (t.declarations file), n.DeclaredIn file := by
  induction t using ind with
  | h i cs ih =>
    intro n hn
    have hin : ∀ m ∈ Node.walkFrom (declarations.inChildren file cs), m.DeclaredIn file :=
      declaredIn_inChildren fun c hc => ih c hc (h.of_mem hc)
    cases hd : (node i cs).declares file.text with
    | none =>
      rw [declarations_of_none hd] at hn
      exact hin n hn
    | some d =>
      rw [declarations_of_some hd, ← Node.walk, Node.walk_eq, List.mem_cons] at hn
      rcases hn with rfl | hn
      · exact declaredIn_declaration (t := node i cs) h.1 hd _
      · rw [Node.declaration, Node.children] at hn
        split at hn
        · exact hin n hn
        · simp [Node.walkFrom] at hn

end SyntaxTree

/-! ### Trees of many files -/

namespace Node

/-- Nothing but the top is a root, and every tree right under it has the declarations of one
file. -/
structure Outlined (root : Node) : Prop where
  kind_eq : root.kind = .root
  name_eq : root.name = none
  extent_eq : root.extent = none
  children : ∀ c ∈ root.children, ∃ file, ∀ n ∈ c.walk, n.DeclaredIn file

theorem outlined_root (path : Path) : (root path).Outlined :=
  ⟨rfl, rfl, rfl, by simp [root, Node.children]⟩

theorem Outlined.visit {n : Node} (h : n.Outlined) (file : SourceFile) {t : SyntaxTree}
    (ht : t.Ordered) : (n.visit file t).Outlined := by
  obtain ⟨k, name, origin, cs⟩ := n
  refine ⟨h.kind_eq, h.name_eq, h.extent_eq, fun c hc => ?_⟩
  rw [Node.visit, children_attach, List.mem_append] at hc
  rcases hc with hc | hc
  · exact h.children c hc
  · refine ⟨file, fun m hm => t.declaredIn_declarations ht m ?_⟩
    exact mem_walkFrom.mpr ⟨c, hc, hm⟩

/-- A tree after visits of some files with their syntax. -/
def visitAll (n : Node) (visits : List (SourceFile × SyntaxTree)) : Node :=
  visits.foldl (fun n v => n.visit v.1 v.2) n

theorem Outlined.visitAll {n : Node} (h : n.Outlined) {visits : List (SourceFile × SyntaxTree)}
    (hv : ∀ v ∈ visits, v.2.Ordered) : (n.visitAll visits).Outlined := by
  induction visits generalizing n with
  | nil => exact h
  | cons v visits ih =>
    rw [List.forall_mem_cons] at hv
    exact ih (h.visit v.1 hv.1) hv.2

/-- The shape of a built tree, node by node. -/
structure Shape (root : Node) : Prop where
  kind_eq : root.kind = .root
  name_eq : root.name = none
  extent_eq : root.extent = none
  declared : ∀ x ∈ root.places, x.1 ≠ [] → x.2.kind ≠ .root ∧
    (∃ name, x.2.name = some name ∧ name ≠ "") ∧
    ∃ e, x.2.extent = some e ∧ Extent.new? e.file e.firstLine e.lastLine = some e
  leaf : ∀ x ∈ root.places, x.2.kind.isMethod = true → x.2.children = []
  one_file : ∀ x ∈ root.places, ∀ y ∈ root.places, x.1 ≠ [] → x.1 <+: y.1 →
    ∃ d e, x.2.extent = some d ∧ y.2.extent = some e ∧ d.file = e.file

/-- A place below the top is in one of the trees under it, and its address says in which. -/
theorem exists_child_of_mem_places {root : Node} {x : Address × Node} (hx : x ∈ root.places)
    (hne : x.1 ≠ []) : ∃ j c a, root.children[j]? = some c ∧ x.1 = j :: a ∧ x.2 ∈ c.walk := by
  rw [places_eq, List.mem_cons] at hx
  rcases hx with rfl | hx
  · exact absurd rfl hne
  · obtain ⟨j, c, a, hc, ha, hmem⟩ := exists_of_mem_placesFrom hx
    exact ⟨j, c, a, hc, by rw [ha, Nat.zero_add], hmem⟩

theorem Outlined.shape {root : Node} (h : root.Outlined) : root.Shape where
  kind_eq := h.kind_eq
  name_eq := h.name_eq
  extent_eq := h.extent_eq
  declared x hx hne := by
    obtain ⟨j, c, a, hc, -, hmem⟩ := exists_child_of_mem_places hx hne
    obtain ⟨file, hfile⟩ := h.children c (List.mem_of_getElem? hc)
    have hx := hfile x.2 hmem
    obtain ⟨e, he, hnew⟩ := hx.placed
    exact ⟨hx.kind_ne, hx.named, e, he, by rw [Extent.file_of_new? hnew, hnew]⟩
  leaf x hx hmethod := by
    by_cases hne : x.1 = []
    · -- the place at the top is the root, which is no method
      rw [places_eq, List.mem_cons] at hx
      rcases hx with rfl | hx
      · rw [h.kind_eq] at hmethod
        cases hmethod
      · obtain ⟨j, a, ha, -⟩ := exists_cons_of_mem_placesFrom hx
        rw [hne] at ha
        cases ha
    · obtain ⟨j, c, a, hc, -, hmem⟩ := exists_child_of_mem_places hx hne
      obtain ⟨file, hfile⟩ := h.children c (List.mem_of_getElem? hc)
      exact (hfile x.2 hmem).leaf hmethod
  one_file x hx y hy hne hle := by
    obtain ⟨j, c, a, hc, ha, hx⟩ := exists_child_of_mem_places hx hne
    have hney : y.1 ≠ [] := by
      rintro hnil
      rw [hnil, List.prefix_nil] at hle
      exact hne hle
    obtain ⟨k, d, b, hd, hb, hy⟩ := exists_child_of_mem_places hy hney
    -- one address goes on from the other, so both places are in one of the trees
    rw [ha, hb, List.cons_prefix_cons] at hle
    rw [hle.1, hd] at hc
    obtain ⟨file, hfile⟩ := h.children d (List.mem_of_getElem? hd)
    obtain ⟨e, he, hefile⟩ := (hfile x.2 (Option.some.inj hc ▸ hx)).exists_extent
    obtain ⟨f, hf, hffile⟩ := (hfile y.2 hy).exists_extent
    exact ⟨e, f, he, hf, hefile.trans hffile.symm⟩

end Node

end Outline
