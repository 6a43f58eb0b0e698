import Mathlib.Data.List.Flatten
import Mathlib.Order.Basic
import Outline.Proofs.Declaration.Shape

/-! The faults of a syntax tree. They are collected by a search that leaves out whatever does not
count faults inside. Where the nodes with children count right, and the top does, nothing is left
out that way, whatever the leaves count; and where nodes are in document order, so are their
faults. -/
namespace Outline

instance : Preorder Text.Offset where
  le_refl a := .inr ⟨rfl, Nat.le_refl _⟩
  le_trans a b c hab hbc := by
    change a.row < c.row ∨ a.row = c.row ∧ a.column ≤ c.column
    change a.row < b.row ∨ a.row = b.row ∧ a.column ≤ b.column at hab
    change b.row < c.row ∨ b.row = c.row ∧ b.column ≤ c.column at hbc
    omega

namespace SyntaxTree

/-! ### All nodes -/

/-- The nodes of a tree in preorder, named or not. -/
def nodes : SyntaxTree → List SyntaxTree
  | node i cs => node i cs :: nodesAll cs
where
  nodesAll : List SyntaxTree → List SyntaxTree
  | [] => []
  | t :: r => t.nodes ++ nodesAll r

theorem nodesAll_eq_flatMap (cs : List SyntaxTree) : nodes.nodesAll cs = cs.flatMap nodes := by
  induction cs with
  | nil => rfl
  | cons c cs ih => rw [nodes.nodesAll, List.flatMap_cons, ih]

theorem nodes_node (i : SyntaxInfo) (cs : List SyntaxTree) :
    (node i cs).nodes = node i cs :: cs.flatMap nodes := by
  rw [nodes, nodesAll_eq_flatMap]

theorem mem_nodes_self (t : SyntaxTree) : t ∈ t.nodes := by
  cases t
  exact List.mem_cons_self

theorem mem_nodes_of_mem {i : SyntaxInfo} {cs : List SyntaxTree} {c u : SyntaxTree} (hc : c ∈ cs)
    (hu : u ∈ c.nodes) : u ∈ (node i cs).nodes := by
  rw [nodes_node]
  exact List.mem_cons_of_mem _ (List.mem_flatMap.mpr ⟨c, hc, hu⟩)

/-- The nodes that are faults, errors inside errors among them. -/
def faultNodes (t : SyntaxTree) : List SyntaxTree := t.nodes.filter isFault

/-! ### Counting right -/

/-- The node counts faults inside exactly if there is one: itself, or a node below. -/
def CountsRight (t : SyntaxTree) : Prop :=
  t.info.hasError = true ↔ ∃ u ∈ t.nodes, u.isFault = true

instance (t : SyntaxTree) : Decidable t.CountsRight := inferInstanceAs (Decidable (_ ↔ _))

/-- Every node with children counts right. -/
def InnerCountRight (t : SyntaxTree) : Prop := ∀ u ∈ t.nodes, u.children ≠ [] → u.CountsRight

instance (t : SyntaxTree) : Decidable t.InnerCountRight :=
  inferInstanceAs (Decidable (∀ u ∈ t.nodes, u.children ≠ [] → u.CountsRight))

theorem InnerCountRight.of_mem {i : SyntaxInfo} {cs : List SyntaxTree}
    (h : (node i cs).InnerCountRight) {c : SyntaxTree} (hc : c ∈ cs) : c.InnerCountRight :=
  fun u hu => h u (mem_nodes_of_mem hc hu)

theorem CountsRight.faultNodes_eq_nil_iff {t : SyntaxTree} (h : t.CountsRight) :
    t.faultNodes = [] ↔ t.info.hasError = false := by
  rw [faultNodes, List.filter_eq_nil_iff, ← Bool.not_eq_true, not_congr h, not_exists]
  exact forall_congr' fun u => not_and.symm

theorem collectAll_eq {cs : List SyntaxTree}
    (ih : ∀ c ∈ cs, c.collectFaults = c.faultNodes.map (·.info.start)) :
    collectFaults.collectAll cs = ((cs.flatMap nodes).filter isFault).map (·.info.start) := by
  induction cs with
  | nil => rfl
  | cons c cs ihcs =>
    rw [List.forall_mem_cons] at ih
    rw [collectFaults.collectAll, ih.1, ihcs ih.2, List.flatMap_cons, List.filter_append,
      List.map_append]
    rfl

/-- The search that leaves nodes out finds what a search of all nodes does. -/
theorem collectFaults_eq (t : SyntaxTree) (h : t.InnerCountRight) :
    t.collectFaults = t.faultNodes.map (·.info.start) := by
  induction t using ind with
  | h i cs ih =>
    have hcs := collectAll_eq fun c hc => ih c hc (h.of_mem hc)
    have hbelow : (if i.hasError then collectFaults.collectAll cs else []) =
        ((cs.flatMap nodes).filter isFault).map (·.info.start) := by
      split
      · exact hcs
      · rename_i hno
        -- without children there is nothing below; else the node counts right, and counts nothing
        by_cases hnil : cs = []
        · rw [hnil]
          rfl
        · have hnone : (node i cs).faultNodes = [] :=
            (h _ (mem_nodes_self _) hnil).faultNodes_eq_nil_iff.mpr (Bool.of_not_eq_true hno)
          rw [faultNodes, nodes_node, List.filter_cons] at hnone
          split at hnone
          · cases hnone
          · rw [hnone]
            rfl
    rw [collectFaults, hbelow, faultNodes, nodes_node, List.filter_cons]
    change _ = List.map _ (if (i.fault != .none) = true then _ else _)
    split <;> rfl

theorem faults_eq {t : SyntaxTree} (ht : t.CountsRight) (h : t.InnerCountRight) :
    t.faults = t.faultNodes.map (·.info.start) := by
  unfold faults hasErrors
  split
  · exact t.collectFaults_eq h
  · rename_i hno
    rw [ht.faultNodes_eq_nil_iff.mpr (Bool.of_not_eq_true hno)]
    rfl

/-! ### Document order -/

/-- No node ends before it starts, and children are inside their parents, one after the other. -/
def InOrder (t : SyntaxTree) : Prop :=
  ∀ u ∈ t.nodes, u.info.start ≤ u.info.stop ∧
    (∀ c ∈ u.children, u.info.start ≤ c.info.start ∧ c.info.stop ≤ u.info.stop) ∧
    u.children.Pairwise fun a b => a.info.stop ≤ b.info.start

instance (t : SyntaxTree) : Decidable t.InOrder :=
  inferInstanceAs (Decidable (∀ u ∈ t.nodes, _ ∧ _ ∧ _))

theorem InOrder.of_mem {i : SyntaxInfo} {cs : List SyntaxTree} (h : (node i cs).InOrder)
    {c : SyntaxTree} (hc : c ∈ cs) : c.InOrder :=
  fun u hu => h u (mem_nodes_of_mem hc hu)

/-- All nodes of a tree start inside it. -/
theorem InOrder.start_mem {t : SyntaxTree} (h : t.InOrder) :
    ∀ u ∈ t.nodes, t.info.start ≤ u.info.start ∧ u.info.start ≤ t.info.stop := by
  induction t using ind with
  | h i cs ih =>
    intro u hu
    obtain ⟨hle, hinside, -⟩ := h _ (mem_nodes_self _)
    rw [nodes_node, List.mem_cons, List.mem_flatMap] at hu
    rcases hu with rfl | ⟨c, hc, hu⟩
    · exact ⟨le_refl _, hle⟩
    · obtain ⟨hstart, hstop⟩ := hinside c hc
      obtain ⟨hfrom, hto⟩ := ih c hc (h.of_mem hc) u hu
      exact ⟨le_trans hstart hfrom, le_trans hto hstop⟩

/-- In preorder, nodes start one after the other. -/
theorem InOrder.pairwise_nodes {t : SyntaxTree} (h : t.InOrder) :
    t.nodes.Pairwise fun u v => u.info.start ≤ v.info.start := by
  induction t using ind with
  | h i cs ih =>
    obtain ⟨-, -, hsiblings⟩ := h _ (mem_nodes_self _)
    rw [nodes_node, List.pairwise_cons, List.pairwise_flatMap]
    refine ⟨fun u hu => ?_, fun c hc => ih c hc (h.of_mem hc), ?_⟩
    · obtain ⟨c, hc, hu⟩ := List.mem_flatMap.mp hu
      exact (h.start_mem u (mem_nodes_of_mem hc hu)).1
    · refine hsiblings.imp_of_mem fun {a b} ha hb hab u hu v hv => ?_
      calc u.info.start ≤ a.info.stop := ((h.of_mem ha).start_mem u hu).2
        _ ≤ b.info.start := hab
        _ ≤ v.info.start := ((h.of_mem hb).start_mem v hv).1

/-! ### The report -/

/-- Where nodes count right and are in order, all faults are found, in order, and the report tells
how many there are and where the first one starts; a tree passes exactly if it has none. -/
theorem check_exact {t : SyntaxTree} (ht : t.CountsRight) (hinner : t.InnerCountRight)
    (hord : t.InOrder) :
    t.faults = t.faultNodes.map (·.info.start) ∧
      t.faults.Pairwise (· ≤ ·) ∧
      (t.check = .ok () ↔ ∀ u ∈ t.nodes, u.isFault = false) ∧
      (t.hasErrors = false ↔ ∀ u ∈ t.nodes, u.isFault = false) ∧
      (∀ u, t.faultNodes = [u] →
        t.check = .error (.one (u.info.start.row + 1) (u.info.start.column + 1))) ∧
      (2 ≤ t.faultNodes.length → ∃ u ∈ t.faultNodes,
        (∀ v ∈ t.faultNodes, u.info.start ≤ v.info.start) ∧
        t.check = .error (.many t.faultNodes.length (u.info.start.row + 1)
          (u.info.start.column + 1))) := by
  have hfaults := faults_eq ht hinner
  have hsorted : t.faultNodes.Pairwise fun u v => u.info.start ≤ v.info.start :=
    hord.pairwise_nodes.filter isFault
  have hnone : (∀ u ∈ t.nodes, u.isFault = false) ↔ t.faultNodes = [] := by
    rw [faultNodes, List.filter_eq_nil_iff]
    simp
  refine ⟨hfaults, ?_, ?_, ?_, fun u hu => ?_, fun hlen => ?_⟩
  · rw [hfaults, List.pairwise_map]
    exact hsorted
  · rw [hnone, check, hfaults]
    match t.faultNodes with
    | [] => simp
    | [u] => simp
    | u :: v :: rest => simp
  · rw [hnone]
    exact ht.faultNodes_eq_nil_iff.symm
  · rw [check, hfaults, hu]
    rfl
  · match h : t.faultNodes, hlen with
    | u :: v :: rest, _ =>
      rw [h, List.pairwise_cons] at hsorted
      refine ⟨u, List.mem_cons_self, fun w hw => ?_, ?_⟩
      · rcases List.mem_cons.mp hw with rfl | hw
        · exact le_refl _
        · exact hsorted.1 w hw
      · rw [check, hfaults, h]
        simp

/-- An error inside an error, and a missing token that does not count itself. -/
def faulty : SyntaxTree :=
  .node { kind := "program", hasError := true, stop := ⟨13, 1, 6⟩ } [
    .node { kind := "ERROR", fault := .error, hasError := true, stop := ⟨6, 0, 6⟩ } [
      .node { kind := "class", named := false, stop := ⟨5, 0, 5⟩, hasError := true } [],
      .node { kind := "ERROR", fault := .error, start := ⟨5, 0, 5⟩, stop := ⟨6, 0, 6⟩ } []],
    .node { kind := "call", hasError := true, start := ⟨7, 1, 0⟩, stop := ⟨13, 1, 6⟩ } [
      .node { kind := "identifier", start := ⟨7, 1, 0⟩, stop := ⟨13, 1, 6⟩ } [],
      .node { kind := ")", named := false, fault := .missing, start := ⟨13, 1, 6⟩,
              stop := ⟨13, 1, 6⟩ } []]]

theorem check_exact_faulty :
    faulty.CountsRight ∧ faulty.InnerCountRight ∧ faulty.InOrder ∧
      faulty.faultNodes.length = 3 ∧ faulty.check = .error (.many 3 1 1) ∧
      ∃ u ∈ faulty.faultNodes, (∀ v ∈ faulty.faultNodes, u.info.start ≤ v.info.start) ∧
        faulty.check = .error (.many faulty.faultNodes.length (u.info.start.row + 1)
          (u.info.start.column + 1)) := by
  have hright : faulty.CountsRight := by decide
  have hinner : faulty.InnerCountRight := by decide
  have hord : faulty.InOrder := by decide
  have hlen : faulty.faultNodes.length = 3 := rfl
  exact ⟨hright, hinner, hord, hlen, rfl,
    (check_exact hright hinner hord).2.2.2.2.2 (by rw [hlen]; decide)⟩

end SyntaxTree

end Outline
