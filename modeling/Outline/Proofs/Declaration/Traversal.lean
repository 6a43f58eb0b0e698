import Mathlib.Algebra.GroupWithZero.Nat
import Mathlib.Data.List.Nodup
import Outline.Proofs.Declaration.Search

/-! Three ways through a tree that agree: the iterator, which keeps a stack with its top at the end
and puts children on it last one first; the recursive preorder; and the search, whose test may have
a memory. The iterator stops after one call for each node and one more, each address of the tree is
passed once, and the search asks its test about each node once, in the order of the iterator. -/
namespace Outline.Node

open Address

/-! ### The iterator -/

/-- One call of the iterator: the node on top of the stack, which is its end, and the stack with the
children of that node in its place, the first of them on top. -/
def next? (stack : List Node) : Option (Node × List Node) :=
  stack.getLast?.map fun n => (n, stack.dropLast ++ n.children.reverse)

/-- The nodes that the iterator gives until it has no more, if that takes no more than so many
calls. -/
def drain : (calls : Nat) → List Node → Option (List Node)
  | 0, _ => none
  | calls + 1, stack =>
    match next? stack with
    | none => some []
    | some (n, stack) => (drain calls stack).map (n :: ·)

theorem next?_reverse_cons (n : Node) (stack : List Node) :
    next? (n :: stack).reverse = some (n, (n.children ++ stack).reverse) := by
  rw [next?, List.reverse_cons, List.getLast?_concat, List.dropLast_concat, List.reverse_append]
  rfl

theorem length_walkFrom (ns : List Node) : (walkFrom ns).length = size.sizeAll ns := by
  fun_induction walkFrom ns with
  | case1 => rfl
  | case2 n stack ih =>
    obtain ⟨k, name, origin, cs⟩ := n
    rw [List.length_cons, ih, sizeAll_append, size.sizeAll, size, children]
    omega

theorem length_walk (n : Node) : n.walk.length = n.size := by
  rw [walk, length_walkFrom, size.sizeAll, size.sizeAll, Nat.add_zero]

/-- The iterator goes the way of the walk from the stack, top first, and needs one call more than
there are nodes. -/
theorem drain_reverse (calls : Nat) (ns : List Node) : drain calls ns.reverse =
    if (walkFrom ns).length < calls then some (walkFrom ns) else none := by
  fun_induction walkFrom ns generalizing calls with
  | case1 => cases calls <;> simp [drain, next?]
  | case2 n stack ih =>
    cases calls with
    | zero => rfl
    | succ calls =>
      rw [drain, next?_reverse_cons]
      simp only [ih, List.length_cons, Nat.add_lt_add_iff_right]
      split <;> rfl

/-! ### The recursive preorder -/

theorem walkFrom_eq_flatMap (cs : List Node) : walkFrom cs = cs.flatMap walk := by
  induction cs with
  | nil => rw [walkFrom, List.flatMap_nil]
  | cons c cs ih => rw [walkFrom_cons, ih, List.flatMap_cons]

theorem descendantCount_eq (n : Node) : n.descendantCount = (walkFrom n.children).length := by
  rw [descendantCount, walk_eq, List.length_cons, Nat.add_sub_cancel]

theorem descendantCount_eq_sum (n : Node) :
    n.descendantCount = (n.children.map fun c => 1 + c.descendantCount).sum := by
  rw [descendantCount_eq, walkFrom_eq_flatMap, List.length_flatMap]
  refine congrArg List.sum (List.map_congr_left fun c _ => ?_)
  rw [descendantCount_eq, walk_eq, List.length_cons, Nat.add_comm]

/-- The node at an address. -/
def at? (n : Node) : Address → Option Node
  | [] => some n
  | i :: a => n.children[i]?.bind (·.at? a)

theorem mem_placesFrom_iff {k : Nat} {cs : List Node}
    (ih : ∀ c ∈ cs, ∀ a m, (a, m) ∈ c.places ↔ c.at? a = some m) (a : Address) (m : Node) :
    (a, m) ∈ places.placesFrom k cs ↔
      ∃ i b, a = (k + i) :: b ∧ cs[i]?.bind (·.at? b) = some m := by
  induction cs generalizing k with
  | nil => simp [places.placesFrom]
  | cons c cs ihcs =>
    rw [List.forall_mem_cons] at ih
    have hunder : (a, m) ∈ under k c.places ↔ ∃ b, a = k :: b ∧ c.at? b = some m := by
      simp only [under, List.mem_map, Prod.exists, Prod.mk.injEq, ih.1]
      constructor
      · rintro ⟨b, m', hb, rfl, rfl⟩
        exact ⟨b, rfl, hb⟩
      · rintro ⟨b, rfl, hb⟩
        exact ⟨b, m, hb, rfl, rfl⟩
    rw [places.placesFrom, List.mem_append, hunder, ihcs ih.2]
    constructor
    · rintro (⟨b, rfl, hb⟩ | ⟨i, b, rfl, hb⟩)
      · exact ⟨0, b, rfl, hb⟩
      · exact ⟨i + 1, b, by rw [Nat.add_assoc, Nat.add_comm 1], hb⟩
    · rintro ⟨i, b, rfl, hb⟩
      cases i with
      | zero => exact .inl ⟨b, rfl, hb⟩
      | succ i => exact .inr ⟨i, b, by rw [Nat.add_assoc, Nat.add_comm 1], hb⟩

/-- The places of a tree are its addresses with the nodes that they lead to. -/
theorem mem_places_iff : (n : Node) → ∀ a m, (a, m) ∈ n.places ↔ n.at? a = some m
  | mk kind name origin cs, a, m => by
    rw [places_eq, List.mem_cons, children, mem_placesFrom_iff (inChildren cs)]
    cases a with
    | nil => simp [at?, eq_comm]
    | cons i a => simp [at?, children]
where
  inChildren : (cs : List Node) → ∀ c ∈ cs, ∀ a m, (a, m) ∈ c.places ↔ c.at? a = some m
  | [] => by simp
  | c :: cs => by
    rw [List.forall_mem_cons]
    exact ⟨mem_places_iff c, inChildren cs⟩

theorem nodup_placesFrom {k : Nat} {cs : List Node} (ih : ∀ c ∈ cs, (c.places.map (·.1)).Nodup) :
    ((places.placesFrom k cs).map (·.1)).Nodup := by
  induction cs generalizing k with
  | nil => exact .nil
  | cons c cs ihcs =>
    rw [List.forall_mem_cons] at ih
    rw [places.placesFrom, List.map_append, List.nodup_append]
    refine ⟨?_, ihcs ih.2, ?_⟩
    · have hunder : (under k c.places).map (·.1) = (c.places.map (·.1)).map (k :: ·) := by
        simp [under]
      rw [hunder]
      exact ih.1.map List.cons_injective
    · -- addresses in the first tree start with its index, those in the others with later ones
      rintro _ ha _ hb rfl
      obtain ⟨x, hx, rfl⟩ := List.mem_map.mp ha
      obtain ⟨y, hy, hxy⟩ := List.mem_map.mp hb
      obtain ⟨z, -, rfl⟩ := List.mem_map.mp hx
      obtain ⟨j, b, hj, hle, -⟩ := exists_cons_of_mem_placesFrom hy
      have hhead := (List.cons.inj (hj.symm.trans hxy)).1
      omega

/-- No address of a tree is passed twice. -/
theorem nodup_places : (n : Node) → (n.places.map (·.1)).Nodup
  | mk kind name origin cs => by
    rw [places_eq, List.map_cons, List.nodup_cons, children]
    refine ⟨fun h => ?_, nodup_placesFrom (inChildren cs)⟩
    obtain ⟨x, hx, hnil⟩ := List.mem_map.mp h
    obtain ⟨j, a, ha, -⟩ := exists_cons_of_mem_placesFrom hx
    cases ha.symm.trans hnil
where
  inChildren : (cs : List Node) → ∀ c ∈ cs, (c.places.map (·.1)).Nodup
  | [] => by simp
  | c :: cs => by
    rw [List.forall_mem_cons]
    exact ⟨nodup_places c, inChildren cs⟩

/-! ### The search -/

variable {σ : Type}

/-- The test with a record of the nodes that it is asked about and of its answers. -/
def recording (test : Node → StateM σ Bool) (n : Node) :
    StateM (σ × List (Node × Bool)) Bool := fun s =>
  let (answer, memory) := (test n).run s.1
  (answer, memory, s.2 ++ [(n, answer)])

/-- The nodes that a record has accepted. -/
def accepted (record : List (Node × Bool)) : List Node := (record.filter (·.2)).map (·.1)

theorem run_foldlM_keepIf_cons {test : Node → StateM σ Bool} {n : Node} {memory memory' : σ}
    {answer : Bool} (h : (test n).run memory = (answer, memory')) (ns found : List Node) :
    ((n :: ns).foldlM (keepIf test) found).run memory =
      (ns.foldlM (keepIf test) (if answer then n :: found else found)).run memory' := by
  have hkeep : (keepIf test found n).run memory =
      (if answer then n :: found else found, memory') := by
    rw [keepIf, StateT.run_bind, h]
    rfl
  rw [List.foldlM_cons, StateT.run_bind, hkeep]
  rfl

/-- Along a list the test is asked about each node once, with the memory that the nodes before have
left; the record says which nodes are kept. -/
theorem foldlM_keepIf_recording (test : Node → StateM σ Bool) (ns found : List Node) (memory : σ)
    (before : List (Node × Bool)) : ∃ record memory',
      (ns.foldlM (keepIf (recording test)) found).run (memory, before) =
        ((accepted record).reverse ++ found, memory', before ++ record) ∧
      (ns.foldlM (keepIf test) found).run memory = ((accepted record).reverse ++ found, memory') ∧
      record.map (·.1) = ns := by
  induction ns generalizing found memory before with
  | nil => exact ⟨[], memory, by rw [List.append_nil]; rfl, rfl, rfl⟩
  | cons n ns ih =>
    cases h : (test n).run memory with
    | mk answer memory₁ =>
    have hrecording : (recording test n).run (memory, before) =
        (answer, memory₁, before ++ [(n, answer)]) := by
      change (let (answer, memory) := (test n).run memory
        (answer, memory, before ++ [(n, answer)])) = _
      rw [h]
    obtain ⟨record, memory', hrecorded, hplain, hns⟩ :=
      ih (if answer then n :: found else found) memory₁ (before ++ [(n, answer)])
    have hfound : (accepted record).reverse ++ (if answer then n :: found else found) =
        (accepted ((n, answer) :: record)).reverse ++ found := by
      cases answer <;> simp [accepted]
    refine ⟨(n, answer) :: record, memory', ?_, ?_, by rw [List.map_cons, hns]⟩
    · rw [run_foldlM_keepIf_cons hrecording, hrecorded, hfound, ← List.append_cons]
    · rw [run_foldlM_keepIf_cons h, hplain, hfound]

theorem run_findAllWith (test : Node → StateM σ Bool) (n : Node) (memory : σ) :
    (n.findAllWith test).run memory =
      (((n.walk.foldlM (keepIf test) []).run memory).1.reverse,
        ((n.walk.foldlM (keepIf test) []).run memory).2) := by
  rw [findAllWith, searchWith_eq_foldlM]
  rfl

/-- A search asks its test about each node once, in the order of the walk, and finds the nodes that
are accepted. -/
theorem exists_record_findAllWith (test : Node → StateM σ Bool) (n : Node) (memory : σ) :
    ∃ record memory',
      (n.findAllWith (recording test)).run (memory, []) = (accepted record, memory', record) ∧
      (n.findAllWith test).run memory = (accepted record, memory') ∧
      record.map (·.1) = n.walk := by
  obtain ⟨record, memory', hrecorded, hplain, hns⟩ :=
    foldlM_keepIf_recording test n.walk [] memory []
  refine ⟨record, memory', ?_, ?_, hns⟩
  · rw [run_findAllWith, hrecorded, List.append_nil, List.reverse_reverse, List.nil_append]
  · rw [run_findAllWith, hplain, List.append_nil, List.reverse_reverse]

/-- The iterator stops after one call more than there are nodes and gives the nodes in preorder, each
address once. A search asks its test about the same nodes in the same order, with the memory that
the test has, and finds those that are accepted; searches by name and by kind are cases of this. A
walk is never empty, so what is below a node can be counted from it. -/
theorem walk_search_agree (n : Node) :
    ((∀ calls, drain calls [n] = if n.size < calls then some n.walk else none) ∧
      n.walk = n :: n.children.flatMap walk ∧
      n.places.map (·.2) = n.walk ∧ (n.places.map (·.1)).Nodup ∧
      ∀ a m, (a, m) ∈ n.places ↔ n.at? a = some m) ∧
    ((∀ (σ : Type) (test : Node → StateM σ Bool) (memory : σ), ∃ record memory',
        (n.findAllWith (recording test)).run (memory, []) = (accepted record, memory', record) ∧
        (n.findAllWith test).run memory = (accepted record, memory') ∧
        record.map (·.1) = n.walk) ∧
      (∀ p, n.findAll p = n.walk.filter p) ∧
      (∀ name, n.findByName name = n.walk.filter (·.name = some name)) ∧
      ∀ kind, n.findByKind kind = n.walk.filter (·.kind = kind)) ∧
    1 ≤ n.walk.length ∧ n.walk.length = 1 + n.descendantCount ∧
      n.descendantCount = (n.children.map fun c => 1 + c.descendantCount).sum := by
  have hlength : n.walk.length = 1 + n.descendantCount := by
    rw [walk_eq, List.length_cons, descendantCount_eq, Nat.add_comm]
  refine ⟨⟨fun calls => ?_, ?_, n.places_map_snd, n.nodup_places, n.mem_places_iff⟩,
    ⟨fun σ test memory => exists_record_findAllWith test n memory, fun p => n.findAll_eq_filter p,
      fun name => ?_, fun kind => ?_⟩, by omega, hlength, n.descendantCount_eq_sum⟩
  · rw [← n.length_walk]
    exact drain_reverse calls [n]
  · rw [walk_eq, walkFrom_eq_flatMap]
  · rw [findByName, findAll_eq_filter]
    exact List.filter_congr fun m _ => beq_eq_decide _ _
  · rw [findByKind, findAll_eq_filter]
    exact List.filter_congr fun m _ => beq_eq_decide _ _

end Outline.Node
