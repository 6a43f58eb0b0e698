import Outline.Proofs.Declaration.Places

/-! Searching by recursion goes the way of the walk with a stack: the test is run once on each node,
in preorder, and the nodes it accepts are kept in that order. -/
namespace Outline.Node

variable {σ : Type} (test : Node → StateM σ Bool)

/-- Puts a node that the test accepts in front of those found before. -/
def keepIf (found : List Node) (n : Node) : StateM σ (List Node) := do
  return if ← test n then n :: found else found

theorem searchWith_eq (n : Node) (found : List Node) : searchWith test n found =
    keepIf test found n >>= searchWith.inChildren test n.children := by
  cases n
  rw [searchWith, keepIf, bind_assoc]
  rfl

theorem inChildren_append (cs ds : List Node) (found : List Node) :
    searchWith.inChildren test (cs ++ ds) found =
      searchWith.inChildren test cs found >>= searchWith.inChildren test ds := by
  induction cs generalizing found with
  | nil => rw [List.nil_append, searchWith.inChildren, pure_bind]
  | cons c cs ih =>
    rw [List.cons_append, searchWith.inChildren, searchWith.inChildren, bind_assoc]
    exact bind_congr ih

/-- A search through siblings runs the test along the walk from them. -/
theorem inChildren_eq_foldlM (cs : List Node) (found : List Node) :
    searchWith.inChildren test cs found = (walkFrom cs).foldlM (keepIf test) found := by
  fun_induction walkFrom cs generalizing found with
  | case1 => rw [searchWith.inChildren, List.foldlM_nil]
  | case2 n stack ih =>
    rw [searchWith.inChildren, searchWith_eq, bind_assoc, List.foldlM_cons]
    refine bind_congr fun found => ?_
    rw [← ih, inChildren_append]

theorem searchWith_eq_foldlM (n : Node) (found : List Node) :
    searchWith test n found = n.walk.foldlM (keepIf test) found := by
  rw [searchWith_eq, walk_eq, List.foldlM_cons]
  exact bind_congr fun found => inChildren_eq_foldlM test n.children found

/-- The nodes found are those of the walk that satisfy `p`. -/
theorem findAll_eq_filter (p : Node → Bool) (n : Node) : n.findAll p = n.walk.filter p := by
  let test : Node → StateM Unit Bool := fun m => pure (p m)
  have hkeep (ns found : List Node) :
      (ns.foldlM (keepIf test) found).run () = ((ns.filter p).reverse ++ found, ()) := by
    induction ns generalizing found with
    | nil => rfl
    | cons m ns ih =>
      rw [List.foldlM_cons, keepIf, pure_bind, pure_bind, ih]
      cases h : p m <;> simp [h]
  have hsearch : (searchWith test n []).run () = ((n.walk.filter p).reverse, ()) := by
    rw [searchWith_eq_foldlM, hkeep, List.append_nil]
  have hfind : n.findAll p = ((searchWith test n []).run ()).1.reverse := rfl
  rw [hfind, hsearch, List.reverse_reverse]

end Outline.Node
