import Outline.Declaration.Node

/-! Walking and searching outlines in preorder: a node, then what is below it, child by child. -/
namespace Outline.Node

/-! ### Walking with a stack -/

/-- How many nodes a tree has. -/
def size : Node → Nat
  | mk _ _ _ cs => 1 + sizeAll cs
where
  sizeAll : List Node → Nat
  | [] => 0
  | n :: r => n.size + sizeAll r

theorem sizeAll_append (a b : List Node) :
    size.sizeAll (a ++ b) = size.sizeAll a + size.sizeAll b := by
  induction a with
  | nil => simp [size.sizeAll]
  | cons n r ih => simp [size.sizeAll, ih]; omega

/-- Takes the top of the stack and puts its children in its place, until the stack is empty. -/
def walkFrom : List Node → List Node
  | [] => []
  | n :: stack => n :: walkFrom (n.children ++ stack)
termination_by stack => size.sizeAll stack
decreasing_by
  cases n
  simp [sizeAll_append, size.sizeAll, size, children]

/-- All nodes of a tree in preorder. -/
def walk (n : Node) : List Node := walkFrom [n]

/-- How many nodes are below a node. -/
def descendantCount (n : Node) : Nat := n.walk.length - 1

/-! ### Searching by recursion -/

/-- Runs a test with memory over a tree in preorder, keeping the nodes it accepts in front of those
found before, last first. -/
def searchWith {σ : Type} (test : Node → StateM σ Bool) : Node → List Node → StateM σ (List Node)
  | mk k n o cs, found => do
    let here := mk k n o cs
    let found := if ← test here then here :: found else found
    inChildren cs found
where
  inChildren : List Node → List Node → StateM σ (List Node)
  | [], found => return found
  | c :: r, found => do inChildren r (← searchWith test c found)

/-- The nodes that a test with memory accepts, in preorder. -/
def findAllWith {σ : Type} (test : Node → StateM σ Bool) (n : Node) : StateM σ (List Node) := do
  return (← searchWith test n []).reverse

/-- The nodes that satisfy `p`, in preorder. -/
def findAll (p : Node → Bool) (n : Node) : List Node :=
  ((findAllWith (fun m => (pure (p m) : StateM Unit Bool)) n).run ()).1

def findByName (n : Node) (name : String) : List Node := n.findAll (·.name == some name)
def findByKind (n : Node) (kind : Kind) : List Node := n.findAll (·.kind == kind)

/-- The nodes of a tree in preorder with their depths. -/
def rows (depth : Nat) : Node → List (Nat × Node)
  | mk k n o cs => (depth, mk k n o cs) :: rowsAll (depth + 1) cs
where
  rowsAll (depth : Nat) : List Node → List (Nat × Node)
  | [] => []
  | c :: r => c.rows depth ++ rowsAll depth r

end Outline.Node
