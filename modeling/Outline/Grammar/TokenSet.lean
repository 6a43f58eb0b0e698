/-! Sets of terminals, as the bits of a number. -/
namespace Outline.Grammar

structure TokenSet where
  bits : Nat := 0
deriving Repr, DecidableEq, Inhabited

namespace TokenSet

def empty : TokenSet := ⟨0⟩
def single (i : Nat) : TokenSet := ⟨1 <<< i⟩
def has (s : TokenSet) (i : Nat) : Bool := s.bits.testBit i
def union (s t : TokenSet) : TokenSet := ⟨s.bits ||| t.bits⟩
def insert (s : TokenSet) (i : Nat) : TokenSet := s.union (single i)

instance : Union TokenSet := ⟨union⟩

/-- The members below `n`, in order. -/
def members (s : TokenSet) (n : Nat) : List Nat := (List.range n).filter s.has

/-- Folds the words of the number, so that sets which differ in late members differ. -/
def hash (s : TokenSet) : UInt64 :=
  let word (k : Nat) : UInt64 := (s.bits >>> (64 * k)).toUInt64
  mixHash (word 0) (mixHash (word 1) (word 2))

instance : Hashable TokenSet := ⟨hash⟩

@[simp] theorem has_union (s t : TokenSet) (i : Nat) : (s ∪ t).has i = (s.has i || t.has i) :=
  Nat.testBit_or ..

@[simp] theorem has_empty (i : Nat) : empty.has i = false := Nat.zero_testBit i

theorem has_single (i j : Nat) : (single i).has j = decide (i = j) := by
  simp [single, has, Nat.shiftLeft_eq, Nat.testBit_two_pow]

end TokenSet

end Outline.Grammar
