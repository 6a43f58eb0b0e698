/-! Sets of characters as ranges of code points. The ranges of a set ascend and do not touch. -/
namespace Outline.Unicode

structure CodeSet where
  ranges : List (Nat × Nat)
deriving Repr, DecidableEq, Inhabited

namespace CodeSet

/-- The last code point. -/
def last : Nat := 0x10ffff

def has (s : CodeSet) (n : Nat) : Bool := s.ranges.any fun r => r.1 ≤ n && n ≤ r.2

def contains (s : CodeSet) (c : Char) : Bool := s.has c.toNat

def empty : CodeSet := ⟨[]⟩
def all : CodeSet := ⟨[(0, last)]⟩
def one (c : Char) : CodeSet := ⟨[(c.toNat, c.toNat)]⟩

/-- Puts a range in front of ranges that start no earlier, joining what touches. -/
def joinFront (r : Nat × Nat) : List (Nat × Nat) → List (Nat × Nat)
  | [] => [r]
  | t :: rest => if t.1 ≤ r.2 + 1 then joinFront (r.1, max r.2 t.2) rest else r :: t :: rest

/-- Ranges in ascending order, joined where they touch. -/
def joinAll : List (Nat × Nat) → List (Nat × Nat)
  | [] => []
  | r :: rest => joinFront r (joinAll rest)

/-- The set of all code points in some ranges, given in any order. -/
def ofRanges (rs : List (Nat × Nat)) : CodeSet :=
  ⟨joinAll (rs.mergeSort fun a b => a.1 ≤ b.1)⟩

def union (s t : CodeSet) : CodeSet := ofRanges (s.ranges ++ t.ranges)

/-- The gaps between ranges that ascend, from `n` to `top`. -/
def gaps (top : Nat) (n : Nat) : List (Nat × Nat) → List (Nat × Nat)
  | [] => if n ≤ top then [(n, top)] else []
  | r :: rest =>
    if n < r.1 then (n, r.1 - 1) :: gaps top (r.2 + 1) rest else gaps top (r.2 + 1) rest

/-- The code points up to `top` that are not in a set. -/
def complement (s : CodeSet) (top : Nat := last) : CodeSet := ⟨gaps top 0 s.ranges⟩

def inter (s t : CodeSet) : CodeSet :=
  ofRanges (s.ranges.flatMap fun a => t.ranges.filterMap fun b =>
    if max a.1 b.1 ≤ min a.2 b.2 then some (max a.1 b.1, min a.2 b.2) else none)

def diff (s t : CodeSet) : CodeSet := s.inter t.complement

/-- What is in one of two sets and not in the other. -/
def symmDiff (s t : CodeSet) : CodeSet := (s.union t).diff (s.inter t)

/-- Whether all members are ASCII characters. -/
def isAscii (s : CodeSet) : Bool := s.ranges.all (·.2 < 128)

end CodeSet

end Outline.Unicode
