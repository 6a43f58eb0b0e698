/-! Token patterns: regular expressions over characters, read one character at a time. What is left
of a pattern after a character is a list of patterns, any of which may go on. -/
namespace Outline.Grammar

/-- Characters by inclusive ranges of code points, or all characters outside of them. -/
structure CharSet where
  ranges : List (Nat × Nat)
  negated : Bool := false
deriving Repr, DecidableEq

namespace CharSet

def contains (s : CharSet) (c : Char) : Bool :=
  s.ranges.any (fun r => r.1 ≤ c.toNat && c.toNat ≤ r.2) != s.negated

def one (c : Char) : CharSet := ⟨[(c.toNat, c.toNat)], false⟩

/-- The characters of a string. -/
def of (s : String) : CharSet := ⟨s.toList.map fun c => (c.toNat, c.toNat), false⟩

def range (a b : Char) : CharSet := ⟨[(a.toNat, b.toNat)], false⟩

/-- The union of two sets, neither of which is negated. -/
def union (s t : CharSet) : CharSet := ⟨s.ranges ++ t.ranges, false⟩

instance : Append CharSet := ⟨union⟩

def except (s : CharSet) : CharSet := ⟨s.ranges, !s.negated⟩

/-- The blanks of ASCII: tab to carriage return, and space. -/
def blank : CharSet := ⟨[(9, 13), (32, 32)], false⟩

def digit : CharSet := range '0' '9'

def hex : CharSet := digit ++ range 'a' 'f' ++ range 'A' 'F'

end CharSet

inductive Pattern where
  | empty
  | chars (s : CharSet)
  /-- A fixed spelling. -/
  | word (cs : List Char)
  | seq (a b : Pattern)
  | alt (a b : Pattern)
  /-- Any number of repetitions. -/
  | many (a : Pattern)
deriving Repr, DecidableEq

namespace Pattern

instance : Append Pattern := ⟨seq⟩
instance : OrOp Pattern := ⟨alt⟩

def text (s : String) : Pattern := word s.toList
def opt (a : Pattern) : Pattern := alt a empty
def many1 (a : Pattern) : Pattern := seq a (many a)

/-- From `lo` to `lo + more` repetitions. -/
def times (a : Pattern) (lo more : Nat) : Pattern :=
  match lo, more with
  | 0, 0 => empty
  | 0, k + 1 => opt (seq a (times a 0 k))
  | n + 1, k => seq a (times a n k)

/-- Whether the pattern matches the empty text. -/
def nullable : Pattern → Bool
  | empty => true
  | chars _ => false
  | word cs => cs.isEmpty
  | seq a b => a.nullable && b.nullable
  | alt a b => a.nullable || b.nullable
  | many _ => true

/-- What follows `a`, dropping an `a` with nothing left to match. -/
def andThen (a b : Pattern) : Pattern :=
  match a with
  | empty => b
  | word [] => b
  | _ => seq a b

/-- The patterns left after reading `c`. -/
def after (c : Char) : Pattern → List Pattern
  | empty => []
  | chars s => if s.contains c then [empty] else []
  | word [] => []
  | word (d :: r) => if c = d then [word r] else []
  | seq a b => (a.after c).map (·.andThen b) ++ if a.nullable then b.after c else []
  | alt a b => a.after c ++ b.after c
  | many a => (a.after c).map (·.andThen (many a))

end Pattern

end Outline.Grammar
