import Outline.Ruby.Opened
import Outline.Ruby.Table
import Outline.Text.Offset

/-! Parse trees with what the parser needs to know about them at a glance: their extent, the cost of
the errors in them, and what their text leaves open. -/
namespace Outline.Parse

open Text Ruby Grammar

/-- What a tree is an instance of. `skipped` is a stretch of skipped tokens inside an error. -/
inductive Label where
  | symbol (s : Symbol)
  | skipped
  | error
deriving Repr, DecidableEq, Inhabited

namespace Label

def terminal (i : Nat) : Label := .symbol (.terminal i)

/-- Terminals come before phrases, and both before the labels of errors. -/
def order : Label → Nat
  | .symbol (.terminal i) => i
  | .symbol (.phrase i) => grammar.terminals + i
  | .skipped => grammar.terminals + grammar.phrases.size
  | .error => grammar.terminals + grammar.phrases.size + 1

def visibility : Label → Visibility
  | .symbol s => grammar.visibility s
  | .skipped => .hidden
  | .error => .named

end Label

/-- What is known of a tree without looking at its parts. -/
structure Summary where
  label : Label
  /-- The text before the tree that belongs to no token. -/
  padding : Offset := {}
  size : Offset := {}
  /-- Stands where the grammar did not ask for it. -/
  extra : Bool := false
  /-- A token put in to repair the text. -/
  missing : Bool := false
  /-- Reads as a captured word. -/
  word : Bool := false
  /-- The production whose names its parts show; 0 for none. -/
  production : Nat := 0
  /-- The cost of the errors inside, without that of being missing. -/
  cost : Nat := 0
  /-- The nodes that show as its parts, and those at any depth. -/
  shownParts : Nat := 0
  shownInside : Nat := 0
  /-- The terminal of the first token, or the label itself. -/
  first : Label
  /-- What a mark leaves open, as far as that is recorded. -/
  record : Option Opened := none
  /-- Whether a mark is inside. -/
  marked : Bool := false
  /-- Whether a mark inside changed what is open. -/
  changes : Bool := false
deriving Inhabited

inductive Tree where
  | node (summary : Summary) (parts : List Tree)
deriving Inhabited

namespace Tree

def summary : Tree → Summary
  | node s _ => s

def parts : Tree → List Tree
  | node _ ps => ps

def label (t : Tree) : Label := t.summary.label
def extra (t : Tree) : Bool := t.summary.extra
def size (t : Tree) : Offset := t.summary.size
def padding (t : Tree) : Offset := t.summary.padding

/-- The whole extent, padding included. -/
def reach (t : Tree) : Offset := t.padding + t.size

def visible (t : Tree) : Bool := t.label.visibility != .hidden

def withExtra (t : Tree) (b : Bool) : Tree := node { t.summary with extra := b } t.parts

/-! ### Costs -/

/-- What an error costs: one for being there, and more for each token, byte and line it spans. -/
def costOfRecovery : Nat := 500
def costOfMissing : Nat := 110
def costOfToken : Nat := 100
def costOfByte : Nat := 1
def costOfLine : Nat := 30

/-- The cost of the errors in a tree. -/
def cost (t : Tree) : Nat :=
  if t.summary.missing then costOfMissing + costOfRecovery else t.summary.cost

/-! ### Building -/

/-- A token from its label and extent; the end of the text counts as standing anywhere. -/
def leaf (label : Label) (padding size : Offset) : Tree :=
  node { label, padding, size, first := label, extra := label = .terminal 0 } []

/-- The names that a production shows for its parts. -/
def shownNames (p : Nat) : List (Option Shown) :=
  if p = 0 then [] else (grammar.productions.getD p default).steps.toList.map (·.shown)

/-- The counts of trees side by side, with the names shown for those that are steps of a
production. -/
def gather (inError : Bool) : List Tree → List (Option Shown) → Summary → Summary
  | [], _, s => s
  | t :: rest, names, s =>
    let c := t.summary
    let renamed := !c.extra && c.label ≠ .terminal 0 && (names.headD none).isSome
    let seen := renamed || t.visible
    let skippedCost :=
      if inError && !c.extra && !(c.label = .error && t.parts.isEmpty) then
        if t.visible then costOfToken
        else if t.parts.isEmpty then 0 else costOfToken * c.shownParts
      else 0
    let s := { s with
      changes := s.changes || c.changes,
      marked := s.marked || c.marked,
      cost := s.cost + (if c.label = .skipped then 0 else t.cost) + skippedCost,
      shownParts := s.shownParts +
        (if seen then 1 else if t.parts.isEmpty then 0 else c.shownParts),
      shownInside := s.shownInside + c.shownInside + (if seen then 1 else 0) }
    gather inError rest (if c.extra then names else names.drop 1) s

/-- A tree over its parts. -/
def ofParts (label : Label) (parts : List Tree) (production : Nat) : Tree :=
  let inError := label = .error || label = .skipped
  let s := gather inError parts (shownNames production)
    { label, production, first := (parts.head?.map (·.summary.first)).getD label }
  let padding := (parts.head?.map (·.padding)).getD {}
  let size := match parts with
    | [] => {}
    | t :: rest => rest.foldl (fun o u => o + u.reach) t.size
  let extent := costOfByte * size.bytes + costOfLine * size.row
  node { s with
    padding, size, cost := if inError then s.cost + costOfRecovery + extent else s.cost }
    parts

/-- Trees without those at their end that stand anywhere, and the latter. -/
def splitTrailing (ts : List Tree) : List Tree × List Tree :=
  let trailing := (ts.reverse.takeWhile (·.extra)).reverse
  (ts.take (ts.length - trailing.length), trailing)

/-- The last mark in a tree. -/
def lastMark (t : Tree) : Option Tree :=
  if t.summary.marked then go t else none
where
  go : Tree → Option Tree
  | node s [] => some (node s [])
  | node _ (p :: ps) => goList (p :: ps)
  goList : List Tree → Option Tree
  | [] => none
  | p :: ps => match goList ps with
    | some m => some m
    | none => if p.summary.marked then go p else none

/-- What is recorded to be open after a mark. -/
def openAfter : Option Tree → Option Opened
  | some (node s []) => if s.marked then s.record else none
  | _ => none

/-- How many nodes a tree adds to those read so far. -/
def nodeCount (t : Tree) : Nat :=
  t.summary.shownInside + (if t.visible then 1 else 0) + (if t.label = .skipped then 1 else 0)

/-! ### Comparing -/

/-- The order of two trees by label, then by number of parts, then part by part. -/
def compare : Tree → Tree → Ordering
  | node s ps, node t qs =>
    (Ord.compare s.label.order t.label.order).then
      ((Ord.compare ps.length qs.length).then (compareParts ps qs))
where
  compareParts : List Tree → List Tree → Ordering
  | p :: ps, q :: qs => (compare p q).then (compareParts ps qs)
  | _, _ => .eq

/-- Whether trees between the same two places stand for the same reading. -/
def sameReading (a b : Option Tree) : Bool :=
  match a, b with
  | none, none => true
  | some a, some b =>
    a.label = b.label &&
      (a.cost > 0 && b.cost > 0 ||
        a.padding.bytes = b.padding.bytes && a.size.bytes = b.size.bytes &&
        a.parts.length = b.parts.length && a.extra = b.extra &&
        openAfter (some a) = openAfter (some b))
  | _, _ => false

/-- Whether tree `b` is a better result than `a`. -/
def better (a b : Tree) : Bool :=
  if b.cost ≠ a.cost then b.cost < a.cost
  else a.cost > 0 || compare a b == .gt

end Tree

end Outline.Parse
