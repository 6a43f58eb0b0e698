import Outline.Grammar.Basic

/-! Items: a production with a dot before one of its steps, or at its end. Items that look alike
from the dot on are one: what they have read is told apart only where its fields matter. -/
namespace Outline.Grammar

namespace Grammar

/-- The phrases that have a field in them, their own or that of a hidden part. -/
def fielded (g : Grammar) : Array Bool :=
  let inherits (known : Array Bool) (s : Step Symbol) : Bool :=
    s.field.isSome || match s.symbol with
      | .phrase i => s.shown.isNone && g.visibility s.symbol == .hidden && known.getD i false
      | _ => false
  let pass (known : Array Bool) : Array Bool :=
    g.productions.foldl (fun k p =>
      if p.steps.any (inherits k) then k.setIfInBounds p.phrase true else k) known
  (List.range g.phrases.size).foldl (fun k _ => pass k) (Array.replicate g.phrases.size false)

end Grammar

/-- What two items must share to be one. -/
structure ItemView where
  phrase : Nat
  dot : Nat
  /-- The markings of the step just read. -/
  read : Option (Option Int × Option Assoc)
  /-- The symbols read, when one of them lends its fields. -/
  lent : Option (List Symbol)
  labels : List (Option Shown × Option String)
  ahead : List (Symbol × Option Int × Option Assoc)
deriving DecidableEq, Hashable

/-- Where the dot of an item stands. -/
structure Item where
  production : Nat
  dot : Nat
deriving Inhabited

/-- All items by number: those of a production follow each other. -/
structure Items where
  all : Array Item
  /-- The item that stands for each one. -/
  same : Array Nat
  /-- The first item of each production. -/
  start : Array Nat

namespace Items

def view (g : Grammar) (fielded : Array Bool) (it : Item) : ItemView :=
  let p := g.productions.getD it.production default
  let steps := p.steps.toList
  let lends (s : Step Symbol) : Bool := match s.symbol with
    | .phrase i => g.visibility s.symbol == .hidden && fielded.getD i false
    | _ => false
  let read := steps.take it.dot
  { phrase := p.phrase, dot := it.dot,
    read := read.getLast?.map fun s => (s.prec, s.assoc),
    lent := if read.any lends then some (read.map (·.symbol)) else none,
    labels := steps.map fun s => (s.shown, s.field),
    ahead := (steps.drop it.dot).map fun s => (s.symbol, s.prec, s.assoc) }

def ofGrammar (g : Grammar) : Items :=
  let fielded := g.fielded
  let lists := g.productions.toList.zipIdx.map fun (p, i) =>
    (List.range (p.steps.size + 1)).map fun d => Item.mk i d
  let start := lists.foldl (fun (acc : Nat × Array Nat) l =>
    (acc.1 + l.length, acc.2.push acc.1)) (0, #[])
  let all := lists.flatten.toArray
  let same := all.toList.zipIdx.foldl
    (fun (acc : Std.HashMap ItemView Nat × Array Nat) (it, i) =>
      let v := view g fielded it
      match acc.1[v]? with
      | some j => (acc.1, acc.2.push j)
      | none => (acc.1.insert v i, acc.2.push i))
    ({}, #[])
  ⟨all, same.2, start.2⟩

/-- The item past the next step. -/
def advance (t : Items) (i : Nat) : Nat := t.same.getD (i + 1) 0

/-- The item of a production with the dot past `d` steps. -/
def ofProduction (t : Items) (p d : Nat) : Nat := t.same.getD (t.start.getD p 0 + d) 0

def production (t : Items) (g : Grammar) (i : Nat) : Production :=
  g.productions.getD (t.all.getD i default).production default

/-- The symbol after the dot, if the item is not finished. -/
def next (t : Items) (g : Grammar) (i : Nat) : Option Symbol :=
  ((t.production g i).steps[(t.all.getD i default).dot]?).map (·.symbol)

/-- The step just read. -/
def last (t : Items) (g : Grammar) (i : Nat) : Option (Step Symbol) :=
  match (t.all.getD i default).dot with
  | 0 => none
  | d + 1 => (t.production g i).steps[d]?

end Items

end Outline.Grammar
