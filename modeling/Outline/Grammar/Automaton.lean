import Outline.Grammar.Item
import Outline.Grammar.TokenSet

/-! The automaton of a grammar. A core is the set of items that one symbol leads to; cores are
numbered in the order in which they are first reached. A kernel is a core with the terminals that
may follow each of its items. -/
namespace Outline.Grammar

/-- Items with what may follow them, in increasing order. -/
abbrev Kernel := List (Nat × TokenSet)

namespace Kernel

def insert (i : Nat) (s : TokenSet) : Kernel → Kernel
  | [] => [(i, s)]
  | (j, t) :: r =>
    if i < j then (i, s) :: (j, t) :: r
    else if i = j then (j, t ∪ s) :: r
    else (j, t) :: insert i s r

end Kernel

/-- A phrase that may begin where another one does, the terminals that may follow it there, and
whether all that may follow the other one may follow it too. -/
structure Spread where
  phrase : Nat
  follow : TokenSet
  passes : Bool

structure Automaton where
  grammar : Grammar
  items : Items
  /-- The terminals that each phrase may begin with. -/
  first : Array TokenSet
  /-- The phrases that each phrase may begin with. -/
  spread : Array (Thunk (List Spread))
  /-- The items of each core. -/
  cores : Array (List Nat)
  coreOf : Std.HashMap (List Nat) Nat

/-! ### What phrases begin with -/

namespace Grammar

def firstOf (first : Array TokenSet) : Symbol → TokenSet
  | .terminal i => .single i
  | .phrase i => first.getD i .empty

/-- The terminals that each phrase may begin with: no production is empty but that of an empty
text, so the first step decides. -/
def firstSets (g : Grammar) : Array TokenSet :=
  go g.phrases.size (Array.replicate g.phrases.size .empty)
where
  pass (known : Array TokenSet) : Array TokenSet :=
    g.productions.foldl (fun k p => match p.steps[0]? with
      | some s => k.modify p.phrase (· ∪ firstOf k s.symbol)
      | none => k) known
  go : Nat → Array TokenSet → Array TokenSet
  | 0, k => k
  | n + 1, k => let k' := pass k; if k' == k then k else go n k'

/-- The phrase that a production begins with, and what follows it there unless nothing does. -/
def lead (g : Grammar) (first : Array TokenSet) (p : Nat) : Option (Nat × Option TokenSet) :=
  match (g.productions.getD p default).steps.toList with
  | ⟨.phrase i, _, _, _, _⟩ :: rest => some (i, rest.head?.map (firstOf first ·.symbol))
  | _ => none

def leads (g : Grammar) (first : Array TokenSet) : Array (List (Nat × Option TokenSet)) :=
  g.produces.map fun ps => (ps.filterMap (g.lead first)).eraseDups

end Grammar

/-- What is known so far of the phrases that another one spreads to. -/
abbrev Reached := Array (Option (TokenSet × Bool))

namespace Spread

def join (old : Option (TokenSet × Bool)) (s : TokenSet) (p : Bool) : TokenSet × Bool :=
  match old with
  | none => (s, p)
  | some (t, q) => (t ∪ s, q || p)

/-- Visits phrases whose entry has grown until none is left. -/
def grow (leads : Array (List (Nat × Option TokenSet))) :
    Nat → List Nat → Reached → Reached
  | 0, _, r => r
  | _, [], r => r
  | n + 1, i :: todo, r =>
    let (s, p) := (r.getD i none).getD (.empty, false)
    let (todo, r) := (leads.getD i []).foldl (fun (acc : List Nat × Reached) (j, after) =>
      let old := acc.2.getD j none
      let new := match after with
        | none => join old s p
        | some f => join old f false
      if old == some new then acc else (j :: acc.1, acc.2.setIfInBounds j (some new))) (todo, r)
    grow leads n todo r

/-- The phrases that phrase `i` may begin with, itself included. -/
def ofPhrase (leads : Array (List (Nat × Option TokenSet))) (i : Nat) : List Spread :=
  let n := leads.size
  let start : Reached := (Array.replicate n none).setIfInBounds i (some (.empty, true))
  (grow leads (n * n) [i] start).toList.zipIdx.filterMap fun (e, j) =>
    e.map fun (s, p) => ⟨j, s, p⟩

end Spread

/-! ### Kernels -/

namespace Automaton

/-- The number of a symbol among terminals and phrases together. -/
def symbolIndex (g : Grammar) : Symbol → Nat
  | .terminal i => i
  | .phrase i => g.terminals + i

/-- The phrases that may begin at the dot of a kernel, with what may follow each. -/
def opened (a : Automaton) (k : Kernel) : Array (Option TokenSet) :=
  k.foldl (fun acc (i, s) =>
    match a.items.next a.grammar i with
    | some (.phrase p) =>
      let after := match a.items.next a.grammar (a.items.advance i) with
        | none => s
        | some f => Grammar.firstOf a.first f
      match a.spread[p]? with
      | none => acc
      | some t => t.get.foldl (fun acc e =>
        let new := if e.passes then e.follow ∪ after else e.follow
        acc.modify e.phrase fun
          | none => some new
          | some old => some (old ∪ new)) acc
    | _ => acc) (Array.replicate a.grammar.phrases.size none)

/-- The kernels that each symbol leads to. -/
def successors (a : Automaton) (k : Kernel) (opened : Array (Option TokenSet)) : Array Kernel :=
  let g := a.grammar
  let put (acc : Array Kernel) (s : Symbol) (i : Nat) (f : TokenSet) : Array Kernel :=
    acc.modify (symbolIndex g s) (Kernel.insert i f)
  let fresh := (List.range g.phrases.size).foldr (fun p acc =>
    match opened.getD p none with
    | none => acc
    | some f => (g.produces.getD p []).foldr (fun q acc =>
      match ((g.productions.getD q default).steps[0]?).map (·.symbol) with
      | none => acc
      | some s => put acc s (a.items.ofProduction q 1) f) acc)
    (Array.replicate (g.terminals + g.phrases.size) [])
  k.foldr (fun (i, f) acc => match a.items.next g i with
    | none => acc
    | some s => put acc s (a.items.advance i) f) fresh

/-! ### Cores -/

/-- Cores found so far and those still to visit. -/
structure Search where
  found : Array (List Nat)
  index : Std.HashMap (List Nat) Nat

def Search.add (s : Search) (core : List Nat) : Search :=
  if core.isEmpty && s.found.size > 0 || s.index.contains core then s
  else ⟨s.found.push core, s.index.insert core s.found.size⟩

/-- Visits the cores in order, adding those that they lead to. -/
def explore (a : Automaton) : Nat → Nat → Search → Search
  | 0, _, s => s
  | n + 1, i, s =>
    match s.found[i]? with
    | none => s
    | some core =>
      let k := core.map fun j => (j, TokenSet.empty)
      let next := a.successors k (a.opened k)
      explore a n (i + 1) (next.foldl (fun s k => s.add (k.map (·.1))) s)

/-- The automaton with its cores: first the empty one, then the start of the text, then the inside
of the embedded phrase, then those reached from them. -/
def ofGrammar (g : Grammar) (embedded : Nat) : Automaton :=
  let first := g.firstSets
  let leads := g.leads first
  let items := Items.ofGrammar g
  let bare : Automaton :=
    { grammar := g, items, first, cores := #[], coreOf := {},
      spread := (Array.range g.phrases.size).map fun i =>
        Thunk.mk fun _ => Spread.ofPhrase leads i }
  let inside := (g.produces.getD embedded []).foldr
    (fun p k => Kernel.insert (items.ofProduction p 1) .empty k) []
  let start := ((Search.mk #[] {}).add []).add [items.ofProduction 0 0]
  let found := bare.explore (items.all.size + 3) 0 (start.add (inside.map (·.1)))
  { bare with cores := found.found, coreOf := found.index }

end Automaton

end Outline.Grammar
