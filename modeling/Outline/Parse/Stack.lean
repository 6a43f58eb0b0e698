import Outline.Parse.Tree
import Outline.Text.Cursor

/-! The stacks of a parse. Readings of the text that differ share what they have in common: nodes
form a graph, each with links to the nodes before it and the trees between. A version is one reading
that is still followed. -/
namespace Outline.Parse

open Text Ruby

structure Link where
  node : Nat
  /-- The tree between the two nodes; none where the grammar was left. -/
  tree : Option Tree

structure Node where
  state : Nat
  position : Offset := {}
  links : List Link := []
  /-- The cost of the errors up to here, and how many tree nodes there are. -/
  cost : Nat := 0
  count : Nat := 0
deriving Inhabited

/-- A node below a version, as far as recovery needs to know it. -/
structure Below where
  position : Offset
  depth : Nat
  state : Nat

inductive Status where
  | active
  /-- Met a terminal that it cannot take. -/
  | paused (lookahead : Tree)
  | halted
deriving Inhabited

structure Version where
  node : Nat
  lastMark : Option Tree := none
  /-- How many tree nodes there were at the last error. -/
  countAtError : Nat := 0
  status : Status := .active
  below : Option (List Below) := none
deriving Inhabited

structure Session where
  text : Passage
  nodes : Array Node := #[]
  versions : Array Version := #[]
  /-- The best tree for the whole text so far, and how many were found. -/
  finished : Option Tree := none
  accepted : Nat := 0

abbrev Run := StateM Session

/-! ### Nodes and versions -/

namespace Session

def node (s : Session) (i : Nat) : Node := s.nodes.getD i default
def version (s : Session) (v : Nat) : Version := s.versions.getD v default
/-- The node that a version has reached. -/
def top (s : Session) (v : Nat) : Node := s.node (s.version v).node

def isActive (s : Session) (v : Nat) : Bool :=
  match (s.version v).status with
  | .active => true
  | _ => false

def isPaused (s : Session) (v : Nat) : Bool :=
  match (s.version v).status with
  | .paused _ => true
  | _ => false

def isHalted (s : Session) (v : Nat) : Bool :=
  match (s.version v).status with
  | .halted => true
  | _ => false

end Session

/-- How many versions there are. -/
def versionCount : Run Nat := return (← get).versions.size

def setVersion (v : Nat) (h : Version) : Run Unit :=
  modify fun s => { s with versions := s.versions.setIfInBounds v h }

def modifyVersion (v : Nat) (f : Version → Version) : Run Unit :=
  modify fun s => { s with versions := s.versions.modify v f }

def removeVersion (v : Nat) : Run Unit :=
  modify fun s => { s with versions := s.versions.eraseIdxIfInBounds v }

def halt (v : Nat) : Run Unit := modifyVersion v fun h => { h with status := .halted }

def addVersion (h : Version) : Run Nat :=
  modifyGet fun s => (s.versions.size, { s with versions := s.versions.push h })

def addNode (n : Node) : Run Nat :=
  modifyGet fun s => (s.nodes.size, { s with nodes := s.nodes.push n })

/-- Pushes a tree, or the mark that the grammar was left. -/
def push (v : Nat) (tree : Option Tree) (state : Nat) : Run Unit := do
  let s ← get
  let h := s.version v
  let below := s.node h.node
  let fresh : Node := match tree with
    | some t =>
      { state, links := [⟨h.node, tree⟩], position := below.position + t.reach,
        cost := below.cost + t.cost, count := below.count + t.nodeCount }
    | none => { below with state, links := [⟨h.node, none⟩] }
  let i ← addNode fresh
  modifyVersion v fun h =>
    { h with node := i, countAtError := if tree.isNone then fresh.count else h.countAtError }

/-! ### Merging -/

/-- The links that a node may have. -/
def maxLinks : Nat := 8

/-- Adds a link to a node. A link that reads the same text in the same way is joined with the one
that is there. -/
def addLink : Nat → Nat → Link → Run Unit
  | 0, _, _ => pure ()
  | fuel + 1, i, link => do
    if link.node = i then return
    let s ← get
    let self := s.node i
    let target := s.node link.node
    let joins (e : Link) : Bool :=
      Tree.sameReading e.tree link.tree &&
        (e.node = link.node ||
          let n := s.node e.node
          n.state = target.state && n.position.bytes = target.position.bytes &&
            n.cost = target.cost)
    match self.links.find? joins with
    | some e =>
      if e.node ≠ link.node then
        target.links.forM (addLink fuel e.node)
    | none =>
      if self.links.length = maxLinks then return
      let count := target.count + (link.tree.map (·.nodeCount)).getD 0
      modify fun s => { s with nodes := s.nodes.modify i fun n =>
        { n with links := n.links ++ [link], count := max n.count count } }

namespace Session

/-- Whether two versions have come to the same place in the same way. -/
def canMerge (s : Session) (a b : Nat) : Bool :=
  let x := s.top a
  let y := s.top b
  s.isActive a && s.isActive b && x.state = y.state && x.position.bytes = y.position.bytes &&
    x.cost = y.cost &&
    Tree.openAfter (s.version a).lastMark = Tree.openAfter (s.version b).lastMark

end Session

/-- Merges version `b` into `a` if that is possible. -/
def merge (a b : Nat) : Run Bool := do
  let s ← get
  if !s.canMerge a b then return false
  let fuel := s.nodes.size + 1
  (s.top b).links.forM (addLink fuel (s.version a).node)
  let top := (← get).top a
  if top.state = 0 then modifyVersion a fun h => { h with countAtError := top.count }
  removeVersion b
  return true

/-- Merges version `v` into the first of those listed that takes it. -/
def mergeInto (v : Nat) : List Nat → Run Bool
  | [] => return false
  | j :: r => do if ← merge j v then return true else mergeInto v r

/-- Puts version `a` in the place of `b`. -/
def replaceVersion (a b : Nat) : Run Unit := do
  if a = b then return
  let s ← get
  let h := s.version a
  setVersion b { h with below := h.below.or (s.version b).below }
  removeVersion a

/-! ### Popping -/

/-- A way down from a version: the node reached, the trees passed in the order of the text, and how
many of them count as steps. -/
structure Path where
  node : Nat
  trees : List Tree := []
  steps : Nat := 0

namespace Path

def follow (p : Path) (l : Link) : Path :=
  match l.tree with
  | some t => ⟨l.node, t :: p.trees, if t.extra then p.steps else p.steps + 1⟩
  | none => ⟨l.node, p.trees, p.steps + 1⟩

end Path

/-- What to do at a node on the way down. -/
structure Visit where
  take : Bool := false
  stop : Bool := false

/-- Ways down that are followed at once. -/
def maxPaths : Nat := 64

/-- The state of a walk: what its visitor keeps, the paths taken, and the paths to go on with, those
that branch off apart. -/
structure Walk (σ : Type) where
  kept : σ
  taken : Array Path := #[]
  onward : Array Path := #[]
  branches : Array Path := #[]
  /-- How many paths are followed. -/
  width : Nat

namespace Walk

variable {σ : Type}

/-- Goes one node down on a path. -/
def visitPath (s : Session) (visit : σ → Path → σ × Visit) (w : Walk σ) (p : Path) : Walk σ :=
  let (kept, act) := visit w.kept p
  let links := (s.node p.node).links
  let w := { w with kept, taken := if act.take then w.taken.push p else w.taken }
  match act.stop, links with
  | false, first :: others =>
    let w := others.foldl (fun (w : Walk σ) l =>
      if maxPaths ≤ w.width then w
      else { w with branches := w.branches.push (p.follow l), width := w.width + 1 }) w
    { w with onward := w.onward.push (p.follow first) }
  | _, _ => { w with width := w.width - 1 }

/-- Goes down on all paths at once, node by node. -/
def rounds (s : Session) (visit : σ → Path → σ × Visit) : Nat → Walk σ → Walk σ
  | 0, w => w
  | n + 1, w =>
    let now := w.onward ++ w.branches
    if now.isEmpty then w
    else rounds s visit n
      (now.foldl (visitPath s visit) { w with onward := #[], branches := #[], width := now.size })

def start (s : Session) (v : Nat) (visit : σ → Path → σ × Visit) (init : σ) : Walk σ :=
  rounds s visit (s.nodes.size + 2)
    { kept := init, onward := #[⟨(s.version v).node, [], 0⟩], width := 1 }

end Walk

/-- A version split off by popping, with the trees popped. -/
structure Slice where
  trees : List Tree
  version : Nat
deriving Inhabited

/-- Turns the paths taken from version `v` into versions, one for each node reached; slices of one
version stand together. -/
def addSlices (v : Nat) : List Path → Array Slice → Run (Array Slice)
  | [], acc => return acc
  | p :: r, acc => do
    let s ← get
    let known := (List.range acc.size).reverse.find? fun i =>
      (s.version (acc.getD i default).version).node = p.node
    match known with
    | some i =>
      addSlices v r (acc.insertIdxIfInBounds (i + 1) ⟨p.trees, (acc.getD i default).version⟩)
    | none =>
      let h := s.version v
      let n ← addVersion { node := p.node, countAtError := h.countAtError, lastMark := h.lastMark }
      addSlices v r (acc.push ⟨p.trees, n⟩)

/-- Pops what `visit` takes. -/
def popWhere {σ : Type} (v : Nat) (visit : σ → Path → σ × Visit) (init : σ) :
    Run (Array Slice) := do
  let w := Walk.start (← get) v visit init
  addSlices v w.taken.toList #[]

/-- Pops `n` steps. -/
def popSteps (v n : Nat) : Run (Array Slice) :=
  popWhere v (fun (u : Unit) p => (u, if p.steps = n then ⟨true, true⟩ else {})) ()

/-- Pops everything. -/
def popAll (v : Nat) : Run (Array Slice) := do
  let s ← get
  popWhere v (fun (u : Unit) p => (u, { take := (s.node p.node).links.isEmpty })) ()

/-- Pops an error on top of a version, if there is one. -/
def popError (v : Nat) : Run (Option Tree) := do
  let s ← get
  if (s.top v).links.any fun l => l.tree.any (·.label = .error) then
    let slices ← popWhere v (fun (found : Bool) p =>
      match p.trees.getLast? with
      | none => (found, {})
      | some t =>
        if !found && t.label = .error then (true, ⟨true, true⟩) else (found, ⟨false, true⟩)) false
    match slices[0]? with
    | some sl =>
      replaceVersion sl.version v
      return sl.trees.head?
    | none => return none
  else return none

/-- How deep recovery looks below a version. -/
def maxDepth : Nat := 16

/-- The nodes below a version, each depth and state once. -/
def nodesBelow (v : Nat) : Run (List Below) := do
  let s ← get
  let visit (seen : Array Below) (p : Path) : Array Below × Visit :=
    let n := s.node p.node
    if maxDepth < p.steps then (seen, { stop := true })
    else
      let later := seen.toList.reverse.takeWhile fun b => p.steps ≤ b.depth
      if later.any fun b => b.depth = p.steps && b.state = n.state then (seen, {})
      else (seen.push ⟨n.position, p.steps, n.state⟩, {})
  return (Walk.start s v visit #[]).kept.toList

end Outline.Parse
