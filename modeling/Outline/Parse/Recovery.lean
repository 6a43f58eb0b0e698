import Outline.Parse.Reduction

/-! Going on after an error. A version may take a missing token for granted, go back to a state that
can take the next token, or skip it; the cheapest ways are followed. -/
namespace Outline.Parse

open Text Ruby Grammar

/-! ### Comparing versions -/

/-- How a version fares. -/
structure Standing where
  cost : Nat
  count : Nat
  inError : Bool

inductive Preference where
  | takeLeft | preferLeft | neither | preferRight | takeRight
deriving DecidableEq

/-- A version this much dearer, weighed by what the other one has read since its last error, is
given up. -/
def maxDifference : Nat := 1800

/-- Weighs a difference of costs in 32 bits. -/
def weigh (difference count : Nat) : Nat := difference * (1 + count) % 0x100000000

def compareStandings (a b : Standing) : Preference :=
  if !a.inError && b.inError then if a.cost < b.cost then .takeLeft else .preferLeft
  else if a.inError && !b.inError then if b.cost < a.cost then .takeRight else .preferRight
  else if a.cost < b.cost then
    if maxDifference < weigh (b.cost - a.cost) a.count then .takeLeft else .preferLeft
  else if b.cost < a.cost then
    if maxDifference < weigh (a.cost - b.cost) b.count then .takeRight else .preferRight
  else .neither

/-- The cost of a version, that of the error it has just met included. -/
def Session.cost (s : Session) (v : Nat) : Nat :=
  let n := s.top v
  let left := n.state = 0 && match n.links with
    | ⟨_, none⟩ :: _ => true
    | _ => false
  n.cost + if s.isPaused v || left then Tree.costOfRecovery else 0

/-- How many tree nodes a version has read since its last error. -/
def countSinceError (v : Nat) : Run Nat := do
  let s ← get
  let count := (s.top v).count
  if count < (s.version v).countAtError then
    modifyVersion v fun h => { h with countAtError := count }
    return 0
  return count - (s.version v).countAtError

def standing (v : Nat) : Run Standing := do
  let count ← countSinceError v
  let s ← get
  let paused := s.isPaused v
  return { cost := s.cost v + (if paused then Tree.costOfToken else 0), count,
           inError := paused || (s.top v).state = 0 }

/-- Whether one of the versions listed, or the finished tree, is better than version `v` would be at
a cost. -/
def betterExists (v : Nat) (cost : Nat) : Run Bool := do
  let s ← get
  if (s.finished.map fun t => decide (t.cost ≤ cost)).getD false then return true
  let mine : Standing := ⟨cost, ← countSinceError v, false⟩
  go mine (s.top v).position.bytes (List.range s.versions.size)
where
  go (mine : Standing) (here : Nat) : List Nat → Run Bool
  | [] => return false
  | i :: r => do
    let s ← get
    if i = v || !s.isActive i || (s.top i).position.bytes < here then go mine here r
    else
      match compareStandings mine (← standing i) with
      | .takeRight => return true
      | .preferRight => if (← get).canMerge i v then return true else go mine here r
      | _ => go mine here r

/-! ### Accepting -/

/-- What a tree leaves in a tree that takes its place: its parts, or itself if it is a token. -/
def Tree.leaves (t : Tree) : List Tree :=
  match t.label with
  | .symbol (.terminal _) => [t]
  | _ => t.parts

/-- Keeps the tree of the whole text that trees make up, if it is the best one so far. -/
def keepRoot (trees : List Tree) : Run Unit := do
  let (upTo, after) := Tree.splitTrailing trees
  match upTo.getLast? with
  | none => pure ()
  | some x =>
    let root := Tree.ofParts x.label (upTo.dropLast ++ x.leaves ++ after) x.summary.production
    modify fun s => { s with
      accepted := s.accepted + 1,
      finished := match s.finished with
        | some best => if best.better root then some root else some best
        | none => some root }

/-- Ends a version with the end of the text, keeping its tree if that is the best one. -/
def accept (v : Nat) (lookahead : Tree) : Run Unit := do
  push v (some lookahead) 1
  let slices ← popAll v
  slices.toList.forM fun sl => keepRoot sl.trees
  match slices[0]? with
  | some sl => removeVersion sl.version
  | none => pure ()
  halt v

/-! ### Recovering -/

/-- Pushes trees in a version again, with an error over them but for those at their end that stand
anywhere. -/
def pushError (v goal : Nat) (trees : List Tree) : Run Unit := do
  let (parts, trailing) := Tree.splitTrailing trees
  if !parts.isEmpty then
    push v (some ((Tree.ofParts .error parts 0).withExtra true)) goal
  trailing.forM fun t => push v (some t) goal

/-- Goes on in a version split off, unless it is not in the state wanted, with an error over the
trees popped; one that is there already is taken in. The last version gone on with. -/
def recoverSlice (goal : Nat) (previous : Option Nat) (sl : Slice) : Run (Option Nat) := do
  if previous = some sl.version then return previous
  if ((← get).top sl.version).state ≠ goal then
    halt sl.version
    return previous
  let inner := ((← popError sl.version).map (·.parts)).getD []
  pushError sl.version goal (inner ++ sl.trees)
  return some sl.version

/-- Goes back `depth` steps to a state, with an error over what was read since. -/
def recoverTo (v depth goal : Nat) : Run Bool := do
  let slices ← popSteps v depth
  let last ← slices.toList.foldlM (recoverSlice goal) none
  return last.isSome

/-- Tries the states below, nearest first, for one that can take the next token. -/
def recoverBelow (v count cost : Nat) (lookahead : Tree) (versions : List Nat) :
    List Below → Run Bool
  | [] => return false
  | b :: rest => do
    let s ← get
    let here := (s.top v).position
    let known := versions.any fun j =>
      let n := s.top j
      n.state = b.state && n.position.bytes = here.bytes
    if b.state = 0 || b.position.bytes = here.bytes || known then
      recoverBelow v count cost lookahead versions rest
    else
      let newCost := cost + b.depth * Tree.costOfToken +
        (here.bytes - b.position.bytes) * Tree.costOfByte +
        (here.row - b.position.row) * Tree.costOfLine
      if ← betterExists v newCost then return false
      let depth := if 0 < count then b.depth + 1 else b.depth
      if (actionAt b.state lookahead.label).isSome then
        if ← recoverTo v depth b.state then return true
      recoverBelow v count cost lookahead versions rest

/-- Drops the versions from `v` on that are not active. -/
def dropInactive : Nat → Nat → Run Unit
  | 0, _ => pure ()
  | fuel + 1, v => do
    let s ← get
    if s.versions.size ≤ v then return
    if s.isActive v then dropInactive fuel (v + 1)
    else
      removeVersion v
      dropInactive fuel v

/-- Drops the versions after `v`. -/
def dropAfter (v : Nat) : Run Unit :=
  modify fun s => { s with versions := s.versions.take (v + 1) }

/-- Skips the next token of a version inside an error. -/
def skipToken (v count : Nat) (lookahead : Tree) : Run Unit := do
  let anywhere := actionAt 1 lookahead.label = some .skip
  let token := if anywhere then lookahead.withExtra true else lookahead
  let fresh := Tree.ofParts .skipped [token] 0
  let tree ← if 0 < count then do
      let slices ← popSteps v 1
      match slices[0]? with
      | some sl =>
        if 1 < slices.size then dropAfter sl.version
        replaceVersion sl.version v
        pure (Tree.ofParts .skipped (sl.trees ++ [fresh]) 0)
      | none => pure fresh
    else pure fresh
  push v (some tree) 0
  if token.summary.marked then modifyVersion v fun h => { h with lastMark := token.lastMark }

/-- Goes on after an error: back to a state below that can take the token, and on past the token
unless that is dearer than what is there. -/
def recover (v : Nat) (lookahead : Tree) : Run Unit := do
  let before ← versionCount
  let s ← get
  let count ← countSinceError v
  let cost := s.cost v
  let did ← match (s.version v).below with
    | some below =>
      if lookahead.label = .error then pure false
      else recoverBelow v count cost lookahead (List.range before) below
    | none => pure false
  dropInactive (s.versions.size + 1000) before
  if did && (maxVersions < (← versionCount) || lookahead.summary.changes) then halt v
  else if lookahead.label = .terminal 0 then
    push v (some (Tree.ofParts .error [] 0)) 1
    accept v lookahead
  else
    let reach := lookahead.reach
    let newCost := cost + Tree.costOfToken + reach.bytes * Tree.costOfByte +
      reach.row * Tree.costOfLine
    if ← betterExists v newCost then halt v else skipToken v count lookahead

/-- A token that is missing, for `reduceAll` to go on with. -/
def missing (t : Nat) : Tree :=
  match Tree.leaf (.terminal t) {} {} with
  | .node s ps => .node { s with missing := true } ps

/-- Takes the first token whose absence would let the next one be taken for granted. -/
def insertMissing (v : Nat) (lookahead : Tree) : List Nat → Run Bool
  | [] => return false
  | t :: rest => do
    let s ← get
    let state := (s.top v).state
    let next := nextState state (.terminal t)
    let first := lookahead.summary.first
    if next = 0 || next = state || !reducesAt next first then insertMissing v lookahead rest
    else
      let w ← addVersion { s.version v with below := none }
      push w (some (missing t)) next
      let terminal := match first with
        | .symbol (.terminal i) => i
        | _ => 0
      if ← allReductions w terminal then return true else insertMissing v lookahead rest

/-- Leaves the grammar in every version that arose from `v`, trying missing tokens first. -/
def leaveGrammar (v before count : Nat) (lookahead : Tree) : Nat → Nat → Bool → Run Unit
  | 0, _, _ => pure ()
  | fuel + 1, w, did => do
    if count ≤ w then return
    let did ← if did then pure true else insertMissing w lookahead realTerminals
    push w none 0
    leaveGrammar v before count lookahead fuel (if w = v then before else w + 1) did

/-- Handles an error that a version has met at a token. -/
def handleError (v : Nat) (lookahead : Tree) : Run Unit := do
  let before ← versionCount
  let _ ← allReductions v 0
  let count ← versionCount
  leaveGrammar v before count lookahead (count + 1) v false
  (List.range (count - before)).forM fun _ => do
    let _ ← merge v before
    pure ()
  let below ← nodesBelow v
  modifyVersion v fun h => { h with below := some below }
  recover v lookahead

end Outline.Parse
