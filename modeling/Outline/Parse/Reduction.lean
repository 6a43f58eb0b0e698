import Outline.Parse.Lookahead

/-! Finishing productions: the trees of their steps become one tree, on every way down the stack. -/
namespace Outline.Parse

open Text Ruby Grammar

/-- How many versions are followed at once. -/
def maxVersions : Nat := 6
/-- How many more may arise in passing. -/
def spareVersions : Nat := 4

/-- The slices of one version together. -/
def groupSlices : List Slice → List (Nat × List (List Tree))
  | [] => []
  | s :: r =>
    match groupSlices r with
    | (v, ts) :: rest => if v = s.version then (v, s.trees :: ts) :: rest
      else (s.version, [s.trees]) :: (v, ts) :: rest
    | [] => [(s.version, [s.trees])]

/-- The best tree for a production among several lists of parts, with the trees that stand after
it. -/
def bestTree (label : Label) (production : Nat) : List (List Tree) → Tree × List Tree
  | [] => (Tree.ofParts label [] production, [])
  | ts :: rest =>
    let build (ts : List Tree) (p : Nat) : Tree × List Tree :=
      let (parts, trailing) := Tree.splitTrailing ts
      (Tree.ofParts label parts p, trailing)
    rest.foldl (fun best ts =>
      if best.1.better (build ts 0).1 then build ts production else best) (build ts production)

/-- The tree for one version split off, and its merger with the versions before it. `removed` counts
the versions that are gone since the slices were numbered. -/
def reduceSlice (v : Nat) (label : Label) (production : Nat) (embedded : Bool) (halted : Nat)
    (removed : Nat) (slice : Nat × List (List Tree)) : Run Nat := do
  let w := slice.1 - removed
  if maxVersions + spareVersions + halted < w then
    removeVersion w
    return removed + 1
  let (tree, trailing) := bestTree label production slice.2
  let state := ((← get).top w).state
  let next := nextState state label
  let tree := if embedded && next = state then tree.withExtra true else tree
  push w (some tree) next
  trailing.forM fun t => push w (some t) next
  let merged ← mergeInto w ((List.range w).filter (· ≠ v))
  return if merged then removed + 1 else removed

/-- Finishes a production on all ways down from a version. The first version that arises, if any. -/
def reduce (v production : Nat) (embedded : Bool) : Run (Option Nat) := do
  let p := grammar.productions.getD production default
  let initial ← versionCount
  let slices ← popSteps v p.steps.size
  let s ← get
  let halted := (List.range s.versions.size).countP s.isHalted
  let _ ← (groupSlices slices.toList).foldlM
    (reduceSlice v (.symbol (.phrase p.phrase)) production embedded halted) 0
  return if initial < (← versionCount) then some initial else none

/-- The productions that a state finishes at one of the terminals, each phrase and length once, and
whether it takes one of them. -/
def pending (state : Nat) (terminals : List Nat) : List Nat × Bool :=
  let (ps, takes) := terminals.foldl (fun (acc : List Nat × Bool) t =>
    match (row state).actions.getD t none with
    | some .shift | some .recover => (acc.1, true)
    | some (.reduce p _) =>
      let q := grammar.productions.getD p default
      let known := acc.1.any fun o =>
        let r := grammar.productions.getD o default
        r.phrase = q.phrase && r.steps.size = q.steps.size
      if q.steps.size = 0 || known then acc else (p :: acc.1, acc.2)
    | _ => acc) ([], false)
  (ps.reverse, takes)

/-- The terminals that a token can be. -/
def realTerminals : List Nat := List.range' 1 (grammar.terminals - 2)

/-- Does all reductions that a version and those that arise from it may do, at one terminal or, for
none, at any. Versions that end where the terminal is not taken are dropped. Whether one takes
it. -/
def reduceAll (start initial : Nat) (terminal : Option Nat) :
    Nat → Nat → Nat → Bool → Run Bool
  | 0, _, _, taken => return taken
  | fuel + 1, v, i, taken => do
    let count ← versionCount
    if count ≤ v then return taken
    if ← mergeInto v (List.range' initial (v - initial)) then
      reduceAll start initial terminal fuel v (i + 1) taken
    else
      let state := ((← get).top v).state
      let due := pending state ((terminal.map fun t => [t]).getD realTerminals)
      let last ← due.1.foldlM (fun (_ : Option Nat) p => reduce v p false) none
      let next := if v = start then count else v + 1
      if due.2 then reduceAll start initial terminal fuel next (i + 1) true
      else match last with
        | some r =>
          if i < maxVersions then
            replaceVersion r v
            reduceAll start initial terminal fuel v (i + 1) taken
          else
            if terminal.isSome then removeVersion v
            reduceAll start initial terminal fuel next (i + 1) taken
        | none =>
          if terminal.isSome then removeVersion v
          reduceAll start initial terminal fuel next (i + 1) taken

/-- All reductions from version `v`; the end of the text stands for any terminal. -/
def allReductions (v : Nat) (terminal : Nat) : Run Bool := do
  let initial ← versionCount
  reduceAll v initial (if terminal = 0 then none else some terminal) 4096 v 0 false

end Outline.Parse
