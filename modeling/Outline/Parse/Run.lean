import Outline.Parse.Recovery

/-! Parsing a text: every version reads on in turn, and those that fall behind are dropped, until
one has read the whole text and no other can do better. -/
namespace Outline.Parse

open Text Ruby Grammar

/-- The label of a word read as an identifier. -/
def asIdentifier (t : Tree) : Tree :=
  match t with
  | .node s ps =>
    let label := Label.terminal identifier
    .node { s with label, first := label } ps

/-- Whether a word that was told apart is better read as an identifier in a state. -/
def readsAsIdentifier (state : Nat) (t : Tree) : Bool :=
  t.summary.word && t.label ≠ .terminal identifier &&
    (actionAt state (.terminal identifier)).isSome

/-- Takes a token on the stack of a version. -/
def take (v : Nat) (t : Tree) (extra : Bool) (next : Nat) : Run Unit := do
  let t := t.withExtra extra
  push v (some t) next
  if t.summary.marked then modifyVersion v fun h => { h with lastMark := t.lastMark }

/-- Does at a token what the table says in a state, short of finishing a production. -/
def meet (v state : Nat) (t : Tree) (label : Label) : Option Action → Run Unit
  | some .shift => take v t false (nextState state label)
  | some .skip => take v t true state
  | some .accept => accept v t
  | some .recover => recover v t
  | _ => do
    if state = 0 then recover v t
    else
      let count := ((← get).top v).count
      modifyVersion v fun h => { h with status := .paused t, countAtError := count }

/-- Acts on the next token of a version until it is taken or cannot be. `fuel` bounds the
reductions. -/
def act (v : Nat) : Nat → Nat → Option Tree → Label → Run Unit
  | 0, _, _, _ => halt v
  | fuel + 1, state, lookahead, label => do
    match actionAt state label with
    | some (.reduce p _) =>
      match ← reduce v p lookahead.isNone with
      | none => halt v
      | some w =>
        replaceVersion w v
        let state := ((← get).top v).state
        match lookahead with
        | some t => act v fuel state lookahead t.summary.first
        | none => do
          let t ← Parse.lookahead v state
          act v fuel state t ((t.map (·.label)).getD (.terminal 0))
    | action =>
      match lookahead with
      | none => halt v
      | some t =>
        if action.isNone && readsAsIdentifier state t then
          act v fuel state (some (asIdentifier t)) (.terminal identifier)
        else meet v state t label action

/-- Reads one token in a version. -/
def advance (v : Nat) : Run Unit := do
  let s ← get
  let state := (s.top v).state
  let t ← lookahead v state
  act v (64 * (s.nodes.size + 64)) state t ((t.map (·.label)).getD (.terminal 0))

/-! ### Rounds -/

/-- Compares version `i`, which fared as in `mine` at first, with those before it from `j` on: the
place to go on from. -/
def compareWith (mine : Standing) (i : Nat) : Nat → Nat → Run Nat
  | 0, _ => return i + 1
  | fuel + 1, j => do
    if i ≤ j then return i + 1
    match compareStandings (← standing j) mine with
    | .takeLeft =>
      removeVersion i
      return i
    | .preferLeft | .neither =>
      if ← merge j i then return i else compareWith mine i fuel (j + 1)
    | .preferRight =>
      if ← merge j i then return i
      else
        modify fun s => { s with versions := s.versions.swapIfInBounds i j }
        compareWith mine i fuel (j + 1)
    | .takeRight =>
      removeVersion j
      compareWith mine (i - 1) fuel j

/-- Drops halted versions and those that others beat. The least cost of a version not in error. -/
def weedOut : Nat → Nat → Option Nat → Run (Option Nat)
  | 0, _, least => return least
  | fuel + 1, i, least => do
    let s ← get
    if s.versions.size ≤ i then return least
    if s.isHalted i then
      removeVersion i
      weedOut fuel i least
    else
      let mine ← standing i
      let least := if mine.inError then least
        else some ((least.map (min mine.cost)).getD mine.cost)
      let next ← compareWith mine i (s.versions.size + 1) 0
      weedOut fuel next least

/-- Resumes the first paused version unless an active one comes before it, and drops the others. -/
def resume : Nat → Nat → Bool → Option Nat → Run (Option Nat)
  | 0, _, _, least => return least
  | fuel + 1, i, going, least => do
    let s ← get
    if s.versions.size ≤ i then return least
    match (s.version i).status with
    | .paused t =>
      if !going && s.accepted < maxVersions then
        let least := s.cost i
        modifyVersion i fun h => { h with status := .active }
        let before ← versionCount
        handleError i t
        resumeRest fuel (i + 1) before (some least)
      else
        removeVersion i
        resume fuel i going least
    | _ => resume fuel (i + 1) true least
where
  /-- After one version was resumed, those it gave rise to are not looked at. -/
  resumeRest : Nat → Nat → Nat → Option Nat → Run (Option Nat)
  | 0, _, _, least => return least
  | fuel + 1, i, count, least => do
    if count ≤ i then return least
    let s ← get
    if s.isPaused i then
      removeVersion i
      resumeRest fuel i (count - 1) least
    else resumeRest fuel (i + 1) count least

/-- Ends a round: the least cost of a version that goes on. -/
def condense : Run (Option Nat) := do
  let fuel := 16 * ((← versionCount) + 4)
  let least ← weedOut fuel 0 none
  modify fun s => { s with versions := s.versions.take maxVersions }
  resume (maxVersions + 2) 0 false least

/-- Advances a version until it is past what the others have read; the furthest byte read. -/
def advanceVersion (v : Nat) : Nat → Nat → Run Nat
  | 0, furthest => return furthest
  | fuel + 1, furthest => do
    if !(← get).isActive v then return furthest
    advance v
    let here := ((← get).top v).position.bytes
    if furthest < here || (0 < v && here = furthest) then return here
    else advanceVersion v fuel furthest

/-- Advances every version, those that arise on the way included. -/
def advanceAll (steps : Nat) : Nat → Nat → Nat → Run Nat
  | 0, _, furthest => return furthest
  | fuel + 1, v, furthest => do
    if (← versionCount) ≤ v then return furthest
    let furthest ← advanceVersion v steps furthest
    advanceAll steps fuel (v + 1) furthest

/-- Rounds until the best tree cannot be beaten or no version is left. -/
def rounds (steps : Nat) : Nat → Nat → Run Unit
  | 0, _ => pure ()
  | fuel + 1, furthest => do
    let furthest ← advanceAll steps 256 0 furthest
    let least ← condense
    let s ← get
    let settled := match s.finished, least with
      | some t, some n => t.cost < n
      | some _, none => true
      | none, _ => false
    if settled || s.versions.isEmpty then return
    rounds steps fuel furthest

/-- A text before anything is read of it: one version, at its start. -/
def Session.start (text : String) : Session :=
  { text := Passage.ofString text, nodes := #[{ state := 1 }], versions := #[{ node := 0 }] }

/-- The parse tree of a text. Every text has one; what does not parse is inside errors. -/
def parse (text : String) : Tree :=
  let start := Session.start text
  let steps := 64 * (start.text.size + 64)
  let done := ((rounds steps steps 0).run start).2
  done.finished.getD (Tree.ofParts .error [] 0)

end Outline.Parse
