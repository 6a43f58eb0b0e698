import Outline.Parse.Stack
import Outline.Ruby.Lexer
import Outline.Ruby.Surroundings

/-! The next token of a version: a mark if one is recognised, else a token by its pattern. Text that
is neither in any state becomes an error token. -/
namespace Outline.Parse

open Text Ruby Grammar

/-! ### The table -/

/-- Where a symbol leads from a state; 0 if nowhere. -/
def nextState (state : Nat) : Label → Nat
  | .symbol (.terminal t) =>
    let r := row state
    match r.actions.getD t none with
    | some .shift | some (.reduce _ true) => (r.next[t]?.map Thunk.get).getD 0
    | some .skip => state
    | _ => 0
  | .symbol (.phrase p) => ((row state).next[grammar.terminals + p]?.map Thunk.get).getD 0
  | _ => 0

def actionAt (state : Nat) : Label → Option Action
  | .symbol (.terminal t) => (row state).actions.getD t none
  | _ => none

def reducesAt (state : Nat) (l : Label) : Bool :=
  match actionAt state l with
  | some (.reduce _ _) => true
  | _ => false

/-- The marks that each state expects. -/
def expectedIn (state : Nat) : Expected :=
  let r := row state
  let has (t : Nat) : Bool := (r.actions.getD t none).isSome
  { marks := (List.range Mark.all.length).foldl (fun n i =>
      if has (grammar.contextTerminal i) then n + 1 <<< i else n) 0,
    slash := has slash }
where
  slash : Nat := terminalNamed "/"

/-- The marks that each state expects, worked out once. -/
def expectations : Array (Thunk Expected) :=
  (Array.range states.all.size).map fun n => Thunk.mk fun _ => expectedIn n

def expected (state : Nat) : Expected := (expectations[state]?.map Thunk.get).getD ⟨0, false⟩

/-! ### Reading -/

namespace Session

/-- Whether a version has read anything since its last error. -/
def advancedSinceError (s : Session) (v : Nat) : Bool :=
  let h := s.version v
  (s.node h.node).cost = 0 || go h.countAtError (s.nodes.size + 1) h.node
where
  go (countAtError : Nat) : Nat → Nat → Bool
  | 0, _ => false
  | n + 1, i =>
    let node := s.node i
    match node.links with
    | ⟨below, some t⟩ :: _ =>
      if 0 < t.reach.bytes then true
      else if countAtError < node.count && t.cost = 0 then go countAtError n below
      else false
    | _ => false

end Session

/-- A token, or the end of skipped text. -/
inductive Reading where
  | mark (r : Recognised) (record : Option Opened) (changes : Bool)
  | token (l : Lexed) (terminal : Nat)
  | skipped (start stop : Offset)

/-- The mark that a version takes at a place, with what it leaves open and whether that is new.
`lost` says to look as in skipped text. -/
def markAt (s : Session) (v state : Nat) (before : Option Opened) (lost : Bool) (k : Cursor) :
    Option (Recognised × Option Opened × Bool) :=
  let e := expected (if lost then 0 else state)
  if e.marks = 0 && !e.slash then none
  else match recognise e (before.getD {}) k with
    | none => none
    | some r =>
      let record := r.opened.recorded
      let changes : Bool := record ≠ before
      let idle := r.stop.bytes ≤ k.pos.bytes && !changes
      let label := Label.terminal (grammar.contextTerminal r.mark.index)
      let useless := lost || !s.advancedSinceError v || nextState state label = state
      if idle && useless then none else some (r, record, changes)

/-- What the patterns of a state read at a place. -/
def lexedAt (state : Nat) (lost : Bool) (k : Cursor) : Lexed :=
  let mode := (row (if lost then 0 else state)).mode.bind (modes[·]?)
  (mode.map (·.read k)).getD ⟨none, k.pos, k.pos, k⟩

/-- Text that was skipped comes before what is read after it. -/
def Reading.after (r : Reading) : Option (Offset × Offset) → Reading
  | none => r
  | some (a, b) => .skipped a b

/-- What looking for a token at a place comes to: a token, or where to look next as in skipped
text. -/
inductive Attempt where
  | found (r : Reading)
  | again (skipping : Option (Offset × Offset)) (k : Cursor)

namespace Attempt

def orElse (a : Attempt) (look : Option (Offset × Offset) → Cursor → Reading) : Reading :=
  match a with
  | .found r => r
  | .again skipping k => look skipping k

/-- Goes on past the text skipped so far, by one character if reading has come no further. -/
def skip (past : Offset × Offset) (k : Cursor) : Attempt :=
  if k.pos.bytes = past.2.bytes then
    if k.atEnd then .found (.skipped past.1 past.2)
    else .again (some (past.1, k.next.pos)) k.next
  else .again (some (past.1, k.pos)) k

/-- Without a token the text is read again from its start as skipped text, then skipped. -/
def ofLexed (l : Lexed) (lost : Bool) (skipping : Option (Offset × Offset)) (start : Cursor) :
    Attempt :=
  match l.token with
  | some t => .found ((Reading.token l t).after skipping)
  | none =>
    if !lost then .again skipping start
    else skip (skipping.getD (l.start, l.start)) l.reached

end Attempt

/-- Looks for a token once. `skipping` holds the text skipped so far. -/
def attempt (s : Session) (v state : Nat) (before : Option Opened) (origin : Offset)
    (lost : Bool) (skipping : Option (Offset × Offset)) (k : Cursor) : Attempt :=
  ((markAt s v state before lost k).map fun (r, record, changes) =>
    .found ((Reading.mark r record changes).after skipping)).getD
    (.ofLexed (lexedAt state lost k) lost skipping (s.text.cursor origin))

/-- Looks for a token in `state`, then as in skipped text, then skips one character after
another. -/
def readFrom (s : Session) (v state : Nat) (before : Option Opened) (origin : Offset) :
    Nat → Bool → Option (Offset × Offset) → Cursor → Reading
  | 0, _, skipping, k => .skipped ((skipping.map (·.1)).getD k.pos) k.pos
  | fuel + 1, lost, skipping, k =>
    (attempt s v state before origin lost skipping k).orElse
      (readFrom s v state before origin fuel true)

/-- The next token of a version, none where the embedded phrase ends. -/
def lookahead (v state : Nat) : Run (Option Tree) := do
  let s ← get
  if (row state).mode.isNone then return none
  let origin := (s.top v).position
  let before := Tree.openAfter (s.version v).lastMark
  let k := s.text.cursor origin
  match readFrom s v state before origin (2 * k.rest.length + 4) (state = 0) none k with
  | .skipped a b => return some (Tree.leaf .error (a.since origin) (b.since a))
  | .mark r record changes =>
    let label := Label.terminal (grammar.contextTerminal r.mark.index)
    match Tree.leaf label (r.start.since origin) (r.stop.since r.start) with
    | .node c ps => return some (.node { c with marked := true, record, changes } ps)
  | .token l t =>
    let padding := l.start.since origin
    let size := l.stop.since l.start
    if t = identifier then
      let w := captured.read (s.text.cursor l.start)
      let captures := match w.token with
        | some x => w.stop.bytes = l.stop.bytes && (actionAt state (.terminal x)).isSome
        | none => false
      let label := Label.terminal (if captures then w.token.getD t else t)
      match Tree.leaf label padding size with
      | .node c ps => return some (.node { c with word := w.token.isSome } ps)
    else return some (Tree.leaf (.terminal t) padding size)

end Outline.Parse
