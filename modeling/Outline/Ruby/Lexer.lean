import Outline.Ruby.Table
import Outline.Text.Cursor

/-! Reading a token by its pattern: the longest text that one of the wanted tokens matches, after
blanks and line continuations. -/
namespace Outline.Ruby

open Grammar Text

/-- Tokens looked for together, with what is left of their patterns. -/
abbrev Wanted := List (Nat × Pattern)

structure Mode where
  /-- Tokens that may come after blanks. -/
  spaced : Wanted
  /-- Tokens that must come at once. -/
  tight : Wanted
  /-- Whether the end of the text may come. -/
  atEnd : Bool

namespace Mode

def ofSet (s : TokenSet) : Mode :=
  let wanted := tokens.zipIdx.filter fun (_, i) => s.has (i + 1)
  { spaced := (wanted.filter fun (t, _) => !t.immediate).map fun (t, i) => (i + 1, t.pattern),
    tight := (wanted.filter fun (t, _) => t.immediate).map fun (t, i) => (i + 1, t.pattern),
    atEnd := s.has 0 }

end Mode

def modes : Array Mode := (readSets modeText).map Mode.ofSet

/-- The words told apart from identifiers after they are read. -/
def captured : Mode := Mode.ofSet
  ((["def", "nil", "class", "module", "return", "yield", "break", "next", "redo", "retry", "for",
    "case", "begin", "not", "undef", "alias", "i", "ri", "r", "super"].map terminalNamed).foldl
      TokenSet.insert .empty)

/-- The token that words are told apart from. -/
def identifier : Nat := 1

def tokenTable : Array Token := tokens.toArray

/-- Whether terminal `a` wins over `b` when both match one text. -/
def preferred (a b : Nat) : Bool :=
  match tokenTable[a - 1]?, tokenTable[b - 1]? with
  | some s, some t =>
    if s.prec ≠ t.prec then t.prec < s.prec
    else if s.rank ≠ t.rank then t.rank < s.rank
    else a < b
  | _, _ => a < b

def tokenPrec (a : Nat) : Int := (tokenTable[a - 1]?.map (·.prec)).getD 0

/-- Where reading stands between the blanks before a token. -/
inductive Gap where
  | between
  /-- After a backslash. -/
  | continued
  /-- After a backslash and a carriage return. -/
  | returned
deriving DecidableEq

def Gap.after (c : Char) : Gap → Option Gap
  | .between =>
    if CharSet.blank.contains c then some .between
    else if c = '\\' then some .continued
    else none
  | .continued => if c = '\r' then some .returned else if c = '\n' then some .between else none
  | .returned => if c = '\n' then some .between else none

/-- A token read, or where reading stopped without one. -/
structure Lexed where
  token : Option Nat
  start : Offset
  stop : Offset
  reached : Cursor

namespace Mode

/-- The state of reading: the gap if no token has begun, and the tokens that have. -/
structure Reading where
  gap : Option Gap
  live : Wanted

def begin (m : Mode) : Reading := ⟨if m.spaced.isEmpty then none else some .between, m.tight⟩

/-- The wanted tokens that may take a character now. -/
def takers (m : Mode) (r : Reading) : Wanted :=
  if r.gap = some .between then r.live ++ m.spaced else r.live

/-- The token that the text read so far is, if it is one. -/
def complete (m : Mode) (r : Reading) : Option Nat :=
  (m.takers r).foldl (fun best (t, p) =>
    if p.nullable then
      match best with
      | none => some t
      | some b => if preferred b t then some b else some t
    else best) none

/-- Reads one more character; the flag says that it only widens the gap. A character that would give
up a finished token for a weaker one, or for blanks, is not read. -/
def step (m : Mode) (r : Reading) (done : Option Nat) (c : Char) : Option (Reading × Bool) :=
  let live := ((m.takers r).flatMap fun (t, p) => (p.after c).map fun q => (t, q)).eraseDups
  let gap := r.gap.bind (Gap.after c)
  if live.isEmpty && gap.isNone then none
  else
    let blank := live.isEmpty
    let next : Option (Reading × Bool) := some (⟨gap, live⟩, blank)
    match done with
    | none => next
    | some d =>
      let precs := live.map fun (t, _) => tokenPrec t
      let prec := (if gap.isSome then 0 :: precs else precs).max?.getD 0
      let goesOn := live.any (·.1 == d) || gap.isSome && m.spaced.any (·.1 == d)
      if prec < tokenPrec d then none
      else if prec = tokenPrec d && (blank || r.gap.isSome && !goesOn) then none
      else next

/-- Reads on from a state, keeping the last token finished. -/
def run (m : Mode) (r : Reading) (atEnd : Bool) (start here : Offset)
    (found : Option (Nat × Offset)) : List Char → Lexed
  | [] =>
    let found := if atEnd then some (0, here) else keep r found
    finish start here found []
  | c :: rest =>
    let found := keep r found
    if c = '\x00' then finish start here found (c :: rest)
    else match m.step r (m.complete r) c with
      | none => finish start here found (c :: rest)
      | some (r', blank) =>
        let there := here.push c
        m.run r' (atEnd && blank) (if blank then there else start) there found rest
where
  keep (r : Reading) (found : Option (Nat × Offset)) : Option (Nat × Offset) :=
    match m.complete r with
    | some t => some (t, here)
    | none => found
  finish (start here : Offset) (found : Option (Nat × Offset)) (rest : List Char) : Lexed :=
    let stop := (found.map (·.2)).getD here
    { token := found.map (·.1), stop, start := if stop.bytes < start.bytes then stop else start,
      reached := ⟨rest, here⟩ }

/-- Reads one token from a place of the text. A byte order mark may precede all else. -/
def read (m : Mode) (k : Cursor) : Lexed :=
  let k := if k.pos.bytes = 0 && k.sees '\uFEFF' then k.next else k
  m.run m.begin m.atEnd k.pos k.pos none k.rest

end Mode

end Outline.Ruby
