import Outline.Grammar.Automaton

/-! The parse table of an automaton: for each state what to do at each terminal, and where each
symbol leads. Rows are worked out when they are first asked for. -/
namespace Outline.Grammar

/-- What a state does at a terminal. -/
inductive Action where
  /-- Takes the terminal as the next step. -/
  | shift
  /-- Takes the terminal as one that may stand anywhere. -/
  | skip
  /-- Finishes a production. A repetition may also go on, which the shorter reading never does. -/
  | reduce (production : Nat) (goesOn : Bool)
  | accept
  /-- Takes the terminal as part of skipped text. -/
  | recover
deriving Repr, DecidableEq, Inhabited

structure Row where
  actions : Array (Option Action)
  /-- The state that each symbol leads to. -/
  next : Array (Thunk Nat)
  /-- The token set to look for; none where the embedded phrase ends without looking. -/
  mode : Option Nat

/-- What stands anywhere in a text, and what is not looked for while text is skipped. -/
structure Anywhere where
  /-- A token that may stand between any two others. -/
  token : Nat
  /-- A phrase that may stand between any two tokens, and the terminal it begins with. -/
  embedded : Nat
  opening : Nat
  /-- Tokens that are not looked for while text is skipped. -/
  unsought : List Nat

/-- A state: a core, what may follow its items, and the token set it looks for. -/
structure State where
  core : Nat
  follow : List TokenSet
  mode : Nat
deriving Inhabited

structure States where
  all : Array State
  /-- The first state of each core, and one past the last. -/
  start : Array Nat

namespace States

def covers : List TokenSet → List TokenSet → Bool
  | a :: r, b :: t => a ∪ b == a && covers r t
  | _, _ => true

/-- The first state of a core whose lookaheads cover the given ones. -/
def find (t : States) (core : Nat) (follow : List TokenSet) : Nat :=
  let lo := t.start.getD core 0
  let n := t.start.getD (core + 1) lo - lo
  ((List.range' lo n).find? fun i => covers (t.all.getD i default).follow follow).getD 0

end States

namespace Action

/-- The strongest precedence among reductions that compete, and the productions that have it. -/
def strongest (rs : List (Nat × Int × Option Assoc)) : List (Nat × Int × Option Assoc) :=
  match (rs.map (·.2.1)).max? with
  | none => []
  | some m => rs.filter (·.2.1 == m)

/-- Settles a terminal that a state may both take and finish productions at. `unfinished` holds the
precedences of the unfinished items that take it, `same` says that all of them and the finished ones
belong to one repetition. -/
def settle (rs : List (Nat × Int × Option Assoc)) (unfinished : List Int) (same : Bool) :
    Option Action :=
  match strongest rs with
  | [] => some .shift
  | r :: more =>
    let finish := Action.reduce r.1 false
    if same then some (.reduce r.1 true)
    else
      let tighter := unfinished.any (r.2.1 < ·)
      let looser := unfinished.any (· < r.2.1)
      if tighter && !looser then some .shift
      else if looser && !tighter then some finish
      else
        let assocs := (r :: more).map (·.2.2)
        if assocs.all (· == some .right) then some .shift else some finish

end Action

namespace Automaton

variable (a : Automaton) (states : States) (w : Anywhere)

def level (i : Nat) : Int := ((a.items.last a.grammar i).bind (·.prec)).getD 0
def assoc (i : Nat) : Option Assoc := (a.items.last a.grammar i).bind (·.assoc)

/-- The productions finished in a kernel, with what may follow them. -/
def finished (k : Kernel) (opened : Array (Option TokenSet)) : Kernel :=
  let done := k.filter fun (i, _) => (a.items.next a.grammar i).isNone
  (List.range a.grammar.phrases.size).foldl (fun acc p =>
    match opened.getD p none with
    | none => acc
    | some f => (a.grammar.produces.getD p []).foldl (fun acc q =>
      if (a.grammar.productions.getD q default).steps.isEmpty then
        acc ++ [(a.items.ofProduction q 0, f)]
      else acc) acc) done

/-- What the items of a kernel do at terminal `t`. -/
def actionAt (k done : Kernel) (shifts : Bool) (t : Nat) : Option Action :=
  let ending := done.filter fun (_, f) => f.has t
  let phraseOf (i : Nat) : Nat := (a.items.production a.grammar i).phrase
  let productionOf (i : Nat) : Nat := (a.items.all.getD i default).production
  match ending with
  | [] => if shifts then some .shift else none
  | [(i, _)] =>
    if shifts then contested ending phraseOf productionOf
    else if productionOf i = 0 then some .accept
    else some (.reduce (productionOf i) false)
  | _ => contested ending phraseOf productionOf
where
  contested (ending : Kernel) (phraseOf productionOf : Nat → Nat) : Option Action :=
    let rs := ending.map fun (i, _) => (productionOf i, a.level i, a.assoc i)
    let going := k.filter fun (i, _) =>
      match a.items.next a.grammar i with
      | some s => (Grammar.firstOf a.first s).has t && (a.items.all.getD i default).dot > 0
      | none => false
    if !shifts then (Action.strongest rs).head?.map fun r => .reduce r.1 false
    else
      let phrases := (going ++ ending).map fun (i, _) => phraseOf i
      let same := match phrases with
        | p :: r => r.all (· == p) && (a.grammar.phrases[p]?.map (·.repeats)).getD false
        | [] => false
      Action.settle rs (going.map fun (i, _) => a.level i) same

/-- The row of a state. State 0 skips text until something is found to go on with. Where the
embedded phrase ends it does so at the end of the text as well. -/
def row (n : Nat) : Row :=
  let g := a.grammar
  let st := states.all.getD n default
  let k : Kernel := (a.cores.getD st.core []).zip st.follow
  let opened := a.opened k
  let succ := a.successors k opened
  let done := a.finished k opened
  let own := (List.range g.terminals).map fun t =>
    a.actionAt k done (!(succ.getD t []).isEmpty) t
  let closes := (own.getD g.closing none).isSome
  let filled := own.zipIdx.map fun (act, t) =>
    if closes then (if t = 0 then own.getD g.closing none else act)
    else match act with
      | some x => if n = 0 && t = 0 then some .recover else some x
      | none =>
        if t = w.opening then some .shift
        else if t = w.token then some .skip
        else if n = 0 && !w.unsought.contains t && t ≠ g.closing then some .recover
        else none
  let next := succ.mapIdx fun i k => Thunk.mk fun _ =>
    if k.isEmpty then
      if closes then 0
      else if i = w.opening then 2
      else if i = g.terminals + w.embedded then n
      else 0
    else states.find (a.coreOf.getD (k.map (·.1)) 0) (k.map (·.2))
  { actions := filled.toArray, next, mode := if closes then none else some st.mode }

end Automaton

end Outline.Grammar
