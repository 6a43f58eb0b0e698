import Outline.Grammar.Pattern
import Outline.Grammar.Rule
import Std.Data.HashMap

/-! A grammar with its names resolved: terminals and phrases by number, and productions over them.
Terminal 0 is the end of the text; the tokens with a pattern follow, then the tokens that only the
surroundings tell apart, and last the mark that closes an embedded phrase. -/
namespace Outline.Grammar

/-- Whether a symbol makes a node of the tree, and whether that node is named. -/
inductive Visibility where
  | hidden | anonymous | named
deriving Repr, DecidableEq, Inhabited

/-- A token with a pattern. Of two tokens with one text the higher precedence wins, then the higher
rank, then the earlier one. -/
structure Token where
  name : String
  visibility : Visibility
  pattern : Pattern
  /-- Allows no blanks before it. -/
  immediate : Bool := false
  prec : Int := 0
  rank : Nat := 0

namespace Token

/-- A token with one spelling, shown as that spelling. -/
def lit (s : String) : Token :=
  { name := s, visibility := .anonymous, pattern := .text s, rank := 2 }

def imm (s : String) : Token := { lit s with immediate := true, rank := 3 }

/-- A named token with one spelling. -/
def keyword (name s : String) : Token :=
  { name, visibility := .named, pattern := .text s, rank := 2 }

/-- A named token with one of several spellings. -/
def spellings (name : String) (ss : List String) : Token :=
  { name, visibility := .named, rank := 1,
    pattern := ss.foldr (fun s p => .alt (.text s) p) (.chars ⟨[], false⟩) }

def regular (name : String) (pattern : Pattern) : Token := { name, visibility := .named, pattern }

end Token

/-- A grammar as it is written down. -/
structure Spec where
  tokens : List Token
  /-- The tokens told apart by their surroundings. -/
  context : List (String × Visibility)
  /-- The rules, the first of which is the whole text. -/
  rules : List (String × Rule)

inductive Symbol where
  | terminal (i : Nat)
  | phrase (i : Nat)
deriving Repr, DecidableEq, Hashable, Inhabited

structure Phrase where
  name : String
  visibility : Visibility
  /-- A phrase that stands for a repetition. -/
  repeats : Bool
deriving Inhabited

structure Production where
  phrase : Nat
  steps : Array (Step Symbol)
deriving Inhabited

structure Grammar where
  tokens : Array Token
  context : Array (String × Visibility)
  phrases : Array Phrase
  /-- Production 0 is the whole text under a phrase past all others. -/
  productions : Array Production
  /-- The productions of each phrase. -/
  produces : Array (List Nat)

namespace Grammar

/-- The number of terminals, the end of the text and the closing mark included. -/
def terminals (g : Grammar) : Nat := g.tokens.size + g.context.size + 2

/-- The mark that closes an embedded phrase. -/
def closing (g : Grammar) : Nat := g.terminals - 1

/-- The terminal of the `i`th token told apart by its surroundings. -/
def contextTerminal (g : Grammar) (i : Nat) : Nat := 1 + g.tokens.size + i

def visibility (g : Grammar) : Symbol → Visibility
  | .terminal 0 => .hidden
  | .terminal i =>
    if h : i - 1 < g.tokens.size then g.tokens[i - 1].visibility
    else (g.context.getD (i - 1 - g.tokens.size) ("", .hidden)).2
  | .phrase i => (g.phrases[i]?.map (·.visibility)).getD .hidden

def name (g : Grammar) : Symbol → String
  | .terminal 0 => "end"
  | .terminal i =>
    if h : i - 1 < g.tokens.size then g.tokens[i - 1].name
    else (g.context.getD (i - 1 - g.tokens.size) ("", .hidden)).1
  | .phrase i => (g.phrases[i]?.map (·.name)).getD ""

end Grammar

/-! ### Resolving names -/

namespace Spec

/-- The rules without repetitions, each with a mark on those that stand for one. A hidden rule that
is nothing but a repetition stands for itself. -/
def plainRules (s : Spec) : List (String × Bool × Rule) :=
  let lift : StateM Repeats (List (String × Bool × Rule)) := s.rules.mapM fun (n, r) =>
    match r, n.startsWith "_" with
    | .many1 a, true => do return (n, true, Rule.repeating n (← a.liftRepeats))
    | r, _ => do return (n, false, ← r.liftRepeats)
  let (own, seen) := lift.run []
  own ++ seen.reverse.map fun (a, r) => (r, true, Rule.repeating r a)

/-- The number of every symbol by its name. -/
def numbering (s : Spec) (rules : List (String × Bool × Rule)) : Std.HashMap SymbolName Symbol :=
  let tokens := s.tokens.zipIdx.map fun (t, i) =>
    (match t.visibility with
      | .anonymous => SymbolName.token t.name t.immediate
      | _ => .name t.name, Symbol.terminal (i + 1))
  let context := s.context.zipIdx.map fun ((n, _), i) =>
    (SymbolName.name n, Symbol.terminal (1 + s.tokens.length + i))
  let phrases := rules.zipIdx.map fun ((n, _), i) => (SymbolName.name n, Symbol.phrase i)
  Std.HashMap.ofList (tokens ++ context ++ phrases)

/-- The grammar that a specification writes down. -/
def grammar (s : Spec) : Grammar :=
  let rules := s.plainRules
  let numbers := s.numbering rules
  let resolve (step : Step SymbolName) : Step Symbol :=
    ⟨numbers.getD step.symbol default, step.prec, step.assoc, step.shown, step.field⟩
  let phrases := rules.map fun (n, rep, _) =>
    { name := n, repeats := rep,
      visibility := if rep || n.startsWith "_" then .hidden else .named : Phrase }
  let lists := rules.map fun rule =>
    rule.2.2.productions.map fun steps => (steps.map resolve).toArray
  let whole : Production := ⟨rules.length, #[{ symbol := .phrase 0 }]⟩
  let all := lists.zipIdx.flatMap fun (ps, i) => ps.map (Production.mk i)
  let starts := lists.foldl (fun (acc : Nat × Array (List Nat)) ps =>
    (acc.1 + ps.length, acc.2.push (List.range' acc.1 ps.length))) (1, #[])
  { tokens := s.tokens.toArray, context := s.context.toArray, phrases := phrases.toArray,
    productions := (whole :: all).toArray, produces := starts.2 }

end Spec

end Outline.Grammar
