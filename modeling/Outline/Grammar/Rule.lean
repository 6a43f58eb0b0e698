/-! Grammar rules as expressions over named symbols, and their flat form: productions, lists of
steps that carry the precedence, associativity, shown name and field in force at each step. -/
namespace Outline.Grammar

inductive Assoc where
  | left | right
deriving Repr, DecidableEq, Hashable

/-- The name a step shows in the tree in place of its own: that of a named node, or a spelling. -/
structure Shown where
  name : String
  named : Bool
deriving Repr, DecidableEq, Hashable

inductive Rule where
  | blank
  /-- A token with a fixed spelling; an `immediate` one allows no blanks before it. -/
  | token (spelling : String) (immediate : Bool)
  /-- A named token or rule. -/
  | ref (name : String)
  | append (a b : Rule)
  | either (a b : Rule)
  /-- One or more repetitions. -/
  | many1 (a : Rule)
  | prec (level : Int) (assoc : Option Assoc) (a : Rule)
  | shown (as : Shown) (a : Rule)
  | field (name : String) (a : Rule)
deriving Repr, DecidableEq

namespace Rule

def lit (s : String) : Rule := .token s false
def imm (s : String) : Rule := .token s true

def seq : List Rule → Rule
  | [] => .blank
  | [a] => a
  | a :: r => .append a (seq r)

def choice : List Rule → Rule
  | [] => .blank
  | [a] => a
  | a :: r => .either a (choice r)

def anyOf (names : List String) : Rule := choice (names.map .ref)
def anyLit (spellings : List String) : Rule := choice (spellings.map lit)
def opt (a : Rule) : Rule := .either a .blank
def many (a : Rule) : Rule := opt (.many1 a)
def sepBy1 (sep a : Rule) : Rule := seq [a, many (seq [sep, a])]
def commaSep1 (a : Rule) : Rule := sepBy1 (lit ",") a
def level (n : Int) (a : Rule) : Rule := .prec n none a
def left (n : Int) (a : Rule) : Rule := .prec n (some .left) a
def right (n : Int) (a : Rule) : Rule := .prec n (some .right) a

/-- Appears in the tree as a node named `name`. -/
def named (name : String) (a : Rule) : Rule := .shown ⟨name, true⟩ a
/-- Appears in the tree as the spelling `s`. -/
def spelt (s : String) (a : Rule) : Rule := .shown ⟨s, false⟩ a

end Rule

/-- A symbol as a rule writes it. -/
inductive SymbolName where
  | token (spelling : String) (immediate : Bool)
  | name (n : String)
deriving Repr, DecidableEq, Hashable

/-- One step of a production, with the markings in force there. -/
structure Step (σ : Type) where
  symbol : σ
  prec : Option Int := none
  assoc : Option Assoc := none
  shown : Option Shown := none
  field : Option String := none
deriving Repr, DecidableEq, Hashable

/-! ### Repetitions

Each distinct repetition becomes a rule of its own, `r = r r | a`. -/

/-- Repetitions met so far, with the names given to them, newest first. -/
abbrev Repeats := List (Rule × String)

namespace Rule

/-- The rule that repeats `a` under the name `r`. -/
def repeating (r : String) (a : Rule) : Rule := .either (.append (.ref r) (.ref r)) a

/-- Replaces every repetition by a reference; one met before keeps its name. -/
def liftRepeats : Rule → StateM Repeats Rule
  | .blank => pure .blank
  | .token s i => pure (.token s i)
  | .ref n => pure (.ref n)
  | .append a b => do return .append (← a.liftRepeats) (← b.liftRepeats)
  | .either a b => do return .either (← a.liftRepeats) (← b.liftRepeats)
  | .prec n s a => do return .prec n s (← a.liftRepeats)
  | .shown s a => do return .shown s (← a.liftRepeats)
  | .field f a => do return .field f (← a.liftRepeats)
  | .many1 a => do
    let a ← a.liftRepeats
    let seen ← get
    match seen.find? (·.1 == a) with
    | some (_, r) => return .ref r
    | none =>
      let r := "+" ++ toString seen.length
      set ((a, r) :: seen)
      return .ref r

/-! ### Flat form -/

/-- The markings around a part of a rule. -/
structure Markings where
  prec : Option Int := none
  assoc : Option Assoc := none
  shown : Option Shown := none
  field : Option String := none

/-- Gives the last step back the precedence around it: a precedence that ends before its
production does binds every step but the last. -/
def release (outer : Markings) (assoc : Option Assoc) :
    List (Step SymbolName) → List (Step SymbolName)
  | [] => []
  | [s] => [{ s with prec := outer.prec, assoc := if assoc.isSome then outer.assoc else s.assoc }]
  | s :: t :: r => s :: release outer assoc (t :: r)

/-- All step lists of a rule without repetitions; `atEnd` says that nothing follows the part. -/
def flatten : Rule → Markings → Bool → List (List (Step SymbolName))
  | .blank, _, _ => [[]]
  | .token s i, m, _ => [[⟨.token s i, m.prec, m.assoc, m.shown, m.field⟩]]
  | .ref n, m, _ => [[⟨.name n, m.prec, m.assoc, m.shown, m.field⟩]]
  | .append a b, m, atEnd =>
    let bs := b.flatten m atEnd
    (a.flatten m false).flatMap fun x => bs.map (x ++ ·)
  | .either a b, m, atEnd => a.flatten m atEnd ++ b.flatten m atEnd
  | .many1 a, m, atEnd => a.flatten m atEnd
  | .prec n s a, m, atEnd =>
    let inner := a.flatten { m with prec := some n, assoc := s.or m.assoc } atEnd
    if atEnd then inner else inner.map (release m s)
  | .shown s a, m, atEnd => a.flatten { m with shown := some s } atEnd
  | .field f a, m, atEnd => a.flatten { m with field := some f } atEnd

/-- The productions of a rule, each once. -/
def productions (a : Rule) : List (List (Step SymbolName)) := (a.flatten {} true).eraseDups

end Rule

end Outline.Grammar
