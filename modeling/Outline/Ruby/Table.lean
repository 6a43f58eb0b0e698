import Outline.Grammar.Table
import Outline.Ruby.Grammar
import Outline.Ruby.Table.Lookaheads
import Outline.Ruby.Table.Modes
import Outline.Ruby.Table.States

/-! The parse table of Ruby, read from the lists of its states. -/
namespace Outline.Ruby

open Grammar

/-! ### Reading the lists -/

/-- The value of a digit: numbers, capitals, small letters, `+` and `-`. -/
def digitValue (c : Char) : Nat :=
  if c.isDigit then c.toNat - 48
  else if c.isUpper then c.toNat - 55
  else if c.isLower then c.toNat - 61
  else if c = '+' then 62 else 63

/-- The set that a word spells, six members a digit. -/
def readSet (word : List Char) : TokenSet :=
  ⟨word.foldr (fun c n => n * 64 + digitValue c) 0⟩

/-- The words of a text, which blanks and line ends keep apart. -/
def words (text : String) : List (List Char) :=
  (text.toList.foldr step [[]]).filter (!·.isEmpty)
where
  step (c : Char) (acc : List (List Char)) : List (List Char) :=
    if c = ' ' || c = '\n' then [] :: acc
    else match acc with
      | w :: r => (c :: w) :: r
      | [] => [[c]]

def readSets (text : String) : Array TokenSet := ((words text).map readSet).toArray

def lookaheads : Array TokenSet := readSets lookaheadText

/-- The sets of a state with `items` items, from runs of equal ones. -/
def readFollow (items : Nat) : List Char → List TokenSet
  | a :: b :: n :: r =>
    let k := digitValue n
    List.replicate k (setOf a b) ++ readFollow (items - k) r
  | [a, b] => List.replicate items (setOf a b)
  | _ => []
where
  setOf (a b : Char) : TokenSet := lookaheads.getD (digitValue a * 64 + digitValue b) .empty

/-- The state that a word spells. -/
def readState (core items : Nat) (word : List Char) : State :=
  match word with
  | a :: b :: r => ⟨core, readFollow items r, digitValue a * 64 + digitValue b⟩
  | _ => ⟨core, [], 0⟩

/-! ### The table -/

def phraseNamed (name : String) : Nat :=
  (grammar.phrases.toList.findIdx? (·.name == name)).getD 0

def terminalNamed (name : String) : Nat :=
  match tokens.findIdx? (·.name == name) with
  | some i => i + 1
  | none => ((Mark.all.findIdx? (·.name == name)).map (1 + tokens.length + ·)).getD 0

/-- Comments and the bodies of here-documents stand anywhere. A token whose beginning is a token in
its own right is not looked for in skipped text. -/
def anywhere : Anywhere where
  token := terminalNamed "comment"
  embedded := phraseNamed "heredoc_body"
  opening := terminalNamed "_heredoc_body_start"
  unsought := ["uninterpreted", "=>", "-=", "**=", "[]", "[]=", "constant_suffix",
    "identifier_suffix", "_blanks", "escape_sequence", "->"].map terminalNamed

def automaton : Automaton := Automaton.ofGrammar grammar anywhere.embedded

def states : States :=
  let lists := stateTexts.zipIdx.map fun (text, core) =>
    (words text).map (readState core (automaton.cores.getD core []).length)
  { all := lists.flatten.toArray,
    start := (lists.foldl (fun (acc : Nat × Array Nat) l =>
      (acc.1 + l.length, acc.2.push (acc.1 + l.length))) (0, #[0])).2 }

/-- The rows of all states, each worked out when it is first asked for. -/
def rows : Array (Thunk Row) :=
  (Array.range states.all.size).map fun n => Thunk.mk fun _ => automaton.row states anywhere n

@[irreducible] def row (n : Nat) : Row :=
  match rows[n]? with
  | some r => r.get
  | none => ⟨#[], #[], none⟩

end Outline.Ruby
