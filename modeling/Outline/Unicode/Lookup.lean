import Outline.Unicode.Categories
import Outline.Unicode.CodeSet
import Outline.Unicode.Folding
import Outline.Unicode.Properties
import Outline.Unicode.Scripts
import Outline.Unicode.Shared

/-! Sets of characters by name: categories, scripts and properties. -/
namespace Outline.Unicode

/-! ### Reading the lists -/

/-- Reads numbers to base 32. The last digit of a number is a small letter, `W` to `Z`, `+` or `-`;
the digits before it are figures and the other capitals. -/
def readNumbers : List Char → Nat → List Nat
  | [], _ => []
  | c :: r, n =>
    if c.isDigit then readNumbers r (32 * n + (c.toNat - 48))
    else if c.isLower then (32 * n + (c.toNat - 97)) :: readNumbers r 0
    else if 'W' ≤ c && c ≤ 'Z' then (32 * n + (c.toNat - 61)) :: readNumbers r 0
    else if c.isUpper then readNumbers r (32 * n + (c.toNat - 55))
    else if c = '+' then (32 * n + 30) :: readNumbers r 0
    else if c = '-' then (32 * n + 31) :: readNumbers r 0
    else readNumbers r n

/-- Ranges from what each one skips after the last and how far it reaches past its start. -/
def readRanges (next : Nat) : List Nat → List (Nat × Nat)
  | skip :: more :: r => (next + skip, next + skip + more) :: readRanges (next + skip + more + 1) r
  | _ => []

def readSet (text : String) : CodeSet := ⟨readRanges 0 (readNumbers text.toList 0)⟩

def find? (table : List (List String × String)) (name : String) : Option CodeSet :=
  (table.find? (·.1.contains name)).map fun e => readSet e.2

/-! ### Sets by name -/

def unionOf (sets : List CodeSet) : CodeSet := .ofRanges (sets.flatMap (·.ranges))

/-- The categories whose names start with a letter, or all of them. -/
def categoriesUnder (letters : List String) : CodeSet :=
  unionOf (letters.filterMap (find? categoryTexts))

/-- The code points that stand for no character, surrogates apart. -/
def unassigned : CodeSet :=
  (unionOf (⟨[(0xd800, 0xdfff)]⟩ :: categoryTexts.map (readSet ·.2))).complement

/-- The categories that take in others. -/
def categoryGroups : List (List String × List String) := [
  (["lc", "casedletter"], ["lu", "ll", "lt"]),
  (["l", "letter"], ["lu", "ll", "lt", "lm", "lo"]),
  (["m", "mark", "combiningmark"], ["mn", "mc", "me"]),
  (["n", "number"], ["nd", "nl", "no"]),
  (["p", "punctuation", "punct"], ["pc", "pd", "ps", "pe", "pi", "pf", "po"]),
  (["s", "symbol"], ["sm", "sc", "sk", "so"]),
  (["z", "separator"], ["zs", "zl", "zp"])]

/-- A category by a name in small letters without underscores. -/
def category? (name : String) : Option CodeSet :=
  if name = "any" then some .all
  else if name = "ascii" then some ⟨[(0, 127)]⟩
  else if name = "assigned" then some unassigned.complement
  else if name = "cn" || name = "unassigned" then some unassigned
  else if name = "c" || name = "other" then
    some ((categoriesUnder ["cc", "cf", "co"]).union unassigned)
  else match categoryGroups.find? (·.1.contains name) with
    | some g => some (categoriesUnder g.2)
    | none => find? categoryTexts name

def script? (name : String) : Option CodeSet := find? scriptTexts name

/-- The characters of a script and those it shares with other scripts. -/
def scriptWithShared? (name : String) : Option CodeSet := do
  let s ← script? name
  match find? sharedTexts name with
  | some t => return s.symmDiff t
  | none => return s

def property? (name : String) : Option CodeSet := find? propertyTexts name

/-! ### Words, digits and blanks -/

def digits : CodeSet := categoriesUnder ["nd"]
def blanks : CodeSet := (property? "whitespace").getD .empty

/-- What words are made of: letters, marks, decimal digits, connectors and joiners. -/
def wordParts : CodeSet :=
  unionOf (categoriesUnder ["mn", "mc", "me", "nd", "pc"] ::
    ["alphabetic", "joincontrol"].filterMap property?)

/-! ### Letter case -/

/-- A set with all characters that differ from a member in case only. -/
def foldCase (s : CodeSet) : CodeSet :=
  .ofRanges (s.ranges ++ (caseRuns.flatMap (·.pairs)).flatMap fun p =>
    (if s.has p.1 then [(p.2, p.2)] else []) ++ if s.has p.2 then [(p.1, p.1)] else [])

/-- Whether a character has others that differ from it in case only. -/
def hasCase (c : Char) : Bool :=
  (caseRuns.flatMap (·.pairs)).any fun p => p.1 = c.toNat || p.2 = c.toNat

end Outline.Unicode
