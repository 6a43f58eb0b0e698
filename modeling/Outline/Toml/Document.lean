import Outline.Text.Quoted
import Outline.Toml.Scalar

/-! TOML documents: tables of values by key, put together from the statements of a text. A table is
written under a header, in braces, by dotted keys, or only implied by the header of a table inside
it; no table may be written twice. -/
namespace Outline.Toml

/-- How a table is written. -/
inductive Form where
  | header
  | implied
  | dotted
  | braces
  | dottedInBraces
deriving Repr, DecidableEq, Inhabited

namespace Form

def isDotted : Form → Bool
  | dotted | dottedInBraces => true
  | _ => false

def isInBraces : Form → Bool
  | braces | dottedInBraces => true
  | _ => false

end Form

inductive Item where
  | scalar (span : Span) (value : Scalar)
  | array (span : Span) (items : List Item)
  | table (form : Form) (span : Span) (entries : List (Key × Item))
  /-- The tables under headers in double brackets. -/
  | tables (items : List Item)
deriving Repr, Inhabited

abbrev Table := List (Key × Item)

namespace Item

def span : Item → Span
  | scalar s _ => s
  | array s _ => s
  | table _ s _ => s
  | tables items => spanOf items
where
  /-- From the first table to the last. -/
  spanOf : List Item → Span
  | [] => default
  | [i] => i.span
  | i :: r => i.span.upTo (spanOf r)

/-- The name of a kind of value. -/
def kind : Item → String
  | scalar _ (.string _) => "string"
  | scalar _ (.integer _) => "integer"
  | scalar _ (.float _) => "float"
  | scalar _ (.boolean _) => "boolean"
  | scalar _ (.moment _) => "datetime"
  | array _ _ => "array"
  | table form _ _ => if form.isInBraces then "inline table" else "table"
  | tables _ => "array of tables"

/-- A value in a few words, for one that is of the wrong kind. -/
def describe : Item → String
  | scalar _ (.string s) => "string " ++ Text.quoted s
  | scalar _ (.integer n) => "integer `" ++ toString n ++ "`"
  | scalar _ (.float x) => "floating point `" ++ x.text ++ "`"
  | scalar _ (.boolean b) => "boolean `" ++ (if b then "true" else "false") ++ "`"
  | scalar _ (.moment _) => "map"
  | array _ _ => "sequence"
  | table _ _ _ => "map"
  | tables _ => "sequence"

end Item

namespace Table

def get? (t : Table) (name : String) : Option Item := (t.find? (·.1.name = name)).map (·.2)

/-- Puts an item in the place of the one with the same key. -/
def replace (t : Table) (name : String) (item : Item) : Table :=
  t.map fun e => if e.1.name = name then (e.1, item) else e

def erase (t : Table) (name : String) : Table := t.filter (·.1.name ≠ name)

/-- Changes the table at the end of a path. A table that is not there is made, in the form
`make`. -/
def alter {α : Type} (make : Form) (change : Form → Table → Except Flaw (α × Table)) :
    List Key → Form → Table → Except Flaw (α × Table)
  | [], form, t => change form t
  | k :: path, _, t =>
    match t.get? k.name with
    | none => do
      let (a, sub) ← alter make change path make []
      return (a, t ++ [(k, .table make k.span sub)])
    | some (.table form span sub) =>
      if form.isInBraces && !make.isInBraces then
        .error ⟨.extendsValue (Item.table form span sub).kind, k.span⟩
      else if make.isDotted && (form = .header || form = .braces) then
        .error ⟨.duplicateKey, k.span⟩
      else do
        let (a, sub) ← alter make change path form sub
        return (a, t.replace k.name (.table form span sub))
    | some (.tables items) =>
      match items.getLast? with
      | some (.table form span sub) => do
        let (a, sub) ← alter make change path form sub
        return (a, t.replace k.name (.tables (items.dropLast ++ [.table form span sub])))
      | _ => .error ⟨.duplicateKey, k.span⟩
    | some item => .error ⟨.extendsValue item.kind, k.span⟩

/-- Adds an item under a key that is new. Dotted keys and others do not write to the same table. -/
def add (t : Table) (path : List Key) (k : Key) (item : Item) (make form : Form) :
    Except Flaw Table := do
  let (_, t) ← alter make (fun form t =>
    if form.isDotted = path.isEmpty || (t.get? k.name).isSome then .error ⟨.duplicateKey, k.span⟩
    else .ok ((), t ++ [(k, item)])) path form t
  return t

end Table

/-- All parts of a key but the last, and the last. -/
def readKeys (ls : List Lexeme) : Except Flaw (List Key × Key) := do
  let keys ← ls.mapM Key.read
  return (keys.dropLast, keys.getLastD default)

/-- The value that is written. -/
def Item.read : Written → Except Flaw Item
  | .scalar l => (Scalar.read l).map (.scalar l.span)
  | .array span items => do return .array span (← readAll items)
  | .table span pairs => do return .table .braces span (← readPairs pairs [])
where
  readAll : List Written → Except Flaw (List Item)
  | [] => .ok []
  | w :: r => do
    let i ← Item.read w
    return i :: (← readAll r)
  readPairs : List (List Lexeme × Written) → Table → Except Flaw Table
  | [], t => .ok t
  | (ls, w) :: r, t => do
    let (path, k) ← readKeys ls
    let i ← Item.read w
    readPairs r (← t.add path k i .dottedInBraces .braces)

/-! ### Sections -/

/-- A header with the pairs under it. -/
structure Section where
  list : Bool
  span : Span
  path : List Key
  key : Key
  entries : Table

namespace Section

/-- Starts a section, and gives the other tables. A table that was only implied so far is taken
up. -/
def start (root : Table) (list : Bool) (span : Span) (path : List Key) (k : Key) :
    Except Flaw (Section × Table) := do
  let (found, root) ← Table.alter .implied (fun _ t =>
    match t.get? k.name, list with
    | none, _ => .ok ([], t)
    | some (.table .implied _ sub), false => .ok (sub, t.erase k.name)
    | some (.tables _), true => .ok ([], t)
    | some _, _ => .error ⟨.duplicateKey, k.span⟩) path .header root
  return (⟨list, span, path, k, found⟩, root)

/-- Puts a section among the other tables. -/
def finish (s : Section) (root : Table) : Except Flaw Table := do
  let item := Item.table .header s.span s.entries
  let (_, root) ← Table.alter .implied (fun _ t =>
    match t.get? s.key.name with
    | some (.tables items) => .ok ((), t.replace s.key.name (.tables (items ++ [item])))
    | _ => .ok ((), t ++ [(s.key, if s.list then .tables [item] else item)])) s.path .header root
  return root

end Section

/-- Puts what is left of a document together: the tables that are complete, and the section that is
not, if a header has been read. -/
def assemble : List Statement → Option Section → Table → Except Flaw Table
  | [], none, root => .ok root
  | [], some s, root => s.finish root
  | .pair ls w :: rest, current, root => do
    let (path, k) ← readKeys ls
    let item ← Item.read w
    match current with
    | none => assemble rest none (← root.add path k item .dotted .header)
    | some s => do
      let entries ← s.entries.add path k item .dotted .header
      assemble rest (some { s with entries, span := s.span.upTo w.span }) root
  | .header list span ls :: rest, current, root => do
    let root ← match current with
      | none => pure root
      | some s => s.finish root
    let (path, k) ← readKeys ls
    let (s, root) ← Section.start root list span path k
    assemble rest (some s) root

/-- The table that a document stands for. -/
def parse (source : String) : Except Flaw Table := do
  assemble (← layout source) none []

end Outline.Toml
