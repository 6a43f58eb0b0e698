import Outline.Toml.Token

/-! The layout of a TOML document: which tokens make up headers, keys and values. Keys and values
stay as they are written; a key or value that is missing where one may be told about later is taken
as an empty word. -/
namespace Outline.Toml

/-- A key or a scalar value as written. -/
structure Lexeme where
  spelling : Spelling
  text : List Char
  span : Span
deriving Repr, DecidableEq, Inhabited

namespace Lexeme

/-- The empty word in front of a token. -/
def missing (t : Token) : Lexeme := ⟨.bare, [], t.span.before⟩

def ofToken (t : Token) : Lexeme :=
  ⟨match t.kind with | .word s => s | _ => .bare, t.text, t.span⟩

end Lexeme

/-- A value as written. -/
inductive Written where
  | scalar (lexeme : Lexeme)
  | array (span : Span) (items : List Written)
  | table (span : Span) (pairs : List (List Lexeme × Written))
deriving Repr, Inhabited

def Written.span : Written → Span
  | scalar l => l.span
  | array s _ => s
  | table s _ => s

/-- A line that says something. -/
inductive Statement where
  | header (list : Bool) (span : Span) (keys : List Lexeme)
  | pair (keys : List Lexeme) (value : Written)
deriving Repr, Inhabited

/-! ### Reading tokens -/

structure Reading where
  rest : List Token
  /-- Where the document ends. -/
  size : Nat
  /-- The last token read that is not blank. -/
  lastSeen : Span := ⟨0, 0⟩
  /-- The last token read that is neither blank nor a comment nor a line end. -/
  lastSolid : Span := ⟨0, 0⟩

abbrev Layout := StateT Reading (Except Flaw)

namespace Layout

def fail {α : Type} (cause : Cause) (span : Span) : Layout α := throw ⟨cause, span⟩

def peek : Layout Token := do
  let s ← get
  return s.rest.headD ⟨.finish, [], .here s.size⟩

def isCommentCharacter (c : Char) : Bool := c = '\t' || (' ' ≤ c && c ≠ '\x7f')

/-- Where the first character is that may not stand in a comment. -/
def badCharacter? (isGood : Char → Bool) (offset : Nat) : List Char → Option Nat
  | [] => none
  | c :: r => if isGood c then badCharacter? isGood (offset + c.utf8Size) r else some offset

/-- Takes the next token. A comment has to be printable, and a carriage return has to be followed by
a line feed. -/
def advance : Layout Token := do
  let t ← peek
  modify fun s => {
    s with
    rest := s.rest.tail
    lastSeen := if t.kind = .blank || t.kind = .finish then s.lastSeen else t.span
    lastSolid :=
      if [.blank, .finish, .comment, .newline].contains t.kind then s.lastSolid else t.span }
  if t.kind = .comment then
    match badCharacter? isCommentCharacter t.span.start t.text with
    | some n => fail .commentCharacter (.here n)
    | none => return t
  else if t.kind = .newline && t.text = ['\r'] then fail .loneReturn t.span.after
  else return t

def skipBlank : Layout Unit := do
  if (← peek).kind = .blank then discard advance

/-- Goes past the end of the line, whatever stands before it. -/
def skipLine : Nat → Layout Unit
  | 0 => return
  | fuel + 1 => do
    let t ← peek
    if t.kind = .finish then return
    discard advance
    if t.kind = .newline then return
    skipLine fuel

/-- Goes past the end of the line, which only a comment may delay. -/
def endLine : Layout Unit := do
  skipBlank
  if (← peek).kind = .comment then discard advance
  let t ← peek
  match t.kind with
  | .newline => discard advance
  | .finish => return
  | _ => fail .lineGoesOn t.span.before

/-! ### Keys -/

/-- The rest of a key after its first part, and whether no part is missing at the end. -/
def moreKeys : Nat → List Lexeme → Layout (List Lexeme × Bool)
  | 0, keys => return (keys, true)
  | fuel + 1, keys => do
    skipBlank
    if (← peek).kind ≠ .dot then return (keys, true)
    discard advance
    skipBlank
    let t ← peek
    match t.kind with
    | .word _ => do
      discard advance
      moreKeys fuel (keys ++ [.ofToken t])
    | .dot => moreKeys fuel (keys ++ [.missing t])
    | _ => return (keys ++ [.missing t], false)

/-- A key with its parts, and whether all of it was there. -/
def key (fuel : Nat) : Layout (List Lexeme × Bool) := do
  let t ← peek
  match t.kind with
  | .word _ => do
    discard advance
    moreKeys fuel [.ofToken t]
  | .dot => moreKeys fuel [.missing t]
  | _ => return ([.missing t], false)

/-! ### Values -/

/-- The rest of a bare value: words and dots, and words after a blank. -/
def moreBare : Nat → Lexeme → Layout Lexeme
  | 0, l => return l
  | fuel + 1, l => do
    match (← get).rest with
    | t :: next =>
      if t.kind = .dot || t.kind = .word .bare then do
        discard advance
        moreBare fuel ⟨.bare, l.text ++ t.text, l.span.upTo t.span⟩
      else if t.kind = .blank && (next.head?.map (·.kind)) = some (.word .bare) then do
        discard advance
        let u ← advance
        moreBare fuel ⟨.bare, l.text ++ t.text ++ u.text, l.span.upTo u.span⟩
      else return l
    | [] => return l

/-- How deep arrays and inline tables may be nested. -/
def depthLimit : Nat := 80

/-- What an inline table waits for, with the key read. -/
inductive Wait where
  | key
  | equals (keys : List Lexeme)
  | value (keys : List Lexeme)
  | comma

def Wait.awaited : Wait → Awaited
  | key => .key
  | equals _ => .equals
  | value _ => .value
  | comma => .comma

/-- Says what is missing where an inline table has a token of the wrong kind. -/
def Wait.refuse (w : Wait) (t : Token) : Flaw :=
  match w with
  | key => ⟨.tableMissingKey, t.span.before⟩
  | equals _ => ⟨.tableMissingEquals, t.span.before⟩
  | value _ => ⟨.arrayUnopened, t.span.before⟩
  | comma => ⟨.tableMissingComma, t.span.before⟩

mutual

def value : Nat → (depth : Nat) → Layout Written
  | 0, _ => return default
  | fuel + 1, depth => do
    let t ← peek
    match t.kind with
    | .comment | .comma | .newline | .finish | .blank => return .scalar (.missing t)
    | .equals => fail .extraEquals t.span
    | .closeCurly => fail .tableUnopened t.span.before
    | .closeSquare => fail .arrayUnopened t.span.before
    | .openSquare => do
      discard advance
      if depthLimit ≤ depth then fail .tooDeep t.span
      let (items, close) ← arrayItems fuel (depth + 1) false []
      return .array (t.span.upTo close) items
    | .openCurly => do
      discard advance
      if depthLimit ≤ depth then fail .tooDeep t.span
      let (pairs, close) ← tablePairs fuel (depth + 1) .key []
      return .table (t.span.upTo close) pairs
    | .word (.quoted _) => do
      discard advance
      return .scalar (.ofToken t)
    | .dot | .word .bare => do
      discard advance
      return .scalar (← moreBare fuel (.ofToken t))

/-- The rest of an array and where it is closed. -/
def arrayItems : Nat → (depth : Nat) → (needsComma : Bool) → List Written →
    Layout (List Written × Span)
  | 0, _, _, items => return (items, default)
  | fuel + 1, depth, needsComma, items => do
    let t ← peek
    match t.kind with
    | .blank | .newline | .comment => do
      discard advance
      arrayItems fuel depth needsComma items
    | .finish => fail .arrayUnclosed (← get).lastSolid.after
    | .comma => do
      if !needsComma then fail .arrayExtraComma t.span
      discard advance
      arrayItems fuel depth false items
    | .equals => fail .arrayEquals t.span
    | .closeCurly => fail .tableUnopened t.span.before
    | .closeSquare => do
      discard advance
      return (items, t.span)
    | _ => do
      if needsComma then fail .arrayMissingComma t.span.before
      let v ← value fuel depth
      arrayItems fuel depth true (items ++ [v])

/-- The rest of an inline table and where it is closed. -/
def tablePairs : Nat → (depth : Nat) → Wait → List (List Lexeme × Written) →
    Layout (List (List Lexeme × Written) × Span)
  | 0, _, _, pairs => return (pairs, default)
  | fuel + 1, depth, wait, pairs => do
    let t ← peek
    match t.kind with
    | .blank | .newline | .comment => do
      discard advance
      tablePairs fuel depth wait pairs
    | .finish => fail .tableUnclosed (← get).lastSolid.after
    | .comma =>
      match wait with
      | .comma => do
        discard advance
        tablePairs fuel depth .key pairs
      | _ => fail (.tableExtraComma wait.awaited) t.span.before
    | .equals =>
      match wait with
      | .key => do
        discard advance
        tablePairs fuel depth (.value [.missing t]) pairs
      | .equals keys => do
        discard advance
        tablePairs fuel depth (.value keys) pairs
      | _ => fail (.tableExtraEquals wait.awaited) t.span.before
    | .closeCurly =>
      match wait with
      | .equals _ => throw (wait.refuse t)
      | .value keys => do
        discard advance
        return (pairs ++ [(keys, .scalar (.missing t))], t.span)
      | _ => do
        discard advance
        return (pairs, t.span)
    | .dot | .word _ =>
      match wait with
      | .key => do
        let (keys, _) ← key fuel
        tablePairs fuel depth (.equals keys) pairs
      | .value keys => do
        let v ← value fuel depth
        tablePairs fuel depth .comma (pairs ++ [(keys, v)])
      | _ => throw (wait.refuse t)
    | .openSquare | .openCurly =>
      match wait with
      | .value keys => do
        let v ← value fuel depth
        tablePairs fuel depth .comma (pairs ++ [(keys, v)])
      | _ => throw (wait.refuse t)
    | .closeSquare => throw (wait.refuse t)

end

/-! ### Documents -/

/-- A header after its first bracket. -/
def header (fuel : Nat) (opening : Token) : Layout Statement := do
  let list := (← peek).kind = .openSquare
  if list then discard advance
  skipBlank
  let (keys, complete) ← key fuel
  skipBlank
  let t ← peek
  if t.kind = .closeSquare then do
    discard advance
    let u ← peek
    if list then
      if u.kind = .closeSquare then discard advance else fail (.headerUnclosed true) t.span.after
    let span := opening.span.upTo (if list then u.span else t.span)
    endLine
    return .header list span keys
  else if complete then fail (.headerUnclosed list) (← get).lastSeen.after
  else do
    skipLine fuel
    return .header list opening.span keys

/-- The rest of a line after its key. -/
def pairAfter (fuel : Nat) (keys : List Lexeme) : Layout Statement := do
  skipBlank
  let t ← peek
  if t.kind ≠ .equals then fail .keyWithoutValue t.span.before
  discard advance
  skipBlank
  let v ← value fuel 0
  endLine
  return .pair keys v

def statements : Nat → List Statement → Layout (List Statement)
  | 0, done => return done
  | fuel + 1, done => do
    let t ← peek
    match t.kind with
    | .finish => return done
    | .blank | .newline | .comment => do
      discard advance
      statements fuel done
    | .openSquare => do
      discard advance
      let s ← header fuel t
      statements fuel (done ++ [s])
    | .closeSquare => fail .headerUnopened t.span.before
    | .comma | .openCurly | .closeCurly => fail .keyInvalid t.span.before
    | .equals => do
      let s ← pairAfter fuel [.missing t]
      statements fuel (done ++ [s])
    | .dot | .word _ => do
      let (keys, _) ← key fuel
      let s ← pairAfter fuel keys
      statements fuel (done ++ [s])

end Layout

/-- The statements of a document. -/
def layout (source : String) : Except Flaw (List Statement) :=
  let tokens := Token.ofText source
  -- Each token is read by at most two calls that are open at the same time.
  (Layout.statements (2 * tokens.length + 4) []).run' ⟨tokens, source.utf8ByteSize, ⟨0, 0⟩, ⟨0, 0⟩⟩

end Outline.Toml
