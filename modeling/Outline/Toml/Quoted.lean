import Outline.Toml.Layout

/-! The text that quotes and escapes stand for. -/
namespace Outline.Toml

namespace Quoting

/-! ### Characters -/

/-- Printable characters, and tabs. -/
def isVisible (c : Char) : Bool := Layout.isCommentCharacter c

/-- Literal text as it is: `offset` is where `cs` starts. Long text may have line ends. -/
def checkLiteral (q : Quoting) (offset : Nat) : List Char → Except Flaw Unit
  | [] => .ok ()
  | '\r' :: r =>
    if !q.isLong then .error ⟨.quoteCharacter q, .here offset⟩
    else if r.head? ≠ some '\n' then .error ⟨.loneReturn, .here (offset + 1)⟩
    else checkLiteral q (offset + 1) r
  | c :: r =>
    if isVisible c || (q.isLong && c = '\n') then checkLiteral q (offset + c.utf8Size) r
    else .error ⟨.quoteCharacter q, .here offset⟩

/-! ### Escapes -/

def hexValue? (c : Char) : Option Nat :=
  if c.isDigit then some (c.toNat - '0'.toNat)
  else if 'a' ≤ c && c ≤ 'f' then some (c.toNat - 'a'.toNat + 10)
  else if 'A' ≤ c && c ≤ 'F' then some (c.toNat - 'A'.toNat + 10)
  else none

def hexNumber (cs : List Char) : Nat := cs.foldl (fun n c => 16 * n + (hexValue? c).getD 0) 0

/-- The character with a number of `count` hexadecimal digits. -/
def readHex (offset count : Nat) (cs : List Char) : Except Flaw (Char × List Char) :=
  let digits := (cs.takeWhile fun c => (hexValue? c).isSome).take count
  let n := hexNumber digits
  if digits.length < count then .error ⟨.escapeShort, .here (offset + digits.length)⟩
  else if n.isValidChar then .ok (Char.ofNat n, cs.drop count)
  else .error ⟨.escapeNoCharacter, .here offset⟩

/-- The character that an escape stands for, after its backslash. -/
def readEscape (offset : Nat) : List Char → Except Flaw (Char × List Char)
  | 'b' :: r => .ok ('\x08', r)
  | 'e' :: r => .ok ('\x1b', r)
  | 'f' :: r => .ok ('\x0c', r)
  | 'n' :: r => .ok ('\n', r)
  | 'r' :: r => .ok ('\r', r)
  | 't' :: r => .ok ('\t', r)
  | '\\' :: r => .ok ('\\', r)
  | '"' :: r => .ok ('"', r)
  | 'x' :: r => readHex (offset + 1) 2 r
  | 'u' :: r => readHex (offset + 1) 4 r
  | 'U' :: r => readHex (offset + 1) 8 r
  | _ => .error ⟨.escapeUnknown, .here offset⟩

/-- What is left after the line end and the blanks that a backslash at the end of a line
swallows. -/
def afterLineEnd? (cs : List Char) : Option (List Char) :=
  let isBlank (c : Char) : Bool := c = ' ' || c = '\t'
  match cs.dropWhile isBlank with
  | '\n' :: r => some (r.dropWhile fun c => isBlank c || c = '\n' || c = '\r')
  | '\r' :: '\n' :: r => some (r.dropWhile fun c => isBlank c || c = '\n' || c = '\r')
  | _ => none

/-- Basic text with its escapes replaced. -/
def readBasic (q : Quoting) : Nat → (offset : Nat) → List Char → Except Flaw (List Char)
  | 0, _, _ => .ok []
  | _ + 1, _, [] => .ok []
  | fuel + 1, offset, '\\' :: r =>
    match if q.isLong then afterLineEnd? r else none with
    | some rest => readBasic q fuel (offset + byteSize ('\\' :: r) - byteSize rest) rest
    | none =>
      match readEscape (offset + 1) r with
      | .error e => .error e
      | .ok (c, rest) =>
        (readBasic q fuel (offset + byteSize ('\\' :: r) - byteSize rest) rest).map (c :: ·)
  | fuel + 1, offset, c :: r =>
    if (isVisible c && (c ≠ '"' || q.isLong)) || (q.isLong && c = '\n') then
      (readBasic q fuel (offset + c.utf8Size) r).map (c :: ·)
    else if q.isLong && c = '\r' then
      if r.head? = some '\n' then (readBasic q fuel (offset + 1) r).map (c :: ·)
      else .error ⟨.loneReturn, .here (offset + 1)⟩
    else
      let bad := (c :: r).takeWhile fun d => !(isVisible d || (q.isLong && (d = '\n' || d = '\r')))
      .error ⟨.quoteCharacter q, ⟨offset, offset + max 1 (byteSize bad)⟩⟩

/-! ### Text between quotes -/

/-- A line end right after the opening quotes does not count. -/
def skipLineEnd : List Char → List Char
  | '\n' :: r => r
  | '\r' :: '\n' :: r => r
  | r => r

/-- The text that a quoted word stands for. -/
def read (q : Quoting) (l : Lexeme) : Except Flaw String := do
  let width := q.mark.length
  let opened := l.text.drop width
  let inner := if q.isLong then skipLineEnd opened else opened
  let closing := q.mark.toList
  if !closing.isSuffixOf inner then
    .error ⟨.quoteUnclosed q, l.span.after⟩
  let body := inner.take (inner.length - width)
  let offset := l.span.start + byteSize l.text - byteSize inner
  if q.isLiteral then
    q.checkLiteral offset body
    return String.ofList body
  else return String.ofList (← q.readBasic (body.length + 1) offset body)

end Quoting

/-! ### Keys -/

structure Key where
  name : String
  span : Span
deriving Repr, DecidableEq, Inhabited

def isBareKeyCharacter (c : Char) : Bool := c.isAlphanum || c = '-' || c = '_'

/-- The key that a word stands for. -/
def Key.read (l : Lexeme) : Except Flaw Key :=
  match l.spelling with
  | .quoted q =>
    if q.isLong then .error ⟨.keyLong q, l.span⟩
    else (q.read l).map (⟨·, l.span⟩)
  | .bare =>
    if l.text.isEmpty then .error ⟨.keyEmpty, l.span⟩
    else
      match l.text.find? fun c => !isBareKeyCharacter c with
      | none => .ok ⟨String.ofList l.text, l.span⟩
      | some c =>
        let n := l.span.start + byteSize (l.text.takeWhile isBareKeyCharacter)
        .error ⟨.keyCharacter, ⟨n, n + c.utf8Size⟩⟩

end Outline.Toml
