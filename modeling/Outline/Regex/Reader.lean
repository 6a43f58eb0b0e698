import Outline.Regex.Written
import Outline.Text.Blank
import Outline.Unicode.Lookup

/-! Reading a regular expression character by character. With blanks made insignificant, a reader
skips them and comments between the parts of a pattern. -/
namespace Outline.Regex

open Outline.Text (isBlank)

structure Reader where
  rest : List Char
  place : Place := {}
  /-- Whether blanks and comments are skipped. -/
  spaced : Bool := false
  /-- The names of groups so far. -/
  names : List (String × Span) := []

abbrev Read := StateT Reader (Except Flaw)

namespace Reader

/-! ### Moving on -/

def fail {α : Type} (cause : Cause) (span : Span) (repeated : Option Span := none) : Read α :=
  throw { cause, span, repeated }

def peek : Read (Option Char) := return (← get).rest.head?

def here : Read Place := return (← get).place

/-- The span of the next character. -/
def spanOf (c : Char) : Read Span := return ⟨← here, (← here).past c⟩

def bump : Read Unit :=
  modify fun r => match r.rest with
    | [] => r
    | c :: t => { r with rest := t, place := r.place.past c }

/-- Past blanks and comments, which run to the end of a line. -/
def skipSpace (comment : Bool) : List Char → Place → List Char × Place
  | [], p => ([], p)
  | c :: r, p =>
    if comment then skipSpace (c ≠ '\n') r (p.past c)
    else if isBlank c then skipSpace false r (p.past c)
    else if c = '#' then skipSpace true r (p.past c)
    else (c :: r, p)

def bumpSpace : Read Unit :=
  modify fun r =>
    if r.spaced then
      let (rest, place) := skipSpace false r.rest r.place
      { r with rest, place }
    else r

/-- Past a character and the space after it; whether something is left. -/
def advance : Read Bool := do
  bump
  bumpSpace
  return (← peek).isSome

/-- Past a given text, if it comes next. -/
def bumpIf (s : String) : Read Bool := do
  if s.toList.isPrefixOf (← get).rest then
    s.toList.forM fun _ => bump
    return true
  else return false

/-- The first of some characters that is no blank and opens no comment. -/
def firstSolid (comment : Bool) : List Char → Option Char
  | [] => none
  | c :: r =>
    if isBlank c then firstSolid comment r
    else if !comment && c = '#' then firstSolid true r
    else some c

/-- The character after the next one, space apart. -/
def peekSecond : Read (Option Char) := do
  let r ← get
  let tail := r.rest.drop 1
  return if r.spaced then (firstSolid false tail).or tail.head? else tail.head?

def orThrow {α : Type} : Except Flaw α → Read α
  | .ok a => pure a
  | .error e => throw e

/-! ### Numbers -/

def hexDigit? (c : Char) : Option Nat :=
  if c.isDigit then some (c.toNat - 48)
  else if 'a' ≤ c && c ≤ 'f' then some (c.toNat - 87)
  else if 'A' ≤ c && c ≤ 'F' then some (c.toNat - 55)
  else none

/-- The character with a hexadecimal number. -/
def hexChar? (digits : List Nat) : Option Char :=
  let n := digits.foldl (fun n d => 16 * n + d) 0
  if h : n.isValidChar then some (Char.ofNatAux n h) else none

/-- The next character as a hexadecimal digit. -/
def readHexDigit (c : Char) : Read Nat := do
  match hexDigit? c with
  | some d => return d
  | none => fail .hexDigit (← spanOf c)

/-- A given number of hexadecimal digits, the first of which comes next. -/
def readHexDigits : Nat → List Nat → Read (List Nat)
  | 0, ds => return ds.reverse
  | n + 1, ds => do
    if !ds.isEmpty then let _ ← advance
    match ← peek with
    | none => fail .escapeEnd (.here (← here))
    | some c => readHexDigits n ((← readHexDigit c) :: ds)

/-- What stands before a closing brace, each character checked; the opening brace comes next. The
end of the pattern also ends it. -/
def readBraced {α : Type} (check : Char → Read α) : Nat → List α → Read (List α)
  | 0, cs => return cs.reverse
  | n + 1, cs => do
    let _ ← advance
    match ← peek with
    | none => return cs.reverse
    | some c => if c = '}' then return cs.reverse else readBraced check n ((← check c) :: cs)

/-- A character by its number, after `x`, `u` or `U`. -/
def readHex (slash : Place) (letter : Char) : Read Literal := do
  if !(← advance) then fail .escapeEnd (.here (← here))
  let first ← here
  if (← peek) = some '{' then
    let digits ← readBraced readHexDigit (← get).rest.length []
    if (← peek).isNone then fail .escapeEnd ⟨first, ← here⟩
    let last ← here
    let _ ← advance
    if digits.isEmpty then fail .hexEmpty ⟨first, ← here⟩
    match hexChar? digits with
    | some c => return ⟨⟨slash, ← here⟩, c, false⟩
    | none => fail .hexNoCharacter ⟨first.past '{', last⟩
  else
    let count := if letter = 'x' then 2 else if letter = 'u' then 4 else 8
    let digits ← readHexDigits count []
    let _ ← advance
    match hexChar? digits with
    | some c => return ⟨⟨slash, ← here⟩, c, letter = 'x'⟩
    | none => fail .hexNoCharacter ⟨first, ← here⟩

/-- Digits with the space after each of them. -/
def readDigits : Nat → List Char → Read (List Char)
  | 0, ds => return ds.reverse
  | n + 1, ds => do
    match ← peek with
    | some c =>
      if c.isDigit then
        let _ ← advance
        readDigits n (c :: ds)
      else return ds.reverse
    | none => return ds.reverse

def bumpBlanks : Nat → Read Unit
  | 0 => return
  | n + 1 => do
    match ← peek with
    | some c => if isBlank c then bump; bumpBlanks n else return
    | none => return

/-- A decimal number below 2^32. A flaw is kept for later, since another may come first. -/
def readDecimal : Read (Except Flaw Nat) := do
  bumpBlanks (← get).rest.length
  let start ← here
  let digits ← readDigits (← get).rest.length []
  let span : Span := ⟨start, ← here⟩
  bumpBlanks (← get).rest.length
  let n := digits.foldl (fun n c => 10 * n + (c.toNat - 48)) 0
  return if digits.isEmpty then .error { cause := .countEmpty, span }
    else if n < 4294967296 then .ok n
    else .error { cause := .decimalTooLarge, span }

/-- The least and the most repetitions; the opening brace comes next. -/
def readCounts : Read (Nat × Option Nat) := do
  let start ← here
  let unclosed : Read Unit := do fail .countUnclosed ⟨start, ← here⟩
  if !(← advance) then unclosed
  let least ← readDecimal
  if (← peek).isNone then unclosed
  let counts ← if (← peek) = some ',' then do
      if !(← advance) then unclosed
      if (← peek) = some '}' then pure (← orThrow least, none)
      else
        let lo ← orThrow least
        pure (lo, some (← orThrow (← readDecimal)))
    else do
      let lo ← orThrow least
      pure (lo, some lo)
  if (← peek) ≠ some '}' then unclosed
  if (← advance) && (← peek) = some '?' then bump
  if counts.2.any (· < counts.1) then fail .countOrder ⟨start, ← here⟩
  return counts

/-! ### Escapes -/

def isMeta (c : Char) : Bool := "\\.+*?()|[]\x7b\x7d^$#&-~".toList.contains c

/-- Whether a backslash before a character has no meaning of its own. -/
def isEscapable (c : Char) : Bool :=
  isMeta c || (c.toNat < 128 && !c.isAlphanum && c ≠ '<' && c ≠ '>')

/-- Splits a text at the first occurrence of another. -/
def splitAt? (sep : List Char) : List Char → List Char → Option (List Char × List Char)
  | [], _ => none
  | c :: r, acc =>
    if sep.isPrefixOf (c :: r) then some (acc.reverse, (c :: r).drop sep.length)
    else splitAt? sep r (c :: acc)

def propertyName (cs : List Char) : PropertyName :=
  match (splitAt? ['!', '='] cs []).or ((splitAt? [':'] cs []).or (splitAt? ['='] cs [])) with
  | some (name, value) => .valued (String.ofList name) (String.ofList value)
  | none => .alone (String.ofList cs)

/-- A class by the name of a property, after `p` or `P`. -/
def readProperty (slash : Place) (negated : Bool) : Read PropertyClass := do
  if !(← advance) then fail .escapeEnd (.here (← here))
  match ← peek with
  | some '{' =>
    let name ← readBraced pure (← get).rest.length []
    if (← peek).isNone then fail .escapeEnd (.here (← here))
    bump
    return ⟨⟨slash, ← here⟩, negated, propertyName name⟩
  | some c =>
    if c = '\\' then fail .propertySpelling (← spanOf c)
    let _ ← advance
    return ⟨⟨slash, ← here⟩, negated, .alone (String.ofList [c])⟩
  | none => fail .escapeEnd (.here (← here))

def isBoundaryChar (c : Char) : Bool := c.isAlpha || c = '-'

def readBoundaryName : Nat → List Char → Read (List Char)
  | 0, cs => return cs.reverse
  | n + 1, cs => do
    match ← peek with
    | some c =>
      if isBoundaryChar c then
        let _ ← advance
        readBoundaryName n (c :: cs)
      else return cs.reverse
    | none => return cs.reverse

/-- The side of a word named between braces after `\b`. Braces that start with no letter are left to
be counts. -/
def readBoundary (slash : Place) : Read WordSide := do
  let saved ← get
  let start ← here
  if !(← advance) then fail .boundaryEnd ⟨slash, ← here⟩
  let inner ← here
  if !(← peek).any isBoundaryChar then
    set saved
    return .boundary
  let name ← readBoundaryName (← get).rest.length []
  if (← peek) ≠ some '}' then fail .boundaryUnclosed ⟨start, ← here⟩
  let last ← here
  bump
  match String.ofList name with
  | "start" => return .start
  | "end" => return .stop
  | "start-half" => return .startHalf
  | "end-half" => return .stopHalf
  | _ => fail .boundaryUnknown ⟨inner, last⟩

/-- The character that a letter after a backslash stands for. -/
def control? : Char → Option Char
  | 'a' => some '\x07'
  | 'f' => some '\x0c'
  | 't' => some '\t'
  | 'n' => some '\n'
  | 'r' => some '\r'
  | 'v' => some '\x0b'
  | _ => none

def letterKind? : Char → Option (LetterKind × Bool)
  | 'd' => some (.digit, false)
  | 's' => some (.blank, false)
  | 'w' => some (.word, false)
  | 'D' => some (.digit, true)
  | 'S' => some (.blank, true)
  | 'W' => some (.word, true)
  | _ => none

def readEscape : Read Written := do
  let slash ← here
  bump
  match ← peek with
  | none => fail .escapeEnd ⟨slash, ← here⟩
  | some c =>
    if c.isDigit then fail .backreference ⟨slash, (← here).past c⟩
    if c = 'x' || c = 'u' || c = 'U' then return .literal (← readHex slash c)
    if c = 'p' || c = 'P' then return .property (← readProperty slash (c = 'P'))
    bump
    let span : Span := ⟨slash, ← here⟩
    match letterKind? c with
    | some (kind, negated) => return .letter ⟨span, kind, negated⟩
    | none =>
    if isEscapable c then return .literal ⟨span, c, false⟩
    match control? c with
    | some d => return .literal ⟨span, d, false⟩
    | none =>
    match c with
    | 'A' => return .assertion span .textStart
    | 'z' => return .assertion span .textEnd
    | 'b' =>
      let side ← if (← peek) = some '{' then readBoundary slash else pure .boundary
      return .assertion ⟨slash, ← here⟩ (.word side)
    | 'B' => return .assertion span (.word .noBoundary)
    | '<' => return .assertion span (.word .start)
    | '>' => return .assertion span (.word .stop)
    | _ => fail .escapeUnknown span

/-- One character, escape, dot or anchor. -/
def readPrimitive (c : Char) : Read Written := do
  if c = '\\' then return ← readEscape
  let span ← spanOf c
  bump
  match c with
  | '.' => return .dot span
  | '^' => return .assertion span .lineStart
  | '$' => return .assertion span .lineEnd
  | _ => return .literal ⟨span, c, false⟩

/-! ### Classes -/

/-- A class between colons, with the number of characters it takes: `[:alpha:]`, `[:^alpha:]`. -/
def asciiClass? : List Char → Option (AsciiKind × Bool × Nat)
  | '[' :: ':' :: r =>
    let negated := r.head? = some '^'
    let r := if negated then r.drop 1 else r
    let name := r.takeWhile (· ≠ ':')
    match r.drop name.length with
    | ':' :: ']' :: _ =>
      (AsciiKind.ofName? (String.ofList name)).map fun kind =>
        (kind, negated, name.length + 4 + if negated then 1 else 0)
    | _ => none
  | _ => none

/-- Items of a class in reverse, with their span. -/
structure Items where
  span : Span
  list : List ClassSet := []

namespace Items

def push (u : Items) (c : ClassSet) : Items :=
  ⟨⟨if u.list.isEmpty then c.span.start else u.span.start, c.span.stop⟩, c :: u.list⟩

def toSet (u : Items) : ClassSet :=
  match u.list with
  | [] => .empty u.span
  | [c] => c
  | cs => .union u.span cs.reverse

end Items

/-- How a class was opened: where, with which span so far, and whether it is negated. -/
structure Opening where
  start : Place
  span : Span
  negated : Bool

/-- Hyphens at the start of a class. -/
def readHyphens (start : Place) : Nat → Items → Read Items
  | 0, u => return u
  | n + 1, u => do
    if (← peek) = some '-' then
      let span ← spanOf '-'
      if !(← advance) then fail .classUnclosed (.here start)
      readHyphens start n (u.push (.literal ⟨span, '-', false⟩))
    else return u

/-- The opening bracket, a negation, hyphens, or else a bracket that does not close. -/
def openClass : Read (Opening × Items) := do
  let start ← here
  if !(← advance) then fail .classUnclosed ⟨start, ← here⟩
  let negated := (← peek) = some '^'
  if negated then
    if !(← advance) then fail .classUnclosed ⟨start, ← here⟩
  let u ← readHyphens start (← get).rest.length ⟨.here (← here), []⟩
  let u ← if u.list.isEmpty && (← peek) = some ']' then do
      let span ← spanOf ']'
      if !(← advance) then fail .classUnclosed ⟨start, ← here⟩
      pure (u.push (.literal ⟨span, ']', false⟩))
    else pure u
  return (⟨start, ⟨start, ← here⟩, negated⟩, u)

def readItem (c : Char) : Read Written := do
  if c = '\\' then return ← readEscape
  let span ← spanOf c
  bump
  return .literal ⟨span, c, false⟩

def itemSet : Written → Read ClassSet
  | .literal l => return .literal l
  | .letter c => return .letter c
  | .property c => return .property c
  | w => fail .classEscape w.span

def itemBound : Written → Read Literal
  | .literal l => return l
  | w => fail .classRangeBound w.span

/-- A range of a class, or a single item. -/
def readRange (opening : Opening) (c : Char) : Read ClassSet := do
  let first ← readItem c
  bumpSpace
  if (← peek).isNone then fail .classUnclosed opening.span
  let second ← peekSecond
  if (← peek) ≠ some '-' || second = some ']' || second = some '-' then return ← itemSet first
  if !(← advance) then fail .classUnclosed opening.span
  match ← peek with
  | none => fail .classUnclosed opening.span
  | some d =>
    let last ← readItem d
    let span : Span := ⟨first.span.start, last.span.stop⟩
    let a ← itemBound first
    let b ← itemBound last
    if b.char < a.char then fail .classRangeOrder span
    return .range span a b

/-- The set so far: what an operator left, and the items after it. -/
def closeOp (left : Option (SetOp × ClassSet)) (u : Items) : ClassSet :=
  match left with
  | none => u.toSet
  | some (kind, l) => .op ⟨l.span.start, u.toSet.span.stop⟩ kind l u.toSet

def setOp? (c : Char) (second : Option Char) : Option SetOp :=
  if second ≠ some c then none
  else match c with
    | '&' => some .inter
    | '-' => some .diff
    | '~' => some .symmDiff
    | _ => none

/-- The rest of a class after its opening. Every call reads a character, so that `fuel` for all of
them is enough. -/
def readClassRest : (fuel : Nat) → Opening → Option (SetOp × ClassSet) → Items → Read ClassSet
  | 0, opening, _, _ => fail .classUnclosed opening.span
  | fuel + 1, opening, left, u => do
    bumpSpace
    match ← peek with
    | none => fail .classUnclosed opening.span
    | some c =>
      if c = '[' then
        match asciiClass? (← get).rest with
        | some (kind, negated, count) =>
          let start ← here
          (List.range count).forM fun _ => bump
          readClassRest fuel opening left (u.push (.ascii ⟨start, ← here⟩ kind negated))
        | none =>
          let (inner, v) ← openClass
          let body ← readClassRest fuel inner none v
          let set := .bracketed ⟨inner.start, ← here⟩ inner.negated body
          readClassRest fuel opening left (u.push set)
      else if c = ']' then
        bump
        return closeOp left u
      else
        match setOp? c ((← get).rest.drop 1).head? with
        | some kind =>
          bump
          bump
          readClassRest fuel opening (some (kind, closeOp left u)) ⟨.here (← here), []⟩
        | none => readClassRest fuel opening left (u.push (← readRange opening c))

def readClass : Read Written := do
  let (opening, u) ← openClass
  let body ← readClassRest ((← get).rest.length + 1) opening none u
  return .bracketed ⟨opening.start, ← here⟩ opening.negated body

/-! ### Groups -/

def isLetter (c : Char) : Bool :=
  if c.toNat < 128 then c.isAlpha
  else ((Unicode.property? "alphabetic").getD .empty).contains c

def isNameChar (first : Bool) (c : Char) : Bool :=
  c = '_' || isLetter c ||
    (!first && (c = '.' || c = '[' || c = ']' || c.isDigit ||
      (128 ≤ c.toNat && ((Unicode.category? "n").getD .empty).contains c)))

/-- The characters of a name up to the closing angle. -/
def readNameChars : Nat → List Char → Read (List Char)
  | 0, cs => return cs.reverse
  | n + 1, cs => do
    match ← peek with
    | none => return cs.reverse
    | some c =>
      if c = '>' then return cs.reverse
      if !isNameChar cs.isEmpty c then fail .nameCharacter (← spanOf c)
      bump
      readNameChars n (c :: cs)

def readName : Read Unit := do
  let start ← here
  let name ← readNameChars (← get).rest.length []
  let stop ← here
  if (← peek).isNone then fail .nameEnd (.here stop)
  bump
  if name.isEmpty then fail .nameEmpty (.here start)
  let span : Span := ⟨start, stop⟩
  match (← get).names.find? (·.1 = String.ofList name) with
  | some (_, other) => fail .nameDuplicate span (some other)
  | none => modify fun r => { r with names := (String.ofList name, span) :: r.names }

/-- Flags up to a colon or a closing parenthesis. -/
def readFlags : Nat → List FlagItem → Read (List FlagItem)
  | 0, items => return items.reverse
  | n + 1, items => do
    match ← peek with
    | none => return items.reverse
    | some c =>
      if c = ':' || c = ')' then
        match items.head? with
        | some ⟨span, none⟩ => fail .flagDangling span
        | _ => return items.reverse
      let span ← spanOf c
      let flag ← if c = '-' then pure none
        else match Flag.ofChar? c with
          | some f => pure (some f)
          | none => fail .flagUnknown span
      match items.find? (·.flag = flag) with
      | some other =>
        fail (if flag.isNone then .flagNegatedTwice else .flagDuplicate) span (some other.span)
      | none => pure ()
      bump
      if (← peek).isNone then fail .flagEnd (.here (← here))
      readFlags n (⟨span, flag⟩ :: items)

inductive GroupStart where
  /-- Flags for the rest of the group around. -/
  | setting (span : Span) (items : List FlagItem)
  | group (captures : Bool) (items : List FlagItem)

/-- What follows an opening parenthesis, which comes next. -/
def readGroupStart (opened : Span) : Read GroupStart := do
  bump
  bumpSpace
  if (← bumpIf "?=") || (← bumpIf "?!") || (← bumpIf "?<=") || (← bumpIf "?<!") then
    fail .lookAround ⟨opened.start, ← here⟩
  let inner ← here
  if (← bumpIf "?P<") || (← bumpIf "?<") then
    if (← peek).isNone then fail .nameEnd (.here (← here))
    readName
    return .group true []
  if ← bumpIf "?" then
    if (← peek).isNone then fail .groupUnclosed opened
    let items ← readFlags (← get).rest.length []
    let close ← peek
    bump
    if close = some ')' then
      if items.isEmpty then fail .nothingToRepeat (.here inner)
      return .setting ⟨opened.start, ← here⟩ items
    return .group false items
  return .group true []

/-! ### Patterns -/

/-- Parts in reverse as one pattern. -/
def joinParts (span : Span) : List Written → Written
  | [] => .empty span
  | [w] => w
  | ws => .concat span ws.reverse

/-- Branches in reverse and the parts of the last one, read from `first` to here. -/
def joinBranches (first start stop : Place) (branches parts : List Written) : Written :=
  let last := joinParts ⟨start, stop⟩ parts
  if branches.isEmpty then last else .alternation ⟨first, stop⟩ (last :: branches).reverse

/-- The last part, which is to be repeated, and those before it. -/
def toRepeat (parts : List Written) : Read (Written × List Written) := do
  match parts with
  | [] | .empty _ :: _ | .flags .. :: _ => fail .nothingToRepeat (.here (← here))
  | w :: r => return (w, r)

/-- How far a pattern has been read: where it and its last branch start, the branches before, and
the parts of the last branch. Branches and parts are in reverse. -/
structure Progress where
  first : Place
  start : Place
  branches : List Written := []
  parts : List Written := []

namespace Progress

def add (p : Progress) (w : Written) : Progress := { p with parts := w :: p.parts }

def finish (p : Progress) (stop : Place) : Written :=
  joinBranches p.first p.start stop p.branches p.parts

/-- Repeats the last part as often as is read next. -/
def repeatLast (p : Progress) (counts : Read (Nat × Option Nat)) : Read Progress := do
  let (w, parts) ← toRepeat p.parts
  let (lo, hi) ← counts
  return { p with parts := .repetition ⟨w.span.start, ← here⟩ lo hi w :: parts }

end Progress

/-- A sign of repetition, which comes next, and the one that makes it lazy. -/
def readSign (lo : Nat) (hi : Option Nat) : Read (Nat × Option Nat) := do
  bump
  if (← peek) = some '?' then bump
  return (lo, hi)

/-- Reads to the end of a group, or of the whole pattern. Every call reads a character, so that
`fuel` for all of them is enough. -/
def readPattern : (fuel : Nat) → (opened : Option Span) → Progress → Read Written
  | 0, _, p => return p.finish (← here)
  | fuel + 1, opened, p => do
    bumpSpace
    match ← peek with
    | none =>
      match opened with
      | some span => fail .groupUnclosed span
      | none => return p.finish (← here)
    | some '(' =>
      let span ← spanOf '('
      match ← readGroupStart span with
      | .setting s items =>
        modify fun r => { r with spaced := (stateOf .spaced items).getD r.spaced }
        readPattern fuel opened (p.add (.flags s items))
      | .group captures items =>
        let before := (← get).spaced
        modify fun r => { r with spaced := (stateOf .spaced items).getD before }
        let sub ← readPattern fuel (some span) { first := ← here, start := ← here }
        modify fun r => { r with spaced := before }
        readPattern fuel opened (p.add (.group ⟨span.start, ← here⟩ captures items sub))
    | some ')' =>
      if opened.isNone then fail .groupUnopened (← spanOf ')')
      let w := p.finish (← here)
      bump
      return w
    | some '|' =>
      let branch := joinParts ⟨p.start, ← here⟩ p.parts
      bump
      readPattern fuel opened
        { p with start := ← here, branches := branch :: p.branches, parts := [] }
    | some '[' => readPattern fuel opened (p.add (← readClass))
    | some '?' => readPattern fuel opened (← p.repeatLast (readSign 0 (some 1)))
    | some '*' => readPattern fuel opened (← p.repeatLast (readSign 0 none))
    | some '+' => readPattern fuel opened (← p.repeatLast (readSign 1 none))
    | some '{' => readPattern fuel opened (← p.repeatLast readCounts)
    | some c => readPattern fuel opened (p.add (← readPrimitive c))

end Reader

/-- How deep groups and classes may nest. -/
def nestLimit : Nat := 250

/-- A pattern as it is written, or its first flaw. -/
def Written.ofString (s : String) : Except Flaw Written := do
  let (w, _) ← (Reader.readPattern (s.length + 1) none { first := {}, start := {} }).run
    { rest := s.toList }
  match w.tooDeep nestLimit 0 with
  | some span => throw { cause := .nestedTooDeep nestLimit, span }
  | none => return w

end Outline.Regex
