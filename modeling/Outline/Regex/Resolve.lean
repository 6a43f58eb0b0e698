import Outline.Regex.Expr
import Outline.Regex.Reader

/-! From what is written to what it means: flags are carried along, classes become sets of
characters. -/
namespace Outline.Regex

open Unicode (CodeSet)

/-! ### Flags -/

structure Mode where
  ignoreCase : Bool := false
  multiLine : Bool := false
  dotAll : Bool := false
  unicode : Bool := true
  crlf : Bool := false
deriving Repr, DecidableEq

/-- The mode after some flags. -/
def Mode.set (m : Mode) (items : List FlagItem) : Mode where
  ignoreCase := (stateOf .ignoreCase items).getD m.ignoreCase
  multiLine := (stateOf .multiLine items).getD m.multiLine
  dotAll := (stateOf .dotAll items).getD m.dotAll
  unicode := (stateOf .unicode items).getD m.unicode
  crlf := (stateOf .crlf items).getD m.crlf

def flaw {α : Type} (cause : Cause) (span : Span) : Except Flaw α := .error { cause, span }

/-! ### Properties -/

/-- A name of a property without case, blanks, hyphens and underscores, and without `is` in
front. -/
def plainName (s : String) : String :=
  let cs := s.toList
  let startsWithIs := cs.take 2 |>.map Char.toLower |> (· = ['i', 's'])
  let rest := if startsWithIs then cs.drop 2 else cs
  let plain :=
    (rest.filter fun c => c ≠ ' ' && c ≠ '_' && c ≠ '-' && c.toNat < 128).map Char.toLower
  if startsWithIs && plain = ['c'] then "isc" else String.ofList plain

/-- Names of properties that have values but no set of their own. -/
def valuedProperties : List String :=
  ["age", "bidiclass", "bc", "bidimirroringglyph", "bmg", "bidipairedbracket", "bpb",
    "bidipairedbrackettype", "bpt", "block", "blk", "canonicalcombiningclass", "ccc", "casefolding",
    "cf", "decompositionmapping", "dm", "decompositiontype", "dt", "eastasianwidth", "ea",
    "graphemeclusterbreak", "gcb", "hangulsyllabletype", "hst", "indicpositionalcategory", "inpc",
    "indicsyllabiccategory", "insc", "isocomment", "isc", "jamoshortname", "jsn", "joininggroup",
    "jg", "joiningtype", "jt", "linebreak", "lb", "lowercasemapping", "lc", "name", "na",
    "namealias", "numerictype", "nt", "numericvalue", "nv", "sentencebreak", "sb",
    "simplecasefolding", "scf", "sfc", "titlecasemapping", "tc", "unicode1name", "na1",
    "uppercasemapping", "uc", "verticalorientation", "vo", "wordbreak", "wb"]

/-- The set that a property names: a property that characters have, a category or a script. -/
def propertySet (p : PropertyClass) : Except Flaw CodeSet :=
  let orElse (cause : Cause) : Option CodeSet → Except Flaw CodeSet
    | some s => .ok s
    | none => flaw cause p.span
  match p.name with
  | .alone name =>
    let name := plainName name
    if name = "cs" || name = "surrogate" then flaw .propertyValueUnknown p.span
    else orElse .propertyUnknown
      ((Unicode.property? name).or ((Unicode.category? name).or (Unicode.script? name)))
  | .valued name value =>
    let name := plainName name
    let value := plainName value
    if name = "gc" || name = "generalcategory" then
      orElse .propertyValueUnknown (Unicode.category? value)
    else if name = "sc" || name = "script" then
      orElse .propertyValueUnknown (Unicode.script? value)
    else if name = "scx" || name = "scriptextensions" then
      orElse .propertyValueUnknown (Unicode.scriptWithShared? value)
    else if valuedProperties.contains name || (Unicode.property? name).isSome then
      flaw .propertyValueUnknown p.span
    else flaw .propertyUnknown p.span

/-! ### Sets -/

def AsciiKind.ranges : AsciiKind → List (Nat × Nat)
  | alnum => [(48, 57), (65, 90), (97, 122)]
  | alpha => [(65, 90), (97, 122)]
  | ascii => [(0, 127)]
  | blank => [(9, 9), (32, 32)]
  | cntrl => [(0, 31), (127, 127)]
  | digit => [(48, 57)]
  | graph => [(33, 126)]
  | lower => [(97, 122)]
  | print => [(32, 126)]
  | punct => [(33, 47), (58, 64), (91, 96), (123, 126)]
  | space => [(9, 13), (32, 32)]
  | upper => [(65, 90)]
  | word => [(48, 57), (65, 90), (95, 95), (97, 122)]
  | xdigit => [(48, 57), (65, 70), (97, 102)]

/-- A set with the letters of ASCII that differ from a member in case only. -/
def foldAscii (s : CodeSet) : CodeSet :=
  .ofRanges (s.ranges ++ (List.range 26).flatMap fun k =>
    (if s.has (65 + k) then [(97 + k, 97 + k)] else []) ++
      if s.has (97 + k) then [(65 + k, 65 + k)] else [])

namespace Mode

/-- Without Unicode a class holds bytes. -/
def top (m : Mode) : Nat := if m.unicode then CodeSet.last else 255

def fold (m : Mode) (s : CodeSet) : CodeSet :=
  if !m.ignoreCase then s else if m.unicode then Unicode.foldCase s else foldAscii s

def negate (m : Mode) (negated : Bool) (s : CodeSet) : CodeSet :=
  if negated then s.complement m.top else s

/-- A class of bytes may only match bytes that are characters. -/
def checkBytes (m : Mode) (span : Span) (s : CodeSet) : Except Flaw CodeSet :=
  if m.unicode || s.isAscii then .ok s else flaw .invalidBytes span

def letterSet (m : Mode) (c : LetterClass) : Except Flaw CodeSet :=
  let s := match c.kind, m.unicode with
    | .digit, true => Unicode.digits
    | .blank, true => Unicode.blanks
    | .word, true => Unicode.wordParts
    | .digit, false => ⟨AsciiKind.digit.ranges⟩
    | .blank, false => ⟨AsciiKind.space.ranges⟩
    | .word, false => ⟨AsciiKind.word.ranges⟩
  m.checkBytes c.span (m.negate c.negated s)

def propertySet (m : Mode) (p : PropertyClass) : Except Flaw CodeSet := do
  if !m.unicode then flaw .unicodeNotAllowed p.span
  else return m.negate p.negated (m.fold (← Regex.propertySet p))

/-- The number of a literal in a class. -/
def literalCode (m : Mode) (l : Literal) : Except Flaw Nat :=
  if m.unicode || l.char.toNat < 128 then .ok l.char.toNat
  else flaw (if l.isByte then .invalidBytes else .unicodeNotAllowed) l.span

def classSet (m : Mode) : ClassSet → Except Flaw CodeSet
  | .empty _ => .ok .empty
  | .literal l => do
    let n ← m.literalCode l
    return ⟨[(n, n)]⟩
  | .range _ a b => do return ⟨[(← m.literalCode a, ← m.literalCode b)]⟩
  | .ascii span kind negated =>
    m.checkBytes span (m.negate negated (m.fold ⟨kind.ranges⟩))
  | .letter c => m.letterSet c
  | .property c => m.propertySet c
  | .bracketed span negated body => do
    m.checkBytes span (m.negate negated (m.fold (← m.classSet body)))
  | .union _ items => unionSet items
  | .op _ kind a b => do
    let s := m.fold (← m.classSet a)
    let t := m.fold (← m.classSet b)
    return match kind with
      | .inter => s.inter t
      | .diff => s.diff t
      | .symmDiff => s.symmDiff t
where
  unionSet : List ClassSet → Except Flaw CodeSet
  | [] => .ok .empty
  | c :: r => do return (← m.classSet c).union (← unionSet r)

/-! ### Expressions -/

def lookOf (m : Mode) : Assertion → Look
  | .lineStart => if m.multiLine then .lineStart m.crlf else .textStart
  | .lineEnd => if m.multiLine then .lineEnd m.crlf else .textEnd
  | .textStart => .textStart
  | .textEnd => .textEnd
  | .word side => .word side m.unicode

def dotSet (m : Mode) : CodeSet :=
  if m.dotAll then .all
  else CodeSet.complement ⟨if m.crlf then [(10, 10), (13, 13)] else [(10, 10)]⟩

def literal (m : Mode) (l : Literal) : Except Flaw Expr :=
  if !m.unicode && l.isByte && 128 ≤ l.char.toNat then flaw .invalidBytes l.span
  else .ok (.chars (if m.ignoreCase && (m.unicode || l.char.toNat < 128) then
    m.fold (.one l.char) else .one l.char))

end Mode

/-- What is written as an expression, with the mode after it. Flags hold to the end of the group
that they stand in. -/
def Written.resolve (m : Mode) : Written → Except Flaw (Expr × Mode)
  | .empty _ => .ok (.empty, m)
  | .flags _ items => .ok (.empty, m.set items)
  | .literal l => do return (← m.literal l, m)
  | .dot span => if m.unicode then .ok (.chars m.dotSet, m) else flaw .invalidBytes span
  | .assertion _ kind => .ok (.look (m.lookOf kind), m)
  | .letter c => do return (.chars (← m.letterSet c), m)
  | .property c => do return (.chars (← m.propertySet c), m)
  | .bracketed span negated body => do
    return (.chars (← m.classSet (.bracketed span negated body)), m)
  | .repetition _ min max sub => do
    let (e, m) ← sub.resolve m
    return (.times min max e, m)
  | .group _ captures items sub => do
    let (e, _) ← sub.resolve (m.set items)
    return (if captures then .capture e else e, m)
  | .alternation _ subs => inBranches m subs
  | .concat _ subs => inParts m subs
where
  inParts (m : Mode) : List Written → Except Flaw (Expr × Mode)
  | [] => .ok (.empty, m)
  | [w] => w.resolve m
  | w :: r => do
    let (a, m) ← w.resolve m
    let (b, m) ← inParts m r
    return (.seq a b, m)
  inBranches (m : Mode) : List Written → Except Flaw (Expr × Mode)
  | [] => .ok (.empty, m)
  | [w] => w.resolve m
  | w :: r => do
    let (a, m) ← w.resolve m
    let (b, m) ← inBranches m r
    return (.alt a b, m)

end Outline.Regex
