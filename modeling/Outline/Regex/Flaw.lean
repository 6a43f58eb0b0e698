import Outline.Source.File

/-! What can be wrong with a regular expression, and how it is reported: the pattern with carets
under the places that matter, and the cause. -/
namespace Outline.Regex

/-- A place in a pattern, by line and by character, both from one. -/
structure Place where
  line : Nat := 1
  column : Nat := 1
deriving Repr, DecidableEq, Inhabited

namespace Place

def past (p : Place) (c : Char) : Place :=
  if c = '\n' then ⟨p.line + 1, 1⟩ else ⟨p.line, p.column + 1⟩

def before (p q : Place) : Bool := p.line < q.line || (p.line = q.line && p.column < q.column)

end Place

structure Span where
  start : Place
  stop : Place
deriving Repr, DecidableEq, Inhabited

namespace Span

def here (p : Place) : Span := ⟨p, p⟩

def isOneLine (s : Span) : Bool := s.start.line = s.stop.line

/-- Spans in order of where they start, then of where they end. -/
def notAfter (a b : Span) : Bool :=
  a.start.before b.start || (a.start = b.start && !b.stop.before a.stop)

end Span

inductive Cause where
  | classEscape
  | classRangeOrder
  | classRangeBound
  | classUnclosed
  | decimalEmpty
  | decimalTooLarge
  | hexEmpty
  | hexNoCharacter
  | hexDigit
  | escapeEnd
  | escapeUnknown
  | flagDangling
  | flagDuplicate
  | flagNegatedTwice
  | flagEnd
  | flagUnknown
  | nameDuplicate
  | nameEmpty
  | nameCharacter
  | nameEnd
  | groupUnclosed
  | groupUnopened
  | nestedTooDeep (limit : Nat)
  | countOrder
  | countEmpty
  | countUnclosed
  | nothingToRepeat
  | boundaryUnclosed
  | boundaryUnknown
  | boundaryEnd
  | propertySpelling
  | backreference
  | lookAround
  | unicodeNotAllowed
  | invalidBytes
  | propertyUnknown
  | propertyValueUnknown
deriving Repr, DecidableEq

def Cause.message : Cause → String
  | classEscape => "invalid escape sequence found in character class"
  | classRangeOrder => "invalid character class range, the start must be <= the end"
  | classRangeBound => "invalid range boundary, must be a literal"
  | classUnclosed => "unclosed character class"
  | decimalEmpty => "decimal literal empty"
  | decimalTooLarge => "decimal literal invalid"
  | hexEmpty => "hexadecimal literal empty"
  | hexNoCharacter => "hexadecimal literal is not a Unicode scalar value"
  | hexDigit => "invalid hexadecimal digit"
  | escapeEnd => "incomplete escape sequence, reached end of pattern prematurely"
  | escapeUnknown => "unrecognized escape sequence"
  | flagDangling => "dangling flag negation operator"
  | flagDuplicate => "duplicate flag"
  | flagNegatedTwice => "flag negation operator repeated"
  | flagEnd => "expected flag but got end of regex"
  | flagUnknown => "unrecognized flag"
  | nameDuplicate => "duplicate capture group name"
  | nameEmpty => "empty capture group name"
  | nameCharacter => "invalid capture group character"
  | nameEnd => "unclosed capture group name"
  | groupUnclosed => "unclosed group"
  | groupUnopened => "unopened group"
  | nestedTooDeep limit =>
    "exceed the maximum number of nested parentheses/brackets (" ++ toString limit ++ ")"
  | countOrder => "invalid repetition count range, the start must be <= the end"
  | countEmpty => "repetition quantifier expects a valid decimal"
  | countUnclosed => "unclosed counted repetition"
  | nothingToRepeat => "repetition operator missing expression"
  | boundaryUnclosed =>
    "special word boundary assertion is either unclosed or contains an invalid character"
  | boundaryUnknown => "unrecognized special word boundary assertion, valid choices are: " ++
      "start, end, start-half or end-half"
  | boundaryEnd =>
    "found either the beginning of a special word boundary or a bounded repetition " ++
      "on a \\b with an opening brace, but no closing brace"
  | propertySpelling => "invalid Unicode character class"
  | backreference => "backreferences are not supported"
  | lookAround => "look-around, including look-ahead and look-behind, is not supported"
  | unicodeNotAllowed => "Unicode not allowed here"
  | invalidBytes => "pattern can match invalid UTF-8"
  | propertyUnknown => "Unicode property not found"
  | propertyValueUnknown => "Unicode property value not found"

/-- A cause with the place where it shows, and the place of what it repeats. -/
structure Flaw where
  cause : Cause
  span : Span
  repeated : Option Span := none
deriving Repr, DecidableEq

namespace Flaw

def spans (f : Flaw) : List Span :=
  (f.span :: f.repeated.toList).mergeSort Span.notAfter

/-- Carets under spans of one line, from column `n` on. -/
def carets (n : Nat) : List Span → String
  | [] => ""
  | s :: r =>
    let blanks := s.start.column - 1 - n
    let width := max 1 (s.stop.column - s.start.column)
    "".pushn ' ' blanks ++ "".pushn '^' width ++ carets (n + blanks + width) r

/-- The lines of the pattern, each followed by its carets. Patterns of several lines get numbers,
which take `width` characters. -/
def notated (f : Flaw) (pattern : String) (width : Nat) : String :=
  String.join ((SourceFile.splitLines pattern.toList []).zipIdx.map fun (line, i) =>
    let number := toString (i + 1)
    let front :=
      if width = 0 then "    " else "".pushn ' ' (width - number.length) ++ number ++ ": "
    let here := f.spans.filter fun s => s.isOneLine && s.start.line = i + 1
    front ++ line ++ "\n" ++
      if here.isEmpty then ""
      else "".pushn ' ' (if width = 0 then 4 else width + 2) ++ carets 0 here ++ "\n")

def describe (s : Span) : String :=
  "on line " ++ toString s.start.line ++ " (column " ++ toString s.start.column ++
    ") through line " ++ toString s.stop.line ++ " (column " ++ toString (s.stop.column - 1) ++ ")"

def message (f : Flaw) (pattern : String) : String :=
  let lines := (SourceFile.splitLines pattern.toList []).length +
    if pattern.endsWith "\n" then 1 else 0
  let width := if lines ≤ 1 then 0 else (toString lines).length
  let body := f.notated pattern width
  let divider := "".pushn '~' 79 ++ "\n"
  let across := (f.spans.filter (!·.isOneLine)).map describe
  "regex parse error:\n" ++
    (if pattern.toList.contains '\n' then
      divider ++ body ++ divider ++
        if across.isEmpty then "" else "\n".intercalate across ++ "\n"
    else body) ++
    "error: " ++ f.cause.message

end Flaw

end Outline.Regex
