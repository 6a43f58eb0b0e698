import Outline.Toml.Flaw

/-! The tokens of a TOML document. Every character belongs to one token, and no text is refused
here: quoted text may lack its closing quote, and a bare word is all up to the next blank or
mark. -/
namespace Outline.Toml

/-- How a key or a value is written: bare, or quoted in one of four ways. -/
inductive Spelling where
  | bare
  | quoted (quoting : Quoting)
deriving Repr, DecidableEq, Inhabited

inductive TokenKind where
  | dot
  | equals
  | comma
  | openSquare
  | closeSquare
  | openCurly
  | closeCurly
  | blank
  | comment
  | newline
  | word (spelling : Spelling)
  | finish
deriving Repr, DecidableEq, Inhabited

structure Token where
  kind : TokenKind
  text : List Char
  span : Span
deriving Repr, DecidableEq, Inhabited

def byteSize (cs : List Char) : Nat := cs.foldl (· + ·.utf8Size) 0

namespace Token

/-! ### How far a token reaches -/

/-- The characters that end a bare word. -/
def isMark (c : Char) : Bool :=
  ['.', '=', ',', '[', ']', '\x7b', '\x7d', ' ', '\t', '#', '\r', '\n'].contains c

/-- How many characters are left of a literal string on one line, its closing quote included. -/
def literalLength : List Char → Nat
  | [] => 0
  | c :: r => if c = '\'' then 1 else if c = '\n' then 0 else literalLength r + 1

/-- How many characters are left of a basic string on one line. A quote or backslash after a
backslash is part of the text. -/
def basicLength : List Char → Nat
  | [] => 0
  | '\\' :: '\\' :: r => basicLength r + 2
  | '\\' :: '"' :: r => basicLength r + 2
  | c :: r => if c = '"' then 1 else if c = '\n' then 0 else basicLength r + 1

/-- Up to two quotes can stand in front of the three that close a text. -/
def extraQuotes (q : Char) (r : List Char) : Nat := min 2 (r.takeWhile (· = q)).length

def longLiteralLength : List Char → Nat
  | [] => 0
  | '\'' :: '\'' :: '\'' :: r => 3 + extraQuotes '\'' r
  | _ :: r => longLiteralLength r + 1

def longBasicLength : List Char → Nat
  | [] => 0
  | '\\' :: '\\' :: r => longBasicLength r + 2
  | '\\' :: '"' :: r => longBasicLength r + 2
  | '"' :: '"' :: '"' :: r => 3 + extraQuotes '"' r
  | _ :: r => longBasicLength r + 1

/-- The kind of the token that starts with `c`, and how many of the characters after `c` belong
to it. -/
def measure (c : Char) (rest : List Char) : TokenKind × Nat :=
  match c with
  | '.' => (.dot, 0)
  | '=' => (.equals, 0)
  | ',' => (.comma, 0)
  | '[' => (.openSquare, 0)
  | ']' => (.closeSquare, 0)
  | '\x7b' => (.openCurly, 0)
  | '\x7d' => (.closeCurly, 0)
  | '\n' => (.newline, 0)
  | '\r' => (.newline, if rest.head? = some '\n' then 1 else 0)
  | '#' => (.comment, (rest.takeWhile fun d => d ≠ '\r' && d ≠ '\n').length)
  | '\'' =>
    match rest with
    | '\'' :: '\'' :: r => (.word (.quoted .longLiteral), longLiteralLength r + 2)
    | r => (.word (.quoted .literal), literalLength r)
  | '"' =>
    match rest with
    | '"' :: '"' :: r => (.word (.quoted .longBasic), longBasicLength r + 2)
    | r => (.word (.quoted .basic), basicLength r)
  | c =>
    if c = ' ' || c = '\t' then
      (.blank, (rest.takeWhile fun d => d = ' ' || d = '\t').length)
    else (.word .bare, (rest.takeWhile fun d => !isMark d).length)

/-- The tokens of a text that starts at byte `offset`, less those of its first `skip` characters. -/
def scan (offset : Nat) : (skip : Nat) → List Char → List Token
  | _, [] => []
  | skip + 1, c :: r => scan (offset + c.utf8Size) skip r
  | 0, c :: r =>
    let (kind, more) := measure c r
    let text := c :: r.take more
    ⟨kind, text, ⟨offset, offset + byteSize text⟩⟩ :: scan (offset + c.utf8Size) more r

/-- The tokens of a document, less a byte order mark in front. -/
def ofText (s : String) : List Token :=
  match s.toList with
  | '\ufeff' :: r => scan 3 0 r
  | r => scan 0 0 r

end Token

end Outline.Toml
