/-! What can be wrong with a TOML document, and how it is reported: the line, with carets under the
place, and the cause. Places are counted in bytes. -/
namespace Outline.Toml

/-- A stretch of a document by the bytes at which it starts and stops. -/
structure Span where
  start : Nat
  stop : Nat
deriving Repr, DecidableEq, Inhabited

namespace Span

/-- The empty stretch in front. -/
def before (s : Span) : Span := ⟨s.start, s.start⟩

/-- The empty stretch behind. -/
def after (s : Span) : Span := ⟨s.stop, s.stop⟩

def here (n : Nat) : Span := ⟨n, n⟩

/-- From the start of one stretch to the end of another. -/
def upTo (a b : Span) : Span := ⟨a.start, b.stop⟩

end Span

/-! ### Causes -/

/-- The forms of quoted text. -/
inductive Quoting where
  | literal
  | basic
  | longLiteral
  | longBasic
deriving Repr, DecidableEq, Inhabited

namespace Quoting

def mark : Quoting → String
  | literal => "'"
  | basic => "\""
  | longLiteral => "'''"
  | longBasic => "\"\"\""

def name : Quoting → String
  | literal => "literal string"
  | basic => "basic string"
  | longLiteral => "multi-line literal string"
  | longBasic => "multi-line basic string"

/-- What may stand between the quotes. -/
def contents : Quoting → String
  | literal => "non-single-quote visible characters"
  | basic => "non-double-quote visible characters, `\\`"
  | longLiteral => "non-single-quote characters"
  | longBasic => "printable characters, `\\`"

def isLong : Quoting → Bool
  | longLiteral | longBasic => true
  | _ => false

def isLiteral : Quoting → Bool
  | literal | longLiteral => true
  | _ => false

end Quoting

inductive Radix where
  | binary
  | octal
  | decimal
  | hexadecimal
deriving Repr, DecidableEq, Inhabited

namespace Radix

def base : Radix → Nat
  | binary => 2
  | octal => 8
  | decimal => 10
  | hexadecimal => 16

def name : Radix → String
  | binary => "binary"
  | octal => "octal"
  | decimal => "integer"
  | hexadecimal => "hexadecimal"

def letter : Radix → Char
  | binary => 'b'
  | octal => 'o'
  | decimal => 'd'
  | hexadecimal => 'x'

end Radix

/-- Words that stand for a value. -/
inductive Symbol where
  | true
  | false
  | inf
  | nan
deriving Repr, DecidableEq, Inhabited

namespace Symbol

def text : Symbol → String
  | true => "true"
  | false => "false"
  | inf => "inf"
  | nan => "nan"

def kind : Symbol → String
  | true | false => "boolean"
  | inf | nan => "float"

end Symbol

/-- What an inline table lacks where something else stands. -/
inductive Awaited where
  | key
  | equals
  | value
  | comma
deriving Repr, DecidableEq, Inhabited

def Awaited.text : Awaited → String
  | key => "key"
  | equals => "`=`"
  | value => "value"
  | comma => "`,`"

/-- Why a text is no date or time: the part that is wrong, and what should be there. -/
structure MomentFault where
  part : Option String := none
  wanted : Option String := none
deriving Repr, DecidableEq, Inhabited

inductive Cause where
  -- layout
  | loneReturn
  | commentCharacter
  | lineGoesOn
  | keyWithoutValue
  | headerUnclosed (list : Bool)
  | headerUnopened
  | keyInvalid
  | extraEquals
  | tableUnopened
  | arrayUnopened
  | arrayExtraComma
  | arrayMissingComma
  | arrayEquals
  | arrayUnclosed
  | tableExtraComma (awaited : Awaited)
  | tableExtraEquals (awaited : Awaited)
  | tableMissingComma
  | tableMissingEquals
  | tableMissingKey
  | tableUnclosed
  | tooDeep
  -- keys and text
  | keyEmpty
  | keyCharacter
  | keyLong (quoting : Quoting)
  | unquoted
  | quoteUnopened (quoting : Quoting)
  | quoteUnclosed (quoting : Quoting)
  | quoteCharacter (quoting : Quoting)
  | escapeUnknown
  | escapeShort
  | escapeNoCharacter
  -- numbers, symbols and times
  | symbol (symbol : Symbol)
  | signTwice
  | signBeforeRadix
  | signAfterRadix
  | radixCapital (radix : Radix)
  | radixRedundant
  | digit (radix : Radix)
  | underscore
  | leadingZero
  | mantissaEmpty
  | fractionEmpty
  | exponentEmpty
  | floatRest
  | integerTooLarge
  | floatTooLarge
  | moment (fault : MomentFault)
  -- tables
  | duplicateKey
  | extendsValue (kind : String)
  -- what the document holds
  | wrongType (found wanted : String)
  | unknownField (name : String) (known : List String)
deriving Repr, DecidableEq

/-- Names in backticks, the last of several after a comma like the others. -/
def oneOf : List String → String
  | [] => "there are no fields"
  | [name] => "expected `" ++ name ++ "`"
  | [a, b] => "expected `" ++ a ++ "` or `" ++ b ++ "`"
  | names => "expected one of " ++ ", ".intercalate (names.map fun n => "`" ++ n ++ "`")

def MomentFault.message (f : MomentFault) : String :=
  "invalid " ++ f.part.getD "datetime" ++
    match f.wanted with
    | some w => ", expected " ++ w
    | none => ""

def Cause.message : Cause → String
  | loneReturn => "carriage return must be followed by newline, expected newline"
  | commentCharacter => "invalid comment character, expected printable characters"
  | lineGoesOn => "unexpected key or value, expected newline, `#`"
  | keyWithoutValue => "key with no value, expected `=`"
  | headerUnclosed false => "unclosed table, expected `]`"
  | headerUnclosed true => "unclosed array table, expected `]`"
  | headerUnopened => "missing table open, expected `[`"
  | keyInvalid => "invalid key, expected key"
  | extraEquals => "extra `=`, expected nothing"
  | tableUnopened => "missing inline table opening, expected `\x7b`"
  | arrayUnopened => "missing array opening, expected `[`"
  | arrayExtraComma => "extra comma in array, expected value"
  | arrayMissingComma => "missing comma between array elements, expected `,`"
  | arrayEquals => "unexpected `=` in array, expected value, `]`"
  | arrayUnclosed => "unclosed array, expected `]`"
  | tableExtraComma awaited => "extra comma in inline table, expected " ++ awaited.text
  | tableExtraEquals awaited =>
    "extra assignment between key-value pairs, expected " ++ awaited.text
  | tableMissingComma => "missing comma between key-value pairs, expected `,`"
  | tableMissingEquals => "missing assignment between key-value pairs, expected `=`"
  | tableMissingKey => "missing key for inline table element, expected key"
  | tableUnclosed => "unclosed inline table, expected `\x7d`"
  | tooDeep => "cannot recurse further; max recursion depth met"
  | keyEmpty => "unquoted keys cannot be empty, expected letters, numbers, `-`, `_`"
  | keyCharacter => "invalid unquoted key, expected letters, numbers, `-`, `_`"
  | keyLong quoting =>
    "keys cannot be " ++ quoting.name ++ "s, expected basic string, literal string"
  | unquoted => "string values must be quoted, expected literal string"
  | quoteUnopened quoting => "missing opening quote, expected `" ++ quoting.mark ++ "`"
  | quoteUnclosed quoting => "invalid " ++ quoting.name ++ ", expected `" ++ quoting.mark ++ "`"
  | quoteCharacter quoting => "invalid " ++ quoting.name ++ ", expected " ++ quoting.contents
  | escapeUnknown =>
    "missing escaped value, expected `b`, `e`, `f`, `n`, `r`, `\\`, `\"`, `x`, `u`, `U`"
  | escapeShort => "too few unicode value digits, expected unicode hexadecimal value"
  | escapeNoCharacter => "invalid value, expected unicode hexadecimal value"
  | symbol s => "invalid " ++ s.kind ++ ", expected `" ++ s.text ++ "`"
  | signTwice => "redundant numeric sign, expected nothing"
  | signBeforeRadix => "integers with a radix cannot be signed, expected nothing"
  | signAfterRadix => "unexpected sign, expected nothing"
  | radixCapital radix =>
    "radix must be lowercase, expected `0" ++ String.singleton radix.letter ++ "`"
  | radixRedundant => "redundant integer number prefix, expected nothing"
  | digit radix => "invalid " ++ radix.name ++ " number"
  | underscore => "`_` may only go between digits, expected nothing"
  | leadingZero => "unexpected leading zero, expected nothing"
  | mantissaEmpty => "invalid mantissa, expected digits"
  | fractionEmpty => "invalid fraction, expected digits"
  | exponentEmpty => "invalid exponent, expected digits"
  | floatRest => "invalid float, expected nothing"
  | integerTooLarge => "integer number overflowed"
  | floatTooLarge => "floating-point number overflowed"
  | moment fault => fault.message
  | duplicateKey => "duplicate key"
  | extendsValue kind => "cannot extend value of type " ++ kind ++ " with a dotted key"
  | wrongType found wanted => "invalid type: " ++ found ++ ", expected " ++ wanted
  | unknownField name known => "unknown field `" ++ name ++ "`, " ++ oneOf known

structure Flaw where
  cause : Cause
  span : Span
deriving Repr, DecidableEq

/-! ### Reports -/

/-- Line and column, from zero, of byte `index`, where `offset` bytes have been passed, `column`
characters of this line and `width` bytes of it. A place inside a character counts the bytes of its
line. -/
def locate (index : Nat) : List Char → (offset line column width : Nat) → Nat × Nat
  | [], _, line, column, _ => (line, column)
  | c :: r, offset, line, column, width =>
    if index < offset + c.utf8Size then
      if index + 1 = offset + c.utf8Size then (line, column) else (line, width + (index - offset))
    else if c = '\n' then locate index r (offset + 1) (line + 1) 0 0
    else locate index r (offset + c.utf8Size) line (column + 1) (width + c.utf8Size)

/-- Line and column, from zero, of a place. A place past the end is as far past the last byte. -/
def position (source : String) (index : Nat) : Nat × Nat :=
  if source.isEmpty then (0, index)
  else
    let inside := min index (source.utf8ByteSize - 1)
    let (line, column) := locate inside source.toList 0 0 0 0
    (line, column + (index - inside))

def blanks (n : Nat) : String := String.ofList (List.replicate n ' ')

/-- A flaw with the line that it is in and at least one caret under that line. -/
def Flaw.report (source : String) (f : Flaw) : String :=
  let (line, column) := position source f.span.start
  let number := toString (line + 1)
  let gutter := blanks (number.length + 1) ++ "|"
  let content := (source.splitOn "\n").getD line ""
  let width := min (f.span.stop - f.span.start) (content.utf8ByteSize - column)
  "TOML parse error at line " ++ number ++ ", column " ++ toString (column + 1) ++ "\n" ++
    gutter ++ "\n" ++
    number ++ " | " ++ content ++ "\n" ++
    gutter ++ blanks (column + 1) ++ String.ofList (List.replicate (max 1 width) '^') ++ "\n" ++
    f.cause.message ++ "\n"

end Outline.Toml
