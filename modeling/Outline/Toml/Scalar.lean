import Outline.Decimal.Shortest
import Outline.Toml.Moment
import Outline.Toml.Quoted

/-! Text, numbers, truth values, dates and times. What a bare word is meant to be is told by how it
starts. -/
namespace Outline.Toml

inductive Scalar where
  | string (text : String)
  | integer (n : Int)
  | float (x : Decimal.Binary)
  | boolean (b : Bool)
  | moment (text : String)
deriving Repr, DecidableEq, Inhabited

namespace Bare

/-! ### Digits -/

def isDigitOf (radix : Radix) (c : Char) : Bool :=
  (Quoting.hexValue? c).any (· < radix.base)

/-- The part of a float that has to have digits. -/
def digitsAfter (cause : Cause) (zeroFirst : Bool) (offset : Nat) (cs : List Char) :
    Except Flaw (List Char) :=
  let run := cs.takeWhile fun c => c.isDigit || c = '_'
  let count := (run.filter Char.isDigit).length
  if count = 0 then .error ⟨cause, .here offset⟩
  else if 1 < count && !zeroFirst && run.head? = some '0' then
    .error ⟨.leadingZero, ⟨offset, offset + 1⟩⟩
  else .ok (cs.drop run.length)

/-- Whether digits, a fraction and an exponent make up all of a text that stops at byte `stop`. -/
def checkFloat (stop : Nat) (cs : List Char) : Except Flaw Unit := do
  let place (r : List Char) : Nat := stop - byteSize r
  let r ← digitsAfter .mantissaEmpty false (place cs) cs
  let r ← match r with
    | '.' :: t => digitsAfter .fractionEmpty true (place t) t
    | _ => pure r
  let r ← match r with
    | c :: t =>
      if c = 'e' || c = 'E' then
        let t := match t with
          | d :: u => if d = '+' || d = '-' then u else t
          | [] => t
        digitsAfter .exponentEmpty true (place t) t
      else pure r
    | [] => pure r
  if r.isEmpty then return else .error ⟨.floatRest, ⟨place r, stop⟩⟩

/-- Where an underscore inside a number does not stand between two digits: `run` is how many
characters have been read since the last underscore, and `last` is the last of them. -/
def innerUnderscore? (isDigit : Char → Bool) (offset run : Nat) (last : Char) :
    List Char → Option Nat
  | [] => none
  | '_' :: r =>
    if 1 < run && !isDigit last then some offset
    else
      match r with
      | '_' :: _ => some (offset + 1)
      | c :: _ => if isDigit c then innerUnderscore? isDigit (offset + 1) 0 '_' r else some offset
      | [] => none
  | c :: r => innerUnderscore? isDigit (offset + c.utf8Size) (run + 1) c r

/-- Where an underscore does not stand between two digits: one at the start or the end is found
before others. -/
def strayUnderscore? (isDigit : Char → Bool) (offset : Nat) (cs : List Char) : Option Nat :=
  if cs.head? = some '_' then some offset
  else if cs.getLast? = some '_' then some (offset + byteSize cs - 1)
  else innerUnderscore? isDigit offset 0 '_' cs

def checkUnderscores (isDigit : Char → Bool) (offset : Nat) (cs : List Char) : Except Flaw Unit :=
  match strayUnderscore? isDigit offset cs with
  | some n => .error ⟨.underscore, ⟨n, n + 1⟩⟩
  | none => .ok ()

def numberIn (base : Nat) (cs : List Char) : Nat :=
  cs.foldl (fun n c => if c = '_' then n else base * n + (Quoting.hexValue? c).getD 0) 0

/-! ### Numbers -/

def integer (l : Lexeme) (negative : Bool) (base : Nat) (digits : List Char) : Except Flaw Scalar :=
  let n : Int := numberIn base digits
  let n := if negative then -n else n
  if digits.isEmpty || n < -0x8000000000000000 || 0x7fffffffffffffff < n then
    .error ⟨.integerTooLarge, l.span⟩
  else .ok (.integer n)

/-- The number that digits, a fraction and an exponent stand for. -/
def floatValue (negative : Bool) (cs : List Char) : Decimal.Binary :=
  let cs := cs.filter (· ≠ '_')
  let isMantissa (c : Char) : Bool := c.isDigit || c = '.'
  let mantissa := cs.takeWhile isMantissa
  let whole := mantissa.takeWhile Char.isDigit
  let fraction := mantissa.drop (whole.length + 1)
  let exponent : Int :=
    match cs.drop (mantissa.length + 1) with
    | '-' :: ds => -numberIn 10 ds
    | '+' :: ds => numberIn 10 ds
    | ds => numberIn 10 ds
  Decimal.nearest negative (numberIn 10 (whole ++ fraction)) (exponent - fraction.length)

def float (l : Lexeme) (negative : Bool) (cs : List Char) : Except Flaw Scalar := do
  checkFloat l.span.stop cs
  checkUnderscores Char.isDigit (l.span.stop - byteSize cs) cs
  match floatValue negative cs with
  | .infinite _ => .error ⟨.floatTooLarge, l.span⟩
  | x => return .float x

def decimal (l : Lexeme) (negative : Bool) (cs : List Char) : Except Flaw Scalar := do
  let offset := l.span.stop - byteSize cs
  if cs.head? = some '0' && 1 < cs.length then .error ⟨.leadingZero, ⟨offset, offset + 1⟩⟩
  checkUnderscores Char.isDigit offset cs
  integer l negative 10 cs

/-- A word that is no value: most likely text without quotes. -/
def unquoted (l : Lexeme) : Flaw :=
  let closes (q : Quoting) : Bool := q.mark.toList.isSuffixOf l.text
  match [.longLiteral, .longBasic, .literal, .basic].find? closes with
  | some q => ⟨.quoteUnopened q, l.span.before⟩
  | none => ⟨.unquoted, l.span⟩

/-- A number, or a date or time, which starts with a number too. `cs` is the word less its sign. -/
def numberOrMoment (l : Lexeme) (negative : Bool) (cs : List Char) : Except Flaw Scalar :=
  let rest := cs.dropWhile Char.isDigit
  match rest with
  | [] => decimal l negative cs
  | c :: _ =>
    if c = '-' || c = ':' then
      match Moment.fault? l.text with
      | some fault => .error ⟨.moment fault, l.span⟩
      | none => .ok (.moment (String.ofList l.text))
    else if rest.contains ' ' then .error (unquoted l)
    else if rest.any fun d => d = '.' || d = 'e' || d = 'E' then float l negative cs
    else if c = '_' then decimal l negative cs
    else .error (unquoted l)

/-- A number to another base, after its mark. -/
def radixed (l : Lexeme) (radix : Radix) (cs : List Char) : Except Flaw Scalar := do
  let offset := l.span.stop - byteSize cs
  if cs.head?.any fun c => c = '+' || c = '-' then
    .error ⟨.signAfterRadix, ⟨offset, offset + 1⟩⟩
  match Layout.badCharacter? (fun c => isDigitOf radix c || c = '_') offset cs with
  | some n => .error ⟨.digit radix, .here n⟩
  | none => pure ()
  checkUnderscores (isDigitOf radix) offset cs
  integer l false radix.base cs

def zeroFirst (l : Lexeme) (signed negative : Bool) (cs : List Char) : Except Flaw Scalar :=
  let offset := l.span.stop - byteSize cs
  let marked (radix : Radix) (capital : Bool) (digits : List Char) : Except Flaw Scalar := do
    if signed then .error ⟨.signBeforeRadix, ⟨l.span.start, l.span.start + 1⟩⟩
    if radix = .decimal then .error ⟨.radixRedundant, ⟨offset, offset + 2⟩⟩
    if capital then .error ⟨.radixCapital radix, ⟨offset, offset + 2⟩⟩
    radixed l radix digits
  match cs with
  | '0' :: 'x' :: r => marked .hexadecimal false r
  | '0' :: 'X' :: r => marked .hexadecimal true r
  | '0' :: 'o' :: r => marked .octal false r
  | '0' :: 'O' :: r => marked .octal true r
  | '0' :: 'b' :: r => marked .binary false r
  | '0' :: 'B' :: r => marked .binary true r
  | '0' :: 'd' :: r => marked .decimal false r
  | '0' :: 'D' :: r => marked .decimal true r
  | _ => numberOrMoment l negative cs

/-! ### Words -/

def symbolFor? (c : Char) : Option Symbol :=
  match c with
  | 't' | 'T' => some .true
  | 'f' | 'F' => some .false
  | 'i' | 'I' => some .inf
  | 'n' | 'N' => some .nan
  | _ => none

def symbolValue (negative : Bool) : Symbol → Scalar
  | .true => .boolean true
  | .false => .boolean false
  | .inf => .float (.infinite negative)
  | .nan => .float .nan

/-- The value of a bare word, less its sign if it has one. -/
def readFrom (l : Lexeme) (signed negative : Bool) (cs : List Char) : Except Flaw Scalar :=
  match cs with
  | [] => .error (unquoted l)
  | c :: _ =>
    if c = '0' then zeroFirst l signed negative cs
    else if c.isDigit || c = '_' then numberOrMoment l negative cs
    else if c = '.' then float l negative cs
    else
      match symbolFor? c with
      | none => .error (unquoted l)
      | some s =>
        if signed && s.kind = "boolean" then .error (unquoted l)
        else if String.ofList cs = s.text then .ok (symbolValue negative s)
        else .error ⟨.symbol s, ⟨l.span.stop - byteSize cs, l.span.stop⟩⟩

def read (l : Lexeme) : Except Flaw Scalar :=
  match l.text with
  | c :: r =>
    if c = '+' || c = '-' then
      if r.head?.any fun d => d = '+' || d = '-' then
        .error ⟨.signTwice, ⟨l.span.start + 1, l.span.start + 2⟩⟩
      else readFrom l true (c = '-') r
    else readFrom l false false l.text
  | [] => .error (unquoted l)

end Bare

/-- The value of a word. -/
def Scalar.read (l : Lexeme) : Except Flaw Scalar :=
  match l.spelling with
  | .quoted q => (q.read l).map .string
  | .bare => Bare.read l

end Outline.Toml
