/-! JSON values and how they are written: an entry a line, two blanks deeper than what holds it, and
nothing between brackets that hold nothing. -/
namespace Outline.Report

/-- A value. All numbers that are told are counts. -/
inductive Json where
  | null
  | boolean (b : Bool)
  | number (n : Nat)
  | string (s : String)
  | array (items : List Json)
  | object (fields : List (String × Json))
deriving Repr, Inhabited

namespace Json

/-! ### Strings -/

def hexDigit (n : Nat) : Char := if n < 10 then Char.ofNat (48 + n) else Char.ofNat (87 + n)

/-- A character inside quotes. Quotes, backslashes and controls are escaped. -/
def escaped (c : Char) : List Char :=
  match c with
  | '"' => ['\\', '"']
  | '\\' => ['\\', '\\']
  | '\x08' => ['\\', 'b']
  | '\x0c' => ['\\', 'f']
  | '\n' => ['\\', 'n']
  | '\r' => ['\\', 'r']
  | '\t' => ['\\', 't']
  | c =>
    if c.toNat < 32 then
      ['\\', 'u', '0', '0', hexDigit (c.toNat / 16), hexDigit (c.toNat % 16)]
    else [c]

def quoted (s : String) : List Char := '"' :: s.toList.flatMap escaped ++ ['"']

/-! ### Values -/

/-- A new line, indented to a depth. -/
def lineBreak (depth : Nat) : List Char := '\n' :: List.replicate (2 * depth) ' '

/-- A value inside `depth` others. -/
def write (depth : Nat) : Json → List Char
  | null => "null".toList
  | boolean b => (if b then "true" else "false").toList
  | number n => Nat.toDigits 10 n
  | string s => quoted s
  | array [] => ['[', ']']
  | array (i :: r) =>
    '[' :: lineBreak (depth + 1) ++ write (depth + 1) i ++ writeItems depth r ++
      lineBreak depth ++ [']']
  | object [] => ['\x7b', '\x7d']
  | object ((k, v) :: r) =>
    '\x7b' :: lineBreak (depth + 1) ++ quoted k ++ [':', ' '] ++ write (depth + 1) v ++
      writeFields depth r ++ lineBreak depth ++ ['\x7d']
where
  /-- The items after the first. -/
  writeItems (depth : Nat) : List Json → List Char
  | [] => []
  | i :: r => ',' :: lineBreak (depth + 1) ++ write (depth + 1) i ++ writeItems depth r
  /-- The fields after the first. -/
  writeFields (depth : Nat) : List (String × Json) → List Char
  | [] => []
  | (k, v) :: r =>
    ',' :: lineBreak (depth + 1) ++ quoted k ++ [':', ' '] ++ write (depth + 1) v ++
      writeFields depth r

def text (j : Json) : String := String.ofList (j.write 0)

end Json

end Outline.Report
