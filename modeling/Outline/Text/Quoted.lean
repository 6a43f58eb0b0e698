import Outline.Unicode.Lookup

/-! Text in double quotes, with escapes for what does not show: quotes and backslashes, controls,
separators other than the blank, characters without a meaning, and marks that join what is before
them. -/
namespace Outline.Text

/-- The characters that are written as escapes outside of ASCII. -/
def hidden : Unicode.CodeSet :=
  Unicode.unionOf
    ((["c", "z"].filterMap Unicode.category?) ++ ["graphemeextend"].filterMap Unicode.property?)

def hexText (n : Nat) : String := String.ofList (Nat.toDigits 16 n)

def quotedChar (c : Char) : String :=
  match c with
  | '"' => "\\\""
  | '\\' => "\\\\"
  | '\n' => "\\n"
  | '\r' => "\\r"
  | '\t' => "\\t"
  | '\x00' => "\\0"
  | c =>
    if ' ' ≤ c && c ≤ '~' then String.singleton c
    else if hidden.contains c then "\\u\x7b" ++ hexText c.toNat ++ "\x7d"
    else String.singleton c

def quoted (s : String) : String := "\"" ++ String.join (s.toList.map quotedChar) ++ "\""

end Outline.Text
