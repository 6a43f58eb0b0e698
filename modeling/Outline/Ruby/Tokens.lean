import Outline.Grammar.Basic

/-! The tokens of Ruby. The identifier comes first: it is the token that the captured words are told
apart from. The others stand in the order in which a missing one is tried. -/
namespace Outline.Ruby

open Grammar Grammar.Pattern

/-! ### Names -/

/-- The characters that no name holds. -/
def notInName : CharSet :=
  ⟨[(0, 0x1f)], false⟩ ++ CharSet.blank ++ CharSet.of ":;`\"'@$#.,|^&<=>+-*/\\%?!~()[]\x7b\x7d"

def nameChar : Pattern := chars notInName.except
def upper : CharSet := CharSet.range 'A' 'Z'
def nameRest : Pattern := many nameChar
def constantName : Pattern := chars upper ++ nameRest
def localName : Pattern := chars (notInName ++ upper ++ CharSet.digit).except ++ nameRest
def sigilName : Pattern := chars (notInName ++ CharSet.digit).except ++ nameRest
def suffix : Pattern := chars (CharSet.of "?!")

/-- `$` and an optional dash, then one special character, a number or a plain name. -/
def globalName : Pattern :=
  text "$" ++ opt (text "-") ++
    (chars (CharSet.of "!@&`'+~=/\\,;.<>*$?:\"") ||| (many1 (chars CharSet.digit) |||
      (chars (CharSet.range 'a' 'z' ++ CharSet.range 'A' 'Z' ++ CharSet.of "_") ++
        many (chars (CharSet.range 'a' 'z' ++ CharSet.range 'A' 'Z' ++ CharSet.digit ++
          CharSet.of "_")))))

/-! ### Numbers -/

def moreDigits (s : CharSet) : Pattern := many (opt (text "_") ++ chars s)

/-- Digits of a set, with single underscores between them. -/
def digits (s : CharSet) : Pattern := chars s ++ moreDigits s

def integer : Pattern :=
  (text "0" ++ chars (CharSet.of "bB") ++ digits (CharSet.of "01")) |||
  ((text "0" ++ opt (chars (CharSet.of "oO")) ++ digits (CharSet.range '0' '7')) |||
  ((opt (text "0" ++ chars (CharSet.of "dD")) ++ digits CharSet.digit) |||
  (text "0" ++ chars (CharSet.of "xX") ++ digits CharSet.hex)))

def float : Pattern :=
  digits CharSet.digit ++ opt (text "." ++ chars CharSet.digit) ++ moreDigits CharSet.digit ++
    opt (chars (CharSet.of "eE") ++ opt (chars (CharSet.of "+-")) ++ digits CharSet.digit)

/-! ### Text -/

def notNewline : CharSet := (CharSet.of "\n").except
def line : Pattern := many (chars notNewline)

/-- A `#` and the rest of its line, or the lines from `=begin` to `=end`. -/
def comment : Pattern :=
  (text "#" ++ line) |||
  (text "=begin" ++ line ++ opt (text "\r") ++ text "\n" ++
    many (chars (CharSet.of "=").except ||| ((text "=" ++ chars (CharSet.of "e").except) |||
      ((text "=e" ++ chars (CharSet.of "n").except) |||
      (text "=en" ++ chars (CharSet.of "d").except)))) ++
    many (chars (CharSet.blank ++ CharSet.of "*")) ++ text "=end" ++ line)

/-- The characters that are blank in all of Unicode, left out of character literals. -/
def wideBlank : CharSet :=
  ⟨[(9, 13), (32, 32), (0x85, 0x85), (0xa0, 0xa0), (0x1680, 0x1680), (0x2000, 0x200a),
    (0x2028, 0x2029), (0x202f, 0x202f), (0x205f, 0x205f), (0x3000, 0x3000)], false⟩

def solid : Pattern := chars wideBlank.except

/-- A question mark and a character, or a backslash escape with its tail. -/
def character : Pattern :=
  text "?" ++ ((text "\\" ++ solid ++
    opt ((text "\x7b" ++ many (chars CharSet.hex) ++ text "\x7d") |||
    (many (chars CharSet.hex) ||| (text "-" ++ solid ++
      opt (chars (CharSet.of "MC") ++ text "-" ++ solid))))) ||| solid)

def escape : Pattern :=
  text "\\" ++ (chars (CharSet.of "ux" ++ CharSet.range '0' '7').except |||
    ((text "x" ++ times (chars CharSet.hex) 1 1) |||
    (times (chars (CharSet.range '0' '7')) 1 2 |||
    ((text "u" ++ times (chars CharSet.hex) 4 0) |||
    (text "u\x7b" ++ many1 (chars (CharSet.hex ++ CharSet.of " ")) ++ text "\x7d")))))

/-! ### The table -/

def tokens : List Token := [
  .regular "identifier" localName, .lit "__END__",
  .regular "uninterpreted" (many (chars notNewline ||| chars CharSet.blank)), .lit "BEGIN",
  .lit "\x7b", .lit "\x7d", .lit "END", .lit "def", .lit "(", .lit ")", .lit ".", .lit "::",
  .lit "end", .lit "rescue", .lit "=", .lit ",", .lit "|", .lit ";", .lit "...", .lit "*",
  .lit "**", .lit "nil", .lit "&", .imm ":", .lit "class", .lit "<", .lit "module",
  .lit "return", .lit "yield", .lit "break", .lit "next", .lit "redo", .lit "retry", .lit "if",
  .lit "unless", .lit "while", .lit "until", .lit "for", .lit "in", .lit "do", .lit "case",
  .lit "when", .lit "=>", .lit "[", .lit "]", .imm "(", .imm "[", .lit "..",
  .keyword "line" "__LINE__", .keyword "file" "__FILE__", .keyword "encoding" "__ENCODING__",
  .lit "^", .lit "elsif", .lit "else", .lit "then", .lit "begin", .lit "ensure", .imm "::",
  .lit "&.", .lit "+=", .lit "-=", .lit "*=", .lit "**=", .lit "/=", .lit "||=", .lit "|=",
  .lit "&&=", .lit "&=", .lit "%=", .lit ">>=", .lit "<<=", .lit "^=", .lit "?", .lit ":",
  .lit "&&", .lit "||", .lit "<<", .lit ">>", .lit "<=", .lit ">", .lit ">=", .lit "+", .lit "/",
  .lit "%", .lit "==", .lit "!=", .lit "===", .lit "<=>", .lit "=~", .lit "!~", .lit "or",
  .lit "and", .lit "defined?", .lit "not", .lit "!", .lit "~", .lit "-", .lit "+@", .lit "-@",
  .lit "~@", .lit "[]", .lit "[]=", .lit "`", .imm "=", .lit "undef", .lit "alias",
  { Token.regular "comment" comment with prec := -1 }, .regular "integer" integer,
  .regular "float" float, .imm "i", .imm "ri", .imm "r", .keyword "super" "super",
  .keyword "self" "self", .spellings "true" ["true", "TRUE"],
  .spellings "false" ["false", "FALSE"], .spellings "nil" ["nil", "NIL"],
  .regular "constant" constantName, .regular "constant_suffix" (constantName ++ suffix),
  .regular "identifier_suffix" (localName ++ suffix),
  .regular "instance_variable" (text "@" ++ sigilName),
  .regular "class_variable" (text "@@" ++ sigilName), .regular "global_variable" globalName,
  .regular "character" character, .lit "#\x7b",
  { name := "_blanks", visibility := .hidden, pattern := many1 (chars CharSet.blank) },
  { Token.regular "escape_sequence" escape with immediate := true, rank := 1 }, .lit "->"]

end Outline.Ruby
