import Outline.Grammar.Basic

/-! The tokens of Ruby that no pattern tells apart: whether a dash is a sign or an operator, where a
statement ends, what a quote opens. They are recognised from what the parser expects, the blanks
before them and the quotes that are open. -/
namespace Outline.Ruby

inductive Mark where
  | lineBreak | noLineBreak | simpleSymbol | stringStart | symbolStart | subshellStart | regexStart
  | stringArrayStart | symbolArrayStart | heredocBodyStart | stringContent | heredocContent
  | stringEnd | heredocEnd | heredocBeginning | blockAmpersand | splatStar | unaryMinus
  | unaryMinusNumber | binaryMinus | binaryStar | openSingleton | hashKeySymbol | identifierSuffix
  | constantSuffix | doubleSplat | power | indexBracket | shortInterpolation
deriving Repr, DecidableEq

namespace Mark

/-- All marks, in the order of their terminals. -/
def all : List Mark := [
  lineBreak, noLineBreak, simpleSymbol, stringStart, symbolStart, subshellStart, regexStart,
  stringArrayStart, symbolArrayStart, heredocBodyStart, stringContent, heredocContent, stringEnd,
  heredocEnd, heredocBeginning, blockAmpersand, splatStar, unaryMinus, unaryMinusNumber,
  binaryMinus, binaryStar, openSingleton, hashKeySymbol, identifierSuffix, constantSuffix,
  doubleSplat, power, indexBracket, shortInterpolation]

/-- The name that the rules give to a mark. -/
def name : Mark → String
  | lineBreak => "_line_break"
  | noLineBreak => "_no_line_break"
  | simpleSymbol => "simple_symbol"
  | stringStart => "_string_start"
  | symbolStart => "_symbol_start"
  | subshellStart => "_subshell_start"
  | regexStart => "_regex_start"
  | stringArrayStart => "_string_array_start"
  | symbolArrayStart => "_symbol_array_start"
  | heredocBodyStart => "_heredoc_body_start"
  | stringContent => "string_content"
  | heredocContent => "heredoc_content"
  | stringEnd => "_string_end"
  | heredocEnd => "heredoc_end"
  | heredocBeginning => "heredoc_beginning"
  | blockAmpersand => "_block_ampersand"
  | splatStar => "_splat_star"
  | unaryMinus => "_unary_minus"
  | unaryMinusNumber => "_unary_minus_num"
  | binaryMinus => "_binary_minus"
  | binaryStar => "_binary_star"
  | openSingleton => "_open_singleton"
  | hashKeySymbol => "hash_key_symbol"
  | identifierSuffix => "_identifier_suffix"
  | constantSuffix => "_constant_suffix"
  | doubleSplat => "_double_splat"
  | power => "_power"
  | indexBracket => "_index_bracket"
  | shortInterpolation => "_short_interpolation"

/-- The place of a mark among all marks. -/
def index (m : Mark) : Nat := m.ctorIdx

theorem all_getElem_index (m : Mark) : all[m.index]? = some m := by
  cases m <;> rfl

def visibility (m : Mark) : Grammar.Visibility :=
  if m.name.startsWith "_" then .hidden else .named

end Mark

end Outline.Ruby
