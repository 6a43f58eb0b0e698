import Outline.Grammar.Basic
import Outline.Ruby.Rules.Prec

/-! Jumps, loops, branches and patterns. -/
namespace Outline.Ruby

open Grammar Grammar.Rule

/-- The arguments of a call without parentheses. -/
def bareArguments : Rule := named "argument_list" (ref "command_argument_list")

/-- A statement with a condition or handler after it. -/
def modifier (word part : String) : Rule :=
  level Prec.rescue
    (seq [field "body" (ref "_statement"), lit word, field part (ref "_expression")])

/-- A word, its condition, what follows from it, and the branches after it. -/
def conditionFor (word : String) : Rule :=
  seq [
    lit word, field "condition" (ref "_statement"),
    choice [ref "_terminator", field "consequence" (ref "then")],
    field "alternative" (opt (anyOf ["else", "elsif"]))]

/-- A range with both ends, or only one of them. -/
def rangeOf (operand : String) : Rule :=
  let start := field "begin" (ref operand)
  let stop := field "end" (ref operand)
  let operator := field "operator" (anyLit ["..", "..."])
  choice [seq [start, operator, stop], seq [operator, stop], seq [start, operator]]

/-- A pattern in brackets of its own, or after a constant in parentheses or square brackets. -/
def patternGroup (opening closing : String) (alone after : Rule) : Rule :=
  choice [
    seq [lit opening, alone, lit closing],
    seq [field "class" (ref "_pattern_constant"), imm "(", after, lit ")"],
    seq [field "class" (ref "_pattern_constant"), imm "[", after, lit "]"]]

/-- Jumps, loops and `case`. -/
def controlRules : List (String × Rule) := [
  ("return_command", left 0 (seq [lit "return", bareArguments])),
  ("yield_command", left 0 (seq [lit "yield", bareArguments])),
  ("break_command", left 0 (seq [lit "break", bareArguments])),
  ("next_command", left 0 (seq [lit "next", bareArguments])),
  ("return", left 0 (seq [lit "return", opt (ref "argument_list")])),
  ("yield", left 0 (seq [lit "yield", opt (ref "argument_list")])),
  ("break", left 0 (seq [lit "break", opt (ref "argument_list")])),
  ("next", left 0 (seq [lit "next", opt (ref "argument_list")])),
  ("redo", left 0 (seq [lit "redo", opt (ref "argument_list")])),
  ("retry", left 0 (seq [lit "retry", opt (ref "argument_list")])),
  ("if_modifier", modifier "if" "condition"),
  ("unless_modifier", modifier "unless" "condition"),
  ("while_modifier", modifier "while" "condition"),
  ("until_modifier", modifier "until" "condition"),
  ("rescue_modifier", modifier "rescue" "handler"),
  ("while", seq [lit "while", field "condition" (ref "_statement"), field "body" (ref "do")]),
  ("until", seq [lit "until", field "condition" (ref "_statement"), field "body" (ref "do")]),
  ("for",
    seq [
      lit "for", field "pattern" (anyOf ["_lhs", "left_assignment_list"]), field "value" (ref "in"),
      field "body" (ref "do")]),
  ("in", seq [lit "in", ref "_arg"]),
  ("do", seq [choice [lit "do", ref "_terminator"], opt (ref "_statements"), lit "end"]),
  ("case",
    seq [
      lit "case", field "value" (opt (ref "_statement")), opt (ref "_terminator"),
      many (ref "when"), opt (ref "else"), lit "end"]),
  ("when",
    seq [
      lit "when", commaSep1 (field "pattern" (ref "pattern")),
      choice [ref "_terminator", field "body" (ref "then")]]),
  ("case_match",
    seq [
      lit "case", field "value" (ref "_statement"), opt (ref "_terminator"),
      many1 (field "clauses" (ref "in_clause")), opt (field "else" (ref "else")), lit "end"]),
  ("in_clause",
    seq [
      lit "in", field "pattern" (ref "_top_pattern"), field "guard" (opt (ref "_guard")),
      choice [ref "_terminator", field "body" (ref "then")]]),
  ("pattern", anyOf ["_arg", "splat_argument"]),
  ("_guard", anyOf ["if_guard", "unless_guard"]),
  ("if_guard", seq [lit "if", field "condition" (ref "_expression")]),
  ("unless_guard", seq [lit "unless", field "condition" (ref "_expression")])]

/-- What `case … in` matches against. -/
def patternRules : List (String × Rule) := [
  ("_top_pattern",
    level (-1) (choice [
      ref "_pattern", named "array_pattern" (ref "_array_items"),
      named "find_pattern" (ref "_find_body"),
      named "hash_pattern" (ref "_hash_body")])),
  ("_array_items",
    right 0 (choice [
      seq [ref "_pattern", named "splat_parameter" (lit ",")],
      seq [ref "_pattern", lit ",", anyOf ["_pattern", "_array_items"]],
      seq [ref "splat_parameter", many (seq [lit ",", ref "_pattern"])]])),
  ("_pattern", anyOf ["as_pattern", "_alternatives"]),
  ("as_pattern",
    seq [field "value" (ref "_pattern"), lit "=>", field "name" (ref "identifier")]),
  ("_alternatives", anyOf ["alternative_pattern", "_basic_pattern"]),
  ("alternative_pattern",
    seq [
      field "alternatives" (ref "_basic_pattern"),
      many1 (seq [lit "|", field "alternatives" (ref "_basic_pattern")])]),
  ("_array_body", anyOf ["_pattern", "_array_items"]),
  ("array_pattern",
    right (-1) (patternGroup "[" "]" (opt (ref "_array_body")) (opt (ref "_array_body")))),
  ("_find_body",
    seq [
      ref "splat_parameter", many1 (seq [lit ",", ref "_pattern"]), lit ",",
      ref "splat_parameter"]),
  ("find_pattern", patternGroup "[" "]" (ref "_find_body") (ref "_find_body")),
  ("_hash_body",
    right (-1) (choice [
      seq [commaSep1 (ref "keyword_pattern"), opt (lit ",")],
      seq [commaSep1 (ref "keyword_pattern"), lit ",", ref "_hash_rest"],
      ref "_hash_rest"])),
  ("keyword_pattern",
    right (-1) (seq [
      field "key" (anyOf ["hash_key_symbol", "string"]), imm ":",
      opt (field "value" (ref "_pattern"))])),
  ("_hash_rest", anyOf ["hash_splat_parameter", "hash_splat_nil"]),
  ("hash_pattern",
    right (-1) (patternGroup "\x7b" "\x7d" (opt (ref "_hash_body")) (ref "_hash_body"))),
  ("_basic_pattern",
    right (-1) (anyOf [
      "_pattern_value", "identifier", "array_pattern", "find_pattern", "hash_pattern",
      "parenthesized_pattern"])),
  ("parenthesized_pattern", seq [lit "(", ref "_pattern", lit ")"]),
  ("_pattern_value",
    right (-1) (choice [
      ref "_pattern_primitive", named "range" (ref "_pattern_range"),
      ref "variable_reference_pattern", ref "expression_reference_pattern",
      ref "_pattern_constant"])),
  ("_pattern_range", right (-1) (rangeOf "_pattern_primitive")),
  ("_pattern_primitive", right (-1) (anyOf ["_pattern_literal", "_pattern_lambda"])),
  ("_pattern_lambda", right (-1) (ref "lambda")),
  ("_pattern_literal",
    right (-1) (anyOf [
      "_literal", "string", "subshell", "heredoc_beginning", "regex", "string_array",
      "symbol_array", "_keyword_variable"])),
  ("_keyword_variable",
    right (-1) (anyOf ["nil", "self", "true", "false", "line", "file", "encoding"])),
  ("variable_reference_pattern",
    seq [lit "^", field "name" (anyOf ["identifier", "_sigil_variable"])]),
  ("expression_reference_pattern",
    seq [lit "^", lit "(", field "value" (ref "_expression"), lit ")"]),
  ("_pattern_constant",
    right (-1) (choice [ref "constant", named "scope_resolution" (ref "_constant_path")])),
  ("_constant_path",
    seq [opt (field "scope" (ref "_pattern_constant")), lit "::", field "name" (ref "constant")])]

/-- Branches and guarded bodies. -/
def branchRules : List (String × Rule) := [
  ("if", seq [conditionFor "if", lit "end"]),
  ("unless", seq [conditionFor "unless", lit "end"]),
  ("elsif", conditionFor "elsif"),
  ("else", seq [lit "else", opt (ref "_terminator"), opt (ref "_statements")]),
  ("then",
    choice [
      seq [ref "_terminator", ref "_statements"],
      seq [opt (ref "_terminator"), lit "then", opt (ref "_statements")]]),
  ("begin", seq [lit "begin", opt (ref "_terminator"), opt (ref "_body_statement"), lit "end"]),
  ("ensure", seq [lit "ensure", opt (ref "_statements")]),
  ("rescue",
    seq [
      lit "rescue", field "exceptions" (opt (ref "exceptions")),
      field "variable" (opt (ref "exception_variable")),
      choice [ref "_terminator", field "body" (ref "then")]]),
  ("exceptions", commaSep1 (anyOf ["_arg", "splat_argument"])),
  ("exception_variable", seq [lit "=>", ref "_lhs"]),
  ("body_statement", ref "_body_statement"),
  ("_body_statement",
    choice [
      seq [ref "_statements", many (anyOf ["rescue", "else", "ensure"])],
      many1 (anyOf ["rescue", "else", "ensure"])])]

end Outline.Ruby
