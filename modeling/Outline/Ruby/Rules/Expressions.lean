import Outline.Grammar.Basic
import Outline.Ruby.Rules.Control
import Outline.Ruby.Rules.Statements

/-! Expressions: calls, blocks, assignments and operators. -/
namespace Outline.Ruby

open Grammar Grammar.Rule

/-- The levels of blocks: one in braces binds tighter than one between `do` and `end`. -/
def curlyBlock : Int := 1
def doBlock : Int := -1

def receiver : Rule := field "receiver" (ref "_primary")
def callOperator : Rule := field "operator" (choice [lit ".", lit "&.", imm "::"])
def calledMethod : Rule :=
  field "method" (anyOf ["identifier", "_suffixed", "operator", "constant"])
def plainMethod : Rule := field "method" (anyOf ["_variable", "_suffixed"])
def callTarget : Rule := choice [ref "_call", plainMethod]
def bareArgumentField : Rule := field "arguments" bareArguments

def callWithArguments : Rule :=
  seq [
    choice [ref "_call", plainMethod, left (Prec.bitAnd + 1) (seq [receiver, callOperator])],
    field "arguments" (ref "argument_list")]

/-- What a plain assignment takes: one value, a splat or a list. -/
def assignedList : Rule :=
  choice [
    ref "_arg", named "rescue_modifier" (ref "rescued_arg"), ref "splat_argument",
    ref "right_assignment_list"]

def assignedExpression : Rule :=
  choice [ref "_expression", named "rescue_modifier" (ref "rescued_expression")]

def assignmentOperator : Rule :=
  field "operator" (anyLit [
    "+=", "-=", "*=", "**=", "/=", "||=", "|=", "&&=", "&=", "%=", ">>=", "<<=", "^="])

/-- Two values with an operator between them. -/
def infixed (operator : Rule) : Rule :=
  seq [field "left" (ref "_arg"), field "operator" operator, field "right" (ref "_arg")]

/-- An operator before its operand. -/
def applied (operator : Rule) (operand : String) : Rule :=
  seq [field "operator" operator, field "operand" (ref operand)]

def unaryOn (operand : String) : Rule :=
  choice [
    level Prec.defined (applied (lit "defined?") operand),
    right Prec.not (applied (lit "not") operand),
    right Prec.unaryMinus (applied (choice [spelt "-" (ref "_unary_minus"), lit "+"]) operand),
    right Prec.complement (applied (anyLit ["!", "~"]) operand)]

/-- Values, calls and blocks. -/
def expressionRules : List (String × Rule) := [
  ("_expression",
    choice [
      named "binary" (ref "command_binary"), named "unary" (ref "command_unary"),
      named "assignment" (ref "command_assignment"),
      named "operator_assignment" (ref "command_operator_assignment"),
      named "call" (ref "command_call"), named "call" (ref "command_call_block"),
      left 0 (named "call" (ref "_chained_call")), named "return" (ref "return_command"),
      named "yield" (ref "yield_command"), named "break" (ref "break_command"),
      named "next" (ref "next_command"), ref "match_pattern", ref "test_pattern", ref "_arg"]),
  ("match_pattern",
    level 100 (seq [field "value" (ref "_arg"), lit "=>", field "pattern" (ref "_top_pattern")])),
  ("test_pattern",
    level 100 (seq [field "value" (ref "_arg"), lit "in", field "pattern" (ref "_top_pattern")])),
  ("_arg",
    choice [
      named "unary" (ref "_negated_power"), ref "_primary", ref "assignment",
      ref "operator_assignment", ref "conditional", ref "range", ref "binary", ref "unary"]),
  ("_negated_power",
    seq [
      field "operator" (spelt "-" (ref "_unary_minus_num")),
      field "operand" (named "binary" (ref "_number_power"))]),
  ("_number_power",
    right Prec.exponential (seq [
      field "left" (ref "_simple_numeric"), field "operator" (spelt "**" (ref "_power")),
      field "right" (ref "_arg")])),
  ("_primary",
    choice [
      ref "parenthesized_statements", ref "_lhs", named "call" (ref "_suffixed_call"),
      ref "call", ref "array", ref "string_array", ref "symbol_array", ref "hash", ref "subshell",
      ref "_literal", ref "string", ref "character", ref "chained_string", ref "regex",
      ref "lambda", ref "method", ref "singleton_method", ref "class", ref "singleton_class",
      ref "module", ref "begin", ref "while", ref "until", ref "if", ref "unless", ref "for",
      ref "case", ref "case_match", ref "return", ref "yield", ref "break", ref "next", ref "redo",
      ref "retry", named "unary" (ref "parenthesized_unary"), ref "heredoc_beginning"]),
  ("parenthesized_statements", seq [lit "(", opt (ref "_statements"), lit ")"]),
  ("element_reference",
    left 1 (seq [
      field "object" (ref "_primary"), spelt "[" (ref "_index_bracket"),
      opt (ref "_arguments"), lit "]",
      opt (field "block" (anyOf ["block", "do_block"]))])),
  ("scope_resolution",
    left 1 (seq [
      choice [lit "::", seq [field "scope" (ref "_primary"), imm "::"]],
      field "name" (ref "constant")])),
  ("_call", left (Prec.bitAnd + 1) (seq [receiver, callOperator, calledMethod])),
  ("_chained_call",
    seq [field "receiver" (named "call" (ref "command_call_block")), callOperator, calledMethod]),
  ("command_call_block",
    choice [
      seq [callTarget, level curlyBlock (seq [bareArgumentField, field "block" (ref "block")])],
      seq [callTarget, level doBlock (seq [bareArgumentField, field "block" (ref "do_block")])]]),
  ("command_call",
    left 0 (seq [
      choice [ref "_call", ref "_chained_call", plainMethod], bareArgumentField])),
  ("call",
    choice [
      callWithArguments,
      level curlyBlock (seq [callWithArguments, field "block" (ref "block")]),
      level doBlock (seq [callWithArguments, field "block" (ref "do_block")]),
      level curlyBlock (seq [callTarget, field "block" (ref "block")]),
      level doBlock (seq [callTarget, field "block" (ref "do_block")])]),
  ("command_argument_list", right 0 (commaSep1 (ref "_argument"))),
  ("argument_list",
    right 0 (seq [imm "(", opt (ref "_arguments"), lit ")"])),
  ("_arguments",
    right 0 (seq [commaSep1 (ref "_argument"), opt (lit ",")])),
  ("_argument",
    left 0 (anyOf [
      "_expression", "splat_argument", "hash_splat_argument", "forward_argument", "block_argument",
      "pair"])),
  ("forward_argument", lit "..."),
  ("splat_argument", right 0 (seq [spelt "*" (ref "_splat_star"), opt (ref "_arg")])),
  ("hash_splat_argument",
    right 0 (seq [spelt "**" (ref "_double_splat"), opt (ref "_arg")])),
  ("block_argument", right 0 (seq [spelt "&" (ref "_block_ampersand"), opt (ref "_arg")])),
  ("do_block",
    seq [
      lit "do", opt (ref "_terminator"),
      opt (seq [field "parameters" (ref "block_parameters"), opt (ref "_terminator")]),
      opt (field "body" (ref "body_statement")), lit "end"]),
  ("block",
    level 1 (seq [
      lit "\x7b", field "parameters" (opt (ref "block_parameters")),
      opt (field "body" (ref "block_body")), lit "\x7d"]))]

/-- Assignments and operators. -/
def operationRules : List (String × Rule) := [
  ("assignment",
    right Prec.assign (choice [
      seq [field "left" (ref "_lhs"), lit "=", field "right" assignedList],
      seq [field "left" (ref "left_assignment_list"), lit "=", field "right" assignedList]])),
  ("command_assignment",
    right Prec.assign (choice [
      seq [field "left" (ref "_lhs"), lit "=", field "right" assignedExpression],
      seq [field "left" (ref "left_assignment_list"), lit "=", field "right" assignedExpression]])),
  ("operator_assignment",
    right Prec.assign (seq [
      field "left" (ref "_lhs"), assignmentOperator, field "right" assignedArg])),
  ("command_operator_assignment",
    right Prec.assign (seq [
      field "left" (ref "_lhs"), assignmentOperator, field "right" assignedExpression])),
  ("conditional",
    right Prec.conditional (seq [
      field "condition" (ref "_arg"), lit "?", field "consequence" (ref "_arg"), lit ":",
      field "alternative" (ref "_arg")])),
  ("range", right Prec.range (rangeOf "_arg")),
  ("binary",
    choice [
      left Prec.boolAnd (infixed (lit "&&")),
      left Prec.boolOr (infixed (lit "||")),
      left Prec.shift (infixed (anyLit ["<<", ">>"])),
      left Prec.comparison (infixed (anyLit ["<", "<=", ">", ">="])),
      left Prec.bitAnd (infixed (lit "&")),
      left Prec.bitOr (infixed (anyLit ["^", "|"])),
      left Prec.additive (infixed (choice [lit "+", spelt "-" (ref "_binary_minus")])),
      left Prec.multiplicative (infixed (choice [
        lit "/", lit "%", spelt "*" (ref "_binary_star")])),
      right Prec.relational (infixed (anyLit ["==", "!=", "===", "<=>", "=~", "!~"])),
      right Prec.exponential (infixed (spelt "**" (ref "_power")))]),
  ("command_binary",
    left 0 (seq [
      field "left" (ref "_expression"), field "operator" (anyLit ["or", "and"]),
      field "right" (ref "_expression")])),
  ("unary", unaryOn "_arg"),
  ("command_unary", unaryOn "_expression"),
  ("parenthesized_unary",
    choice [
      level Prec.defined (applied (lit "defined?") "parenthesized_statements"),
      right Prec.not (applied (lit "not") "parenthesized_statements")]),
  ("unary_literal",
    right Prec.unaryMinus
      (applied (choice [spelt "-" (ref "_unary_minus_num"), lit "+"]) "_simple_numeric"))]

end Outline.Ruby
