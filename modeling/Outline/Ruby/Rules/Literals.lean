import Outline.Grammar.Basic
import Outline.Ruby.Rules.Prec

/-! Numbers, names, texts and collections. -/
namespace Outline.Ruby

open Grammar Grammar.Rule

/-- Contents between two delimiters. -/
def quoted (opening start closing : String) : Rule :=
  seq [
    spelt opening (ref start), opt (ref "_literal_contents"), spelt closing (ref "_string_end")]

/-- A list of bare words between two delimiters. -/
def listed (opening start word : String) : Rule :=
  seq [
    spelt opening (ref start), opt (ref "_blanks"),
    opt (sepBy1 (ref "_blanks") (named word (ref "_literal_contents"))), opt (ref "_blanks"),
    spelt ")" (ref "_string_end")]

/-- Literals, names and collections. -/
def literalRules : List (String × Rule) := [
  ("_literal", anyOf ["simple_symbol", "delimited_symbol", "_numeric"]),
  ("_numeric", choice [ref "_simple_numeric", named "unary" (ref "unary_literal")]),
  ("_simple_numeric", anyOf ["integer", "float", "complex", "rational"]),
  ("right_assignment_list", level (-1) (commaSep1 (anyOf ["_arg", "splat_argument"]))),
  ("left_assignment_list", ref "_targets"),
  ("_targets",
    left (-1) (seq [
      commaSep1 (anyOf ["_lhs", "rest_assignment", "destructured_left_assignment"]),
      opt (lit ",")])),
  ("destructured_left_assignment", level (-1) (seq [lit "(", ref "_targets", lit ")"])),
  ("rest_assignment", level (-1) (seq [lit "*", opt (ref "_lhs")])),
  ("_suffixed",
    choice [
      named "identifier" (ref "_identifier_suffix"), named "constant" (ref "_constant_suffix")]),
  ("_suffixed_call", field "method" (left 0 (ref "_suffixed"))),
  ("_lhs",
    left 0 (choice [
      ref "_variable", ref "true", ref "false", ref "nil", ref "scope_resolution",
      ref "element_reference", named "call" (ref "_call")])),
  ("_variable", right 0 (anyOf ["self", "super", "_sigil_variable", "identifier", "constant"])),
  ("_sigil_variable", anyOf ["instance_variable", "class_variable", "global_variable"]),
  ("operator",
    anyLit [
      "..", "|", "^", "&", "<=>", "==", "===", "=~", ">", ">=", "<", "<=", "+", "-", "*", "/", "%",
      "!", "!=", "!~", "**", "<<", ">>", "~", "+@", "-@", "~@", "[]", "[]=", "`"]),
  ("_method_name",
    choice [
      ref "identifier", named "identifier" (ref "identifier_suffix"), ref "constant",
      named "constant" (ref "constant_suffix"), ref "setter", ref "simple_symbol",
      ref "delimited_symbol", ref "operator", ref "_sigil_variable"]),
  ("setter", seq [field "name" (ref "identifier"), imm "="]),
  ("undef", seq [lit "undef", commaSep1 (ref "_method_name")]),
  ("alias",
    seq [lit "alias", field "name" (ref "_method_name"), field "alias" (ref "_method_name")]),
  ("complex",
    choice [
      seq [anyOf ["integer", "float"], imm "i"],
      seq [named "rational" (ref "_rational_number"), imm "ri"]]),
  ("_rational_number", anyOf ["integer", "float"]),
  ("rational", seq [anyOf ["integer", "float"], imm "r"]),
  ("chained_string", seq [ref "string", many1 (ref "string")]),
  ("interpolation",
    choice [
      seq [lit "#\x7b", opt (ref "_statements"), lit "\x7d"],
      seq [ref "_short_interpolation", ref "_sigil_variable"]]),
  ("string", quoted "\"" "_string_start" "\""),
  ("subshell", quoted "`" "_subshell_start" "`"),
  ("string_array", listed "%w(" "_string_array_start" "bare_string"),
  ("symbol_array", listed "%i(" "_symbol_array_start" "bare_symbol"),
  ("delimited_symbol", quoted ":\"" "_symbol_start" "\""),
  ("regex", quoted "/" "_regex_start" "/"),
  ("heredoc_body",
    seq [
      ref "_heredoc_body_start",
      many (anyOf ["heredoc_content", "interpolation", "escape_sequence"]), ref "heredoc_end"]),
  ("_literal_contents", many1 (anyOf ["string_content", "interpolation", "escape_sequence"])),
  ("array", seq [lit "[", opt (ref "_arguments"), lit "]"]),
  ("hash",
    seq [
      lit "\x7b", opt (seq [commaSep1 (anyOf ["pair", "hash_splat_argument"]), opt (lit ",")]),
      lit "\x7d"]),
  ("pair",
    right 0 (choice [
      seq [field "key" (ref "_arg"), lit "=>", field "value" (ref "_arg")],
      seq [
        field "key" (choice [
          ref "hash_key_symbol", named "hash_key_symbol" (ref "identifier"),
          named "hash_key_symbol" (ref "constant"),
          named "hash_key_symbol" (ref "_identifier_suffix"),
          named "hash_key_symbol" (ref "_constant_suffix"), ref "string"]), imm ":",
        choice [field "value" (ref "_arg"), blank, ref "_no_line_break"]]])),
  ("lambda",
    seq [
      lit "->",
      field "parameters" (opt (choice [
        named "lambda_parameters" (ref "parameters"),
        named "lambda_parameters" (ref "bare_parameters")])),
      field "body" (anyOf ["block", "do_block"])]),
  ("empty_statement", level (-1) (lit ";")),
  ("_terminator", choice [ref "_line_break", lit ";"])]

end Outline.Ruby
