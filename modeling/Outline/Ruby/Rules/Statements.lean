import Outline.Grammar.Basic
import Outline.Ruby.Rules.Prec

/-! Whole texts, definitions and parameters. A rule whose name starts with an underscore
makes no node of its own. -/
namespace Outline.Ruby

open Grammar Grammar.Rule

/-- A value that a trailing `rescue` may guard. -/
def assignedArg : Rule := choice [ref "_arg", named "rescue_modifier" (ref "rescued_arg")]

def rescued (operand : String) : Rule :=
  level Prec.rescue (seq [field "body" (ref operand), lit "rescue", field "handler" (ref operand)])

/-- Texts and statements. -/
def statementRules : List (String × Rule) := [
  ("program", seq [opt (ref "_statements"), opt (seq [lit "__END__", ref "uninterpreted"])]),
  ("block_body", ref "_statements"),
  ("_statements",
    choice [
      seq [
        many1 (choice [seq [ref "_statement", ref "_terminator"], ref "empty_statement"]),
        opt (ref "_statement")], ref "_statement"]),
  ("begin_block", seq [lit "BEGIN", lit "\x7b", opt (ref "_statements"), lit "\x7d"]),
  ("end_block", seq [lit "END", lit "\x7b", opt (ref "_statements"), lit "\x7d"]),
  ("_statement",
    anyOf [
      "undef", "alias", "if_modifier", "unless_modifier", "while_modifier", "until_modifier",
      "rescue_modifier", "begin_block", "end_block", "_expression"])]

/-- Methods, classes, modules and their parameters. -/
def definitionRules : List (String × Rule) := [
  ("method", seq [lit "def", ref "_method_tail"]),
  ("singleton_method",
    seq [
      lit "def",
      seq [
        field "object" (choice [ref "_variable", seq [lit "(", ref "_arg", lit ")"]]),
        anyLit [".", "::"]], ref "_method_tail"]),
  ("_method_tail",
    seq [
      field "name" (ref "_method_name"),
      choice [
        ref "_endless_body",
        seq [
          field "parameters" (named "method_parameters" (ref "parameters")),
          choice [
            seq [opt (ref "_terminator"), opt (field "body" (ref "body_statement")), lit "end"],
            ref "_endless_body"]],
        seq [
          opt (field "parameters" (named "method_parameters" (ref "bare_parameters"))),
          ref "_terminator", opt (field "body" (ref "body_statement")), lit "end"]]]),
  ("rescued_arg", rescued "_arg"),
  ("rescued_expression", rescued "_expression"),
  ("_endless_body", seq [lit "=", field "body" assignedArg]),
  ("parameters", level 1 (seq [lit "(", opt (commaSep1 (ref "_parameter")), lit ")"])),
  ("bare_parameters",
    seq [ref "_simple_parameter", many (seq [lit ",", ref "_parameter"])]),
  ("block_parameters",
    seq [
      lit "|", opt (commaSep1 (ref "_parameter")), opt (lit ","),
      opt (seq [lit ";", commaSep1 (field "locals" (ref "identifier"))]), lit "|"]),
  ("_parameter", anyOf ["_simple_parameter", "destructured_parameter"]),
  ("_simple_parameter",
    anyOf [
      "identifier", "splat_parameter", "hash_splat_parameter", "hash_splat_nil",
      "forward_parameter", "block_parameter", "keyword_parameter", "optional_parameter"]),
  ("forward_parameter", lit "..."),
  ("splat_parameter", right (-2) (seq [lit "*", field "name" (opt (ref "identifier"))])),
  ("hash_splat_parameter", seq [lit "**", field "name" (opt (ref "identifier"))]),
  ("hash_splat_nil", seq [lit "**", lit "nil"]),
  ("block_parameter", seq [lit "&", field "name" (opt (ref "identifier"))]),
  ("keyword_parameter",
    right (Prec.bitOr + 1)
      (seq [field "name" (ref "identifier"), imm ":", field "value" (opt (ref "_arg"))])),
  ("optional_parameter",
    level (Prec.bitOr + 1)
      (seq [field "name" (ref "identifier"), lit "=", field "value" (ref "_arg")])),
  ("destructured_parameter", seq [lit "(", commaSep1 (ref "_parameter"), lit ")"]),
  ("class",
    seq [
      lit "class", field "name" (anyOf ["constant", "scope_resolution"]),
      opt (choice [
        seq [field "superclass" (ref "superclass"), ref "_terminator"], ref "_terminator"]),
      opt (field "body" (ref "body_statement")), lit "end"]),
  ("superclass", seq [lit "<", ref "_expression"]),
  ("singleton_class",
    seq [
      lit "class", spelt "<<" (ref "_open_singleton"),
      field "value" (ref "_arg"), ref "_terminator", opt (field "body" (ref "body_statement")),
      lit "end"]),
  ("module",
    seq [
      lit "module", field "name" (anyOf ["constant", "scope_resolution"]), opt (ref "_terminator"),
      opt (field "body" (ref "body_statement")), lit "end"])]

end Outline.Ruby
