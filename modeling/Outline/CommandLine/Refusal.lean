import Outline.CommandLine.Usage

/-! Why the arguments do not make a command, and the message for each cause. -/
namespace Outline.CommandLine

open Terminal (Styled plain styled)

inductive Refusal where
  /-- Help is asked for. -/
  | help (form : Form)
  /-- Nothing is asked for. -/
  | nothing (form : Form)
  | version
  /-- The option most like it, with the command that has it if this one has not; and whether it
  could be meant as an operand. -/
  | unknownArgument (form : Form) (argument : String) (similar : Option (String × Option String))
    (asOperand : Bool) (used : List Argument)
  /-- A command after two dashes. -/
  | strayDashes (form : Form) (name : String)
  | unknownCommand (form : Form) (name : String) (similar : List String)
  | noCommand (form : Form)
  | repeated (form : Form) (argument : Argument)
  | noValue (argument : Argument)
  | badValue (argument : Argument) (value : String) (similar : Option String)
  | extraValue (form : Form) (value : String) (argument : Argument) (used : List Argument)
  | missing (form : Form) (arguments used : List Argument)
deriving Repr, DecidableEq

namespace Refusal

def valid (text : String) : Styled := styled [.green] text
def invalid (text : String) : Styled := styled [.yellow] text
def literal (text : String) : Styled := styled [.bold] text

/-- Something in quotes that do not share its style. -/
def quotes (t : Styled) : Styled := plain "'" ++ t ++ plain "'"

def commas (ts : List Styled) : Styled := List.intercalate (plain ", ") ts

def listing (name : String) (values : List String) : Styled :=
  if values.isEmpty then []
  else plain ("\n  [" ++ name ++ ": ") ++ commas (values.map valid) ++ plain "]"

/-- What is wrong. -/
def problem : Refusal → Styled
  | help _ | nothing _ | version => []
  | unknownArgument _ a _ _ _ =>
    plain "unexpected argument " ++ quotes (invalid a) ++ plain " found"
  | strayDashes _ a => plain "unexpected argument " ++ quotes (invalid a) ++ plain " found"
  | unknownCommand _ name _ => plain "unrecognized subcommand " ++ quotes (invalid name)
  | noCommand f =>
    quotes (invalid f.call) ++ plain " requires a subcommand but one was not provided" ++
      listing "subcommands" (f.subforms.map (·.name))
  | repeated _ a =>
    plain "the argument " ++ quotes (invalid a.text) ++ plain " cannot be used multiple times"
  | noValue a =>
    plain "a value is required for " ++ quotes (literal a.text) ++
      plain " but none was supplied" ++ listing "possible values" a.choices
  | badValue a v _ =>
    plain "invalid value " ++ quotes (invalid v) ++ plain " for " ++ quotes (literal a.text) ++
      listing "possible values" a.choices
  | extraValue _ v a _ =>
    plain "unexpected value " ++ quotes (invalid v) ++ plain " for " ++ quotes (literal a.text) ++
      plain " found; no more were expected"
  | missing _ as _ =>
    plain "the following required arguments were not provided:" ++
      as.flatMap fun a => plain "\n  " ++ valid a.text

/-- What may help. -/
def tips : Refusal → List Styled
  | unknownCommand _ _ [] => []
  | unknownCommand _ _ [name] => [plain "a similar subcommand exists: " ++ quotes (valid name)]
  | unknownCommand _ _ names =>
    [plain "some similar subcommands exist: " ++ commas (names.map (quotes <| valid ·))]
  | unknownArgument _ a similar asOperand _ =>
    (match similar with
      | some (name, none) =>
        [plain "a similar argument exists: " ++ quotes (valid ("--" ++ name))]
      | _ => []) ++
    (if asOperand then
      [plain "to pass " ++ quotes (invalid a) ++ plain " as a value, use " ++
        quotes (valid ("-- " ++ a))]
    else []) ++
    (match similar with
      | some (name, some command) => [quotes (valid (command ++ " --" ++ name)) ++ plain " exists"]
      | _ => [])
  | strayDashes _ a =>
    [plain "subcommand " ++ quotes (valid a) ++ plain " exists; to use it, remove the " ++
      quotes (invalid "--") ++ plain " before it"]
  | badValue _ _ (some v) => [plain "a similar value exists: " ++ quotes (valid v)]
  | _ => []

def usage? : Refusal → Option Styled
  | unknownArgument f _ _ _ used => some (f.usage used)
  | strayDashes f _ => some (f.usage [])
  | unknownCommand f _ _ => some (f.usage [])
  | noCommand f => some (f.usage [])
  | repeated f _ => some (f.usage [])
  | extraValue f _ _ used => some (f.usage used)
  | missing f _ used => some (f.usage used)
  | _ => none

def tipText : List Styled → Styled
  | [] => []
  | tips => plain "\n" ++ tips.flatMap fun t => plain "\n  " ++ valid "tip:" ++ plain " " ++ t

def message (r : Refusal) : Styled :=
  match r with
  | help f => f.help
  | nothing f => f.help
  | version => plain (program ++ " " ++ CommandLine.version ++ "\n")
  | r =>
    styled [.bold, .red] "error:" ++ plain " " ++ r.problem ++ tipText r.tips ++
      (r.usage?.map (plain "\n\n" ++ ·)).getD [] ++
      plain "\n\nFor more information, try " ++ quotes (literal "--help") ++ plain ".\n"

/-- Whether what is asked for is the message itself. -/
def isAnswer : Refusal → Bool
  | help _ | version => true
  | _ => false

end Refusal

end Outline.CommandLine
