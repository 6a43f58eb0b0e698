import Outline.CommandLine.Form

/-! Usage lines and help. -/
namespace Outline.CommandLine

open Terminal (Styled plain styled)

namespace Form

def usageHead (f : Form) : Styled :=
  styled [.bold, .underlined] "Usage:" ++ plain " " ++ styled [.bold] f.call

def spaced (ts : List Styled) : Styled := ts.flatMap (plain " " ++ ·)

/-- All that a command can take. -/
def fullUsage (f : Form) : Styled :=
  f.usageHead ++ (if f.flags.isEmpty then [] else plain " [OPTIONS]") ++
    spaced (f.operands.map fun o => (Argument.operand o).usage) ++
    if f.subforms.isEmpty then [] else plain " <COMMAND>"

/-- What a command needs, and what it has been given besides: options first, in the order given. -/
def usageWith (f : Form) (used : List Argument) : Styled :=
  let isFlag : Argument → Bool := fun
    | .flag _ => true
    | .operand _ => false
  f.usageHead ++ spaced ((used.filter isFlag).eraseDups.map (·.usage)) ++
    spaced (f.operands.map fun o => (Argument.operand o).usage) ++
    if f.subforms.isEmpty then [] else plain " <COMMAND>"

/-- The usage line of a message: the full one if nothing has been given. -/
def usage (f : Form) (used : List Argument) : Styled :=
  if used.isEmpty then f.fullUsage else f.usageWith used

/-! ### Help -/

def heading (text : String) : Styled := plain "\n\n" ++ styled [.bold, .underlined] text

/-- A row with its second column `width` past the first one's start. -/
def row (width : Nat) (left : Styled) (right : String) : Styled :=
  let size := (Styled.render false left).length
  plain "\n  " ++ left ++ plain (String.ofList (List.replicate (width - size) ' ') ++ "  " ++ right)

def table (rows : List (Styled × String)) : Styled :=
  let width := (rows.map fun r => (Styled.render false r.1).length).foldl max 0
  rows.flatMap fun r => row width r.1 r.2

def flagLeft (f : Flag) : Styled :=
  (match f.short with
    | some c => styled [.bold] ("-" ++ String.singleton c) ++ plain ", "
    | none => plain "    ") ++ (Argument.flag f).usage

def flagRight (f : Flag) : String :=
  f.help ++
    if f.choices.isEmpty then ""
    else " [possible values: " ++ ", ".intercalate f.choices ++ "]"

def help (f : Form) : Styled :=
  plain (f.about ++ "\n\n") ++ f.fullUsage ++
    (if f.subforms.isEmpty then []
      else heading "Commands:" ++
        table (f.subforms.map fun s => (styled [.bold] s.name, s.about))) ++
    (if f.operands.isEmpty then []
      else heading "Arguments:" ++
        table (f.operands.map fun o => ((Argument.operand o).usage, o.help))) ++
    (if f.flags.isEmpty then []
      else heading "Options:" ++ table (f.flags.map fun o => (flagLeft o, flagRight o))) ++
    plain "\n"

end Form

end Outline.CommandLine
