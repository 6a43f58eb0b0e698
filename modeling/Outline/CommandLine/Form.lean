import Outline.Terminal.Style

/-! What can be said on the command line: commands with their options and operands. -/
namespace Outline.CommandLine

/-- An option. -/
structure Flag where
  name : String
  short : Option Char := none
  /-- What its value is called, if it takes one. -/
  value : Option String := none
  /-- The values it takes, if they are few. -/
  choices : List String := []
  acceptsEmpty : Bool := true
  help : String
deriving Repr, DecidableEq

/-- An argument that is told by its place. -/
structure Operand where
  name : String
  /-- Whether there can be none or many of it. -/
  repeats : Bool := false
  acceptsEmpty : Bool := true
  help : String := ""
deriving Repr, DecidableEq

inductive Argument where
  | flag (f : Flag)
  | operand (o : Operand)
deriving Repr, DecidableEq

/-- A command, with its options in the order in which they are listed. -/
structure Form where
  name : String
  /-- The words that call it. -/
  call : String
  about : String
  flags : List Flag := []
  operands : List Operand := []
deriving Repr, DecidableEq

namespace Argument

open Terminal (Styled plain styled)

def placeholder (name : String) : String := "<" ++ name ++ ">"

def operandText (o : Operand) : String :=
  if o.repeats then "[" ++ o.name ++ "]..." else placeholder o.name

/-- An argument as it stands in a usage line. -/
def usage : Argument → Styled
  | flag f =>
    styled [.bold] ("--" ++ f.name) ++
      match f.value with
      | some v => plain (" " ++ placeholder v)
      | none => []
  | operand o => plain (operandText o)

/-- The name of an argument in a message. -/
def text (a : Argument) : String := Styled.render false a.usage

def choices : Argument → List String
  | flag f => f.choices
  | operand _ => []

def acceptsEmpty : Argument → Bool
  | flag f => f.acceptsEmpty
  | operand o => o.acceptsEmpty

end Argument

/-! ### The commands -/

def kindChoices : List String := ["module", "class", "class-method", "instance-method"]

def configFlag : Flag where
  name := "config"
  short := some 'c'
  value := some "CONFIG"
  acceptsEmpty := false
  help := "Scan settings file (TOML with a [scan] table)"

def excludeFlag : Flag where
  name := "exclude"
  short := some 'e'
  value := some "EXCLUDE"
  help := "Exclusion regex over paths relative to the scanned directory (\"\" disables)"

def helpFlag : Flag where
  name := "help"
  short := some 'h'
  help := "Print help"

def versionFlag : Flag where
  name := "version"
  short := some 'V'
  help := "Print version"

def jsonFlag : Flag where
  name := "json"
  help := "Emit JSON instead of an indented listing"

def kindFlag : Flag where
  name := "kind"
  short := some 'k'
  value := some "KIND"
  choices := kindChoices
  help := "Only match this kind of declaration"

def pathOperand : Operand where
  name := "PATH"
  acceptsEmpty := false

def nameOperand : Operand where
  name := "NAME"

def program : String := "ruby-outline"
def version : String := "0.1.0"

def rootForm : Form where
  name := program
  call := program
  about := "Map the modules, classes and methods of Ruby source"
  flags := [configFlag, excludeFlag, helpFlag, versionFlag]

def treeForm : Form where
  name := "tree"
  call := program ++ " tree"
  about := "Print the declaration tree of a file or directory"
  flags := [configFlag, jsonFlag, excludeFlag, helpFlag]
  operands := [pathOperand]

def findForm : Form where
  name := "find"
  call := program ++ " find"
  about := "List declarations with the given name"
  flags := [configFlag, kindFlag, excludeFlag, helpFlag]
  operands := [pathOperand, nameOperand]

def showForm : Form where
  name := "show"
  call := program ++ " show"
  about := "Print the numbered source of declarations with the given name"
  flags := [configFlag, kindFlag, excludeFlag, helpFlag]
  operands := [pathOperand, nameOperand]

def helpForm : Form where
  name := "help"
  call := program ++ " help"
  about := "Print this message or the help of the given subcommand(s)"
  operands := [⟨"COMMAND", true, true, "Print help for the subcommand(s)"⟩]

/-- What can follow the name of the program. -/
def commandForms : List Form := [treeForm, findForm, showForm, helpForm]

/-- The commands inside a command. -/
def Form.subforms (f : Form) : List Form := if f.name = program then commandForms else []

end Outline.CommandLine
