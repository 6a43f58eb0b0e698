/-! The kinds of nodes in an outline. -/
namespace Outline

inductive Kind where
  | root
  | moduleDecl
  | classDecl
  | classMethod
  | instanceMethod
deriving Repr, DecidableEq, Inhabited

namespace Kind

def all : List Kind := [root, moduleDecl, classDecl, classMethod, instanceMethod]

def humanName : Kind → String
  | root => "root"
  | moduleDecl => "module"
  | classDecl => "class"
  | classMethod => "class method"
  | instanceMethod => "instance method"

/-- Whether declarations are recorded inside. -/
def isContainer : Kind → Bool
  | root | moduleDecl | classDecl => true
  | _ => false

def isMethod : Kind → Bool
  | classMethod | instanceMethod => true
  | _ => false

/-- The kind with a human name. -/
def ofHumanName? (s : String) : Option Kind := all.find? (·.humanName = s)

/-- The kind that a piece of syntax declares. -/
def ofSyntax? : String → Option Kind
  | "module" => some moduleDecl
  | "class" => some classDecl
  | "singleton_method" => some classMethod
  | "method" => some instanceMethod
  | _ => none

theorem isMethod_eq_not_isContainer (k : Kind) : k.isMethod = !k.isContainer := by
  cases k <;> rfl

theorem ofHumanName?_humanName (k : Kind) : ofHumanName? k.humanName = some k := by
  cases k <;> decide

end Kind

end Outline
