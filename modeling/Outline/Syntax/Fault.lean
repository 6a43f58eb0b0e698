import Outline.Syntax.Tree

/-! The faults of a text: where its syntax tree has errors and missing tokens. A text is refused as
a whole when it has any. -/
namespace Outline

/-- Why a text is refused, with line and column counted from one. -/
inductive SyntaxFault where
  | one (line column : Nat)
  | many (count line column : Nat)
deriving Repr, DecidableEq

def SyntaxFault.message : SyntaxFault → String
  | one line column => "syntax error at line " ++ toString line ++ ", column " ++ toString column
  | many count line column =>
    toString count ++ " syntax errors, first at line " ++ toString line ++ ", column " ++
      toString column

namespace SyntaxTree

/-- Whether a node is a fault itself. -/
def isFault (t : SyntaxTree) : Bool := t.info.fault != .none

/-- Where faults start, from the outside in. Only nodes that count faults inside are searched. -/
def collectFaults : SyntaxTree → List Text.Offset
  | node i cs =>
    (if i.fault != .none then [i.start] else []) ++
      if i.hasError then collectAll cs else []
where
  collectAll : List SyntaxTree → List Text.Offset
  | [] => []
  | t :: r => t.collectFaults ++ collectAll r

def hasErrors (t : SyntaxTree) : Bool := t.info.hasError

def faults (t : SyntaxTree) : List Text.Offset := if t.hasErrors then t.collectFaults else []

/-- Refuses a text with faults. -/
def check (t : SyntaxTree) : Except SyntaxFault Unit :=
  match t.faults with
  | [] => .ok ()
  | [p] => .error (.one (p.row + 1) (p.column + 1))
  | p :: rest => .error (.many (rest.length + 1) (p.row + 1) (p.column + 1))

end SyntaxTree

end Outline
