import Outline.Text.Offset

/-! Syntax trees as they show: nodes with a kind, a span of the text, and children in the order of
the text. Some nodes are errors, or tokens put in to repair the text. -/
namespace Outline

/-- Whether a node stands for a fault in the text. -/
inductive Fault where
  | none
  | error
  | missing
deriving Repr, DecidableEq, Inhabited

structure SyntaxInfo where
  kind : String
  /-- Whether the node is named, rather than a piece of spelling. -/
  named : Bool := true
  fault : Fault := .none
  /-- Whether the parser counts faults inside. -/
  hasError : Bool := false
  start : Text.Offset := {}
  stop : Text.Offset := {}
  /-- Which child gives the node its name, if one does. -/
  nameChild : Option Nat := none
deriving Repr, DecidableEq, Inhabited

inductive SyntaxTree where
  | node (info : SyntaxInfo) (children : List SyntaxTree)
deriving Repr, Inhabited

namespace SyntaxTree

def info : SyntaxTree → SyntaxInfo
  | node i _ => i

def children : SyntaxTree → List SyntaxTree
  | node _ cs => cs

def kind (t : SyntaxTree) : String := t.info.kind

/-- The child that names the node. -/
def nameNode (t : SyntaxTree) : Option SyntaxTree := t.info.nameChild.bind (t.children[·]?)

/-- The text of a node, if its bytes are whole characters. -/
def text? (t : SyntaxTree) (source : String) : Option String :=
  String.fromUTF8? (source.toUTF8.extract t.info.start.bytes t.info.stop.bytes)

end SyntaxTree

end Outline
