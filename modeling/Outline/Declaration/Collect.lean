import Outline.Declaration.Node
import Outline.Syntax.Fault
import Outline.Syntax.OfText

/-! Collecting declarations from syntax. A module, class or method with a name is recorded under the
nearest module or class around it; all other syntax is looked through. Nothing inside a method is
recorded. -/
namespace Outline

namespace SyntaxTree

/-- The name that a declaration gives itself: a qualified module or class has its last constant. -/
def declaredName (t : SyntaxTree) (kind : Kind) (source : String) : Option String := do
  let n ← t.nameNode
  let n ← if !kind.isMethod && n.kind = "scope_resolution" then n.nameNode else some n
  let name ← n.text? source
  if name.isEmpty then none else some name

/-- The kind and name of syntax that declares something. -/
def declares (t : SyntaxTree) (source : String) : Option (Kind × String) := do
  let kind ← Kind.ofSyntax? t.kind
  let name ← t.declaredName kind source
  return (kind, name)

def extentIn (t : SyntaxTree) (file : SourceFile) : Extent :=
  .ofSpan file t.info.start t.info.stop

/-- The declarations of a piece of syntax, those inside containers below them. -/
def declarations (file : SourceFile) : SyntaxTree → List Node
  | node i cs =>
    let t := node i cs
    match t.declares file.text with
    | some (kind, name) =>
      [.declaration kind name (t.extentIn file) (if kind.isContainer then inChildren cs else [])]
    | none => inChildren cs
where
  inChildren : List SyntaxTree → List Node
  | [] => []
  | t :: r => (if t.info.named then t.declarations file else []) ++ inChildren r

/-- A declaration that was passed over because it has no name. -/
structure Nameless where
  kind : Kind
  line : Nat
deriving Repr, DecidableEq

/-- The declarations without a name, in the order in which they are visited. -/
def nameless (source : String) : SyntaxTree → List Nameless
  | node i cs =>
    let t := node i cs
    match Kind.ofSyntax? i.kind with
    | none => inChildren cs
    | some kind =>
      match t.declaredName kind source with
      | some _ => if kind.isContainer then inChildren cs else []
      | none => ⟨kind, i.start.row + 1⟩ :: inChildren cs
where
  inChildren : List SyntaxTree → List Nameless
  | [] => []
  | t :: r => (if t.info.named then t.nameless source else []) ++ inChildren r

end SyntaxTree

namespace Node

/-- Attaches the declarations of a piece of syntax. -/
def visit (parent : Node) (file : SourceFile) (t : SyntaxTree) : Node :=
  parent.attach (t.declarations file)

/-- Attaches the declarations of a piece of syntax, unless it has faults. -/
def visitChecked (parent : Node) (file : SourceFile) (t : SyntaxTree) : Except SyntaxFault Node :=
  t.check.map fun () => parent.visit file t

/-- Attaches the declarations of a file, unless its text has faults. -/
def visitFile (parent : Node) (file : SourceFile) : Except SyntaxFault Node :=
  parent.visitChecked file (.ofText file.text)

/-- The outline of a text under a path. -/
def ofSource (path : Path) (text : String) (key : Nat := 0) : Except SyntaxFault Node :=
  (root path).visitFile { key, path, text }

end Node

end Outline
