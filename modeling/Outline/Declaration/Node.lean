import Outline.Declaration.Kind
import Outline.Source.Extent

/-! Outlines as trees: a root for what was scanned, and under it the declarations with their names
and extents. -/
namespace Outline

/-- Where a node comes from: the root from the path scanned, a declaration from its extent. -/
inductive Origin where
  | scanned (path : Path)
  | declared (extent : Extent)
deriving Repr, DecidableEq, Inhabited

inductive Node where
  | mk (kind : Kind) (name : Option String) (origin : Origin) (children : List Node)
deriving Repr, Inhabited

namespace Node

/-- The root of an outline, without declarations. -/
def root (path : Path) : Node := mk .root none (.scanned path) []

def declaration (kind : Kind) (name : String) (extent : Extent) (children : List Node) : Node :=
  mk kind (some name) (.declared extent) children

def kind : Node → Kind
  | mk k _ _ _ => k

def name : Node → Option String
  | mk _ n _ _ => n

def origin : Node → Origin
  | mk _ _ o _ => o

def children : Node → List Node
  | mk _ _ _ cs => cs

/-- The node with more children after those it has. -/
def attach : Node → List Node → Node
  | mk k n o cs, more => mk k n o (cs ++ more)

def isRoot (n : Node) : Bool := n.kind = .root

def extent (n : Node) : Option Extent :=
  match n.origin with
  | .scanned _ => none
  | .declared e => some e

def filePath (n : Node) : Path :=
  match n.origin with
  | .scanned p => p
  | .declared e => e.file.path

def firstLine (n : Node) : Option Nat := n.extent.map (·.firstLine)
def lastLine (n : Node) : Option Nat := n.extent.map (·.lastLine)

/-- A node that has no lines of its own. -/
structure MissingExtent where
  kind : Kind
deriving Repr, DecidableEq

def MissingExtent.message (e : MissingExtent) : String :=
  e.kind.humanName ++ " node has no source extent"

def requireExtent (n : Node) : Except MissingExtent Extent :=
  match n.extent with
  | some e => .ok e
  | none => .error ⟨n.kind⟩

def source (n : Node) : Except MissingExtent String := n.requireExtent.map (·.source)
def sourceLines (n : Node) : Except MissingExtent (List String) := n.requireExtent.map (·.lines)
def numberedLines (n : Node) : Except MissingExtent (List (Nat × String)) :=
  n.requireExtent.map (·.numberedLines)

/-- `class Tom (lib/tom.rb:1-4)`, or `root (lib)`. -/
def display (n : Node) : String :=
  match n.name, n.extent with
  | some name, some e => n.kind.humanName ++ " " ++ name ++ " (" ++ e.describe ++ ")"
  | _, _ => n.kind.humanName ++ " (" ++ n.filePath.text ++ ")"

/-- Whether two nodes come from the same path, or from the same lines of the same file. -/
def Origin.same : Origin → Origin → Bool
  | .scanned p, .scanned q => p.same q
  | .declared a, .declared b => a.same b
  | _, _ => false

/-- Whether two outlines say the same: kinds, names, origins and children, whichever reading of a
file they come from. -/
def same : Node → Node → Bool
  | mk k n o cs, mk k' n' o' cs' => k = k' && n = n' && Origin.same o o' && sameAll cs cs'
where
  sameAll : List Node → List Node → Bool
  | [], [] => true
  | a :: r, b :: t => a.same b && sameAll r t
  | _, _ => false

@[simp] theorem children_attach (n : Node) (cs : List Node) :
    (n.attach cs).children = n.children ++ cs := by cases n; rfl

@[simp] theorem kind_attach (n : Node) (cs : List Node) : (n.attach cs).kind = n.kind := by
  cases n; rfl

end Node

end Outline
