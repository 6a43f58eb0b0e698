import Outline.Text.Pieces

/-! Paths as they are written, compared by their components: doubled and trailing slashes and dots
inside a path do not count, a leading dot does. -/
namespace Outline

structure Path where
  text : String
deriving Repr, DecidableEq, Inhabited

namespace Path

inductive Component where
  | root
  | current
  | parent
  | name (s : String)
deriving Repr, DecidableEq

namespace Component

def text : Component → String
  | root => "/"
  | current => "."
  | parent => ".."
  | name s => s

/-- The component that a piece between two slashes stands for, if it stands for one. -/
def ofPiece (s : String) : Option Component :=
  if s = "" || s = "." then none
  else if s = ".." then some parent
  else some (name s)

end Component

/-- The pieces of a path between its slashes. -/
def pieces (p : Path) : List String := Text.pieces '/' p.text

def components (p : Path) : List Component :=
  match p.pieces with
  | first :: rest =>
    let inner := (first :: rest).filterMap Component.ofPiece
    if first = "." then .current :: inner
    else if first = "" && !rest.isEmpty then .root :: inner
    else inner
  | [] => []

/-- Whether two paths have the same components. -/
def same (p q : Path) : Bool := p.components = q.components

/-- The path of an entry of a directory. -/
def join (p : Path) (name : String) : Path :=
  if p.text = "" || p.text.toList.getLast? = some '/' then ⟨p.text ++ name⟩
  else ⟨p.text ++ "/" ++ name⟩

/-- The name at the end of a path. -/
def fileName (p : Path) : Option String :=
  match p.components.getLast? with
  | some (.name s) => some s
  | _ => none

/-- What follows the last dot of a file name that has something before that dot. -/
def extensionOf (name : String) : Option String :=
  let cs := name.toList.reverse
  let ext := cs.takeWhile (· ≠ '.')
  match cs.drop ext.length with
  | _ :: before => if before.isEmpty || name = ".." then none else some (String.ofList ext.reverse)
  | [] => none

def extension (p : Path) : Option String := p.fileName.bind extensionOf

/-- The components of `p` after those of `base`, if it starts with them. -/
def stripBase (base p : Path) : Option (List Component) :=
  let b := base.components
  let c := p.components
  if b.isPrefixOf c then some (c.drop b.length) else none

theorem same_iff (p q : Path) : p.same q = true ↔ p.components = q.components := by
  simp [same]

theorem same_refl (p : Path) : p.same p = true := by simp [same]

end Path

end Outline
