import Outline.Source.File

/-! The files of a scan in the order read, found again by path. -/
namespace Outline

structure SourceMap where
  files : List SourceFile := []
deriving Repr, DecidableEq, Inhabited

namespace SourceMap

def insert (m : SourceMap) (f : SourceFile) : SourceMap := ⟨m.files ++ [f]⟩

/-- The first file whose path has the same components. -/
def get? (m : SourceMap) (p : Path) : Option SourceFile := m.files.find? (·.path.same p)

def size (m : SourceMap) : Nat := m.files.length
def isEmpty (m : SourceMap) : Bool := m.files.isEmpty

@[simp] theorem files_insert (m : SourceMap) (f : SourceFile) :
    (m.insert f).files = m.files ++ [f] := rfl

theorem size_insert (m : SourceMap) (f : SourceFile) : (m.insert f).size = m.size + 1 := by
  simp [size, insert]

end SourceMap

end Outline
